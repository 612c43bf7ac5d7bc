import SparkGateway.Spec.Affinity

/-!
# `SparkGateway.Spec.RedisExpiry`: the Redis commands with a clock

`RedisStore.applyAt now` is what the commands of `Affinity.lean` do at the time `now`, on a
database in which every key carries the time at which it expires. A key that has expired is
treated as absent. Times are in milliseconds, times to live in whole seconds, as the store passes
them (`as_secs`).

At one time, and on the keys that have not expired, this is `RedisStore.apply`
(`applyAt_live`).
-/

set_option autoImplicit false

namespace SparkGateway.Spec

open SparkGateway.Lib

namespace RedisStore

/-- A value with the time from which on it is gone. -/
structure TimedValue where
  value : String
  expiresAt : ℕ
deriving DecidableEq, Repr

/-- The database with its expiry times, by key. -/
abbrev TimedDb := String → Option TimedValue

/-- The value of a key, unless it has expired. -/
def TimedDb.valueAt (db : TimedDb) (now : ℕ) (key : String) : Option String :=
  match db key with
  | some v => if now < v.expiresAt then some v.value else none
  | none => none

/-- The end of a time to live that starts now. -/
def expiry (now ttl : ℕ) : ℕ := now + 1000 * ttl

/-- What each command does at the time `now` on a healthy server. -/
def applyAt (now : ℕ) : Handler RedisSig TimedDb
  | .get key, db => (.ok (db.valueAt now key), db)
  | .setNxEx key value ttl, db =>
      match db.valueAt now key with
      | some _ => (.ok none, db)
      | none => (.ok (some "OK"), Function.update db key (some ⟨value, expiry now ttl⟩))
  | .setEx key value ttl, db =>
      (.ok (), Function.update db key (some ⟨value, expiry now ttl⟩))
  | .expire key ttl, db =>
      match db.valueAt now key with
      | some value => (.ok true, Function.update db key (some ⟨value, expiry now ttl⟩))
      | none => (.ok false, db)
  | .del key, db =>
      (.ok (if (db.valueAt now key).isSome then 1 else 0), Function.update db key none)

/-- The command does not write a time to live of zero. -/
def PositiveTtl : RedisCmd → Prop
  | .setNxEx _ _ ttl => 0 < ttl
  | .setEx _ _ ttl => 0 < ttl
  | .expire _ ttl => 0 < ttl
  | .get _ => True
  | .del _ => True

/-- Writing one key of the timed database writes that key of what is visible at `now`. -/
theorem valueAt_update (db : TimedDb) (now : ℕ) (key : String) (v : Option TimedValue) :
    TimedDb.valueAt (Function.update db key v) now =
      Function.update (db.valueAt now) key (TimedDb.valueAt (fun _ => v) now key) := by
  funext key'
  by_cases hkey : key' = key
  · subst hkey
    simp [TimedDb.valueAt]
  · simp [TimedDb.valueAt, hkey]

/-- A value that was just written is there. -/
theorem valueAt_written {ttl : ℕ} (httl : 0 < ttl) (now : ℕ) (key value : String) :
    TimedDb.valueAt (fun _ => some ⟨value, expiry now ttl⟩) now key = some value := by
  have hlive : now < expiry now ttl := by
    unfold expiry
    omega
  simp [TimedDb.valueAt, hlive]

/-- The keys that have not expired, before and after a command: the command does to them what
`apply` says, with the same reply. -/
theorem applyAt_live (now : ℕ) {c : RedisCmd} (httl : PositiveTtl c) (db : TimedDb) :
    ((applyAt now c db).1, TimedDb.valueAt (applyAt now c db).2 now)
      = apply c (db.valueAt now) := by
  cases c with
  | get key => rfl
  | setNxEx key value ttl =>
    cases hv : db.valueAt now key with
    | some old => simp [applyAt, apply, hv]
    | none => simp [applyAt, apply, hv, valueAt_update, valueAt_written httl]
  | setEx key value ttl => simp [applyAt, apply, valueAt_update, valueAt_written httl]
  | expire key ttl =>
    cases hv : db.valueAt now key with
    | none => simp [applyAt, apply, hv]
    | some value =>
      -- The value stays, only its end moves.
      simp only [applyAt, apply, hv, valueAt_update, valueAt_written httl, Option.isSome_some]
      rw [← hv, Function.update_eq_self]
  | del key => simp [applyAt, apply, valueAt_update, TimedDb.valueAt]

end RedisStore

end SparkGateway.Spec

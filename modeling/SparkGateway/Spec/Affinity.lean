import Mathlib.Data.Nat.Notation
import Mathlib.Logic.Function.Basic
import SparkGateway.Lib.Prog

/-!
# `SparkGateway.Spec.Affinity`: the affinity store and its two backings

The `AffinityStore` trait of `crates/routing/src/lib.rs`, and its implementations
`crates/store-memory/src/lib.rs` and `crates/store-redis/src/lib.rs`. Every operation is a
program whose commands are the atomic accesses of its backing:

* `MemoryStore` does one access under one lock per operation, so each operation is one
  command (`MemoryCmd`) on the two maps (`MemoryStore.State`);
* `RedisStore` issues one to two Redis commands per operation (`RedisCmd`). Another
  replica's commands can come between them. A reply is a Redis error or a value.

`MemoryStore.apply` and `RedisStore.apply` are what the commands do. Redis expiry is not in
`RedisStore.apply`: a key that expires is a step of the environment.
-/

set_option autoImplicit false

namespace SparkGateway.Spec

open SparkGateway.Lib

/-- The affinity routing key. -/
structure SessionKey where
  tenant : String
  userId : String
  sessionId : String
deriving DecidableEq, Repr

namespace SessionKey

/-- `SessionKey::with_tenant`. -/
def withTenant (tenant userId sessionId : String) : SessionKey := ⟨tenant, userId, sessionId⟩

/-- `is_zero`: such a key is never bound. -/
def isZero (key : SessionKey) : Bool := key.sessionId == ""

end SessionKey

/-- The `AffinityStore` trait, over the atomic commands `S` of a backing. -/
structure AffinityStore (S : Sig) where
  lookupSession (key : SessionKey) : Prog S (Option String)
  bindSessionIfAbsent (key : SessionKey) (backend : String) : Prog S String
  forgetSession (key : SessionKey) : Prog S Unit
  lookupOp (opId : String) : Prog S (Option String)
  bindOp (opId backend : String) : Prog S Unit
  forgetOp (opId : String) : Prog S Unit

/-! ### `MemoryStore` -/

/-- The accesses of the in-process store, each under one lock. -/
inductive MemoryCmd where
  | lookupSession (key : SessionKey)
  | bindSessionIfAbsent (key : SessionKey) (backend : String)
  | forgetSession (key : SessionKey)
  | lookupOp (opId : String)
  | bindOp (opId backend : String)
  | forgetOp (opId : String)

/-- What each method of the in-memory store returns. -/
abbrev MemoryCmd.Reply : MemoryCmd → Type
  | .lookupSession _ => Option String
  | .bindSessionIfAbsent _ _ => String
  | .forgetSession _ => Unit
  | .lookupOp _ => Option String
  | .bindOp _ _ => Unit
  | .forgetOp _ => Unit

/-- The in-memory store's methods, each one atomic step. -/
abbrev MemorySig : Sig := ⟨MemoryCmd, MemoryCmd.Reply⟩

namespace MemoryStore

/-- The two maps. -/
structure State where
  sessions : SessionKey → Option String
  ops : String → Option String

/-- `MemoryStore::new`. -/
def new : State := ⟨fun _ => none, fun _ => none⟩

/-- What each access does. -/
def apply : Handler MemorySig State
  | .lookupSession key, s => (s.sessions key, s)
  | .bindSessionIfAbsent key backend, s =>
      -- `entry(key).or_insert(backend)`
      match s.sessions key with
      | some existing => (existing, s)
      | none => (backend, { s with sessions := Function.update s.sessions key (some backend) })
  | .forgetSession key, s => ((), { s with sessions := Function.update s.sessions key none })
  | .lookupOp opId, s => (s.ops opId, s)
  | .bindOp opId backend, s => ((), { s with ops := Function.update s.ops opId (some backend) })
  | .forgetOp opId, s => ((), { s with ops := Function.update s.ops opId none })

/-- A bind of a bound key changes nothing and returns the binding. -/
theorem apply_bind_of_some {s : State} {key : SessionKey} {existing : String}
    (h : s.sessions key = some existing) (backend : String) :
    apply (.bindSessionIfAbsent key backend) s = (existing, s) := by
  simp only [apply, h]

/-- A bind of an unbound key inserts its own address. -/
theorem apply_bind_of_none {s : State} {key : SessionKey} (h : s.sessions key = none)
    (backend : String) :
    apply (.bindSessionIfAbsent key backend) s
      = (backend, { s with sessions := Function.update s.sessions key (some backend) }) := by
  simp only [apply, h]

/-- The in-process store: each operation is one access. -/
def store : AffinityStore MemorySig where
  lookupSession key := Prog.perform (S := MemorySig) (.lookupSession key)
  bindSessionIfAbsent key backend :=
    Prog.perform (S := MemorySig) (.bindSessionIfAbsent key backend)
  forgetSession key := Prog.perform (S := MemorySig) (.forgetSession key)
  lookupOp opId := Prog.perform (S := MemorySig) (.lookupOp opId)
  bindOp opId backend := Prog.perform (S := MemorySig) (.bindOp opId backend)
  forgetOp opId := Prog.perform (S := MemorySig) (.forgetOp opId)

end MemoryStore

/-! ### `RedisStore` -/

/-- The Redis commands the store uses. Times to live are in seconds. -/
inductive RedisCmd where
  | get (key : String)
  | setNxEx (key value : String) (ttl : ℕ)
  | setEx (key value : String) (ttl : ℕ)
  | expire (key : String) (ttl : ℕ)
  | del (key : String)

/-- A failed command. -/
structure RedisError where
  message : String
deriving DecidableEq, Repr

/-- What Redis answers to each command, or the error of the connection. -/
abbrev RedisCmd.Reply : RedisCmd → Type
  | .get _ => Except RedisError (Option String)
  | .setNxEx _ _ _ => Except RedisError (Option String)
  | .setEx _ _ _ => Except RedisError Unit
  | .expire _ _ => Except RedisError Bool
  | .del _ => Except RedisError ℕ

/-- The Redis commands the store issues, each one atomic step. -/
abbrev RedisSig : Sig := ⟨RedisCmd, RedisCmd.Reply⟩

/-- `RedisStoreConfig`, less the URL. -/
structure RedisStoreConfig where
  keyPrefix : String
  sessionTtl : ℕ
  opTtl : ℕ
deriving DecidableEq, Repr

/-- `RedisStoreConfig::default`. -/
def RedisStoreConfig.default : RedisStoreConfig := ⟨"scg", 60 * 60, 15 * 60⟩

namespace RedisStore

/-- The database, by key. -/
abbrev Db := String → Option String

/-- What each command does on a healthy server. -/
def apply : Handler RedisSig Db
  | .get key, db => (.ok (db key), db)
  | .setNxEx key value _, db =>
      match db key with
      | some _ => (.ok none, db)
      | none => (.ok (some "OK"), Function.update db key (some value))
  | .setEx key value _, db => (.ok (), Function.update db key (some value))
  | .expire key _, db => (.ok (db key).isSome, db)
  | .del key, db => (.ok (if (db key).isSome then 1 else 0), Function.update db key none)

/-- `SET NX` of a key that exists is refused. -/
theorem apply_setNxEx_of_some {db : Db} {key v : String} (h : db key = some v) (value : String)
    (ttl : ℕ) : apply (.setNxEx key value ttl) db = (.ok none, db) := by
  simp only [apply, h]

/-- `SET NX` of a key that does not exist sets it. -/
theorem apply_setNxEx_of_none {db : Db} {key : String} (h : db key = none) (value : String)
    (ttl : ℕ) :
    apply (.setNxEx key value ttl) db
      = (.ok (some "OK"), Function.update db key (some value)) := by
  simp only [apply, h]

/-- `session_key`: the Redis key of a session's binding. -/
def sessionKey (cfg : RedisStoreConfig) (k : SessionKey) : String :=
  cfg.keyPrefix ++ ":s:" ++ k.tenant ++ "|" ++ k.userId ++ "|" ++ k.sessionId

/-- `op_key`: the Redis key of an operation's binding. -/
def opKey (cfg : RedisStoreConfig) (opId : String) : String :=
  cfg.keyPrefix ++ ":o:" ++ opId

/-- The two tables share no key. -/
theorem sessionKey_ne_opKey (cfg : RedisStoreConfig) (k : SessionKey) (opId : String) :
    sessionKey cfg k ≠ opKey cfg opId := by
  intro h
  have hlist := congrArg String.toList h
  simp [sessionKey, opKey, String.toList_append] at hlist

/-- A read that keeps what it found alive: `GET`, then `EXPIRE` if there was a value. A
failed `GET` is a miss, and the reply to `EXPIRE` is ignored. Both lookups are this. -/
def lookupAndRefresh (key : String) (ttl : ℕ) : Prog RedisSig (Option String) :=
  .step (S := RedisSig) (.get key) fun
    | .ok (some v) => .step (S := RedisSig) (.expire key ttl) fun _ => .ret (some v)
    | .ok none => .ret none
    | .error _ => .ret none

/-- `lookup_session`: a hit keeps the session's binding alive. -/
def lookupSession (cfg : RedisStoreConfig) (key : SessionKey) : Prog RedisSig (Option String) :=
  lookupAndRefresh (sessionKey cfg key) cfg.sessionTtl

/-- `bind_session_if_absent`: `SET NX EX`, and a `GET` of the winner if it was refused. -/
def bindSessionIfAbsent (cfg : RedisStoreConfig) (key : SessionKey) (backend : String) :
    Prog RedisSig String :=
  .step (S := RedisSig) (.setNxEx (sessionKey cfg key) backend cfg.sessionTtl) fun
    | .ok (some _) => .ret backend
    | .ok none =>
        .step (S := RedisSig) (.get (sessionKey cfg key)) fun
          | .ok (some existing) => .ret existing
          -- The binding expired between the two commands: the rebind is accepted.
          | .ok none => .ret backend
          | .error _ => .ret backend
    | .error _ => .ret backend

/-- `forget_session`: one `DEL`, whose reply is ignored. -/
def forgetSession (cfg : RedisStoreConfig) (key : SessionKey) : Prog RedisSig Unit :=
  .step (S := RedisSig) (.del (sessionKey cfg key)) fun _ => .ret ()

/-- `lookup_op`: a hit keeps the operation's binding alive. -/
def lookupOp (cfg : RedisStoreConfig) (opId : String) : Prog RedisSig (Option String) :=
  lookupAndRefresh (opKey cfg opId) cfg.opTtl

/-- `bind_op`: one `SET EX`. -/
def bindOp (cfg : RedisStoreConfig) (opId backend : String) : Prog RedisSig Unit :=
  -- Without `NX`: an entry is overwritten. A failed write is logged and dropped.
  .step (S := RedisSig) (.setEx (opKey cfg opId) backend cfg.opTtl) fun _ => .ret ()

/-- `forget_op`: one `DEL`, whose reply is ignored. -/
def forgetOp (cfg : RedisStoreConfig) (opId : String) : Prog RedisSig Unit :=
  .step (S := RedisSig) (.del (opKey cfg opId)) fun _ => .ret ()

/-- The Redis-backed store. -/
def store (cfg : RedisStoreConfig) : AffinityStore RedisSig where
  lookupSession := lookupSession cfg
  bindSessionIfAbsent := bindSessionIfAbsent cfg
  forgetSession := forgetSession cfg
  lookupOp := lookupOp cfg
  bindOp := bindOp cfg
  forgetOp := forgetOp cfg

end RedisStore

end SparkGateway.Spec

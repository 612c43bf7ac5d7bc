import Mathlib.Data.Set.Function
import Mathlib.Logic.Function.Basic
import SparkGateway.Lib.TokenBucket

/-!
# `SparkGateway.Lib.BucketTable`: many token buckets, charged in order

A `Table` holds the buckets of a limiter by key; a key without an entry stands for a full
bucket. A call asks for one token of each of some buckets, in order, and stops at the first
bucket that has none (`charge`). The tokens it took before that are gone.

What a call leaves behind is compared by `balance`, the tokens of a bucket refilled to a
given time, since a stored entry changes at every call whether or not it gave a token:

* `charge_pair_unchanged_iff`: a rejected call for two buckets leaves both balances as they
  were exactly when it was the first bucket that rejected it;
* `Agree` relates two tables with the same balances from some time on. `charge_agree` says
  that such tables answer alike and stay related, `agree_charge_of_empty` that a call that
  finds its first bucket empty can be left out on one side.
* `Renames` relates two tables whose buckets have other keys and whose times are in another
  unit, and `charge_rename` says that they answer alike.
-/

set_option autoImplicit false

namespace SparkGateway.Lib.TokenBucket

/-- The stored state of one bucket: its tokens at the time of the last refill. -/
structure Level (K : Type) where
  tokens : K
  last : K

/-- The buckets of a limiter. No entry stands for a full bucket. -/
abbrev Table (κ K : Type) : Type := κ → Option (Level K)

/-- A bucket of the table, with its refill rate and capacity. -/
structure Slot (κ K : Type) where
  key : κ
  rate : K
  cap : K

/-- A request for one token of a slot at a time, with a tag that names it in the answer. -/
structure Ask (τ κ K : Type) where
  tag : τ
  slot : Slot κ K
  now : K

/-- No bucket was refilled after the time `now`. -/
def Fresh {κ K : Type} [LinearOrder K] (now : K) (T : Table κ K) : Prop :=
  ∀ k l, T k = some l → l.last ≤ now

/-- Levels not stamped after `now` are not stamped after a later time. -/
theorem Fresh.mono {κ K : Type} [LinearOrder K] {now now' : K} {T : Table κ K}
    (h : Fresh now T) (hle : now ≤ now') : Fresh now' T := fun k l hl => le_trans (h k l hl) hle

section
variable {τ κ K : Type} [Field K] [LinearOrder K]

/-- The tokens of a bucket, refilled to the time `now`. -/
def levelAt (cap rate now : K) (l : Level K) : K :=
  refill cap rate (max 0 (now - l.last)) l.tokens

/-- A level refills from any earlier one. -/
theorem levelAt_later [IsStrictOrderedRing K] {cap rate now now' : K} {l : Level K}
    (hlast : l.last ≤ now) (hrate : 0 ≤ rate) (hle : now ≤ now') :
    levelAt cap rate now' l = refill cap rate (now' - now) (levelAt cap rate now l) := by
  have hpos : 0 ≤ now' - now := sub_nonneg.mpr hle
  -- Both levels refill the same tokens, one of them in two parts.
  rw [levelAt, levelAt, max_eq_right (sub_nonneg.mpr hlast), max_eq_right (by linarith),
    refill_refill hpos hrate]
  congr 1
  ring

/-- The tokens of a slot, refilled to the time `now`. -/
def balance (now : K) (d : Slot κ K) (T : Table κ K) : K :=
  match T d.key with
  | some l => refill d.cap d.rate (max 0 (now - l.last)) l.tokens
  | none => d.cap

/-- The slots of `D` have the same balances in both tables, from the time `now` on. -/
def Agree (D : Set (Slot κ K)) (now : K) (T T' : Table κ K) : Prop :=
  ∀ d ∈ D, ∀ now', now ≤ now' → balance now' d T = balance now' d T'

/-- Two tables that agree at `now` agree at every later time. -/
theorem Agree.mono {D : Set (Slot κ K)} {now now' : K} {T T' : Table κ K}
    (h : Agree D now T T') (hle : now ≤ now') : Agree D now' T T' :=
  fun d hd t ht => h d hd t (le_trans hle ht)

/-- A slot's balance reads the table at the slot's own key only. -/
theorem balance_congr {d : Slot κ K} {T T' : Table κ K} (h : T d.key = T' d.key) (now : K) :
    balance now d T = balance now d T' := by rw [balance, balance, h]

/-- A balance never exceeds its slot's capacity. -/
theorem balance_le_cap (now : K) (d : Slot κ K) (T : Table κ K) : balance now d T ≤ d.cap := by
  unfold balance
  split
  · exact refill_le_cap _ _ _ _
  · exact le_refl _

/-- A balance refills from any earlier one. -/
theorem balance_later [IsStrictOrderedRing K] {now now' : K} {d : Slot κ K} {T : Table κ K}
    (hT : Fresh now T) (hrate : 0 ≤ d.rate) (hle : now ≤ now') :
    balance now' d T = refill d.cap d.rate (now' - now) (balance now d T) := by
  unfold balance
  cases hl : T d.key with
  | none => exact (refill_cap (sub_nonneg.mpr hle) hrate).symm
  | some l => exact levelAt_later (hT d.key l hl) hrate hle

variable [DecidableEq κ]

/-- Refill a slot and take one token if there is one. -/
def takeAt (now : K) (d : Slot κ K) (T : Table κ K) : Bool × Table κ K :=
  ((take (balance now d T)).1,
    Function.update T d.key (some ⟨(take (balance now d T)).2, now⟩))

/-- Ask for one token of each slot in order, up to the first that has none. Answers the tag
of that one, or `none` if each slot gave its token. -/
def charge : List (Ask τ κ K) → Table κ K → Option τ × Table κ K
  | [], T => (none, T)
  | a :: as, T =>
      if (takeAt a.now a.slot T).1 then charge as (takeAt a.now a.slot T).2
      else (some a.tag, (takeAt a.now a.slot T).2)

/-! ### Takes and calls -/

/-- A take on one slot leaves the slots of other keys as they are. -/
theorem balance_takeAt_of_ne {d e : Slot κ K} (h : d.key ≠ e.key) (now now' : K)
    (T : Table κ K) : balance now' d (takeAt now e T).2 = balance now' d T :=
  balance_congr (Function.update_of_ne h _ _) now'

/-- Taking at `now` stamps nothing later than `now`. -/
theorem fresh_takeAt {now : K} {T : Table κ K} (h : Fresh now T) (d : Slot κ K) :
    Fresh now (takeAt now d T).2 := by
  intro k l hl
  by_cases hk : k = d.key
  · subst hk
    simp only [takeAt, Function.update_self, Option.some.injEq] at hl
    exact hl ▸ le_refl now
  · have hold : (takeAt now d T).2 k = T k := Function.update_of_ne hk _ _
    exact h k l (hold ▸ hl)

/-- Charging asks that are all made at `now` stamps nothing later than `now`. -/
theorem fresh_charge {now : K} {as : List (Ask τ κ K)} (has : ∀ a ∈ as, a.now = now)
    {T : Table κ K} (h : Fresh now T) : Fresh now (charge as T).2 := by
  induction as generalizing T with
  | nil => exact h
  | cons a as ih =>
    have hfresh := fresh_takeAt h a.slot
    rw [charge, has a List.mem_cons_self]
    split
    · exact ih (fun b hb => has b (List.mem_cons_of_mem a hb)) hfresh
    · exact hfresh

/-- A list of asks ends at the first slot that is empty, and names its tag. -/
theorem charge_cons_of_empty {a : Ask τ κ K} {as : List (Ask τ κ K)} {T : Table κ K}
    (h : balance a.now a.slot T < 1) :
    charge (a :: as) T = (some a.tag, (takeAt a.now a.slot T).2) := by
  rw [charge, takeAt, take_of_lt h]
  exact if_neg Bool.false_ne_true

/-- A slot with a token left passes the charge on to the asks after it. -/
theorem charge_cons_of_le {a : Ask τ κ K} {as : List (Ask τ κ K)} {T : Table κ K}
    (h : 1 ≤ balance a.now a.slot T) :
    charge (a :: as) T = charge as (takeAt a.now a.slot T).2 := by
  rw [charge, if_pos]
  rw [takeAt, take_of_le h]

/-- Tables that agree answer a take alike, and agree after it. -/
theorem takeAt_agree {D : Set (Slot κ K)} {now : K} {T T' : Table κ K}
    (h : Agree D now T T') {d : Slot κ K} (hd : d ∈ D) :
    (takeAt now d T).1 = (takeAt now d T').1 ∧
      Agree D now (takeAt now d T).2 (takeAt now d T').2 := by
  have hbal : balance now d T = balance now d T' := h d hd now (le_refl now)
  refine ⟨by rw [takeAt, takeAt, hbal], fun e he now' hle => ?_⟩
  by_cases hk : e.key = d.key
  · -- Both tables store the same entry under this key.
    refine balance_congr ?_ now'
    rw [takeAt, takeAt, hbal, hk]
    simp only [Function.update_self]
  · rw [balance_takeAt_of_ne hk, balance_takeAt_of_ne hk]
    exact h e he now' hle

/-- Tables that agree answer a call alike, and agree after it. -/
theorem charge_agree {D : Set (Slot κ K)} {now : K} {as : List (Ask τ κ K)}
    (has : ∀ a ∈ as, a.slot ∈ D ∧ a.now = now) {T T' : Table κ K} (h : Agree D now T T') :
    (charge as T).1 = (charge as T').1 ∧ Agree D now (charge as T).2 (charge as T').2 := by
  induction as generalizing T T' with
  | nil => exact ⟨rfl, h⟩
  | cons a as ih =>
    obtain ⟨hslot, hnow⟩ := has a List.mem_cons_self
    obtain ⟨hfst, hagree⟩ := takeAt_agree h hslot
    rw [charge, charge, hnow, ← hfst]
    split
    · exact ih (fun b hb => has b (List.mem_cons_of_mem a hb)) hagree
    · exact ⟨rfl, hagree⟩

end

section
variable {τ κ K : Type} [Field K] [LinearOrder K] [IsStrictOrderedRing K] [DecidableEq κ]

/-! ### What a rejected call costs -/

/-- The slot that was asked refills from what is left. -/
theorem balance_takeAt_self {now now' : K} (hle : now ≤ now') (d : Slot κ K) (T : Table κ K) :
    balance now' d (takeAt now d T).2
      = refill d.cap d.rate (now' - now) (take (balance now d T)).2 := by
  rw [balance]
  simp only [takeAt, Function.update_self]
  rw [max_eq_right (sub_nonneg.mpr hle)]

/-- At the time of the take itself, what is left. -/
theorem balance_takeAt_now (now : K) (d : Slot κ K) (T : Table κ K) :
    balance now d (takeAt now d T).2 = (take (balance now d T)).2 := by
  have hcap : (take (balance now d T)).2 ≤ d.cap := by
    have hbal := take_balance (balance now d T)
    have hcost : (0 : K) ≤ cost (take (balance now d T)).1 := by
      unfold cost
      split
      · exact zero_le_one
      · exact le_refl 0
    linarith [balance_le_cap now d T]
  rw [balance_takeAt_self (le_refl now), sub_self, refill_zero hcap]

/-- A take that finds no token changes no later balance. -/
theorem balance_takeAt_of_empty {now now' : K} {d : Slot κ K} {T : Table κ K}
    (hT : Fresh now T) (hrate : 0 ≤ d.rate) (hle : now ≤ now') (hempty : balance now d T < 1) :
    balance now' d (takeAt now d T).2 = balance now' d T := by
  rw [balance_takeAt_self hle, take_of_lt hempty, balance_later hT hrate hle]

/-- A rejected call for two buckets leaves both balances as they were exactly when the first
bucket was empty. When the second one rejects it, the first has lost a token. -/
theorem charge_pair_unchanged_iff {a b : Ask τ κ K} {T : Table κ K}
    (hab : a.slot.key ≠ b.slot.key) (hrej : (charge [a, b] T).1 ≠ none) :
    (balance a.now a.slot (charge [a, b] T).2 = balance a.now a.slot T ∧
      balance a.now b.slot (charge [a, b] T).2 = balance a.now b.slot T)
      ↔ balance a.now a.slot T < 1 := by
  rcases lt_or_ge (balance a.now a.slot T) 1 with hempty | hfull
  · -- The first bucket rejects: it stores its own refilled tokens.
    rw [charge_cons_of_empty hempty]
    refine iff_of_true ⟨?_, ?_⟩ hempty
    · rw [balance_takeAt_now, take_of_lt hempty]
    · exact balance_takeAt_of_ne hab.symm _ _ _
  · -- The first bucket gives its token, so the second one is what rejects.
    rw [charge_cons_of_le hfull] at hrej ⊢
    have hb_empty : balance b.now b.slot (takeAt a.now a.slot T).2 < 1 := by
      by_contra h
      rw [charge_cons_of_le (not_lt.mp h)] at hrej
      exact hrej rfl
    rw [charge_cons_of_empty hb_empty, balance_takeAt_of_ne hab, balance_takeAt_now,
      take_of_le hfull]
    refine iff_of_false ?_ (not_lt.mpr hfull)
    rintro ⟨hlost, -⟩
    linarith

/-- A call that finds its first bucket empty can be left out: the table after it still
agrees with every table that the one before it agreed with. No other slot of `D` may use
the bucket's key at another rate or capacity. -/
theorem agree_charge_of_empty {D : Set (Slot κ K)} {a : Ask τ κ K} {as : List (Ask τ κ K)}
    {T T' : Table κ K} (hT : Fresh a.now T) (h : Agree D a.now T T')
    (hrate : 0 ≤ a.slot.rate) (hkey : ∀ d ∈ D, d.key = a.slot.key → d = a.slot)
    (hempty : balance a.now a.slot T < 1) : Agree D a.now (charge (a :: as) T).2 T' := by
  intro d hd now' hle
  rw [charge_cons_of_empty hempty, ← h d hd now' hle]
  by_cases hk : d.key = a.slot.key
  · -- The slot that was asked: it gave nothing, and its refill would have come anyway.
    obtain rfl := hkey d hd hk
    exact balance_takeAt_of_empty hT hrate hle hempty
  · exact balance_takeAt_of_ne hk _ _ _

end

/-! ### Other keys and another unit of time -/

section
variable {τ κ κ' K : Type} [Field K] [LinearOrder K]

/-- The slot under another key, with its rate for a unit of time that is `1 / unit` of the old
one. -/
def Slot.rename (f : κ → κ') (unit : K) (d : Slot κ K) : Slot κ' K :=
  ⟨f d.key, d.rate / unit, d.cap⟩

/-- The request for the renamed slot, with its time in the new unit. -/
def Ask.rename (f : κ → κ') (unit : K) (a : Ask τ κ K) : Ask τ κ' K :=
  ⟨a.tag, a.slot.rename f unit, a.now * unit⟩

/-- The keys in `D` hold the same levels in `T` as their images in `T'`, up to the unit of
time. -/
def Renames (f : κ → κ') (unit : K) (D : Set κ) (T : Table κ K) (T' : Table κ' K) : Prop :=
  ∀ k ∈ D, T' (f k) = (T k).map fun l => ⟨l.tokens, l.last * unit⟩

variable {f : κ → κ'} {unit : K} {D : Set κ} {T : Table κ K} {T' : Table κ' K}

/-- A renamed slot holds, in the scaled clock, the balance of the slot it came from. -/
theorem balance_rename [IsStrictOrderedRing K] (hunit : 0 < unit) (h : Renames f unit D T T')
    {d : Slot κ K} (hd : d.key ∈ D) (now : K) :
    balance (now * unit) (d.rename f unit) T' = balance now d T := by
  have hkey : T' (d.rename f unit).key = (T d.key).map fun l => ⟨l.tokens, l.last * unit⟩ :=
    h d.key hd
  unfold balance
  rw [hkey]
  cases T d.key with
  | none => rfl
  | some l =>
    -- The elapsed time grows by the unit, and the rate shrinks by it.
    have helapsed : max 0 (now * unit - l.last * unit) = max 0 (now - l.last) * unit := by
      rw [← sub_mul, max_mul_of_nonneg _ _ hunit.le, zero_mul]
    simp only [Option.map_some, refill, Slot.rename, helapsed]
    rw [mul_assoc, mul_div_cancel₀ d.rate hunit.ne']

variable [DecidableEq κ] [DecidableEq κ']

/-- Renamed tables answer a renamed take alike, and are renamed tables after it. -/
theorem takeAt_rename [IsStrictOrderedRing K] (hunit : 0 < unit) (hf : Set.InjOn f D)
    (h : Renames f unit D T T') {d : Slot κ K} (hd : d.key ∈ D) (now : K) :
    (takeAt (now * unit) (d.rename f unit) T').1 = (takeAt now d T).1 ∧
      Renames f unit D (takeAt now d T).2 (takeAt (now * unit) (d.rename f unit) T').2 := by
  have hbal := balance_rename hunit h hd now
  have hname : (d.rename f unit).key = f d.key := rfl
  refine ⟨by rw [takeAt, takeAt, hbal], fun k hk => ?_⟩
  simp only [takeAt, hbal, hname]
  by_cases hkey : k = d.key
  · subst hkey
    simp only [Function.update_self, Option.map_some]
  · rw [Function.update_of_ne (fun heq => hkey (hf hk hd heq)), Function.update_of_ne hkey]
    exact h k hk

/-- Renamed tables answer a renamed call alike, and are renamed tables after it. -/
theorem charge_rename [IsStrictOrderedRing K] (hunit : 0 < unit) (hf : Set.InjOn f D)
    {as : List (Ask τ κ K)} (has : ∀ a ∈ as, a.slot.key ∈ D) (h : Renames f unit D T T') :
    (charge (as.map (Ask.rename f unit)) T').1 = (charge as T).1 ∧
      Renames f unit D (charge as T).2 (charge (as.map (Ask.rename f unit)) T').2 := by
  induction as generalizing T T' with
  | nil => exact ⟨rfl, h⟩
  | cons a as ih =>
    obtain ⟨hfst, hsnd⟩ := takeAt_rename hunit hf h (has a List.mem_cons_self) a.now
    simp only [List.map_cons, charge, Ask.rename, hfst]
    split
    · exact ih (fun b hb => has b (List.mem_cons_of_mem a hb)) hsnd
    · exact ⟨rfl, hsnd⟩

end

end SparkGateway.Lib.TokenBucket

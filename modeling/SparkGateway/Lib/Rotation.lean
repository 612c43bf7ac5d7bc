import Mathlib.Algebra.Order.Floor.Div
import Mathlib.Data.Int.CardIntervalMod
import SparkGateway.Lib.Transcript

/-!
# `SparkGateway.Lib.Rotation`: picks in turn from lists that change

A picker holds a cursor and is asked for an element of a list, again and again. The list may be
another one each time. The pick reads the list at the cursor, modulo its length, and moves the
cursor on. `Rotates` says this of a step function on a state of any kind, whatever else its calls
do; the cursor counts modulo `size`, and a pick from an empty list does not move it.

`Rotates.balanced` is the rule to use. In a block of picks from one list, every position is read
as often as every other one, up to one time: `m / n` or `m ⌈/⌉ n` times for `m` picks from `n`
elements. The cursor may stand anywhere when the block begins, as long as it does not wrap around.

`Nat.count_modEq_card` of Mathlib is the count of one residue; `count_positions` applies it to the
positions that such a block reads.
-/

set_option autoImplicit false

namespace SparkGateway.Lib

variable {α γ σ : Type}

/-- One pick: the list it is made from, the position it reads, if it reads one, and what it
returns. -/
structure Turn (α : Type) where
  served : List α
  position : Option ℕ
  returned : Option α
deriving DecidableEq, Repr

/-- The pick reads a position of its list and returns what is there, and it reads one unless the
list is empty. -/
structure Turn.Sound (t : Turn α) : Prop where
  inside : ∀ i ∈ t.position, i < t.served.length
  returned : t.returned = t.position.bind fun i => t.served[i]?
  reads : t.served ≠ [] → t.position.isSome

/-- The picks of a run. A call that is no pick has no turn. -/
def turns (step : γ → σ → Option (Turn α) × σ) (calls : List γ) (s : σ) : List (Turn α) :=
  (transcript step calls s).filterMap Prod.snd

/-- Every position of the list is read equally often, up to one time. -/
def Balanced (served : List α) (ts : List (Turn α)) : Prop :=
  ∀ p < served.length,
    (ts.map Turn.position).count (some p) = ts.length / served.length ∨
      (ts.map Turn.position).count (some p) = ts.length ⌈/⌉ served.length

/-! ### The count of one position -/

/-- Counting a value in a tabulated list counts the indices that have it. -/
theorem count_range_map {β : Type} [BEq β] [LawfulBEq β] (f : ℕ → β) (b : β) (m : ℕ)
    [DecidablePred fun i => f i = b] :
    ((List.range m).map f).count b = Nat.count (fun i => f i = b) m := by
  induction m with
  | zero => rfl
  | succ m ih =>
    rw [List.range_succ, List.map_append, List.count_append, ih, Nat.count_succ]
    by_cases h : f m = b
    · simp [h]
    · simp [h]

/-- A division with a remainder, rounded up. -/
theorem ceilDiv_of_mod_pos {m n : ℕ} (hn : 0 < n) (hm : 0 < m % n) : m ⌈/⌉ n = m / n + 1 := by
  have hmod := Nat.mod_lt m hn
  have hdiv := Nat.div_add_mod m n
  rw [Nat.ceilDiv_eq_add_pred_div]
  refine Nat.div_eq_of_lt_le ?_ ?_
  · rw [Nat.add_mul, Nat.mul_comm]
    omega
  · rw [Nat.add_mul, Nat.add_mul, Nat.mul_comm]
    omega

/-- `p` turns up among consecutive numbers as a residue of `n` with the frequency of every other
residue, up to one time. -/
theorem count_positions (start m : ℕ) {n p : ℕ} (hp : p < n) :
    ((List.range m).map fun i => some ((start + i) % n)).count (some p) = m / n ∨
      ((List.range m).map fun i => some ((start + i) % n)).count (some p) = m ⌈/⌉ n := by
  have hn : 0 < n := by omega
  -- The number that leads from `start` to the residue `p`.
  have hlead : start + (n - start % n + p) ≡ p [MOD n] := by
    have hsum : start + (n - start % n + p) = p + n * (start / n + 1) := by
      have hmod := Nat.mod_lt start hn
      have hdiv := Nat.div_add_mod start n
      rw [Nat.mul_add, Nat.mul_one]
      omega
    rw [hsum]
    exact Nat.add_mul_mod_self_left p n _
  have hresidue : ∀ i, some ((start + i) % n) = some p ↔ i ≡ n - start % n + p [MOD n] := by
    intro i
    rw [Option.some.injEq]
    constructor
    · intro h
      have hp' : start + i ≡ p [MOD n] := h.trans (Nat.mod_eq_of_lt hp).symm
      exact Nat.ModEq.add_left_cancel' start (hp'.trans hlead.symm)
    · intro h
      have hp' : (start + i) % n = p % n := (h.add_left start).trans hlead
      rwa [Nat.mod_eq_of_lt hp] at hp'
  rw [count_range_map]
  simp only [hresidue]
  rw [Nat.count_modEq_card m hn]
  split
  · rename_i hlt
    right
    exact (ceilDiv_of_mod_pos hn (by omega)).symm
  · left
    rfl

/-! ### Pickers -/

section
variable {step : γ → σ → Option (Turn α) × σ}

/-- The turns of a list of calls: the first call's, then those from the state it leaves. -/
theorem turns_cons (c : γ) (calls : List γ) (s : σ) :
    turns step (c :: calls) s = (step c s).1.toList ++ turns step calls (step c s).2 := by
  show ((c, (step c s).1) :: transcript step calls (step c s).2).filterMap Prod.snd = _
  cases h : (step c s).1 with
  | none => rfl
  | some t => rfl

/-- The turns of two blocks, the second from the state that the first leaves. -/
theorem turns_append (before block : List γ) (s : σ) :
    turns step (before ++ block) s
      = turns step before s ++ turns step block (final step before s) := by
  rw [turns, transcript_append, List.filterMap_append]
  rfl

end

/-- The step picks in turn: `cursor` is where the next pick reads, modulo the length of its list,
and it counts the picks modulo `size`. -/
structure Rotates (size : ℕ) (cursor : σ → ℕ) (step : γ → σ → Option (Turn α) × σ) : Prop where
  sound : ∀ c s, ∀ t ∈ (step c s).1, t.Sound
  position : ∀ c s, ∀ t ∈ (step c s).1, t.served ≠ [] →
    t.position = some (cursor s % t.served.length)
  moves : ∀ c s, ∀ t ∈ (step c s).1, t.served ≠ [] →
    cursor (step c s).2 = (cursor s + 1) % size
  stays : ∀ c s, (∀ t ∈ (step c s).1, t.served = []) → cursor (step c s).2 = cursor s

namespace Rotates

variable {size : ℕ} {cursor : σ → ℕ} {step : γ → σ → Option (Turn α) × σ}

/-- Every pick of every run is sound. -/
theorem turns_sound (h : Rotates size cursor step) (calls : List γ) (s : σ) :
    ∀ t ∈ turns step calls s, t.Sound := by
  induction calls generalizing s with
  | nil => simp [turns, transcript]
  | cons c calls ih =>
    intro t ht
    rw [turns_cons, List.mem_append, Option.mem_toList] at ht
    rcases ht with ht | ht
    · exact h.sound c s t ht
    · exact ih _ t ht

/-- A call moves the cursor by at most the pick that it makes. -/
theorem cursor_step_le (h : Rotates size cursor step) (c : γ) (s : σ)
    (hs : cursor s + (step c s).1.toList.length < size) :
    cursor (step c s).2 ≤ cursor s + (step c s).1.toList.length := by
  cases hc : (step c s).1 with
  | none =>
    rw [h.stays c s (by simp [hc])]
    simp
  | some t =>
    by_cases ht : t.served = []
    · rw [h.stays c s (by simp [hc, ht])]
      simp
    · rw [hc] at hs
      rw [h.moves c s t (by simp [hc]) ht, Nat.mod_eq_of_lt (by simpa using hs)]
      simp

/-- A run moves the cursor by at most the picks that it makes. -/
theorem cursor_final_le (h : Rotates size cursor step) (calls : List γ) (s : σ)
    (hs : cursor s + (turns step calls s).length < size) :
    cursor (final step calls s) ≤ cursor s + (turns step calls s).length := by
  induction calls generalizing s with
  | nil => simp [final]
  | cons c calls ih =>
    rw [turns_cons, List.length_append] at hs ⊢
    have hstep := h.cursor_step_le c s (by omega)
    have hrest := ih (step c s).2 (by omega)
    show cursor (final step calls (step c s).2) ≤ _
    omega

/-- The positions that a block of picks from one list reads: those from the cursor on. -/
theorem positions_eq (h : Rotates size cursor step) {served : List α} (hne : served ≠ [])
    (calls : List γ) (s : σ) (hserved : ∀ t ∈ turns step calls s, t.served = served)
    (hs : cursor s + (turns step calls s).length < size) :
    (turns step calls s).map Turn.position =
      (List.range' (cursor s) (turns step calls s).length).map
        fun i => some (i % served.length) := by
  induction calls generalizing s with
  | nil => rfl
  | cons c calls ih =>
    rw [turns_cons] at hserved hs ⊢
    cases hc : (step c s).1 with
    | none =>
      -- The call is no pick, and the cursor stays.
      have hcursor := h.stays c s (by simp [hc])
      simp only [hc, Option.toList_none, List.nil_append] at hserved hs ⊢
      rw [ih _ hserved (by omega), hcursor]
    | some t =>
      simp only [hc, Option.toList_some, List.singleton_append, List.length_cons] at hserved hs ⊢
      -- The pick reads at the cursor, which moves on by one: it does not wrap within the run.
      have ht : t.served = served := hserved t List.mem_cons_self
      have hposition := h.position c s t (by simp [hc]) (by rw [ht]; exact hne)
      have hcursor := h.moves c s t (by simp [hc]) (by rw [ht]; exact hne)
      rw [Nat.mod_eq_of_lt (by omega)] at hcursor
      have hrest := ih (step c s).2 (fun t ht => hserved t (List.mem_cons_of_mem _ ht)) (by omega)
      rw [List.map_cons, List.range'_succ, List.map_cons, hrest, hposition, hcursor, ht]

/-- **Balance.** A block of picks from one list reads every position equally often, up to one
time, after any calls from a state whose cursor is at the beginning. -/
theorem balanced (h : Rotates size cursor step) {start : σ} (hstart : cursor start = 0)
    (before block : List γ) (hpicks : (turns step (before ++ block) start).length < size)
    {served : List α} (hne : served ≠ [])
    (hserved : ∀ t ∈ turns step block (final step before start), t.served = served) :
    Balanced served (turns step block (final step before start)) := by
  rw [turns_append, List.length_append] at hpicks
  have hcursor := h.cursor_final_le before start (by omega)
  intro p hp
  rw [h.positions_eq hne block _ hserved (by omega), List.range'_eq_map_range, List.map_map]
  exact count_positions _ _ hp

end Rotates

end SparkGateway.Lib

import Mathlib.Data.Set.Card
import SparkGateway.Lib.History
import SparkGateway.Lib.Restrict

/-!
# `SparkGateway.Lib.Once`: events that a program performs at most once

When every program of a run performs an event of some kind at most once, the events of this kind
are as many as the programs that have performed one (`ncard_performers`). `Run.atMostOnce` gets the
premise from a contract of the programs which allows such a command only if there was none before.
-/

set_option autoImplicit false

namespace SparkGateway.Lib

variable {S : Sig} {σ ι α : Type} [DecidableEq ι]

/-- How many events of the kind a run has. -/
def occurrences (kind : Event S → Bool) (t : List (Record S σ ι)) : ℕ :=
  (actions t).countP fun a => kind a.2

/-- The programs that have performed an event of the kind. -/
def performers (kind : Event S → Bool) (t : List (Record S σ ι)) : Set ι :=
  { i | 0 < (eventsOf i t).countP kind }

section
variable {kind : Event S → Bool} {t : List (Record S σ ι)}

omit [DecidableEq ι] in
theorem occurrences_append (t t' : List (Record S σ ι)) :
    occurrences kind (t ++ t') = occurrences kind t + occurrences kind t' := by
  simp [occurrences]

omit [DecidableEq ι] in
/-- A thread's step counts when its event is of the kind. -/
theorem occurrences_cmd (i : ι) (e : Event S) (s s' : σ) :
    occurrences kind [(⟨some (i, e), s, s'⟩ : Record S σ ι)] = if kind e then 1 else 0 := by
  rw [occurrences, actions_cmd, List.countP_singleton]

omit [DecidableEq ι] in
/-- The environment's steps do not count. -/
theorem occurrences_env (s s' : σ) :
    occurrences kind [(⟨none, s, s'⟩ : Record S σ ι)] = 0 := rfl

/-- One more event of `j`. -/
theorem countP_eventsOf_snoc (i j : ι) (e : Event S) (s s' : σ) :
    (eventsOf i (t ++ [⟨some (j, e), s, s'⟩])).countP kind =
      (eventsOf i t).countP kind + if j = i ∧ kind e = true then 1 else 0 := by
  rw [eventsOf_append, eventsOf_cmd, List.countP_append]
  by_cases hj : j = i <;> simp [hj, List.countP_singleton]

/-- A step that performs no event of the kind. -/
theorem performers_of_other {rec : Record S σ ι}
    (h : ∀ i e, rec.actor = some (i, e) → kind e = false) :
    performers kind (t ++ [rec]) = performers kind t ∧ occurrences kind [rec] = 0 := by
  rcases rec with ⟨_ | ⟨j, e⟩, s, s'⟩
  · simp [performers, occurrences_env]
  · have hkind := h j e rfl
    constructor
    · ext i
      show 0 < (eventsOf i _).countP kind ↔ 0 < (eventsOf i t).countP kind
      rw [countP_eventsOf_snoc, if_neg (by simp [hkind]), Nat.add_zero]
    · simp [occurrences_cmd, hkind]

/-- A step that performs an event of the kind. -/
theorem performers_of_event {rec : Record S σ ι} {i : ι} {e : Event S}
    (hact : rec.actor = some (i, e)) (hkind : kind e = true) :
    performers kind (t ++ [rec]) = insert i (performers kind t) ∧ occurrences kind [rec] = 1 := by
  rcases rec with ⟨actor, s, s'⟩
  obtain rfl : actor = some (i, e) := hact
  constructor
  · ext j
    show 0 < (eventsOf j _).countP kind ↔ j = i ∨ 0 < (eventsOf j t).countP kind
    rw [countP_eventsOf_snoc]
    by_cases hj : i = j
    · simp [hj, hkind]
    · simp [hj, Ne.symm hj]
  · simp [occurrences_cmd, hkind]

/-- **Counting programs.** If no program performs more than one event of the kind, the programs
that have performed one are as many as the events. -/
theorem ncard_performers (h : ∀ i, (eventsOf i t).countP kind ≤ 1) :
    (performers kind t).Finite ∧ (performers kind t).ncard = occurrences kind t := by
  induction t using List.reverseRecOn with
  | nil => simp [performers, occurrences, eventsOf, actions]
  | append_singleton t rec ih =>
    have hprev : ∀ i, (eventsOf i t).countP kind ≤ 1 := by
      intro i
      have hi := h i
      rw [eventsOf_append, List.countP_append] at hi
      omega
    obtain ⟨hfin, hcard⟩ := ih hprev
    by_cases hother : ∀ i e, rec.actor = some (i, e) → kind e = false
    · obtain ⟨hsame, hzero⟩ := performers_of_other (t := t) hother
      rw [hsame, occurrences_append, hzero]
      exact ⟨hfin, hcard⟩
    · simp only [not_forall, Bool.not_eq_false] at hother
      obtain ⟨i, e, hact, hkind⟩ := hother
      obtain ⟨hinsert, hone⟩ := performers_of_event (t := t) hact hkind
      -- The program has not performed one before.
      have hnew : i ∉ performers kind t := by
        intro hmem
        have hi := h i
        have hpos : 0 < (eventsOf i t).countP kind := hmem
        rcases rec with ⟨actor, s, s'⟩
        obtain rfl : actor = some (i, e) := hact
        rw [countP_eventsOf_snoc, if_pos ⟨rfl, hkind⟩] at hi
        omega
      rw [hinsert, occurrences_append, hone, Set.ncard_insert_of_notMem hnew hfin, hcard]
      exact ⟨hfin.insert i, rfl⟩

end

section
variable {M : Semantics S σ} {c c' : Config S σ ι α} {t : List (Record S σ ι)}
  {kind : Event S → Bool} {A : Event S → Prop} {G : List (Event S) → S.Cmd → Prop}
  {Q : List (Event S) → α → Prop}

/-- A program that performs such a command only if there was none before. -/
theorem Prog.Obeys.atMostOnce {p q : Prog S α} {es es' : List (Event S)}
    (hG : ∀ es c r, G es c → kind ⟨c, r⟩ = true → es.countP kind = 0)
    (h : p.Obeys A G Q es) (hafter : p.After es' q) (hA : ∀ e ∈ es', A e)
    (hes : es.countP kind ≤ 1) : (es ++ es').countP kind ≤ 1 := by
  induction hafter generalizing es with
  | nil p => rwa [List.append_nil]
  | @cons c k r es' q _ ih =>
    have hone : (es ++ [(⟨c, r⟩ : Event S)]).countP kind ≤ 1 := by
      rw [List.countP_append, List.countP_singleton]
      split
      · rename_i hkind
        rw [hG es c r h.1 hkind]
      · exact hes
    have hrest := ih (h.2 r (hA _ List.mem_cons_self))
      (fun e he => hA e (List.mem_cons_of_mem _ he)) hone
    rwa [List.append_assoc] at hrest

/-- A thread that takes an event of the kind only where none was taken takes at most one in any
run. -/
theorem Run.atMostOnce (h : Run M c t c') {i : ι}
    (hG : ∀ es c r, G es c → kind ⟨c, r⟩ = true → es.countP kind = 0)
    (hi : (c.thread i).Obeys A G Q []) (hA : ∀ e ∈ eventsOf i t, A e) :
    (eventsOf i t).countP kind ≤ 1 :=
  hi.atMostOnce hG (h.after i) hA (Nat.zero_le 1)

end

end SparkGateway.Lib

import Mathlib.Data.List.Induction

/-!
# `SparkGateway.Lib.Steps`: every step, and some step, of a history

A history is a list, and a statement about one of its steps is about the steps before it: for
`steps = pre ++ x :: post` it says `P pre x`. These are the rules for "at every step" and "at
some step" of a history that is extended at its front or at its end. With the first step moved
into `P`, the rest of a history is a history again.

`Since A B` combines the two: some step is an `A`, and no later step is a `B`.
-/

set_option autoImplicit false

namespace SparkGateway.Lib

variable {α : Type} (P : List α → α → Prop) (a : α) (steps : List α)

/-- The empty history has no step. -/
theorem nil_ne_split (pre : List α) (x : α) (post : List α) : [] ≠ pre ++ x :: post := by
  simp

/-- Some step of a history is its first one or one of the rest. -/
theorem exists_step_cons :
    (∃ pre x post, a :: steps = pre ++ x :: post ∧ P pre x) ↔
      P [] a ∨ ∃ pre x post, steps = pre ++ x :: post ∧ P (a :: pre) x := by
  constructor
  · rintro ⟨pre, x, post, hsplit, hP⟩
    cases pre with
    | nil =>
      cases hsplit
      exact .inl hP
    | cons y pre =>
      cases hsplit
      exact .inr ⟨pre, x, post, rfl, hP⟩
  · rintro (hP | ⟨pre, x, post, rfl, hP⟩)
    · exact ⟨[], a, steps, rfl, hP⟩
    · exact ⟨a :: pre, x, post, rfl, hP⟩

/-- Some step of a history is its last one or one before. -/
theorem exists_step_snoc :
    (∃ pre x post, steps ++ [a] = pre ++ x :: post ∧ P pre x) ↔
      (∃ pre x post, steps = pre ++ x :: post ∧ P pre x) ∨ P steps a := by
  constructor
  · rintro ⟨pre, x, post, hsplit, hP⟩
    induction post using List.reverseRecOn with
    | nil =>
      obtain ⟨rfl, hlast⟩ := List.append_inj' hsplit rfl
      cases hlast
      exact .inr hP
    | append_singleton post y _ =>
      rw [← List.cons_append, ← List.append_assoc] at hsplit
      exact .inl ⟨pre, x, post, (List.append_inj' hsplit rfl).1, hP⟩
  · rintro (⟨pre, x, post, rfl, hP⟩ | hP)
    · exact ⟨pre, x, post ++ [a], by simp, hP⟩
    · exact ⟨steps, a, [], rfl, hP⟩

/-- At every step is not at no step. -/
theorem forall_step_iff :
    (∀ pre x post, steps = pre ++ x :: post → P pre x) ↔
      ¬ ∃ pre x post, steps = pre ++ x :: post ∧ ¬ P pre x := by
  simp

/-- At every step: at the first one and at those of the rest. -/
theorem forall_step_cons :
    (∀ pre x post, a :: steps = pre ++ x :: post → P pre x) ↔
      P [] a ∧ ∀ pre x post, steps = pre ++ x :: post → P (a :: pre) x := by
  rw [forall_step_iff, exists_step_cons fun pre x => ¬ P pre x, not_or, not_not, ← forall_step_iff]

/-- At every step: at the last one and at those before. -/
theorem forall_step_snoc :
    (∀ pre x post, steps ++ [a] = pre ++ x :: post → P pre x) ↔
      (∀ pre x post, steps = pre ++ x :: post → P pre x) ∧ P steps a := by
  rw [forall_step_iff, exists_step_snoc fun pre x => ¬ P pre x, not_or, not_not, ← forall_step_iff]

/-- Some step of the history is an `A`, and no step after it is a `B`. -/
def Since (A B : List α → α → Prop) (steps : List α) : Prop :=
  ∃ pre x post, steps = pre ++ x :: post ∧ A pre x ∧
    ∀ mid y rest, post = mid ++ y :: rest → ¬ B (pre ++ x :: mid) y

section
variable {A B : List α → α → Prop}

/-- Nothing has happened in an empty run. -/
theorem not_since_nil : ¬ Since A B [] := by
  rintro ⟨pre, x, post, hsteps, -⟩
  exact nil_ne_split pre x post hsteps

/-- The last `A` is the last step, or it is one before and the last step is no `B`. -/
theorem since_snoc : Since A B (steps ++ [a]) ↔ A steps a ∨ (Since A B steps ∧ ¬ B steps a) := by
  constructor
  · rintro ⟨pre, x, post, hsteps, hA, hB⟩
    induction post using List.reverseRecOn with
    | nil =>
      obtain ⟨rfl, hlast⟩ := List.append_inj' hsteps rfl
      cases hlast
      exact .inl hA
    | append_singleton post y _ =>
      rw [← List.cons_append, ← List.append_assoc] at hsteps
      obtain ⟨rfl, hlast⟩ := List.append_inj' hsteps rfl
      cases hlast
      obtain ⟨hpost, hlast⟩ :=
        (forall_step_snoc (fun mid y => ¬ B (pre ++ x :: mid) y) a post).mp hB
      exact .inr ⟨⟨pre, x, post, rfl, hA, hpost⟩, hlast⟩
  · rintro (hA | ⟨⟨pre, x, post, rfl, hA, hB⟩, hlast⟩)
    · exact ⟨steps, a, [], rfl, hA, fun mid y rest hnil => absurd hnil (nil_ne_split mid y rest)⟩
    · refine ⟨pre, x, post ++ [a], by simp, hA, ?_⟩
      exact (forall_step_snoc (fun mid y => ¬ B (pre ++ x :: mid) y) a post).mpr ⟨hB, hlast⟩

/-- Whether `A` has happened since the last `B` can be decided step by step. -/
instance [∀ pre x, Decidable (A pre x)] [∀ pre x, Decidable (B pre x)] :
    DecidablePred (Since A B) := fun steps =>
  List.reverseRecOn steps (.isFalse not_since_nil)
    fun pre x _ => decidable_of_iff' _ (since_snoc x pre)

end

end SparkGateway.Lib

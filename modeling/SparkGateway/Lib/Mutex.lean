import SparkGateway.Lib.Interleave

/-!
# `SparkGateway.Lib.Mutex`: programs that share a lock

Programs whose shared state has a lock. `locked s` says that the lock is taken, `P` is an
invariant of the shared state, and `R` is what the others may do to the state while one program
holds the lock. `Guarded M locked R P Q p held s` is the discipline of one program:

* Without the lock it knows nothing of the state. Each of its commands moves the state along
  `R`, or takes the free lock.
* With the lock it stands in the state `s`, up to the steps along `R` that the others make. Each
  of its commands keeps `P`. It may return with the lock, in a state that satisfies `Q`.

`Run.guarding` says that the discipline is enough. If each program follows it at the start, then
after every run the lock has at most one holder, the holder still knows its state, and `P` holds.
`Run.alone` is the case of one program that always holds it.
The lock itself is part of the state and has no rule of its own: a command that takes it is one
that can only happen while it is free.
-/

set_option autoImplicit false

namespace SparkGateway.Lib

variable {S : Sig} {σ ι α : Type}

/-- The program keeps the discipline of the lock. It holds the lock if `held`, and then the state
is `s` up to steps along `R`. -/
def Guarded (M : Semantics S σ) (locked : σ → Bool) (R : σ → σ → Prop) (P : σ → Prop)
    (Q : α → σ → Prop) : Prog S α → Bool → σ → Prop
  | .ret _, false, _ => True
  | .ret a, true, s => ∀ s', R s s' → Q a s'
  | .step c k, false, _ => ∀ s r s', P s → M.cmd c s r s' →
      R s s' ∧ Guarded M locked R P Q (k r) false s' ∨
      locked s = false ∧ locked s' = true ∧ P s' ∧ Guarded M locked R P Q (k r) true s'
  | .step c k, true, s => ∀ s₁, R s s₁ → ∀ r s', M.cmd c s₁ r s' →
      P s' ∧ Guarded M locked R P Q (k r) (locked s') s'

section
variable {M : Semantics S σ} {locked : σ → Bool} {R : σ → σ → Prop} {P : σ → Prop}
  {Q : α → σ → Prop}

/-- A program without the lock does not depend on the state. -/
theorem Guarded.elsewhere {p : Prog S α} {s : σ} (h : Guarded M locked R P Q p false s) (s' : σ) :
    Guarded M locked R P Q p false s' := by
  cases p <;> exact h

/-- The others' steps along `R` keep the discipline. -/
theorem Guarded.stable (htrans : ∀ a b c, R a b → R b c → R a c) {p : Prog S α} {held : Bool}
    {s s' : σ} (h : Guarded M locked R P Q p held s) (hR : R s s') :
    Guarded M locked R P Q p held s' := by
  cases held with
  | false => exact h.elsewhere s'
  | true =>
    cases p with
    | ret a => intro s'' h'; exact h s'' (htrans _ _ _ hR h')
    | step c k => intro s'' h'; exact h s'' (htrans _ _ _ hR h')

/-- The rule for sequencing: the second part goes on without the lock, or with it where the first
part returns with it. -/
theorem Guarded.bind {β : Type} {Q' : β → σ → Prop} (hrefl : ∀ s, R s s) {p : Prog S α}
    {f : α → Prog S β} {held : Bool} {s : σ} (h : Guarded M locked R P Q p held s)
    (hfree : ∀ a s, Guarded M locked R P Q' (f a) false s)
    (hheld : ∀ a s, Q a s → Guarded M locked R P Q' (f a) true s) :
    Guarded M locked R P Q' (p >>= f) held s := by
  induction p generalizing held s with
  | ret a =>
    cases held with
    | false => exact hfree a s
    | true => exact hheld a s (h s (hrefl s))
  | step c k ih =>
    cases held with
    | false =>
      -- Without the lock a step stays beside it or takes it; the rest is as far in either case.
      intro s r s' hP hcmd
      rcases h s r s' hP hcmd with ⟨hR, hk⟩ | ⟨hfree', htaken, hP', hk⟩
      · exact .inl ⟨hR, ih r hk⟩
      · exact .inr ⟨hfree', htaken, hP', ih r hk⟩
    | true =>
      intro s₁ hs₁ r s' hcmd
      obtain ⟨hP', hk⟩ := h s₁ hs₁ r s' hcmd
      exact ⟨hP', ih r hk⟩

/-- Each program keeps the discipline, the invariant holds, and the lock is taken exactly if it
has a holder. -/
structure Guarding [DecidableEq ι] (M : Semantics S σ) (locked : σ → Bool) (R : σ → σ → Prop)
    (P : σ → Prop) (Q : α → σ → Prop) (c : Config S σ ι α) (holder : Option ι) : Prop where
  inv : P c.shared
  taken : locked c.shared = holder.isSome
  thread : ∀ i, Guarded M locked R P Q (c.thread i) (decide (holder = some i)) c.shared

/-- What a step along `R` has to keep. -/
structure Relies (M : Semantics S σ) (locked : σ → Bool) (R : σ → σ → Prop) (P : σ → Prop) :
    Prop where
  refl : ∀ s, R s s
  trans : ∀ a b c, R a b → R b c → R a c
  env : ∀ s s', M.env s s' → R s s'
  taken : ∀ s s', R s s' → locked s' = locked s
  inv : ∀ s s', R s s' → P s → P s'

variable [DecidableEq ι] {c c' : Config S σ ι α} {rec : Record S σ ι} {holder : Option ι}

/-- A step along `R` that leaves the programs alone. -/
theorem Guarding.rely (hR : Relies M locked R P) {s' : σ}
    (h : Guarding M locked R P Q c holder) (hs : R c.shared s') :
    Guarding M locked R P Q ⟨s', c.thread⟩ holder where
  inv := hR.inv _ _ hs h.inv
  taken := (hR.taken _ _ hs).trans h.taken
  thread i := (h.thread i).stable hR.trans hs

/-- One program has moved on. -/
theorem Guarding.update {s' : σ} {i : ι} {p : Prog S α} (hinv : P s')
    (htaken : locked s' = holder.isSome)
    (hi : Guarded M locked R P Q p (decide (holder = some i)) s')
    (hrest : ∀ j, j ≠ i → Guarded M locked R P Q (c.thread j) (decide (holder = some j)) s') :
    Guarding M locked R P Q ⟨s', Function.update c.thread i p⟩ holder where
  inv := hinv
  taken := htaken
  thread j := by
    show Guarded M locked R P Q (Function.update c.thread i p j) (decide (holder = some j)) s'
    by_cases hj : j = i
    · subst hj
      rw [Function.update_self]
      exact hi
    · rw [Function.update_of_ne hj]
      exact hrest j hj

/-- One step keeps the discipline, with a holder that may have changed. -/
theorem Step.guarding (hR : Relies M locked R P) (h : Guarding M locked R P Q c holder)
    (hstep : Step M c rec c') : ∃ holder', Guarding M locked R P Q c' holder' := by
  cases hstep with
  | @cmd i cmd k r s' hth hcmd =>
    have hi := h.thread i
    rw [hth] at hi
    by_cases hholder : holder = some i
    · -- The holder moves. It may release the lock, and the others do not have it.
      rw [decide_eq_true hholder] at hi
      obtain ⟨hinv, hnext⟩ := hi c.shared (hR.refl _) r s' hcmd
      have hrest : ∀ j, j ≠ i → Guarded M locked R P Q (c.thread j) false s' := by
        intro j hj
        have hj' := h.thread j
        rw [hholder, decide_eq_false fun heq => hj (Option.some.inj heq).symm] at hj'
        exact hj'.elsewhere s'
      cases htaken : locked s' with
      | true =>
        rw [htaken] at hnext
        refine ⟨some i, .update hinv htaken ?_ fun j hj => ?_⟩
        · rw [decide_eq_true rfl]
          exact hnext
        · rw [decide_eq_false fun heq => hj (Option.some.inj heq).symm]
          exact hrest j hj
      | false =>
        rw [htaken] at hnext
        exact ⟨none, .update hinv htaken hnext fun j hj => hrest j hj⟩
    · rw [decide_eq_false hholder] at hi
      rcases hi c.shared r s' h.inv hcmd with ⟨hs, hnext⟩ | ⟨hfree, htaken, hinv, hnext⟩
      · -- A step beside the lock.
        have hrel := h.rely hR hs
        refine ⟨holder, .update hrel.inv hrel.taken ?_ fun j _ => hrel.thread j⟩
        rw [decide_eq_false hholder]
        exact hnext
      · -- The lock was free, so it had no holder.
        obtain rfl : holder = none := by
          have hnone := h.taken
          rw [hfree] at hnone
          simpa using hnone.symm
        refine ⟨some i, .update hinv htaken ?_ fun j hj => ?_⟩
        · rw [decide_eq_true rfl]
          exact hnext
        · rw [decide_eq_false fun heq => hj (Option.some.inj heq).symm]
          exact (h.thread j).elsewhere s'
  | env henv => exact ⟨holder, h.rely hR (hR.env _ _ henv)⟩

/-- **The lock protects.** The discipline is kept by every run. -/
theorem Run.guarding (hR : Relies M locked R P) {t : List (Record S σ ι)}
    (h : Guarding M locked R P Q c holder) (hrun : Run M c t c') :
    ∃ holder', Guarding M locked R P Q c' holder' := by
  induction hrun with
  | nil => exact ⟨holder, h⟩
  | snoc _ hstep ih =>
    obtain ⟨holder', h'⟩ := ih
    exact hstep.guarding hR h'

/-- A program that has the state for itself returns as it is guarded to. -/
theorem Run.alone (hR : Relies M (fun _ => true) R fun _ => True) {p : Prog S α} {s : σ} {a : α}
    {t : List (Record S σ Unit)} {c : Config S σ Unit α}
    (h : Guarded M (fun _ => true) R (fun _ => True) Q p true s)
    (hrun : Run M ⟨s, fun _ => p⟩ t c) (hret : c.thread () = .ret a) : Q a c.shared := by
  have hstart : Guarding M (fun _ => true) R (fun _ => True) Q ⟨s, fun _ : Unit => p⟩ (some ()) :=
    ⟨trivial, rfl, fun _ => h⟩
  obtain ⟨holder, hend⟩ := hrun.guarding hR hstart
  obtain ⟨⟨⟩, rfl⟩ := Option.isSome_iff_exists.mp hend.taken.symm
  have hdone := hend.thread ()
  rw [hret] at hdone
  exact hdone c.shared (hR.refl _)

end

end SparkGateway.Lib

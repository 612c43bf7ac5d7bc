import Mathlib.Data.Nat.Notation
import Mathlib.Logic.Basic

/-!
# `SparkGateway.Lib.Loop`: loops without a bound of their own

The body of a loop returns a result, or goes on from another state. `loop` runs it for a number
of iterations and has no result if it has not returned by then.

`loop_total` is the rule of total correctness: with an invariant and a variant that every iteration
lowers, the loop returns, and what it returns has what the body promises there. The result does not
depend on the fuel, once there is more of it than the variant says.
-/

set_option autoImplicit false

namespace SparkGateway.Lib

variable {β σ : Type}

/-- At most `fuel` iterations of the body. -/
def loop (body : σ → β ⊕ σ) : ℕ → σ → Option β
  | 0, _ => none
  | fuel + 1, s =>
    match body s with
    | .inl result => some result
    | .inr next => loop body fuel next

/-- A body that returns ends the loop with its result. -/
theorem loop_return {body : σ → β ⊕ σ} {s : σ} {result : β} (h : body s = .inl result)
    (fuel : ℕ) : loop body (fuel + 1) s = some result := by
  simp only [loop, h]

/-- A body that goes on leaves the rest of the fuel to the next state. -/
theorem loop_next {body : σ → β ⊕ σ} {s next : σ} (h : body s = .inr next) (fuel : ℕ) :
    loop body (fuel + 1) s = loop body fuel next := by
  simp only [loop, h]

/-- **Total correctness of a loop.** If the body keeps `I` and lowers the variant whenever it goes
on, and returns only what satisfies `Q`, the loop returns such a result with any fuel above the
variant. -/
theorem loop_total {body : σ → β ⊕ σ} (I : σ → Prop) (Q : β → Prop) (variant : σ → ℕ)
    (hreturn : ∀ s result, I s → body s = .inl result → Q result)
    (hnext : ∀ s next, I s → body s = .inr next → I next ∧ variant next < variant s)
    (s : σ) (hs : I s) :
    ∃ result, Q result ∧ ∀ fuel, variant s < fuel → loop body fuel s = some result := by
  -- The variant of the state is below some number; induction on that number.
  have hbelow : ∀ bound s, I s → variant s < bound →
      ∃ result, Q result ∧ ∀ fuel, variant s < fuel → loop body fuel s = some result := by
    intro bound
    induction bound with
    | zero => intro s _ hlt; omega
    | succ bound ih =>
      intro s hs hlt
      cases hbody : body s with
      | inl result =>
        refine ⟨result, hreturn s result hs hbody, ?_⟩
        intro fuel hfuel
        cases fuel with
        | zero => omega
        | succ fuel => exact loop_return hbody fuel
      | inr next =>
        obtain ⟨hI, hvariant⟩ := hnext s next hs hbody
        obtain ⟨result, hQ, hloop⟩ := ih next hI (by omega)
        refine ⟨result, hQ, ?_⟩
        intro fuel hfuel
        cases fuel with
        | zero => omega
        | succ fuel =>
          rw [loop_next hbody]
          exact hloop fuel (by omega)
  exact hbelow (variant s + 1) s hs (by omega)

end SparkGateway.Lib

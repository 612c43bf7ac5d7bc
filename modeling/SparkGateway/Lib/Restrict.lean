import Mathlib.Data.Set.Basic
import SparkGateway.Lib.Interleave

/-!
# `SparkGateway.Lib.Restrict`: a run without some of its programs

The shared state consists of cells, and a `Footprint` says which of them a command touches. Two
states are compared cell by cell (`Agree`). A command does the same on two states that agree on
its cells, and it leaves the other cells as they are. What is not in a cell, such as a clock, is
compared by `Behind`.

`Run.restrict` deletes programs from a run. Let `V` be a set of cells such that the programs of
`keep` stay within `V` and the other ones outside of it. Then the programs of `keep` have a run of
their own, in which each of them performs the same commands with the same replies and ends in the
same place. The shared state at its end agrees on `V` with that of the whole run.
-/

set_option autoImplicit false

namespace SparkGateway.Lib

variable {S : Sig} {σ ι α κ : Type}

/-- The cells `κ` of a state, and how the commands of `M` and its environment use them. -/
structure Footprint (M : Semantics S σ) (κ : Type) where
  cells : S.Cmd → Set κ
  Agree : κ → σ → σ → Prop
  /-- How the rest of two states compares: the second one is behind the first one. -/
  Behind : σ → σ → Prop
  /-- A command can do the same in a state that agrees on its cells, with what agreed before it
  agreeing after it. -/
  follow : ∀ {c s r s' u}, M.cmd c s r s' → Behind s u → (∀ k ∈ cells c, Agree k s u) →
    ∃ u', M.cmd c u r u' ∧ Behind s' u' ∧ ∀ k, Agree k s u → Agree k s' u'
  /-- A command leaves the cells alone that it does not touch. -/
  frame : ∀ {c s r s' u}, M.cmd c s r s' → Behind s u →
    Behind s' u ∧ ∀ k, k ∉ cells c → Agree k s u → Agree k s' u
  /-- A step of the environment can be followed, or passed over. -/
  followEnv : ∀ {s s' u}, M.env s s' → Behind s u →
    ∃ u', (u' = u ∨ M.env u u') ∧ Behind s' u' ∧ ∀ k, Agree k s u → Agree k s' u'

/-- Who performed what, in order. -/
def actions (t : List (Record S σ ι)) : List (ι × Event S) := t.filterMap (·.actor)

@[simp] theorem actions_append (t t' : List (Record S σ ι)) :
    actions (t ++ t') = actions t ++ actions t' := List.filterMap_append

/-- A thread's step is its action. -/
@[simp] theorem actions_cmd (i : ι) (e : Event S) (s s' : σ) :
    actions [(⟨some (i, e), s, s'⟩ : Record S σ ι)] = [(i, e)] := rfl

/-- The environment's step is no action. -/
@[simp] theorem actions_env (s s' : σ) :
    actions [(⟨none, s, s'⟩ : Record S σ ι)] = [] := rfl

namespace Footprint

variable {M : Semantics S σ} (F : Footprint M κ)

/-- The second state is a view of the first one, on the cells of `V`. -/
structure View (V : Set κ) (s u : σ) : Prop where
  behind : F.Behind s u
  agree : ∀ k ∈ V, F.Agree k s u

variable {F} {V : Set κ} {c : S.Cmd} {r : S.Reply c} {s s' u : σ}

/-- A command within `V` can be made in the view as well. -/
theorem View.follow (h : F.View V s u) (hcmd : M.cmd c s r s') (hV : F.cells c ⊆ V) :
    ∃ u', M.cmd c u r u' ∧ F.View V s' u' := by
  obtain ⟨u', hcmd', hbehind, hagree⟩ := F.follow hcmd h.behind fun k hk => h.agree k (hV hk)
  exact ⟨u', hcmd', hbehind, fun k hk => hagree k (h.agree k hk)⟩

/-- A command outside of `V` is not seen in the view. -/
theorem View.skip (h : F.View V s u) (hcmd : M.cmd c s r s') (hV : ∀ k ∈ F.cells c, k ∉ V) :
    F.View V s' u := by
  obtain ⟨hbehind, hagree⟩ := F.frame hcmd h.behind
  exact ⟨hbehind, fun k hk => hagree k (fun hcell => hV k hcell hk) (h.agree k hk)⟩

end Footprint

section
variable [DecidableEq ι] {M : Semantics S σ} {c c' : Config S σ ι α} {t : List (Record S σ ι)}

/-- **A run without some of its programs.** If the kept programs stay within the view `V` and the
others out of it, the kept ones take the same steps with the same replies in a run of their own,
from any state with this view, and the view is the same at its end. -/
theorem Run.restrict (F : Footprint M κ) {V : Set κ} {keep : ι → Bool} {u : σ}
    (h : Run M c t c') (hview : F.View V c.shared u)
    (hkeep : ∀ i e, (i, e) ∈ actions t → keep i = true → F.cells e.1 ⊆ V)
    (hdrop : ∀ i e, (i, e) ∈ actions t → keep i = false → ∀ k ∈ F.cells e.1, k ∉ V) :
    ∃ t' d, Run M ⟨u, c.thread⟩ t' d ∧ actions t' = (actions t).filter (fun a => keep a.1) ∧
      F.View V c'.shared d.shared ∧
      ∀ i, d.thread i = if keep i then c'.thread i else c.thread i := by
  induction h with
  | nil => exact ⟨[], ⟨u, c.thread⟩, .nil, rfl, hview, fun i => by simp⟩
  | @snoc t c₁ rec c₂ _ hstep ih =>
    obtain ⟨t', d, hrun, hacts, hview', hthread⟩ := ih
      (fun i e he => hkeep i e (by simp [he])) (fun i e he => hdrop i e (by simp [he]))
    cases hstep with
    | @cmd i cmd k r s' hth hcmd =>
      have hmem : (i, (⟨cmd, r⟩ : Event S)) ∈
          actions (t ++ [⟨some (i, ⟨cmd, r⟩), c₁.shared, s'⟩]) := by simp
      cases hi : keep i with
      | true =>
        -- The step is made in the view as well.
        obtain ⟨u', hcmd', hview''⟩ := hview'.follow hcmd (hkeep i _ hmem hi)
        have hthd : d.thread i = .step cmd k := by rw [hthread i, hi, if_pos rfl, hth]
        refine ⟨_, _, hrun.snoc (.cmd hthd hcmd'), ?_, hview'', fun j => ?_⟩
        · simp [hacts, hi]
        · by_cases hj : j = i
          · subst hj
            simp [hi]
          · simp [Function.update_of_ne hj, hthread j]
      | false =>
        refine ⟨t', d, hrun, ?_, hview'.skip hcmd (hdrop i _ hmem hi), fun j => ?_⟩
        · simp [hacts, hi]
        · by_cases hj : j = i
          · subst hj
            simp [hthread j, hi]
          · simp [Function.update_of_ne hj, hthread j]
    | @env s' henv =>
      obtain ⟨u', hmove, hbehind, hagree⟩ := F.followEnv henv hview'.behind
      have hview'' : F.View V s' u' := ⟨hbehind, fun k hk => hagree k (hview'.agree k hk)⟩
      rcases hmove with rfl | henv'
      · exact ⟨t', d, hrun, by simp [hacts], hview'', hthread⟩
      · exact ⟨_, _, hrun.snoc (.env henv'), by simp [hacts], hview'', hthread⟩

end

end SparkGateway.Lib

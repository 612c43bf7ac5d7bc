import Mathlib.Data.Set.Card
import SparkGateway.Lib.Interleave

/-!
# `SparkGateway.Lib.Tally`: a bound on the programs with a step of some kind

`actors p t` are the programs of a run that have taken a step of the kind `p`. To bound their number
by something that the shared state holds, it is enough to look at one step: `W t n s` says that the
state `s` after the records `t` allows for `n` such steps, and each step keeps it, with one more if
the step is of the kind (`Run.tally`). A program that takes two steps of the kind is counted once.
-/

set_option autoImplicit false

namespace SparkGateway.Lib

variable {S : Sig} {σ ι α : Type}

/-- The programs with a step of the kind. -/
def actors (p : Record S σ ι → Prop) (t : List (Record S σ ι)) : Set ι :=
  { i | ∃ rec ∈ t, p rec ∧ ∃ e, rec.actor = some (i, e) }

section
variable {p : Record S σ ι → Prop} {t : List (Record S σ ι)} {rec : Record S σ ι}

/-- The empty run has no actors. -/
theorem actors_nil : actors p [] = ∅ := by
  ext i
  simp [actors]

theorem actors_append (t t' : List (Record S σ ι)) :
    actors p (t ++ t') = actors p t ∪ actors p t' := by
  ext i
  simp [actors, or_and_right, exists_or]

/-- A step of another kind. -/
theorem actors_of_not (h : ¬ p rec) : actors p [rec] = ∅ := by
  ext i
  simp [actors, h]

/-- A step has at most one actor. -/
theorem actors_subsingleton (p : Record S σ ι → Prop) (rec : Record S σ ι) :
    (actors p [rec]).Subsingleton := by
  rintro i ⟨_, hi, -, e, hact⟩ j ⟨_, hj, -, e', hact'⟩
  rw [List.mem_singleton.mp hi] at hact
  rw [List.mem_singleton.mp hj, hact] at hact'
  exact (Prod.mk.inj (Option.some.inj hact')).1

/-- A run has finitely many actors. -/
theorem finite_actors (p : Record S σ ι → Prop) (t : List (Record S σ ι)) :
    (actors p t).Finite := by
  induction t with
  | nil =>
    rw [actors_nil]
    exact Set.finite_empty
  | cons rec t ih =>
    rw [← List.singleton_append, actors_append]
    exact (actors_subsingleton p rec).finite.union ih

/-- One more step, and at most one more program. -/
theorem ncard_actors_snoc (p : Record S σ ι → Prop) (t : List (Record S σ ι))
    (rec : Record S σ ι) : (actors p (t ++ [rec])).ncard ≤ (actors p t).ncard + 1 := by
  rw [actors_append]
  have hone : (actors p [rec]).ncard ≤ 1 := by
    rcases (actors_subsingleton p rec).eq_empty_or_singleton with h | ⟨i, h⟩
    · simp [h]
    · simp [h]
  have hunion := Set.ncard_union_le (actors p t) (actors p [rec])
  omega

end

/-- **The bound along a run.** If a step keeps `W` for a count, and keeps it for one more when `p`
holds of the step, `W` holds of the number of programs with such a step. -/
theorem Run.tally [DecidableEq ι] {M : Semantics S σ} {c c' : Config S σ ι α}
    {t : List (Record S σ ι)} (h : Run M c t c') {p : Record S σ ι → Prop}
    {W : List (Record S σ ι) → ℕ → σ → Prop} (hstart : W [] 0 c.shared)
    (hanti : ∀ t₁ n m s, m ≤ n → W t₁ n s → W t₁ m s)
    (hstep : ∀ t₁ rec c₁ c₂ n, Run M c t₁ c₁ → Step M c₁ rec c₂ → t₁ ++ [rec] <+: t →
      W t₁ n c₁.shared → W (t₁ ++ [rec]) n c₂.shared ∧
        (p rec → W (t₁ ++ [rec]) (n + 1) c₂.shared)) :
    W t (actors p t).ncard c'.shared := by
  induction h with
  | nil =>
    rw [actors_nil, Set.ncard_empty]
    exact hstart
  | @snoc t c₁ rec c₂ hrun hlast ih =>
    have hprev := ih fun t₁ rec' c₃ c₄ n hrun' hstep' hpre =>
      hstep t₁ rec' c₃ c₄ n hrun' hstep' (hpre.trans (List.prefix_append _ _))
    obtain ⟨hsame, hmore⟩ := hstep t rec c₁ c₂ _ hrun hlast (List.prefix_refl _) hprev
    by_cases hp : p rec
    · -- The step may be of a program that was counted before, so the count is at most one more.
      exact hanti _ _ _ _ (ncard_actors_snoc p t rec) (hmore hp)
    · rw [actors_append, actors_of_not hp, Set.union_empty]
      exact hsame

end SparkGateway.Lib

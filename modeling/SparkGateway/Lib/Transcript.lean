import Mathlib.Data.Nat.Notation
import Mathlib.Logic.Basic

/-!
# `SparkGateway.Lib.Transcript`: sequences of calls on a state

`transcript step cs s` runs the calls `cs` one after another from the state `s` and lists
each call with its reply. `final step cs s` is the state it ends in.

`purge_of_sim` is the rule for deleting calls: when some calls can be dropped without
being noticed, in the sense of a relation `R` between the state with them and the state
without them, then the remaining calls get the same replies in the run without them.

`transcript_eq_of_sim` is the rule for two implementations of the same calls. The relation
between their states need only survive the calls that meet a condition, and `Along` says that
every call of a run meets it in the state in which it is made.
-/

set_option autoImplicit false

namespace SparkGateway.Lib

variable {γ ρ σ : Type}

/-- Each call with its reply, in order. -/
def transcript (step : γ → σ → ρ × σ) : List γ → σ → List (γ × ρ)
  | [], _ => []
  | c :: cs, s => (c, (step c s).1) :: transcript step cs (step c s).2

/-- The state after the calls. -/
def final (step : γ → σ → ρ × σ) (cs : List γ) (s : σ) : σ :=
  cs.foldl (fun s c => (step c s).2) s

/-- The state after two blocks is that of the second from the state of the first. -/
theorem final_append (step : γ → σ → ρ × σ) (cs cs' : List γ) (s : σ) :
    final step (cs ++ cs') s = final step cs' (final step cs s) := List.foldl_append

/-- The transcript of two blocks, the second from the state that the first leaves. -/
theorem transcript_append (step : γ → σ → ρ × σ) (cs cs' : List γ) (s : σ) :
    transcript step (cs ++ cs') s
      = transcript step cs s ++ transcript step cs' (final step cs s) := by
  induction cs generalizing s with
  | nil => rfl
  | cons c cs ih => exact congrArg (_ :: ·) (ih _)

/-- The first `i` entries of a transcript are the transcript of the first `i` calls. -/
theorem take_transcript (step : γ → σ → ρ × σ) (cs : List γ) (s : σ) (i : ℕ) :
    (transcript step cs s).take i = transcript step (cs.take i) s := by
  induction cs generalizing s i with
  | nil => simp [transcript]
  | cons c cs ih =>
    cases i with
    | zero => rfl
    | succ i => exact congrArg (_ :: ·) (ih _ i)

/-- The reply to the call at position `i`: the calls before it make the state it is made in. -/
theorem getElem?_transcript (step : γ → σ → ρ × σ) (cs : List γ) (s : σ) (i : ℕ)
    (hi : i < cs.length) :
    (transcript step cs s)[i]? = some (cs[i], (step cs[i] (final step (cs.take i) s)).1) := by
  induction cs generalizing s i with
  | nil => cases hi
  | cons c cs ih =>
    cases i with
    | zero => rfl
    | succ i => exact ih _ i (Nat.lt_of_succ_lt_succ hi)

/-- A transcript lists the calls in order. -/
theorem map_fst_transcript (step : γ → σ → ρ × σ) (cs : List γ) (s : σ) :
    (transcript step cs s).map Prod.fst = cs := by
  induction cs generalizing s with
  | nil => rfl
  | cons c cs ih => exact congrArg (c :: ·) (ih _)

/-- Delete from a run the calls that `drop` selects by the call and its reply: the calls
that stay get the same replies, if a simulation `R` survives both a kept call made on both
sides and a dropped call made on one side only. The calls that come later enter `R`, so it
can say that they are still to come. -/
theorem purge_of_sim {step : γ → σ → ρ × σ} {drop : γ → ρ → Bool}
    (R : List γ → σ → σ → Prop)
    (hkeep : ∀ c cs s s', R (c :: cs) s s' → drop c (step c s).1 = false →
      (step c s').1 = (step c s).1 ∧ R cs (step c s).2 (step c s').2)
    (hdrop : ∀ c cs s s', R (c :: cs) s s' → drop c (step c s).1 = true → R cs (step c s).2 s') :
    ∀ (cs : List γ) (s s' : σ), R cs s s' →
      transcript step (((transcript step cs s).filter fun e => !drop e.1 e.2).map Prod.fst) s'
        = (transcript step cs s).filter fun e => !drop e.1 e.2 := by
  intro cs
  induction cs with
  | nil => intro s s' _; rfl
  | cons c cs ih =>
    intro s s' hR
    cases hd : drop c (step c s).1 with
    | false =>
      -- Made on both sides: the replies agree, and the rest is the induction hypothesis.
      obtain ⟨hreply, hR'⟩ := hkeep c cs s s' hR hd
      simp only [transcript, hd, List.filter_cons, Bool.not_false, if_true, List.map_cons]
      rw [hreply, ih _ _ hR']
    | true =>
      -- Made on one side: the run without it has not moved.
      simp only [transcript, hd, List.filter_cons, Bool.not_true, Bool.false_eq_true, if_false]
      exact ih _ _ (hdrop c cs s s' hR hd)

/-- The calls of a run that a test on the call selects. -/
theorem map_fst_filter_transcript (step : γ → σ → ρ × σ) (keep : γ → Bool) :
    ∀ (cs : List γ) (s : σ),
      ((transcript step cs s).filter fun e => keep e.1).map Prod.fst = cs.filter keep := by
  intro cs
  induction cs with
  | nil => intro s; rfl
  | cons c cs ih =>
    intro s
    simp only [transcript, List.filter_cons]
    cases keep c with
    | true => exact congrArg (c :: ·) (ih _)
    | false => exact ih _

/-- `purge_of_sim` for calls that are deleted whatever their reply is. -/
theorem purge_calls_of_sim {step : γ → σ → ρ × σ} {keep : γ → Bool}
    (R : List γ → σ → σ → Prop)
    (hkeep : ∀ c cs s s', R (c :: cs) s s' → keep c = true →
      (step c s').1 = (step c s).1 ∧ R cs (step c s).2 (step c s').2)
    (hdrop : ∀ c cs s s', R (c :: cs) s s' → keep c = false → R cs (step c s).2 s')
    (cs : List γ) (s s' : σ) (hR : R cs s s') :
    transcript step (cs.filter keep) s' = (transcript step cs s).filter fun e => keep e.1 := by
  have hpurge := @purge_of_sim γ ρ σ step (fun c _ => !keep c) R
    (fun c cs s s' hR hc => hkeep c cs s s' hR (by simpa using hc))
    (fun c cs s s' hR hc => hdrop c cs s s' hR (by simpa using hc)) cs s s' hR
  simp only [Bool.not_not] at hpurge
  rwa [map_fst_filter_transcript] at hpurge

/-! ### Two implementations of the same calls -/

/-- Every call of the run meets the condition in the state in which it is made. -/
def Along (step : γ → σ → ρ × σ) (P : γ → σ → Prop) : List γ → σ → Prop
  | [], _ => True
  | c :: cs, s => P c s ∧ Along step P cs (step c s).2

/-- Two implementations give the same replies along a run whose calls all meet a condition, if
a relation between their states survives the calls that meet it. -/
theorem transcript_eq_of_sim {τ : Type} {step : γ → σ → ρ × σ} {step' : γ → τ → ρ × τ}
    {P : γ → σ → Prop} (R : σ → τ → Prop)
    (hstep : ∀ c s s', R s s' → P c s →
      (step' c s').1 = (step c s).1 ∧ R (step c s).2 (step' c s').2) :
    ∀ (cs : List γ) (s : σ) (s' : τ), R s s' → Along step P cs s →
      transcript step' cs s' = transcript step cs s := by
  intro cs
  induction cs with
  | nil => intro s s' _ _; rfl
  | cons c cs ih =>
    intro s s' hR halong
    obtain ⟨hc, hrest⟩ := halong
    obtain ⟨hreply, hR'⟩ := hstep c s s' hR hc
    show (c, (step' c s').1) :: transcript step' cs (step' c s').2
      = (c, (step c s).1) :: transcript step cs (step c s).2
    rw [hreply, ih _ _ hR' hrest]

end SparkGateway.Lib

import SparkGateway.Lib.Interleave

/-!
# `SparkGateway.Lib.Schedule`: runs that can be computed

A `Run` says that steps can happen. `schedule` makes them happen: given who moves when, and a
handler for each program that answers its commands, it computes the records and the last
configuration. `schedule_run` says that this is a run, if the handlers answer as the semantics
allows. So a concrete interleaving is given by a list of turns. Where a command is not always
possible, as with a lock, the turns have to fit (`Permitted`).

A run can also be put together step by step: `Reaches M c P` says that some run from `c` leads to a
configuration with `P`, and `Reaches.cmd` and `Reaches.env` make its first step. `Through M Q c P`
is the same for a run whose steps all satisfy `Q`.
-/

set_option autoImplicit false

namespace SparkGateway.Lib

variable {S : Sig} {σ ι α : Type} [DecidableEq ι]

/-- Let each program of the list perform its next command, one after another. A program that has
returned passes its turn. -/
def schedule (h : ι → Handler S σ) : List ι → Config S σ ι α →
    List (Record S σ ι) × Config S σ ι α
  | [], c => ([], c)
  | i :: turns, c =>
      match c.thread i with
      | .ret _ => schedule h turns c
      | .step cmd k =>
          let r := h i cmd c.shared
          let rest := schedule h turns ⟨r.2, Function.update c.thread i (k r.1)⟩
          (⟨some (i, ⟨cmd, r.1⟩), c.shared, r.2⟩ :: rest.1, rest.2)

/-- A run with one more step at its beginning. -/
theorem Run.cons {M : Semantics S σ} {c c₁ c' : Config S σ ι α} {rec : Record S σ ι}
    {t : List (Record S σ ι)} (hstep : Step M c rec c₁) (h : Run M c₁ t c') :
    Run M c (rec :: t) c' :=
  run_append_iff.mpr ⟨c₁, Run.nil.snoc hstep, h⟩

/-- Some run leads to a configuration that satisfies `P`. -/
def Reaches (M : Semantics S σ) (c : Config S σ ι α) (P : Config S σ ι α → Prop) : Prop :=
  ∃ t c', Run M c t c' ∧ P c'

namespace Reaches

variable {M : Semantics S σ} {c : Config S σ ι α} {P : Config S σ ι α → Prop}

/-- A configuration that satisfies `P` is reached by no step. -/
theorem here (h : P c) : Reaches M c P := ⟨[], c, .nil, h⟩

/-- One program performs its next command. -/
theorem cmd {s' : σ} (i : ι) {k : S.Cmd} {f : S.Reply k → Prog S α}
    (hth : c.thread i = .step k f) (r : S.Reply k) (hcmd : M.cmd k c.shared r s')
    (h : Reaches M ⟨s', Function.update c.thread i (f r)⟩ P) : Reaches M c P := by
  obtain ⟨t, c', hrun, hP⟩ := h
  exact ⟨_, c', Run.cons (.cmd hth hcmd) hrun, hP⟩

/-- The environment moves. -/
theorem env {s' : σ} (henv : M.env c.shared s') (h : Reaches M ⟨s', c.thread⟩ P) :
    Reaches M c P := by
  obtain ⟨t, c', hrun, hP⟩ := h
  exact ⟨_, c', Run.cons (.env henv) hrun, hP⟩

end Reaches

/-- Some run whose steps all satisfy `Q` leads to a configuration that satisfies `P`. -/
def Through (M : Semantics S σ) (Q : Record S σ ι → Prop) (c : Config S σ ι α)
    (P : Config S σ ι α → Prop) : Prop :=
  ∃ t c', Run M c t c' ∧ (∀ rec ∈ t, Q rec) ∧ P c'

namespace Through

variable {M : Semantics S σ} {Q : Record S σ ι → Prop} {c : Config S σ ι α}
  {P : Config S σ ι α → Prop}

/-- A configuration that satisfies `P` is reached by no step, so by steps that all satisfy `Q`. -/
theorem here (h : P c) : Through M Q c P := ⟨[], c, .nil, by simp, h⟩

/-- One program performs its next command. -/
theorem cmd {s' : σ} (i : ι) {k : S.Cmd} {f : S.Reply k → Prog S α}
    (hth : c.thread i = .step k f) (r : S.Reply k) (hcmd : M.cmd k c.shared r s')
    (hQ : Q ⟨some (i, ⟨k, r⟩), c.shared, s'⟩)
    (h : Through M Q ⟨s', Function.update c.thread i (f r)⟩ P) : Through M Q c P := by
  obtain ⟨t, c', hrun, hall, hP⟩ := h
  exact ⟨_, c', Run.cons (.cmd hth hcmd) hrun, List.forall_mem_cons.mpr ⟨hQ, hall⟩, hP⟩

/-- The environment moves. -/
theorem env {s' : σ} (henv : M.env c.shared s') (hQ : Q ⟨none, c.shared, s'⟩)
    (h : Through M Q ⟨s', c.thread⟩ P) : Through M Q c P := by
  obtain ⟨t, c', hrun, hall, hP⟩ := h
  exact ⟨_, c', Run.cons (.env henv) hrun, List.forall_mem_cons.mpr ⟨hQ, hall⟩, hP⟩

end Through

/-- In a schedule the handlers give the replies. -/
theorem schedule_reply {h : ι → Handler S σ} {turns : List ι} {c : Config S σ ι α}
    {rec : Record S σ ι} {i : ι} {e : Event S} (hrec : rec ∈ (schedule h turns c).1)
    (hact : rec.actor = some (i, e)) : e.2 = (h i e.1 rec.pre).1 := by
  induction turns generalizing c with
  | nil => cases hrec
  | cons j turns ih =>
    unfold schedule at hrec
    split at hrec
    · exact ih hrec
    · rcases List.mem_cons.mp hrec with rfl | hrest
      · obtain ⟨rfl, rfl⟩ := Prod.mk.inj (Option.some.inj hact)
        rfl
      · exact ih hrest

/-- The semantics allows every answer that is given in the schedule. -/
def Permitted (M : Semantics S σ) (h : ι → Handler S σ) : List ι → Config S σ ι α → Prop
  | [], _ => True
  | i :: turns, c =>
      match c.thread i with
      | .ret _ => Permitted M h turns c
      | .step cmd k =>
          let r := h i cmd c.shared
          M.cmd cmd c.shared r.1 r.2 ∧
            Permitted M h turns ⟨r.2, Function.update c.thread i (k r.1)⟩

/-- A schedule whose answers are allowed is a run. -/
theorem schedule_run_of_permitted {M : Semantics S σ} {h : ι → Handler S σ} :
    ∀ (turns : List ι) (c : Config S σ ι α), Permitted M h turns c →
      Run M c (schedule h turns c).1 (schedule h turns c).2 := by
  intro turns
  induction turns with
  | nil => exact fun c _ => .nil
  | cons i turns ih =>
    intro c hc
    unfold schedule
    unfold Permitted at hc
    cases hth : c.thread i with
    | ret a =>
      rw [hth] at hc
      exact ih c hc
    | step cmd k =>
      rw [hth] at hc
      exact Run.cons (.cmd hth hc.1) (ih _ hc.2)

/-- A schedule is a run, if the handlers only give answers that are allowed. -/
theorem schedule_run {M : Semantics S σ} {h : ι → Handler S σ}
    (hM : ∀ i cmd s, M.cmd cmd s (h i cmd s).1 (h i cmd s).2) (turns : List ι)
    (c : Config S σ ι α) : Run M c (schedule h turns c).1 (schedule h turns c).2 := by
  refine schedule_run_of_permitted turns c ?_
  induction turns generalizing c with
  | nil => trivial
  | cons i turns ih =>
    unfold Permitted
    split
    · exact ih c
    · exact ⟨hM i _ c.shared, ih _⟩

end SparkGateway.Lib

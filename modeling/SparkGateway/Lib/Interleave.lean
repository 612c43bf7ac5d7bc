import Mathlib.Data.List.Induction
import Mathlib.Logic.Function.Basic
import SparkGateway.Lib.Prog

/-!
# `SparkGateway.Lib.Interleave`: programs that run among others

A family of programs `ι → Prog S α` shares one state `σ`. One step of the system is one
command of one program, performed atomically, or a step of the environment. `Run M c t c'`
says that the steps `t`, each kept as a `Record` with the state before and after it, lead
from the configuration `c` to `c'`. The order of the steps is arbitrary, so a statement
about every `Run` is a statement about every interleaving. A program that has not been
scheduled yet has performed nothing, so "any number of calls, started at any time" is a
`Run` over a large enough family `ι`.

Two ways to reason about a run:

* `Run.after`: the events of one program in `t` are a path through that program. From the
  path and the records one reads what every command of a finished call saw.
* `Run.safe`: rely/guarantee. `Safe M R Q p es s` says that the program `p`, with its own
  events `es` so far, moves the state only along `R`, and returns only values with `Q`,
  whatever steps along `R` the others take in between. If this holds for each program at
  the start, it holds for each program at the end of every run.

`Safe.bind` splits a program at a `bind`, so each function gets one lemma, and `Safe.inl`
and `Safe.inr` carry such a lemma into a sum of signatures.
-/

set_option autoImplicit false

namespace SparkGateway.Lib

/-- The meaning of the commands on a shared state: which reply and which next state a
command can have, and which steps the environment can take by itself. -/
structure Semantics (S : Sig) (σ : Type) where
  cmd : (c : S.Cmd) → σ → S.Reply c → σ → Prop
  env : σ → σ → Prop

/-- Commands that answer as `h` does, in an environment that moves along `env`. -/
def Semantics.ofHandler {S : Sig} {σ : Type} (h : Handler S σ) (env : σ → σ → Prop) :
    Semantics S σ where
  cmd c s r s' := h c s = (r, s')
  env := env

/-- Commands that can answer anything and do not touch the state. -/
def Semantics.arbitrary (S : Sig) (σ : Type) : Semantics S σ where
  cmd _ s _ s' := s' = s
  env _ _ := False

/-- The commands of a sum, each with its own meaning. -/
def Semantics.sum {S T : Sig} {σ : Type} (M : Semantics S σ) (N : Semantics T σ) :
    Semantics (S.sum T) σ where
  cmd
    | .inl c => M.cmd c
    | .inr c => N.cmd c
  env s s' := M.env s s' ∨ N.env s s'

/-- The shared state and what each program still has to do. -/
structure Config (S : Sig) (σ ι α : Type) where
  shared : σ
  thread : ι → Prog S α

/-- One step of a run: who moved and what it performed (`none` for the environment), with
the shared state before and after. -/
structure Record (S : Sig) (σ ι : Type) where
  actor : Option (ι × Event S)
  pre : σ
  post : σ

variable {S : Sig} {σ ι α β : Type}

/-- One step of the system, with its record. -/
inductive Step [DecidableEq ι] (M : Semantics S σ) (c : Config S σ ι α) :
    Record S σ ι → Config S σ ι α → Prop where
  | cmd {i cmd k r s'} : c.thread i = .step cmd k → M.cmd cmd c.shared r s' →
      Step M c ⟨some (i, ⟨cmd, r⟩), c.shared, s'⟩ ⟨s', Function.update c.thread i (k r)⟩
  | env {s'} : M.env c.shared s' → Step M c ⟨none, c.shared, s'⟩ ⟨s', c.thread⟩

/-- The steps `t` lead from one configuration to the other. -/
inductive Run [DecidableEq ι] (M : Semantics S σ) (c : Config S σ ι α) :
    List (Record S σ ι) → Config S σ ι α → Prop where
  | nil : Run M c [] c
  | snoc {t c' rec c''} : Run M c t c' → Step M c' rec c'' → Run M c (t ++ [rec]) c''

/-! ### The path of one program -/

namespace Prog

/-- `After p es q`: having performed the events `es`, the program `p` has become `q`. -/
inductive After : Prog S α → List (Event S) → Prog S α → Prop where
  | nil (p : Prog S α) : After p [] p
  | cons {c k r es q} : After (k r) es q → After (.step c k) (⟨c, r⟩ :: es) q

/-- A program that has returned has no steps left to take. -/
@[simp] theorem after_ret {a : α} {es : List (Event S)} {q : Prog S α} :
    After (.ret a) es q ↔ es = [] ∧ q = .ret a := by
  constructor
  · intro h; cases h; exact ⟨rfl, rfl⟩
  · rintro ⟨rfl, rfl⟩; exact .nil _

/-- A program at a step has taken none, or this one and then some of its continuation's. -/
theorem after_step {c : S.Cmd} {k : S.Reply c → Prog S α} {es : List (Event S)}
    {q : Prog S α} :
    After (.step c k) es q ↔
      es = [] ∧ q = .step c k ∨ ∃ r es', es = ⟨c, r⟩ :: es' ∧ After (k r) es' q := by
  constructor
  · intro h
    cases h with
    | nil => exact Or.inl ⟨rfl, rfl⟩
    | cons h => exact Or.inr ⟨_, _, rfl, h⟩
  · rintro (⟨rfl, rfl⟩ | ⟨r, es', rfl, h⟩)
    · exact .nil _
    · exact .cons h

/-- A program that has returned makes no more commands. -/
theorem After.returned {a b : α} {es : List (Event S)} (h : After (.ret a) es (.ret b)) :
    es = [] ∧ b = a := by
  obtain ⟨rfl, hb⟩ := after_ret.mp h
  exact ⟨rfl, Prog.ret.inj hb⟩

/-- The path of a program that returns begins with its first command. -/
theorem After.first {c : S.Cmd} {k : S.Reply c → Prog S α} {es : List (Event S)} {b : α}
    (h : After (.step c k) es (.ret b)) :
    ∃ r es', es = ⟨c, r⟩ :: es' ∧ After (k r) es' (.ret b) := by
  rcases after_step.mp h with ⟨-, hq⟩ | hrest
  · cases hq
  · exact hrest

/-- One more command extends the path. -/
theorem After.snoc {p : Prog S α} {es : List (Event S)} {c : S.Cmd}
    {k : S.Reply c → Prog S α} (h : After p es (.step c k)) (r : S.Reply c) :
    After p (es ++ [⟨c, r⟩]) (k r) := by
  -- The induction is on the path, so its end has to be a variable.
  generalize hq : Prog.step c k = q at h
  induction h with
  | nil p => subst hq; exact .cons (.nil _)
  | cons _ ih => exact .cons (ih hq)

end Prog

/-- The events of the program `i` in a run, in order. -/
def eventsOf [DecidableEq ι] (i : ι) (t : List (Record S σ ι)) : List (Event S) :=
  t.filterMap fun rec =>
    match rec.actor with
    | some (j, e) => if j = i then some e else none
    | none => none

section
variable [DecidableEq ι] {M : Semantics S σ} {c c' : Config S σ ι α}
  {t : List (Record S σ ι)}

@[simp] theorem eventsOf_append (i : ι) (t t' : List (Record S σ ι)) :
    eventsOf i (t ++ t') = eventsOf i t ++ eventsOf i t' := List.filterMap_append

/-- A thread's step is an event of that thread only. -/
@[simp] theorem eventsOf_cmd (i j : ι) (e : Event S) (s s' : σ) :
    eventsOf i [⟨some (j, e), s, s'⟩] = if j = i then [e] else [] := by
  by_cases h : j = i <;> simp [eventsOf, h]

/-- The environment's step is no thread's event. -/
@[simp] theorem eventsOf_env (i : ι) (s s' : σ) :
    eventsOf i [(⟨none, s, s'⟩ : Record S σ ι)] = [] := rfl

/-- An event of `i` in a run stands in one of its records. -/
theorem mem_eventsOf {i : ι} {e : Event S} :
    e ∈ eventsOf i t ↔ ∃ rec ∈ t, rec.actor = some (i, e) := by
  unfold eventsOf
  rw [List.mem_filterMap]
  refine exists_congr fun rec => and_congr_right fun _ => ?_
  split
  · rename_i j e' hact
    rw [hact]
    by_cases hj : j = i <;> simp [hj]
  · rename_i hact
    simp [hact]

/-- The first event of `i` in a run stands in a record, with none of its events before. -/
theorem eventsOf_eq_cons {i : ι} {e : Event S} {es : List (Event S)}
    (h : eventsOf i t = e :: es) :
    ∃ pre rec post, t = pre ++ rec :: post ∧ rec.actor = some (i, e) ∧
      eventsOf i pre = [] ∧ eventsOf i post = es := by
  obtain ⟨pre, rec, post, ht, hpre, hrec, hpost⟩ := List.filterMap_eq_cons_iff.mp h
  refine ⟨pre, rec, post, ht, ?_, List.filterMap_eq_nil_iff.mpr hpre, hpost⟩
  have hmem : e ∈ eventsOf i [rec] := List.mem_filterMap.mpr ⟨rec, List.mem_cons_self, hrec⟩
  obtain ⟨rec', hrec', hact⟩ := mem_eventsOf.mp hmem
  rw [List.mem_singleton.mp hrec'] at hact
  exact hact

/-- The last event of `i` in a run stands in a record, with all its other events before. -/
theorem eventsOf_eq_snoc {i : ι} {e : Event S} {es : List (Event S)}
    (h : eventsOf i t = es ++ [e]) :
    ∃ pre rec post, t = pre ++ rec :: post ∧ rec.actor = some (i, e) ∧ eventsOf i pre = es := by
  obtain ⟨t₁, t₂, rfl, hes, hlast⟩ := List.filterMap_eq_append_iff.mp h
  obtain ⟨pre, rec, post, rfl, hact, hpre, -⟩ := eventsOf_eq_cons hlast
  refine ⟨t₁ ++ pre, rec, post, by simp, hact, ?_⟩
  rw [eventsOf_append, hpre, List.append_nil]
  exact hes

/-- The events of one program in a run are a path through that program. -/
theorem Run.after (h : Run M c t c') (i : ι) :
    (c.thread i).After (eventsOf i t) (c'.thread i) := by
  induction h with
  | nil => exact .nil _
  | snoc _ hstep ih =>
    rw [eventsOf_append]
    cases hstep with
    | @cmd j cmd k r s' hth _ =>
      rw [eventsOf_cmd]
      -- The program that moves goes one step along its path, the others stay.
      by_cases hj : j = i
      · subst hj
        simp only [if_true, Function.update_self]
        exact Prog.After.snoc (hth ▸ ih) r
      · simp only [if_neg hj, List.append_nil, Function.update_of_ne (Ne.symm hj)]
        exact ih
    | env _ =>
      rw [eventsOf_env, List.append_nil]
      exact ih

/-! ### Cutting a run -/

/-- A record starts in the shared state before its step and ends in the one after it. -/
theorem Step.shared {rec : Record S σ ι} (h : Step M c rec c') :
    rec.pre = c.shared ∧ rec.post = c'.shared := by
  cases h <;> exact ⟨rfl, rfl⟩

/-- The record of a command says what the command did. -/
theorem Step.cmd_of {rec : Record S σ ι} (h : Step M c rec c') {i : ι} {e : Event S}
    (hact : rec.actor = some (i, e)) : M.cmd e.1 rec.pre e.2 rec.post := by
  cases h with
  | cmd _ hcmd =>
    obtain ⟨-, rfl⟩ := Prod.mk.inj (Option.some.inj hact)
    exact hcmd
  | env _ => cases hact

/-- The empty run stays where it is. -/
theorem run_nil_iff : Run M c [] c' ↔ c' = c := by
  constructor
  · intro h
    generalize ht : ([] : List (Record S σ ι)) = t at h
    cases h with
    | nil => rfl
    | snoc _ _ => simp at ht
  · rintro rfl; exact .nil

/-- The last step of a run. -/
theorem run_snoc_iff {rec : Record S σ ι} :
    Run M c (t ++ [rec]) c' ↔ ∃ c₁, Run M c t c₁ ∧ Step M c₁ rec c' := by
  constructor
  · intro h
    generalize ht : t ++ [rec] = u at h
    cases h with
    | nil => simp at ht
    | snoc h hstep =>
      obtain ⟨rfl, hrec⟩ := List.append_inj' ht rfl
      obtain rfl := List.singleton_inj.mp hrec
      exact ⟨_, h, hstep⟩
  · rintro ⟨c₁, h, hstep⟩; exact .snoc h hstep

/-- A run can be cut at every point. -/
theorem run_append_iff {t' : List (Record S σ ι)} :
    Run M c (t ++ t') c' ↔ ∃ c₁, Run M c t c₁ ∧ Run M c₁ t' c' := by
  induction t' using List.reverseRecOn generalizing c' with
  | nil => simp [run_nil_iff]
  | append_singleton t' rec ih =>
    rw [← List.append_assoc, run_snoc_iff]
    constructor
    · rintro ⟨c₂, h, hstep⟩
      obtain ⟨c₁, h₁, h₂⟩ := ih.mp h
      exact ⟨c₁, h₁, .snoc h₂ hstep⟩
    · rintro ⟨c₁, h₁, h₂⟩
      obtain ⟨c₂, h₂, hstep⟩ := run_snoc_iff.mp h₂
      exact ⟨c₂, ih.mpr ⟨c₁, h₁, h₂⟩, hstep⟩

/-- The step of a run that a given record describes. -/
theorem Run.step_at {t' : List (Record S σ ι)} {rec : Record S σ ι}
    (h : Run M c (t ++ rec :: t') c') :
    ∃ c₁ c₂, Run M c t c₁ ∧ Step M c₁ rec c₂ ∧ Run M c₂ t' c' := by
  rw [← List.singleton_append, ← List.append_assoc, run_append_iff] at h
  obtain ⟨c₂, h₁, h₂⟩ := h
  obtain ⟨c₁, h₁, hstep⟩ := run_snoc_iff.mp h₁
  exact ⟨c₁, c₂, h₁, hstep, h₂⟩

/-- Every record of a run describes a step. -/
theorem Run.step_of_mem {rec : Record S σ ι} (h : Run M c t c') (hrec : rec ∈ t) :
    ∃ c₁ c₂ : Config S σ ι α, Step M c₁ rec c₂ := by
  obtain ⟨t₁, t₂, rfl⟩ := List.append_of_mem hrec
  obtain ⟨c₁, c₂, -, hstep, -⟩ := h.step_at
  exact ⟨c₁, c₂, hstep⟩

/-- A property of the shared state that every step of the run keeps holds at its end. -/
theorem Run.invariant {P : σ → Prop} (h : Run M c t c')
    (hstep : ∀ rec ∈ t, P rec.pre → P rec.post) (h0 : P c.shared) : P c'.shared := by
  induction h with
  | nil => exact h0
  | snoc _ hs ih =>
    -- The state before the last step is the one that the run had reached.
    have hpre := ih fun rec hrec => hstep rec (List.mem_append_left _ hrec)
    rw [← hs.shared.2]
    exact hstep _ (by simp) (hs.shared.1 ▸ hpre)

end

/-! ### Rely and guarantee -/

/-- The program `p`, whose events so far are `es`, is safe in the state `s`: every command
it performs moves the state along `R`, and a value it returns satisfies `Q`, also when the
other programs move the state along `R` before each of its steps. -/
def Safe (M : Semantics S σ) (R : σ → σ → Prop) (Q : List (Event S) → α → σ → Prop) :
    Prog S α → List (Event S) → σ → Prop
  | .ret a, es, s => ∀ s', R s s' → Q es a s'
  | .step c k, es, s => ∀ s', R s s' → ∀ r s'', M.cmd c s' r s'' →
      R s' s'' ∧ Safe M R Q (k r) (es ++ [⟨c, r⟩]) s''

namespace Safe

variable {M : Semantics S σ} {R : σ → σ → Prop} {Q Q' : List (Event S) → α → σ → Prop}

/-- The others' steps keep a program safe. -/
theorem stable (htrans : ∀ a b c, R a b → R b c → R a c) {p : Prog S α}
    {es : List (Event S)} {s s' : σ} (h : Safe M R Q p es s) (hR : R s s') :
    Safe M R Q p es s' := by
  cases p with
  | ret a => intro s'' h'; exact h s'' (htrans _ _ _ hR h')
  | step c k => intro s'' h'; exact h s'' (htrans _ _ _ hR h')

/-- The postcondition of a safe program may be weakened. -/
theorem mono {p : Prog S α} {es : List (Event S)} {s : σ}
    (hQ : ∀ es a s, Q es a s → Q' es a s) (h : Safe M R Q p es s) : Safe M R Q' p es s := by
  induction p generalizing es s with
  | ret a => intro s' h'; exact hQ _ _ _ (h s' h')
  | step c k ih =>
    intro s' h' r s'' hc
    exact ⟨(h s' h' r s'' hc).1, ih r (h s' h' r s'' hc).2⟩

/-- The rule for sequencing: the first part is safe, and each value it can return leaves
the second part safe. -/
theorem bind {Q : List (Event S) → β → σ → Prop} (hrefl : ∀ s, R s s)
    {p : Prog S α} {f : α → Prog S β} {es : List (Event S)} {s : σ}
    (h : Safe M R (fun es a s => Safe M R Q (f a) es s) p es s) :
    Safe M R Q (p >>= f) es s := by
  induction p generalizing es s with
  | ret a => exact h s (hrefl s)
  | step c k ih =>
    intro s' h' r s'' hc
    exact ⟨(h s' h' r s'' hc).1, ih r (h s' h' r s'' hc).2⟩

variable {T : Sig} {N : Semantics T σ}

/-- A program of the first signature, in the sum. The events `pre` came before it. -/
theorem inl {Q : List (Event (S.sum T)) → α → σ → Prop} {p : Prog S α}
    (pre : List (Event (S.sum T))) {es : List (Event S)} {s : σ}
    (h : Safe M R (fun es a s => Q (pre ++ es.map Event.inl) a s) p es s) :
    Safe (M.sum N) R Q p.inl (pre ++ es.map Event.inl) s := by
  induction p generalizing es s with
  | ret a => exact h
  | step c k ih =>
    intro s' h' r s'' hc
    refine ⟨(h s' h' r s'' hc).1, ?_⟩
    have hrest := ih r (h s' h' r s'' hc).2
    rwa [List.map_append, ← List.append_assoc] at hrest

/-- A program of the second signature, in the sum. The events `pre` came before it. -/
theorem inr {Q : List (Event (T.sum S)) → α → σ → Prop} {p : Prog S α}
    (pre : List (Event (T.sum S))) {es : List (Event S)} {s : σ}
    (h : Safe M R (fun es a s => Q (pre ++ es.map Event.inr) a s) p es s) :
    Safe (N.sum M) R Q p.inr (pre ++ es.map Event.inr) s := by
  induction p generalizing es s with
  | ret a => exact h
  | step c k ih =>
    intro s' h' r s'' hc
    refine ⟨(h s' h' r s'' hc).1, ?_⟩
    have hrest := ih r (h s' h' r s'' hc).2
    rwa [List.map_append, ← List.append_assoc] at hrest

end Safe

/-- Rely/guarantee for a whole run: programs that are safe at the start, in an environment
that moves along `R`, are safe after every run, each with its own events. -/
theorem Run.safe [DecidableEq ι] {M : Semantics S σ} {R : σ → σ → Prop}
    {Q : ι → List (Event S) → α → σ → Prop} {c c' : Config S σ ι α}
    {t : List (Record S σ ι)} (hrefl : ∀ s, R s s)
    (htrans : ∀ a b c, R a b → R b c → R a c) (henv : ∀ s s', M.env s s' → R s s')
    (hinit : ∀ i, Safe M R (Q i) (c.thread i) [] c.shared) (h : Run M c t c') (i : ι) :
    Safe M R (Q i) (c'.thread i) (eventsOf i t) c'.shared := by
  induction h generalizing i with
  | nil => exact hinit i
  | snoc _ hstep ih =>
    rw [eventsOf_append]
    cases hstep with
    | @cmd j cmd k r s' hth hcmd =>
      -- The moving program's own obligation gives the step along `R` for all the others.
      have hj := ih j
      rw [hth] at hj
      obtain ⟨hR, hsafe⟩ := hj _ (hrefl _) r s' hcmd
      rw [eventsOf_cmd]
      by_cases hji : j = i
      · subst hji
        simpa only [if_true, Function.update_self] using hsafe
      · simp only [if_neg hji, List.append_nil, Function.update_of_ne (Ne.symm hji)]
        exact (ih i).stable htrans hR
    | env hstep =>
      rw [eventsOf_env, List.append_nil]
      exact (ih i).stable htrans (henv _ _ hstep)

end SparkGateway.Lib

import SparkGateway.Lib.Interleave

/-!
# `SparkGateway.Lib.History`: what a program does, given what it has done

`Prog.Obeys A G Q p es` is about the paths of one program, without a state. The program `p` has
performed the events `es`. As long as the replies satisfy `A`, each of its commands satisfies
`G` for the events before it, and a value that it returns satisfies `Q` for the events of the
whole path. `Obeys.bind` splits a program at a `bind`, `Obeys.inl` and `Obeys.inr` carry a lemma
into a sum of signatures, and `Prog.Uses.obeys` is for a part of which only the commands matter.

In a run among others, `Run.issued` gives `G` for each command of a program that obeys, and
`Run.returned` gives `Q` when it has returned.
-/

set_option autoImplicit false

namespace SparkGateway.Lib

variable {S T : Sig} {σ ι α β : Type}

namespace Prog

/-- With the events `es` behind it, and as long as the replies satisfy `A`, the program performs
only commands that satisfy `G`, and returns only values that satisfy `Q`. -/
def Obeys (A : Event S → Prop) (G : List (Event S) → S.Cmd → Prop)
    (Q : List (Event S) → α → Prop) : Prog S α → List (Event S) → Prop
  | .ret a, es => Q es a
  | .step c k, es => G es c ∧ ∀ r, A ⟨c, r⟩ → (k r).Obeys A G Q (es ++ [⟨c, r⟩])

variable {A : Event S → Prop} {G : List (Event S) → S.Cmd → Prop}
  {Q Q' : List (Event S) → α → Prop} {p q : Prog S α} {es es' : List (Event S)}

/-- A discipline's postcondition may be weakened. -/
theorem Obeys.mono (hQ : ∀ es a, Q es a → Q' es a) (h : p.Obeys A G Q es) :
    p.Obeys A G Q' es := by
  induction p generalizing es with
  | ret a => exact hQ es a h
  | step c k ih => exact ⟨h.1, fun r hr => ih r (h.2 r hr)⟩

/-- The rule for sequencing: the first part obeys, and each value that it can return leaves a
second part that does. -/
theorem Obeys.bind {f : α → Prog S β} {Q : List (Event S) → β → Prop}
    (h : p.Obeys A G (fun es a => (f a).Obeys A G Q es) es) : (p >>= f).Obeys A G Q es := by
  induction p generalizing es with
  | ret a => exact h
  | step c k ih => exact ⟨h.1, fun r hr => ih r (h.2 r hr)⟩

/-- A part of which only the commands matter keeps the events that came before it. -/
theorem Uses.obeys {P : S.Cmd → Prop} (hp : p.Uses P)
    (hG : ∀ es' c, es <+: es' → P c → G es' c) : p.Obeys A G (fun es' _ => es <+: es') es := by
  -- The events grow along the path, so `es` is a prefix of what is behind the program.
  suffices hpath : ∀ es₁, es <+: es₁ → p.Obeys A G (fun es' _ => es <+: es') es₁ from
    hpath es (List.prefix_refl es)
  induction p with
  | ret a => exact fun es₁ hes => hes
  | step c k ih =>
    intro es₁ hes
    exact ⟨hG es₁ c hes hp.1,
      fun r _ => ih r (hp.2 r) (es₁ ++ [⟨c, r⟩]) (hes.trans (List.prefix_append _ _))⟩

/-- The events behind a program only grow. -/
theorem Obeys.extends (h : p.Obeys A G Q es) :
    p.Obeys A G (fun es' a => es <+: es' ∧ Q es' a) es := by
  suffices hpath : ∀ es₁, es <+: es₁ → p.Obeys A G Q es₁ →
      p.Obeys A G (fun es' a => es <+: es' ∧ Q es' a) es₁ from hpath es (List.prefix_refl es) h
  clear h
  induction p with
  | ret a => exact fun es₁ hes h => ⟨hes, h⟩
  | step c k ih =>
    intro es₁ hes h
    exact ⟨h.1, fun r hr => ih r _ (hes.trans (List.prefix_append _ _)) (h.2 r hr)⟩

/-- A program that performs only what `G` allows also performs only what a weaker `G'` allows. -/
theorem Obeys.weaken {G' : List (Event S) → S.Cmd → Prop} (hG : ∀ es c, G es c → G' es c)
    (h : p.Obeys A G Q es) : p.Obeys A G' Q es := by
  induction p generalizing es with
  | ret a => exact h
  | step c k ih => exact ⟨hG es c h.1, fun r hr => ih r (h.2 r hr)⟩

/-- What `G` says of each command holds of all events behind the program. -/
theorem Obeys.collect {K : Event S → Prop} (hK : ∀ es c r, G es c → K ⟨c, r⟩)
    (h : p.Obeys A G Q es) (hes : ∀ e ∈ es, K e) :
    p.Obeys A G (fun es' a => (∀ e ∈ es', K e) ∧ Q es' a) es := by
  induction p generalizing es with
  | ret a => exact ⟨hes, h⟩
  | step c k ih =>
    refine ⟨h.1, fun r hr => ih r (h.2 r hr) fun e he => ?_⟩
    rcases List.mem_append.mp he with hold | hlast
    · exact hes e hold
    · rw [List.mem_singleton.mp hlast]
      exact hK es c r h.1

/-- The commands that a program uses are those of all events behind it, if those before it are. -/
theorem Uses.collect {P : S.Cmd → Prop} (hp : p.Uses P) (h : p.Obeys A G Q es)
    (hes : ∀ e ∈ es, P e.1) : p.Obeys A G (fun es' a => (∀ e ∈ es', P e.1) ∧ Q es' a) es := by
  induction p generalizing es with
  | ret a => exact ⟨hes, h⟩
  | step c k ih =>
    refine ⟨h.1, fun r hr => ih r (hp.2 r) (h.2 r hr) fun e he => ?_⟩
    rcases List.mem_append.mp he with hold | hlast
    · exact hes e hold
    · rw [List.mem_singleton.mp hlast]
      exact hp.1

/-- The events behind the program satisfy what is assumed of the replies. -/
theorem Obeys.assuming (h : p.Obeys A G Q es) (hes : ∀ e ∈ es, A e) :
    p.Obeys A (fun es' c => (∀ e ∈ es', A e) ∧ G es' c) Q es := by
  induction p generalizing es with
  | ret a => exact h
  | step c k ih =>
    refine ⟨⟨hes, h.1⟩, fun r hr => ih r (h.2 r hr) fun e he => ?_⟩
    rcases List.mem_append.mp he with hold | hlast
    · exact hes e hold
    · exact List.mem_singleton.mp hlast ▸ hr

/-- A program of the first signature, in the sum. The events `pre` came before it. -/
theorem Obeys.inl {A : Event (S.sum T) → Prop} {G : List (Event (S.sum T)) → (S.sum T).Cmd → Prop}
    {Q : List (Event (S.sum T)) → α → Prop} (pre : List (Event (S.sum T)))
    (h : p.Obeys (fun e => A e.inl) (fun es c => G (pre ++ es.map Event.inl) (.inl c))
      (fun es a => Q (pre ++ es.map Event.inl) a) es) :
    p.inl.Obeys A G Q (pre ++ es.map Event.inl) := by
  induction p generalizing es with
  | ret a => exact h
  | step c k ih =>
    refine ⟨h.1, fun r hr => ?_⟩
    have hrest := ih r (h.2 r hr)
    rwa [List.map_append, ← List.append_assoc] at hrest

/-- A program of the second signature, in the sum. The events `pre` came before it. -/
theorem Obeys.inr {A : Event (T.sum S) → Prop} {G : List (Event (T.sum S)) → (T.sum S).Cmd → Prop}
    {Q : List (Event (T.sum S)) → α → Prop} (pre : List (Event (T.sum S)))
    (h : p.Obeys (fun e => A e.inr) (fun es c => G (pre ++ es.map Event.inr) (.inr c))
      (fun es a => Q (pre ++ es.map Event.inr) a) es) :
    p.inr.Obeys A G Q (pre ++ es.map Event.inr) := by
  induction p generalizing es with
  | ret a => exact h
  | step c k ih =>
    refine ⟨h.1, fun r hr => ?_⟩
    have hrest := ih r (h.2 r hr)
    rwa [List.map_append, ← List.append_assoc] at hrest

/-- What is left of the program after some of its events. -/
theorem Obeys.after (h : p.Obeys A G Q es) (hafter : p.After es' q) (hA : ∀ e ∈ es', A e) :
    q.Obeys A G Q (es ++ es') := by
  induction hafter generalizing es with
  | nil p => rwa [List.append_nil]
  | @cons c k r es' q _ ih =>
    have hrest := ih (h.2 r (hA _ List.mem_cons_self))
      fun e he => hA e (List.mem_cons_of_mem _ he)
    rwa [List.append_assoc] at hrest

end Prog

section
variable [DecidableEq ι] {M : Semantics S σ} {c c' : Config S σ ι α} {t t' : List (Record S σ ι)}
  {A : Event S → Prop} {G : List (Event S) → S.Cmd → Prop} {Q : List (Event S) → α → Prop} {i : ι}

/-- The step of a run in which a program has performed an event. -/
theorem Run.event_at {e : Event S} (h : Run M c t c') (he : e ∈ eventsOf i t) :
    ∃ before rec after c₁ c₂, t = before ++ rec :: after ∧ rec.actor = some (i, e) ∧
      Run M c before c₁ ∧ Step M c₁ rec c₂ ∧ Run M c₂ after c' := by
  obtain ⟨rec, hrec, hact⟩ := mem_eventsOf.mp he
  obtain ⟨before, after, rfl⟩ := List.append_of_mem hrec
  obtain ⟨c₁, c₂, hbefore, hstep, hafter⟩ := h.step_at
  exact ⟨before, rec, after, c₁, c₂, rfl, hact, hbefore, hstep, hafter⟩

/-- A command of a program that obeys. -/
theorem Run.issued {rec : Record S σ ι} {e : Event S} (h : Run M c (t ++ rec :: t') c')
    (hact : rec.actor = some (i, e)) (hi : (c.thread i).Obeys A G Q [])
    (hA : ∀ e ∈ eventsOf i t, A e) : G (eventsOf i t) e.1 := by
  obtain ⟨c₁, c₂, hrun, hstep, -⟩ := h.step_at
  have hrest := hi.after (hrun.after i) hA
  cases hstep with
  | cmd hth _ =>
    cases hact
    rw [hth, List.nil_append] at hrest
    exact hrest.1
  | env _ => cases hact

/-- All commands of a program that obeys. -/
theorem Run.issued_of_mem {e : Event S} (h : Run M c t c') (hi : (c.thread i).Obeys A G Q [])
    (hA : ∀ e ∈ eventsOf i t, A e) (he : e ∈ eventsOf i t) :
    ∃ es, es <+: eventsOf i t ∧ G es e.1 := by
  obtain ⟨before, rec, after, -, -, rfl, hact, -⟩ := h.event_at he
  have hbefore : eventsOf i before <+: eventsOf i (before ++ rec :: after) := by
    rw [eventsOf_append]
    exact List.prefix_append _ _
  exact ⟨_, hbefore, h.issued hact hi fun e he => hA e (hbefore.subset he)⟩

/-- The value of a program that obeys. -/
theorem Run.returned {a : α} (h : Run M c t c') (hret : c'.thread i = .ret a)
    (hi : (c.thread i).Obeys A G Q []) (hA : ∀ e ∈ eventsOf i t, A e) : Q (eventsOf i t) a := by
  have hrest := hi.after (h.after i) hA
  rw [hret, List.nil_append] at hrest
  exact hrest

end

end SparkGateway.Lib

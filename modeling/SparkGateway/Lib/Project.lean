import SparkGateway.Lib.Interleave

/-!
# `SparkGateway.Lib.Project`: the steps of a run at one signature

Programs over a sum of signatures that share a state which only the first signature touches.
Each program has a first part over the first signature and a second part over the other one:
`(p i).inl >>= k i`. `Run.lefts` projects a run of such programs onto the first signature. The
steps of the second part drop out, and what is left is a run of the first parts by themselves,
with the same shared state at the end. So a fact about every interleaving of the first parts
holds in every interleaving of the whole programs. `Linked` says where a program stands when
its first part stands somewhere.
-/

set_option autoImplicit false

namespace SparkGateway.Lib

variable {S T : Sig} {σ ι α β : Type}

/-- The record of a step at the first signature, or of the environment. -/
def Record.left? : Record (S.sum T) σ ι → Option (Record S σ ι)
  | ⟨some (i, ⟨.inl c, r⟩), s, s'⟩ => some ⟨some (i, ⟨c, r⟩), s, s'⟩
  | ⟨some (_, ⟨.inr _, _⟩), _, _⟩ => none
  | ⟨none, s, s'⟩ => some ⟨none, s, s'⟩

/-- The steps of a run at the first signature. -/
def lefts (t : List (Record (S.sum T) σ ι)) : List (Record S σ ι) := t.filterMap Record.left?

theorem lefts_append (t t' : List (Record (S.sum T) σ ι)) : lefts (t ++ t') = lefts t ++ lefts t' :=
  List.filterMap_append

/-- A command of the second signature. -/
def IsRight : (S.sum T).Cmd → Prop
  | .inl _ => False
  | .inr _ => True

/-- A program with the events `es` has become `x`, while its first part has become `y`: it is
still in its first part, or on a path of the second part. -/
def Linked (k : α → Prog (S.sum T) β) (es : List (Event (S.sum T))) (x : Prog (S.sum T) β)
    (y : Prog S α) : Prop :=
  ∃ (es₁ : List (Event S)) (es₂ : List (Event (S.sum T))), es = es₁.map Event.inl ++ es₂ ∧
    (es₂ = [] ∧ x = y.inl >>= k ∨ ∃ a, y = .ret a ∧ (k a).After es₂ x)

/-- The commands that remain on a path are commands of the program. -/
theorem Prog.Uses.after {P : S.Cmd → Prop} {p q : Prog S α} {es : List (Event S)}
    (hp : p.Uses P) (h : p.After es q) : q.Uses P := by
  induction h with
  | nil p => exact hp
  | cons _ ih => exact ih (hp.2 _)

section
variable {k : α → Prog (S.sum T) β} {es : List (Event (S.sum T))} {y : Prog S α}

/-- Before its first step a program is linked with its own left part. -/
theorem linked_start (k : α → Prog (S.sum T) β) (y : Prog S α) : Linked k [] (y.inl >>= k) y :=
  ⟨[], [], rfl, .inl ⟨rfl, rfl⟩⟩

/-- A command of the first signature is one of the first part. -/
theorem Linked.step_inl (hk : ∀ a, (k a).Uses IsRight) {c : S.Cmd}
    {f : S.Reply c → Prog (S.sum T) β} (h : Linked k es (.step (.inl c) f) y) :
    ∃ g, y = .step c g ∧ ∀ r, Linked k (es ++ [⟨.inl c, r⟩]) (f r) (g r) := by
  obtain ⟨es₁, es₂, rfl, ⟨rfl, hx⟩ | ⟨a, -, hafter⟩⟩ := h
  · cases y with
    | ret a =>
      -- The first part is over, and the second has no such command.
      have huses := hk a
      rw [show k a = .step (.inl c) f from hx.symm] at huses
      exact huses.1.elim
    | step c' g =>
      cases hx
      exact ⟨g, rfl, fun r => ⟨es₁ ++ [⟨c, r⟩], [], by simp [Event.inl], .inl ⟨rfl, rfl⟩⟩⟩
  · exact ((hk a).after hafter).1.elim

/-- A command of the second signature is one of the second part. -/
theorem Linked.step_inr {c : T.Cmd} {f : T.Reply c → Prog (S.sum T) β}
    (h : Linked k es (.step (.inr c) f) y) (r : T.Reply c) :
    Linked k (es ++ [⟨.inr c, r⟩]) (f r) y := by
  obtain ⟨es₁, es₂, rfl, ⟨rfl, hx⟩ | ⟨a, hy, hafter⟩⟩ := h
  · cases y with
    | ret a =>
      refine ⟨es₁, [⟨.inr c, r⟩], by simp, .inr ⟨a, rfl, ?_⟩⟩
      rw [show k a = .step (.inr c) f from hx.symm]
      exact .cons (.nil _)
    | step c' g => cases hx
  · exact ⟨es₁, es₂ ++ [⟨.inr c, r⟩], by simp, .inr ⟨a, hy, hafter.snoc r⟩⟩

end

section
variable [DecidableEq ι] {M : Semantics S σ} {p : ι → Prog S α}
  {k : ι → α → Prog (S.sum T) β} {s : σ} {t : List (Record (S.sum T) σ ι)}
  {c : Config (S.sum T) σ ι β}

/-- After an event of `i` the others are linked as before. -/
theorem linked_update {x : ι → Prog (S.sum T) β} {y : ι → Prog S α}
    (h : ∀ j, Linked (k j) (eventsOf j t) (x j) (y j)) {i : ι} {e : Event (S.sum T)}
    {x' : Prog (S.sum T) β} {y' : Prog S α} (hi : Linked (k i) (eventsOf i t ++ [e]) x' y')
    (pre post : σ) (j : ι) :
    Linked (k j) (eventsOf j (t ++ [⟨some (i, e), pre, post⟩])) (Function.update x i x' j)
      (Function.update y i y' j) := by
  rw [eventsOf_append, eventsOf_cmd]
  by_cases hj : i = j
  · subst hj
    rw [if_pos rfl, Function.update_self, Function.update_self]
    exact hi
  · rw [if_neg hj, List.append_nil, Function.update_of_ne (Ne.symm hj),
      Function.update_of_ne (Ne.symm hj)]
    exact h j

/-- **Projection.** The steps of a run at the first signature are a run of the first parts. -/
theorem Run.lefts (hk : ∀ i a, (k i a).Uses IsRight)
    (h : Run (M.sum (Semantics.arbitrary T σ)) ⟨s, fun i => (p i).inl >>= k i⟩ t c) :
    ∃ d : Config S σ ι α, Run M ⟨s, p⟩ (Lib.lefts t) d ∧ d.shared = c.shared ∧
      ∀ i, Linked (k i) (eventsOf i t) (c.thread i) (d.thread i) := by
  induction h with
  | nil => exact ⟨⟨s, p⟩, .nil, rfl, fun i => linked_start (k i) (p i)⟩
  | @snoc t' c' rec c'' hrun hstep ih =>
    obtain ⟨d, hd, hshared, hlinked⟩ := ih
    rw [lefts_append]
    cases hstep with
    | @cmd i cmd f r s' hth hcmd =>
      have hi := hlinked i
      rw [hth] at hi
      rcases cmd with cmd | cmd
      · -- The first part of `i` makes the same step.
        obtain ⟨g, hy, hnext⟩ := hi.step_inl (hk i)
        have hstep : Step M d ⟨some (i, ⟨cmd, r⟩), d.shared, s'⟩
            ⟨s', Function.update d.thread i (g r)⟩ := .cmd hy (hshared ▸ hcmd)
        rw [hshared] at hstep
        exact ⟨_, hd.snoc hstep, rfl, linked_update hlinked (hnext r) _ _⟩
      · -- The first part of `i` is over and stays where it is.
        obtain rfl : s' = c'.shared := hcmd
        refine ⟨d, ?_, hshared, fun j => ?_⟩
        · show Run M ⟨s, p⟩ (Lib.lefts t' ++ []) d
          rw [List.append_nil]
          exact hd
        · have hj := linked_update hlinked (hi.step_inr r) c'.shared c'.shared j
          rwa [Function.update_eq_self] at hj
    | @env s' henv =>
      -- The second signature has no environment of its own.
      have hstep : Step M d ⟨none, d.shared, s'⟩ ⟨s', d.thread⟩ :=
        .env (hshared ▸ henv.resolve_right id)
      rw [hshared] at hstep
      refine ⟨_, hd.snoc hstep, rfl, fun j => ?_⟩
      rw [eventsOf_append, eventsOf_env, List.append_nil]
      exact hlinked j

end

end SparkGateway.Lib

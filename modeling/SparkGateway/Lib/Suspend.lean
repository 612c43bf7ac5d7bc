import SparkGateway.Lib.Restrict

/-!
# `SparkGateway.Lib.Suspend`: programs that can be dropped while they wait

An `async` function runs without a break until it awaits something, and while it waits it can be
dropped: it is never resumed. `Prog.suspendable` is a program with its points of suspension. Each
command that is awaited has one before and one after it. Before the command nothing of it has
happened, after it the command has happened but the program does not see the reply. A suspension is
a program of another signature that returns whether the program is resumed, and a program that is
not resumed returns `none`.

`Prog.Refines` relates such a program to a plain one. The two perform the same commands of the first
signature, what the first one does at the second signature is its own affair, and so are some extra
commands. `Run.refines` carries this to runs. Programs that refine plain ones, on a state of which
the plain programs see a part, have only runs that the plain programs have as well. A program that
is dropped is one that the plain run has not scheduled again.
-/

set_option autoImplicit false

namespace SparkGateway.Lib

variable {S T : Sig} {σ τ ι α β γ : Type}

namespace Prog

/-- The program with a suspension before and after each command that is awaited. -/
def suspendable (suspend : Prog T Bool) (awaited : S.Cmd → Bool) :
    Prog S α → Prog (S.sum T) (Option α)
  | .ret a => .ret (some a)
  | .step c k =>
      if awaited c then
        suspend.inr >>= fun resumed =>
          if resumed then
            .step (.inl c) fun r => suspend.inr >>= fun resumed =>
              if resumed then suspendable suspend awaited (k r) else .ret none
          else .ret none
      else .step (.inl c) fun r => suspendable suspend awaited (k r)

/-- The first program performs what the second one does, and `extra` commands besides. `out` is what
holds of a returned value and of what is then left of the second program. -/
def Refines (extra : S.Cmd → Bool) (out : β → Prog S α → Prop) :
    Prog (S.sum T) β → Prog S α → Prop
  | .ret b, q => out b q
  | .step (.inl c) f, q =>
      (∃ g, q = .step c g ∧ ∀ r, (f r).Refines extra out (g r)) ∨
        extra c = true ∧ ∀ r, (f r).Refines extra out q
  | .step (.inr _) f, q => ∀ r, (f r).Refines extra out q

section
variable {extra : S.Cmd → Bool} {out : β → Prog S α → Prop} {p : Prog (S.sum T) β} {q : Prog S α}

/-- The relation between the results of a refinement may be weakened. -/
theorem Refines.mono {out' : β → Prog S α → Prop} (hout : ∀ b q, out b q → out' b q)
    (h : p.Refines extra out q) : p.Refines extra out' q := by
  induction p generalizing q with
  | ret b => exact hout b q h
  | step c k ih =>
    rcases c with c | c
    · rcases h with ⟨g, rfl, hg⟩ | ⟨hc, hq⟩
      · exact .inl ⟨g, rfl, fun r => ih r (hg r)⟩
      · exact .inr ⟨hc, fun r => ih r (hq r)⟩
    · exact fun r => ih r (h r)

/-- The rule for sequencing. -/
theorem Refines.bind {out : γ → Prog S α → Prop} {f : β → Prog (S.sum T) γ}
    (h : p.Refines extra (fun b q' => (f b).Refines extra out q') q) :
    (p >>= f).Refines extra out q := by
  induction p generalizing q with
  | ret b => exact h
  | step c k ih =>
    rcases c with c | c
    · rcases h with ⟨g, rfl, hg⟩ | ⟨hc, hq⟩
      · exact .inl ⟨g, rfl, fun r => ih r (hg r)⟩
      · exact .inr ⟨hc, fun r => ih r (hq r)⟩
    · exact fun r => ih r (h r)

/-- What is done at the second signature is not seen. -/
theorem refines_inr {out : γ → Prog S α → Prop} (d : Prog T γ) (h : ∀ a, out a q) :
    (d.inr (S := S)).Refines extra out q := by
  induction d with
  | ret a => exact h a
  | step c k ih => exact fun r => ih r

/-- A plain program, followed by anything. -/
theorem refines_inl {out : γ → Prog S α → Prop} (d : Prog S γ) {f : γ → Prog S α}
    (h : ∀ a, out a (f a)) : (d.inl (T := T)).Refines extra out (d >>= f) := by
  induction d with
  | ret a => exact h a
  | step c k ih => exact .inl ⟨_, rfl, fun r => ih r⟩

/-- A program that can be dropped performs a part of what the program does, and all of it if it is
not dropped. -/
theorem suspendable_refines (suspend : Prog T Bool) (awaited : S.Cmd → Bool) (d : Prog S γ)
    {f : γ → Prog S α} :
    (suspendable suspend awaited d).Refines extra (fun o q => ∀ a, o = some a → q = f a)
      (d >>= f) := by
  induction d with
  | ret a => exact fun a' h => Option.some.inj h ▸ rfl
  | step c k ih =>
    -- A dropped program promises nothing.
    have hdropped : ∀ q' : Prog S α, ((.ret none : Prog (S.sum T) (Option γ))).Refines extra
        (fun o q => ∀ a, o = some a → q = f a) q' := fun q' a h => nomatch h
    unfold suspendable
    split
    · -- Dropped before the command, dropped after it, or polled again both times.
      refine Refines.bind (refines_inr suspend fun resumed => ?_)
      cases resumed with
      | false => exact hdropped _
      | true =>
        refine .inl ⟨_, rfl, fun r => Refines.bind (refines_inr suspend fun resumed => ?_)⟩
        cases resumed with
        | false => exact hdropped _
        | true => exact ih r
    · exact .inl ⟨_, rfl, fun r => ih r⟩

end

/-- The commands of a program that can be dropped. -/
theorem Uses.suspendable {P : (S.sum T).Cmd → Prop} {suspend : Prog T Bool}
    (awaited : S.Cmd → Bool) {d : Prog S α} (hsuspend : suspend.Uses fun c => P (.inr c))
    (h : d.Uses fun c => P (.inl c)) : (suspendable suspend awaited d).Uses P := by
  induction d with
  | ret a => trivial
  | step c k ih =>
    unfold Prog.suspendable
    split
    · refine Uses.bind hsuspend.inr fun resumed => ?_
      cases resumed with
      | false => trivial
      | true =>
        refine ⟨h.1, fun r => Uses.bind hsuspend.inr fun resumed => ?_⟩
        cases resumed with
        | false => trivial
        | true => exact ih r (h.2 r)
    · exact ⟨h.1, fun r => ih r (h.2 r)⟩

end Prog

/-! ### Runs -/

/-- The actions at the first signature, less the extra ones. -/
def leftActions (extra : S.Cmd → Bool) (t : List (Record (S.sum T) τ ι)) : List (ι × Event S) :=
  (actions t).filterMap fun
    | (i, ⟨.inl c, r⟩) => if extra c then none else some (i, ⟨c, r⟩)
    | (_, ⟨.inr _, _⟩) => none

/-- The actions less the extra ones. -/
def plainActions (extra : S.Cmd → Bool) (t : List (Record S σ ι)) : List (ι × Event S) :=
  (actions t).filter fun a => !extra a.2.1

section
variable {extra : S.Cmd → Bool}

theorem leftActions_append (t t' : List (Record (S.sum T) τ ι)) :
    leftActions extra (t ++ t') = leftActions extra t ++ leftActions extra t' := by
  simp [leftActions]

theorem plainActions_append (t t' : List (Record S σ ι)) :
    plainActions extra (t ++ t') = plainActions extra t ++ plainActions extra t' := by
  simp [plainActions]

end

/-- How the meaning `N` of the commands on the states `τ` is seen by the plain programs. -/
structure Views (N : Semantics (S.sum T) τ) (M : Semantics S σ) (view : τ → σ)
    (extra : S.Cmd → Bool) : Prop where
  left : ∀ {c s r s'}, N.cmd (.inl c) s r s' → M.cmd c (view s) r (view s')
  extra : ∀ {c s r s'}, extra c = true → N.cmd (.inl c) s r s' → view s' = view s
  right : ∀ {c s r s'}, N.cmd (.inr c) s r s' → view s' = view s
  env : ∀ {s s'}, N.env s s' → M.env (view s) (view s') ∨ view s' = view s

section
variable [DecidableEq ι] {N : Semantics (S.sum T) τ} {M : Semantics S σ} {view : τ → σ}
  {extra : S.Cmd → Bool} {out : ι → β → Prog S α → Prop} {x : ι → Prog (S.sum T) β}
  {y : ι → Prog S α} {s : τ} {t : List (Record (S.sum T) τ ι)} {c : Config (S.sum T) τ ι β}

/-- **Refinement of runs.** If every program refines a plain one, a run of the programs is matched
by a run of the plain ones that ends in the same view, with the same actions up to the extra ones.
-/
theorem Run.refines (hviews : Views N M view extra)
    (hstart : ∀ i, (x i).Refines extra (out i) (y i)) (h : Run N ⟨s, x⟩ t c) :
    ∃ t' d, Run M ⟨view s, y⟩ t' d ∧ d.shared = view c.shared ∧
      plainActions extra t' = leftActions extra t ∧
      ∀ i, (c.thread i).Refines extra (out i) (d.thread i) := by
  induction h with
  | nil => exact ⟨[], ⟨view s, y⟩, .nil, rfl, rfl, hstart⟩
  | @snoc t c₁ rec c₂ _ hstep ih =>
    obtain ⟨t', d, hrun, hshared, hacts, hthread⟩ := ih
    -- Only the thread that moves has to be looked at again.
    have hupdate : ∀ {i : ι} {p : Prog (S.sum T) β} {q : Prog S α}, p.Refines extra (out i) q →
        ∀ j, (Function.update c₁.thread i p j).Refines extra (out j)
          (Function.update d.thread i q j) := by
      intro i p q h j
      by_cases hj : j = i
      · subst hj
        simpa using h
      · simpa [Function.update_of_ne hj] using hthread j
    have hstay : ∀ {i : ι} {p : Prog (S.sum T) β}, p.Refines extra (out i) (d.thread i) →
        ∀ j, (Function.update c₁.thread i p j).Refines extra (out j) (d.thread j) := by
      intro i p h j
      have hj := hupdate h j
      rwa [Function.update_eq_self] at hj
    cases hstep with
    | @cmd i cmd k r s' hth hcmd =>
      have hi := hthread i
      rw [hth] at hi
      rcases cmd with cmd | cmd
      · rcases hi with ⟨g, hd, hg⟩ | ⟨hextra, hq⟩
        · have hplain : M.cmd cmd d.shared r (view s') := hshared ▸ hviews.left hcmd
          refine ⟨_, _, hrun.snoc (.cmd hd hplain), rfl, ?_, hupdate (hg r)⟩
          rw [plainActions_append, leftActions_append, hacts]
          cases hextra : extra cmd <;> simp [plainActions, leftActions, hextra]
        · refine ⟨t', d, hrun, hshared.trans (hviews.extra hextra hcmd).symm, ?_, hstay (hq r)⟩
          rw [leftActions_append, hacts]
          simp [leftActions, hextra]
      · refine ⟨t', d, hrun, hshared.trans (hviews.right hcmd).symm, ?_, hstay (hi r)⟩
        rw [leftActions_append, hacts]
        simp [leftActions]
    | @env s' henv =>
      rcases hviews.env henv with hmove | hsame
      · refine ⟨_, _, hrun.snoc (.env (hshared ▸ hmove)), rfl, ?_, hthread⟩
        rw [plainActions_append, leftActions_append, hacts]
        rfl
      · refine ⟨t', d, hrun, hshared.trans hsame.symm, ?_, hthread⟩
        rw [leftActions_append, hacts]
        simp [leftActions]

end

end SparkGateway.Lib

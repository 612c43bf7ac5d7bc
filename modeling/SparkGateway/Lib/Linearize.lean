import SparkGateway.Lib.History
import SparkGateway.Lib.Restrict

/-!
# `SparkGateway.Lib.Linearize`: operations that are made of several commands

There are two levels. At the upper one an operation is a single command of `S`, at the lower one it
is a program of `T`, and the commands of other programs come between its own. `Prog.subst` puts
these programs in the place of the commands.

`Levels` holds the meaning of both signatures, a relation of their states, and what an observer
sees of an event. `L.Implements A q p s` says that `q`, started in the lower state `s`, does what
`p` does. Each command of `q` either is not seen and leaves the upper state as it is, or it is the
point at which the next command of `p` takes effect, and then both look the same. The other programs
move the lower state along `rely` in between. `A` is what may be assumed of the answers that are
seen.

`Implements.bind` splits programs at a `bind`, so an operation gets one lemma. `implements_subst`
is for a whole program. `Run.implements` carries this to runs: whatever the programs of the lower
level do in some interleaving, the programs of the upper level do in one of their own.
-/

set_option autoImplicit false

namespace SparkGateway.Lib

variable {S T : Sig} {σ τ ι α β V : Type}

/-! ### Programs in the place of commands -/

namespace Prog

/-- The program with each of its commands replaced by a program. -/
def subst (f : (c : S.Cmd) → Prog T (S.Reply c)) : Prog S α → Prog T α
  | .ret a => .ret a
  | .step c k => f c >>= fun r => (k r).subst f

variable {f : (c : S.Cmd) → Prog T (S.Reply c)}

/-- Returning the result of a program changes nothing. -/
@[simp] theorem bind_ret (p : Prog S α) : (p >>= fun a => .ret a) = p := by
  induction p with
  | ret a => rfl
  | step c k ih =>
    simp only [step_bind]
    congr 1
    funext r
    exact ih r

/-- A single command becomes its implementation. -/
@[simp] theorem subst_perform (c : S.Cmd) : (perform c).subst f = f c := bind_ret (f c)

/-- Substitution commutes with sequencing. -/
theorem subst_bind (p : Prog S α) (g : α → Prog S β) :
    (p >>= g).subst f = p.subst f >>= fun a => (g a).subst f := by
  induction p with
  | ret a => rfl
  | step c k ih =>
    show (f c >>= fun r => (k r >>= g).subst f) = _
    simp only [ih]
    exact (bind_assoc _ _ _).symm

/-- Part by part. -/
theorem subst_bind_eq {p : Prog S α} {g : α → Prog S β} {q : Prog T α} {h : α → Prog T β}
    (hp : p.subst f = q) (hg : ∀ a, (g a).subst f = h a) : (p >>= g).subst f = q >>= h := by
  rw [subst_bind, hp, funext hg]

/-- Replacing the commands of the two parts of a sum. -/
def sumSubst {S' T' : Sig} (f : (c : S.Cmd) → Prog S' (S.Reply c))
    (g : (c : T.Cmd) → Prog T' (T.Reply c)) :
    (c : (S.sum T).Cmd) → Prog (S'.sum T') ((S.sum T).Reply c)
  | .inl c => (f c).inl
  | .inr c => (g c).inr

/-- Embedding on the right commutes with sequencing. -/
theorem inr_bind (p : Prog T α) (g : α → Prog T β) :
    ((p >>= g).inr : Prog (S.sum T) β) = p.inr >>= fun a => (g a).inr := by
  induction p with
  | ret a => rfl
  | step c k ih =>
    simp only [step_bind, inr]
    congr 1
    funext r
    exact ih r

section
variable {S' T' : Sig} {f : (c : S.Cmd) → Prog S' (S.Reply c)}
  {g : (c : T.Cmd) → Prog T' (T.Reply c)}

/-- Substituting on both sides acts on a left program as the left substitution. -/
@[simp] theorem subst_inl (p : Prog S α) :
    (p.inl : Prog (S.sum T) α).subst (sumSubst f g) = (p.subst f).inl := by
  induction p with
  | ret a => rfl
  | step c k ih =>
    show ((f c).inl >>= fun r => ((k r).inl).subst (sumSubst f g)) = _
    simp only [ih]
    exact (inl_bind _ _).symm

/-- Substituting on both sides acts on a right program as the right substitution. -/
@[simp] theorem subst_inr (p : Prog T α) :
    (p.inr : Prog (S.sum T) α).subst (sumSubst f g) = (p.subst g).inr := by
  induction p with
  | ret a => rfl
  | step c k ih =>
    show ((g c).inr >>= fun r => ((k r).inr).subst (sumSubst f g)) = _
    simp only [ih]
    exact (inr_bind _ _).symm

/-- Substituting every command by itself changes nothing. -/
@[simp] theorem subst_self (p : Prog S α) : p.subst perform = p := by
  induction p with
  | ret a => rfl
  | step c k ih =>
    show Prog.step c (fun r => (k r).subst perform) = _
    simp only [ih]

end

end Prog

/-! ### Two levels -/

/-- Two signatures with their meanings, how their states are related, how other programs move the
lower state, and what is seen of an event. -/
structure Levels (S T : Sig) (σ τ V : Type) where
  upper : Semantics S σ
  lower : Semantics T τ
  rel : σ → τ → Prop
  rely : τ → τ → Prop
  seenUpper : Event S → Option V
  seenLower : Event T → Option V

namespace Levels

variable (L : Levels S T σ τ V) (A : V → Prop)

/-- What may be assumed of an event of the upper level. -/
def Assumed (e : Event S) : Prop := ∀ v, L.seenUpper e = some v → A v

/-- The lower program does what the upper one does. -/
def Implements : Prog T α → Prog S α → τ → Prop
  | .ret b, p, _ => p = .ret b
  | .step d k, p, s => ∀ s₁, L.rely s s₁ → ∀ a r s₂, L.rel a s₁ → L.lower.cmd d s₁ r s₂ →
      (∀ v, L.seenLower ⟨d, r⟩ = some v → A v) → L.rely s₁ s₂ ∧
      ((L.seenLower ⟨d, r⟩ = none ∧ L.rel a s₂ ∧ Implements (k r) p s₂) ∨
        ∃ c g r' a', p = .step c g ∧ L.upper.cmd c a r' a' ∧
          L.seenUpper ⟨c, r'⟩ = L.seenLower ⟨d, r⟩ ∧ L.rel a' s₂ ∧ Implements (k r) (g r') s₂)

variable {L A}

/-- A returned value implements itself. -/
theorem implements_ret (b : α) (s : τ) : L.Implements A (.ret b) (.ret b) s := rfl

/-- The steps of the others do not matter. -/
theorem Implements.stable (htrans : ∀ a b c, L.rely a b → L.rely b c → L.rely a c)
    {q : Prog T α} {p : Prog S α} {s s' : τ} (h : L.Implements A q p s) (hs : L.rely s s') :
    L.Implements A q p s' := by
  cases q with
  | ret b => exact h
  | step d k => exact fun s₁ hs₁ => h s₁ (htrans _ _ _ hs hs₁)

/-- The rule for sequencing. The values that the first part can return are those with `P`. -/
theorem Implements.bind {q : Prog T β} {p : Prog S β} {h : β → Prog T α} {g : β → Prog S α}
    {G : List (Event S) → S.Cmd → Prop} {P : List (Event S) → β → Prop} {es : List (Event S)}
    {s : τ} (hq : L.Implements A q p s) (hp : p.Obeys (L.Assumed A) G P es)
    (hrest : ∀ es b s, P es b → L.Implements A (h b) (g b) s) :
    L.Implements A (q >>= h) (p >>= g) s := by
  induction q generalizing p es s with
  | ret b =>
    obtain rfl : p = .ret b := hq
    exact hrest es b s hp
  | step d k ih =>
    intro s₁ hs₁ a r s₂ hrel hcmd hA
    obtain ⟨hrely, hstep⟩ := hq s₁ hs₁ a r s₂ hrel hcmd hA
    refine ⟨hrely, ?_⟩
    rcases hstep with ⟨hseen, hrel', hk⟩ | ⟨c, g', r', a', rfl, hup, hseen, hrel', hk⟩
    · exact .inl ⟨hseen, hrel', ih r hk hp⟩
    · refine .inr ⟨c, _, r', a', rfl, hup, hseen, hrel', ih r hk (hp.2 r' ?_)⟩
      exact fun v hv => hA v (hseen ▸ hv)

/-- **A whole program.** Each of its commands that can be reached is implemented. -/
theorem implements_subst {f : (c : S.Cmd) → Prog T (S.Reply c)}
    {G : List (Event S) → S.Cmd → Prop} {Q : List (Event S) → α → Prop}
    (hf : ∀ es c s, G es c → L.Implements A (f c) (Prog.perform c) s) {p : Prog S α}
    {es : List (Event S)} {s : τ} (hp : p.Obeys (L.Assumed A) G Q es) :
    L.Implements A (p.subst f) p s := by
  induction p generalizing es s with
  | ret a => rfl
  | step c k ih =>
    have hcmd : (Prog.perform c).Obeys (L.Assumed A) G
        (fun es' r => (k r).Obeys (L.Assumed A) G Q es') es := ⟨hp.1, hp.2⟩
    exact Implements.bind (hf es c s hp.1) hcmd fun es' r s' hr => ih r hr

end Levels

/-! ### Runs -/

/-- Who was seen to do what, in order. -/
def observed (seen : Event S → Option V) (t : List (Record S σ ι)) : List (ι × V) :=
  (actions t).filterMap fun a => (seen a.2).map fun v => (a.1, v)

/-- An observation of a run is that of one of its thread steps. -/
theorem mem_observed {seen : Event S → Option V} {t : List (Record S σ ι)} {i : ι} {v : V} :
    (i, v) ∈ observed seen t ↔ ∃ rec ∈ t, ∃ e, rec.actor = some (i, e) ∧ seen e = some v := by
  simp only [observed, actions, List.mem_filterMap, Option.map_eq_some_iff, Prod.mk.injEq]
  constructor
  · rintro ⟨⟨j, e⟩, ⟨rec, hrec, hact⟩, w, hseen, rfl, rfl⟩
    exact ⟨rec, hrec, e, hact, hseen⟩
  · rintro ⟨rec, hrec, e, hact, hseen⟩
    exact ⟨(i, e), ⟨rec, hrec, hact⟩, v, hseen, rfl, rfl⟩

theorem observed_append (seen : Event S → Option V) (t t' : List (Record S σ ι)) :
    observed seen (t ++ t') = observed seen t ++ observed seen t' := by
  simp [observed]

/-- A thread's step is observed as its event is, under the thread's name. -/
theorem observed_cmd (seen : Event S → Option V) (i : ι) (e : Event S) (s s' : σ) :
    observed seen [(⟨some (i, e), s, s'⟩ : Record S σ ι)]
      = ((seen e).map fun v => (i, v)).toList := by
  cases h : seen e <;> simp [observed, h]

/-- The environment's steps are not observed. -/
theorem observed_env (seen : Event S → Option V) (s s' : σ) :
    observed seen [(⟨none, s, s'⟩ : Record S σ ι)] = [] := by
  simp [observed]

section
variable [DecidableEq ι] {L : Levels S T σ τ V} {A : ι → V → Prop} {x : ι → Prog T α}
  {y : ι → Prog S α} {a : σ} {s : τ} {t : List (Record T τ ι)} {c : Config T τ ι α}

/-- **Refinement of runs.** Whatever is seen of a run of the lower programs is seen of a run of the
upper ones. -/
theorem Run.implements (hrefl : ∀ s, L.rely s s)
    (htrans : ∀ a b c, L.rely a b → L.rely b c → L.rely a c)
    (henv : ∀ a s s', L.rel a s → L.lower.env s s' → L.rel a s' ∧ L.rely s s')
    (hrel : L.rel a s) (hstart : ∀ i, L.Implements (A i) (x i) (y i) s)
    (h : Run L.lower ⟨s, x⟩ t c)
    (hA : ∀ i v, (i, v) ∈ observed L.seenLower t → A i v) :
    ∃ t' d, Run L.upper ⟨a, y⟩ t' d ∧ L.rel d.shared c.shared ∧
      observed L.seenUpper t' = observed L.seenLower t ∧
      ∀ i, L.Implements (A i) (c.thread i) (d.thread i) c.shared := by
  induction h with
  | nil => exact ⟨[], ⟨a, y⟩, .nil, hrel, rfl, hstart⟩
  | @snoc t c₁ rec c₂ _ hstep ih =>
    rw [observed_append] at hA
    obtain ⟨t', d, hrun, hrel₁, hobs, hthread⟩ :=
      ih fun i v hv => hA i v (List.mem_append_left _ hv)
    cases hstep with
    | @cmd i d' k r s' hth hcmd =>
      have hi := hthread i
      rw [hth] at hi
      have hAi : ∀ v, L.seenLower ⟨d', r⟩ = some v → A i v := by
        intro v hv
        exact hA i v (List.mem_append_right _
          (mem_observed.mpr ⟨_, List.mem_singleton_self _, _, rfl, hv⟩))
      obtain ⟨hrely, hpoint⟩ := hi _ (hrefl _) _ r s' hrel₁ hcmd hAi
      -- The others only see that the state has moved along `rely`.
      have hothers : ∀ j, L.Implements (A j) (c₁.thread j) (d.thread j) s' :=
        fun j => (hthread j).stable htrans hrely
      rcases hpoint with ⟨hseen, hrel₂, hk⟩ | ⟨cu, g, r', a', hd, hup, hseen, hrel₂, hk⟩
      · refine ⟨t', d, hrun, hrel₂, ?_, fun j => ?_⟩
        · rw [observed_append, observed_cmd, hseen, hobs]
          exact (List.append_nil _).symm
        · by_cases hj : j = i
          · subst hj
            simpa using hk
          · simpa [Function.update_of_ne hj] using hothers j
      · refine ⟨_, _, hrun.snoc (.cmd hd hup), hrel₂, ?_, fun j => ?_⟩
        · rw [observed_append, observed_append, observed_cmd, observed_cmd, hseen, hobs]
        · by_cases hj : j = i
          · subst hj
            simpa using hk
          · simpa [Function.update_of_ne hj] using hothers j
    | @env s' hmove =>
      obtain ⟨hrel₂, hrely⟩ := henv _ _ _ hrel₁ hmove
      refine ⟨t', d, hrun, hrel₂, ?_, fun j => (hthread j).stable htrans hrely⟩
      rw [observed_append, observed_env, hobs]
      exact (List.append_nil _).symm

end

end SparkGateway.Lib

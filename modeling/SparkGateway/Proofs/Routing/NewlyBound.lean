import SparkGateway.Proofs.Routing.Sticky
import SparkGateway.Proofs.Routing.TableAccess

/-!
# `SparkGateway.Proofs.Routing.NewlyBound`: who reports a new binding

`resolve_session_detailed` reports `newly_bound` when the address that won the bind is the one
it picked. The call whose bind inserted the entry does so. So does every other call that
missed in its lookup and happened to pick the same address, because its bind returns that
address too. `exactlyOneCreator_iff` says when this does not happen: in a stretch of a run
between two removals of a key's binding, exactly one call reports a new binding, the one that
inserted it, if and only if no bind in the stretch finds the key bound to its own pick.

The calls are `resolve_session_detailed` and `forget_session` calls on one `MemoryStore`, in
any interleaving of their atomic steps. A step changes the binding of a key in two ways only
(`step_session_cases`), so a stretch has one shape: the first bind inserts, and every later one
finds the entry it made (`Stretch.first_bind`).
-/

set_option autoImplicit false

namespace SparkGateway.Proofs.Routing

open SparkGateway.Lib
open SparkGateway.Spec

section
variable {ι : Type}

/-- The steps of calls on a `MemoryStore`. -/
abbrev MemoryRecord (ι : Type) : Type := Record (RouterSig MemorySig) MemoryStore.State ι

/-- A bind of `chosen` that returned `winner`. -/
def bindEvent (key : SessionKey) (chosen winner : String) : Event (RouterSig MemorySig) :=
  ⟨.inr (.bindSessionIfAbsent key chosen), winner⟩

/-- A `forget_session` of the key. -/
def forgetEvent (key : SessionKey) : Event (RouterSig MemorySig) :=
  ⟨.inr (.forgetSession key), ()⟩

/-- The step is the bind of the call `i` on the key: `chosen` is its pick, and `winner` what
the bind returned. -/
def BindsAt (key : SessionKey) (rec : MemoryRecord ι) (i : ι) (chosen winner : String) : Prop :=
  rec.actor = some (i, bindEvent key chosen winner)

/-- The step removes the binding of the key. -/
def Removes (key : SessionKey) (rec : MemoryRecord ι) : Prop :=
  (∃ i, rec.actor = some (i, forgetEvent key)) ∧ rec.pre.sessions key ≠ none

/-- `seg` is the stretch of the run `t` between two consecutive removals of the key's binding,
or before the first, or after the last. -/
structure Stretch (key : SessionKey) (t pre seg post : List (MemoryRecord ι)) : Prop where
  split : t = pre ++ seg ++ post
  inside : ∀ rec ∈ seg, ¬ Removes key rec
  starts : pre = [] ∨ ∃ rec, pre.getLast? = some rec ∧ Removes key rec
  ends : post = [] ∨ ∃ rec, post.head? = some rec ∧ Removes key rec

/-- The call has returned an outcome with `newly_bound = true`. -/
def ReportsNew (p : Prog (RouterSig MemorySig) CallResult) : Prop :=
  ∃ addr, p = .ret (.outcome (.ok (some ⟨addr, true⟩)))

/-- Exactly one of the calls whose bind is in the stretch reports a new binding, and it is the
call whose bind inserted the entry. -/
def ExactlyOneCreator (key : SessionKey) (seg : List (MemoryRecord ι))
    (c : Config (RouterSig MemorySig) MemoryStore.State ι CallResult) : Prop :=
  ∃ i, (∃ rec ∈ seg, (∃ chosen winner, BindsAt key rec i chosen winner) ∧
      rec.pre.sessions key = none) ∧
    ReportsNew (c.thread i) ∧
    ∀ j, (∃ rec ∈ seg, ∃ chosen winner, BindsAt key rec j chosen winner) →
      ReportsNew (c.thread j) → j = i

/-- No bind in the stretch finds the key already bound to the address that the call picked. -/
def NoSamePick (key : SessionKey) (seg : List (MemoryRecord ι)) : Prop :=
  ∀ rec ∈ seg, ∀ i chosen winner, BindsAt key rec i chosen winner →
    rec.pre.sessions key ≠ some chosen

/-! ### One step -/

variable [DecidableEq ι] {c c' : Config (RouterSig MemorySig) MemoryStore.State ι CallResult}
  {rec : MemoryRecord ι} {key : SessionKey}

/-- A step of the router picks, or it accesses the store. -/
theorem router_accesses (h : Step memoryBacking.semantics c rec c') :
    Accesses (fun cmd reply => (⟨.inr cmd, reply⟩ : Event (RouterSig MemorySig))) id rec := by
  cases h with
  | env henv => rcases henv with henv | henv <;> exact henv.elim
  | @cmd i cmd k r s' hth hcmd =>
    rcases cmd with pool | cmd
    · obtain rfl : s' = c.shared := hcmd
      exact .inl rfl
    · exact .inr ⟨i, cmd, r, rfl, hcmd⟩

/-- A bind answers with the binding that it leaves: the one that it found, or its own pick. -/
theorem BindsAt.reply {i : ι} {chosen winner : String} (hbind : BindsAt key rec i chosen winner)
    (h : Step memoryBacking.semantics c rec c') :
    rec.post.sessions key = some winner ∧
      (rec.pre.sessions key = some winner ∨ rec.pre.sessions key = none ∧ winner = chosen) :=
  bind_reply (h.cmd_of hbind)

/-- What a step does to the binding of a key: nothing, an insertion by a bind on the key, or a
removal. -/
theorem step_session_cases (h : Step memoryBacking.semantics c rec c') (key : SessionKey) :
    rec.post.sessions key = rec.pre.sessions key ∨
    (∃ i chosen winner, BindsAt key rec i chosen winner ∧ rec.pre.sessions key = none) ∨
    (Removes key rec ∧ rec.post.sessions key = none) := by
  rcases (router_accesses h).session_cases key with
    hsame | ⟨i, chosen, winner, hact, hold, -⟩ | ⟨i, hact, hold, hnone⟩
  · exact .inl hsame
  · exact .inr (.inl ⟨i, chosen, winner, hact, hold⟩)
  · exact .inr (.inr ⟨⟨⟨i, hact⟩, hold⟩, hnone⟩)

end

/-! ### One call -/

/-- The calls of a run here: `resolve_session_detailed` and `forget_session`. -/
def ResolvesOrForgets (call : RouterCall) : Prop :=
  (∃ key, call = .resolveSessionDetailed key) ∨ ∃ key, call = .forgetSession key

/-- Whether an event is a bind. -/
def isBind : Event (RouterSig MemorySig) → Bool
  | ⟨.inr (.bindSessionIfAbsent _ _), _⟩ => true
  | _ => false

/-- The path of a `resolve_session_detailed` call: without a bind, or ending with its one bind,
on its key, and then it reports a new binding exactly when the bind returned its pick. -/
theorem detailed_after {r : TenantRouter} {key : SessionKey}
    {es : List (Event (RouterSig MemorySig))} {q : Prog (RouterSig MemorySig) CallResult}
    (h : Prog.After ((RouterCall.resolveSessionDetailed key).prog ⟨r, MemoryStore.store⟩) es q) :
    es.countP isBind = 0 ∨
    ∃ pre chosen winner, es = pre ++ [bindEvent key chosen winner] ∧ pre.countP isBind = 0 ∧
      q = .ret (.outcome (.ok (some ⟨winner, winner == chosen⟩))) := by
  simp only [RouterCall.prog, Router.resolveSessionDetailed] at h
  cases hpool : r.poolFor key.tenant with
  | error status =>
    simp only [hpool] at h
    obtain ⟨rfl, -⟩ := Prog.after_ret.mp h
    exact Or.inl rfl
  | ok pool? =>
    cases pool? with
    | none =>
      simp only [hpool] at h
      obtain ⟨rfl, -⟩ := Prog.after_ret.mp h
      exact Or.inl rfl
    | some pool =>
      simp only [hpool] at h
      cases hzero : key.isZero with
      | true =>
        -- Without a session id there is a pick and no bind.
        simp only [hzero, if_true] at h
        rcases Prog.after_step.mp h with ⟨rfl, -⟩ | ⟨picked, es', rfl, hrest⟩
        · exact Or.inl rfl
        obtain ⟨rfl, -⟩ := Prog.after_ret.mp hrest
        exact Or.inl rfl
      | false =>
        simp only [hzero, Bool.false_eq_true, if_false] at h
        -- The lookup.
        rcases Prog.after_step.mp h with ⟨rfl, -⟩ | ⟨found, es₁, rfl, h₁⟩
        · exact Or.inl rfl
        rcases found with _ | existing
        · -- The pick.
          rcases Prog.after_step.mp h₁ with ⟨rfl, -⟩ | ⟨picked, es₂, rfl, h₂⟩
          · exact Or.inl rfl
          rcases picked with _ | chosen
          · obtain ⟨rfl, -⟩ := Prog.after_ret.mp h₂
            exact Or.inl rfl
          · -- The bind.
            rcases Prog.after_step.mp h₂ with ⟨rfl, -⟩ | ⟨winner, es₃, rfl, h₃⟩
            · exact Or.inl rfl
            obtain ⟨rfl, rfl⟩ := Prog.after_ret.mp h₃
            exact Or.inr ⟨[_, _], chosen, winner, rfl, rfl, rfl⟩
        · obtain ⟨rfl, -⟩ := Prog.after_ret.mp h₁
          exact Or.inl rfl

/-- A `forget_session` call does not bind. -/
theorem forgetSession_after {r : TenantRouter} {key : SessionKey}
    {es : List (Event (RouterSig MemorySig))} {q : Prog (RouterSig MemorySig) CallResult}
    (h : Prog.After ((RouterCall.forgetSession key).prog ⟨r, MemoryStore.store⟩) es q) :
    es.countP isBind = 0 := by
  rcases Prog.after_step.mp h with ⟨rfl, -⟩ | ⟨u, es', rfl, hrest⟩
  · rfl
  · obtain ⟨rfl, -⟩ := Prog.after_ret.mp hrest
    rfl

/-! ### Whole runs -/

section
variable {ι : Type} [DecidableEq ι]

/-- Calls of any replicas at their start, on an empty `MemoryStore`. -/
def memoryCalls (replica : ι → TenantRouter) (call : ι → RouterCall) :
    Config (RouterSig MemorySig) MemoryStore.State ι CallResult :=
  ⟨MemoryStore.new, fun i => (call i).prog ⟨replica i, MemoryStore.store⟩⟩

variable {replica : ι → TenantRouter} {call : ι → RouterCall} {t : List (MemoryRecord ι)}
  {c : Config (RouterSig MemorySig) MemoryStore.State ι CallResult} {key : SessionKey}

/-- A call that has bound is a `resolve_session_detailed` call on the key. It has returned, and
it binds once. -/
theorem bound_call (hcalls : ∀ i, ResolvesOrForgets (call i))
    (hrun : Run memoryBacking.semantics (memoryCalls replica call) t c) {rec : MemoryRecord ι}
    (hrec : rec ∈ t) {i : ι} {chosen winner : String} (hbind : BindsAt key rec i chosen winner) :
    call i = .resolveSessionDetailed key ∧ (eventsOf i t).countP isBind = 1 ∧
      c.thread i = .ret (.outcome (.ok (some ⟨winner, winner == chosen⟩))) := by
  have hpath := hrun.after i
  have hmem : bindEvent key chosen winner ∈ eventsOf i t := mem_eventsOf.mpr ⟨rec, hrec, hbind⟩
  have hpos : (eventsOf i t).countP isBind ≠ 0 := by
    intro h0
    exact absurd rfl (List.countP_eq_zero.mp h0 _ hmem)
  rcases hcalls i with ⟨k, hcall⟩ | ⟨k, hcall⟩
  · simp only [memoryCalls, hcall] at hpath
    rcases detailed_after hpath with h0 | ⟨pre, chosen', winner', hes, hpre, hq⟩
    · exact absurd h0 hpos
    · rw [hes] at hmem ⊢
      -- The bind of the record is the one at the end of the path.
      have heq : bindEvent key chosen winner = bindEvent k chosen' winner' := by
        rcases List.mem_append.mp hmem with hin | hin
        · exact absurd rfl (List.countP_eq_zero.mp hpre _ hin)
        · exact List.mem_singleton.mp hin
      obtain ⟨hcmd, hw⟩ := Sigma.mk.inj heq
      cases hcmd
      cases hw
      refine ⟨hcall, ?_, hq⟩
      rw [List.countP_append, hpre]
      rfl
  · simp only [memoryCalls, hcall] at hpath
    exact absurd (forgetSession_after hpath) hpos

/-- A call that has bound reports a new binding exactly when the bind returned its pick. -/
theorem reportsNew_iff (hcalls : ∀ i, ResolvesOrForgets (call i))
    (hrun : Run memoryBacking.semantics (memoryCalls replica call) t c) {rec : MemoryRecord ι}
    (hrec : rec ∈ t) {i : ι} {chosen winner : String} (hbind : BindsAt key rec i chosen winner) :
    ReportsNew (c.thread i) ↔ winner = chosen := by
  rw [(bound_call hcalls hrun hrec hbind).2.2]
  simp [ReportsNew]

/-- Two binds of one call are one step. -/
theorem binds_once (hcalls : ∀ i, ResolvesOrForgets (call i))
    {A B : List (MemoryRecord ι)} {rec rec' : MemoryRecord ι}
    (hrun : Run memoryBacking.semantics (memoryCalls replica call) (A ++ rec :: B) c)
    {i : ι} {chosen winner chosen' winner' : String} (hbind : BindsAt key rec i chosen winner)
    (hrec' : rec' ∈ B) : ¬ BindsAt key rec' i chosen' winner' := by
  intro hbind'
  -- Both binds are events of `i`, but the path of a call has one.
  have hone := (bound_call hcalls hrun (by simp) hbind).2.1
  have hfirst : eventsOf i [rec] = [bindEvent key chosen winner] := by
    obtain ⟨actor, pre, post⟩ := rec
    obtain rfl : actor = _ := hbind
    simp
  have hsecond : 0 < (eventsOf i B).countP isBind :=
    List.countP_pos_iff.mpr ⟨_, mem_eventsOf.mpr ⟨rec', hrec', hbind'⟩, rfl⟩
  rw [← List.singleton_append, eventsOf_append, eventsOf_append, hfirst, List.countP_append,
    List.countP_append] at hone
  have hself : [bindEvent key chosen winner].countP isBind = 1 := rfl
  omega

omit [DecidableEq ι] in
/-- The steps of a stretch are steps of the run. -/
theorem Stretch.mem {pre seg post : List (MemoryRecord ι)} (hst : Stretch key t pre seg post)
    {rec : MemoryRecord ι} (hrec : rec ∈ seg) : rec ∈ t := by
  rw [hst.split]
  exact List.mem_append_left _ (List.mem_append_right _ hrec)

/-- A stretch begins with the key unbound. -/
theorem Stretch.unbound {pre seg post : List (MemoryRecord ι)} (hst : Stretch key t pre seg post)
    {c₁ : Config (RouterSig MemorySig) MemoryStore.State ι CallResult}
    (hrun : Run memoryBacking.semantics (memoryCalls replica call) pre c₁) :
    c₁.shared.sessions key = none := by
  rcases hst.starts with rfl | ⟨rec, hlast, ⟨i, hact⟩, -⟩
  · rw [run_nil_iff.mp hrun]
    rfl
  · -- The last step before the stretch is a removal.
    obtain ⟨pre', rfl⟩ := List.getLast?_eq_some_iff.mp hlast
    obtain ⟨c₀, -, hstep⟩ := run_snoc_iff.mp hrun
    obtain ⟨-, hpost⟩ := Prod.mk.inj (hstep.cmd_of hact)
    rw [← hstep.shared.2, ← hpost]
    exact Function.update_self _ _ _

/-- Without binds and removals an unbound key stays unbound. -/
theorem unbound_invariant {c c' : Config (RouterSig MemorySig) MemoryStore.State ι CallResult}
    {A : List (MemoryRecord ι)} (hrun : Run memoryBacking.semantics c A c')
    (hbind : ∀ rec ∈ A, ∀ i chosen winner, ¬ BindsAt key rec i chosen winner)
    (h0 : c.shared.sessions key = none) : c'.shared.sessions key = none := by
  refine hrun.invariant (P := fun s => s.sessions key = none) ?_ h0
  intro rec hrec hpre
  obtain ⟨c₁, c₂, hstep⟩ := hrun.step_of_mem hrec
  rcases step_session_cases hstep key with hsame | ⟨i, chosen, winner, hb, -⟩ | ⟨-, hpost⟩
  · rw [hsame]
    exact hpre
  · exact absurd hb (hbind rec hrec i chosen winner)
  · exact hpost

/-- Without removals a binding stays. -/
theorem bound_invariant {c c' : Config (RouterSig MemorySig) MemoryStore.State ι CallResult}
    {B : List (MemoryRecord ι)} (hrun : Run memoryBacking.semantics c B c')
    (hrem : ∀ rec ∈ B, ¬ Removes key rec) {a : String}
    (h0 : c.shared.sessions key = some a) : c'.shared.sessions key = some a := by
  refine hrun.invariant (P := fun s => s.sessions key = some a) ?_ h0
  intro rec hrec hpre
  obtain ⟨c₁, c₂, hstep⟩ := hrun.step_of_mem hrec
  rcases step_session_cases hstep key with hsame | ⟨i, chosen, winner, -, hnone⟩ | ⟨hr, -⟩
  · rw [hsame]
    exact hpre
  · rw [hnone] at hpre
    cases hpre
  · exact absurd hr (hrem rec hrec)

/-- The shape of a stretch with a bind: the first bind inserts its pick, and every later step
finds it. -/
theorem Stretch.first_bind {pre seg post : List (MemoryRecord ι)}
    (hst : Stretch key t pre seg post)
    (hrun : Run memoryBacking.semantics (memoryCalls replica call) t c)
    (hbind : ∃ rec ∈ seg, ∃ i chosen winner, BindsAt key rec i chosen winner) :
    ∃ A rec B i a, seg = A ++ rec :: B ∧ BindsAt key rec i a a ∧ rec.pre.sessions key = none ∧
      (∀ rec' ∈ A, ∀ j chosen winner, ¬ BindsAt key rec' j chosen winner) ∧
      ∀ rec' ∈ B, rec'.pre.sessions key = some a := by
  classical
  have hsplit := hst.split
  subst hsplit
  obtain ⟨c₂, hrun₂, -⟩ := run_append_iff.mp hrun
  obtain ⟨c₁, hpre, hseg⟩ := run_append_iff.mp hrun₂
  -- Cut the stretch at its first bind.
  obtain ⟨rec₀, hrec₀, hb₀⟩ := hbind
  obtain ⟨rec, hfind⟩ : ∃ rec, seg.find?
      (fun rec => decide (∃ i chosen winner, BindsAt key rec i chosen winner)) = some rec :=
    Option.isSome_iff_exists.mp (List.find?_isSome.mpr ⟨rec₀, hrec₀, decide_eq_true hb₀⟩)
  obtain ⟨hb, A, B, rfl, hA⟩ := List.find?_eq_some_iff_append.mp hfind
  obtain ⟨i, chosen, winner, hbindAt⟩ := of_decide_eq_true hb
  have hnoBind : ∀ rec' ∈ A, ∀ j chosen winner, ¬ BindsAt key rec' j chosen winner := by
    intro rec' hrec' j chosen winner hb'
    have hnot := hA rec' hrec'
    simp only [Bool.not_eq_true', decide_eq_false_iff_not] at hnot
    exact hnot ⟨j, chosen, winner, hb'⟩
  obtain ⟨c₃, c₄, hA_run, hstep, hB_run⟩ := hseg.step_at
  have hnone : rec.pre.sessions key = none := by
    rw [hstep.shared.1]
    exact unbound_invariant hA_run hnoBind (hst.unbound hpre)
  -- It finds the key unbound, so it inserts its pick.
  obtain ⟨hpost, hfound | ⟨-, rfl⟩⟩ := hbindAt.reply hstep
  · exact absurd (hnone.symm.trans hfound) (by simp)
  refine ⟨A, rec, B, i, winner, rfl, hbindAt, hnone, hnoBind, ?_⟩
  -- After it, the binding lasts to the end of the stretch.
  intro rec' hrec'
  obtain ⟨B₁, B₂, rfl⟩ := List.append_of_mem hrec'
  obtain ⟨c₅, c₆, hB₁, hstep', -⟩ := hB_run.step_at
  rw [hstep'.shared.1]
  refine bound_invariant hB₁ ?_ (hstep.shared.2 ▸ hpost)
  intro r hr
  exact hst.inside r (by simp [hr])

/-- **One creator per binding.** In every interleaving of `resolve_session_detailed` and
`forget_session` calls, and every stretch between two removals of a key's binding in which a
bind on the key happens: exactly one of the calls whose bind is in the stretch reports a new
binding, and it is the one that inserted the entry, if and only if no bind in the stretch finds
the key bound to its own pick. -/
theorem exactlyOneCreator_iff (hcalls : ∀ i, ResolvesOrForgets (call i))
    (hrun : Run memoryBacking.semantics (memoryCalls replica call) t c)
    {pre seg post : List (MemoryRecord ι)} (hst : Stretch key t pre seg post)
    (hbind : ∃ rec ∈ seg, ∃ i chosen winner, BindsAt key rec i chosen winner) :
    ExactlyOneCreator key seg c ↔ NoSamePick key seg := by
  obtain ⟨A, rec, B, i, a, hseg, hfirst, hnone, hA, hB⟩ := hst.first_bind hrun hbind
  have ht : t = (pre ++ A) ++ rec :: (B ++ post) := by
    rw [hst.split, hseg]
    simp
  have hrec : rec ∈ seg := by simp [hseg]
  have hinserter : ReportsNew (c.thread i) :=
    (reportsNew_iff hcalls hrun (hst.mem hrec) hfirst).mpr rfl
  -- A bind of the stretch is the first one, or it finds the entry that the first one made.
  have hcases : ∀ r ∈ seg, ∀ j chosen winner, BindsAt key r j chosen winner →
      r = rec ∨ r ∈ B ∧ r.pre.sessions key = some a ∧ winner = a := by
    intro r hr j chosen winner hb
    rw [hseg] at hr
    rcases List.mem_append.mp hr with hr | hr
    · exact absurd hb (hA r hr j chosen winner)
    · rcases List.mem_cons.mp hr with rfl | hr
      · exact Or.inl rfl
      · have hmem : r ∈ seg := by simp [hseg, hr]
        obtain ⟨c₁, c₂, hstep⟩ := hrun.step_of_mem (hst.mem hmem)
        -- A bound key keeps its binding, and the bind returns it.
        obtain ⟨-, hfound | ⟨hnone', -⟩⟩ := hb.reply hstep
        · exact Or.inr ⟨hr, hB r hr, Option.some.inj (hfound.symm.trans (hB r hr))⟩
        · exact absurd (hnone'.symm.trans (hB r hr)) (by simp)
  constructor
  · -- A call that finds its own pick reports too, and it is not the inserter.
    intro hone r hr j chosen winner hb hsame
    obtain ⟨i', -, -, honly⟩ := hone
    rcases hcases r hr j chosen winner hb with rfl | ⟨hrB, hra, rfl⟩
    · rw [hnone] at hsame
      cases hsame
    · have hpick : winner = chosen := Option.some.inj (hra.symm.trans hsame)
      have hj : ReportsNew (c.thread j) := (reportsNew_iff hcalls hrun (hst.mem hr) hb).mpr hpick
      have hij : j = i := (honly j ⟨r, hr, chosen, winner, hb⟩ hj).trans
        (honly i ⟨rec, hrec, winner, winner, hfirst⟩ hinserter).symm
      subst hij
      exact binds_once hcalls (ht ▸ hrun) hfirst (List.mem_append_left post hrB) hb
  · -- Every later bind finds an address that is not its pick, so it does not report.
    intro hno
    refine ⟨i, ⟨rec, hrec, ⟨a, a, hfirst⟩, hnone⟩, hinserter, ?_⟩
    intro j hj hreports
    obtain ⟨r, hr, chosen, winner, hb⟩ := hj
    rcases hcases r hr j chosen winner hb with rfl | ⟨-, hra, rfl⟩
    · have hact := Option.some.inj (hb.symm.trans hfirst)
      exact (Prod.mk.inj hact).1
    · have hpick : winner = chosen := (reportsNew_iff hcalls hrun (hst.mem hr) hb).mp hreports
      subst hpick
      exact absurd hra (hno r hr j winner winner hb)

end

end SparkGateway.Proofs.Routing

import SparkGateway.Lib.Project
import SparkGateway.Proofs.Routing.NewlyBound
import SparkGateway.Spec.Sequential

/-!
# `SparkGateway.Proofs.Routing.SessionCreate`: one `session.create` per binding

`resolve_session_audited` writes `session.create` when `resolve_session_detailed` reports a new
binding. Its router part is a run of `resolve_session_detailed` and the rest only writes to the
log (`SessionCall.prog_eq`), so a run of audited calls projects onto a run of the router calls
of `NewlyBound` (`Run.lefts`), and what is known about the creators of a binding there is known
about the events here: a binding gets one `session.create` if and only if no bind finds the key
bound to its own pick. `bothCreators` is the smallest run in which it gets two.
-/

set_option autoImplicit false

namespace SparkGateway.Proofs.Routing

open SparkGateway.Lib
open SparkGateway.Spec

/-- A call of the proxy that resolves or forgets a session. -/
inductive SessionCall where
  | resolve (key : SessionKey) (rid : String) (identity : Identity)
  | forget (key : SessionKey)

namespace SessionCall

/-- The program of a call. -/
def prog (gw : Gateway MemorySig) :
    SessionCall → Prog (GatewaySig MemorySig) (Except Status (Option String))
  | .resolve key rid identity => gw.resolveSessionAudited key rid identity
  | .forget key => do
      route (gw.router.forgetSession key)
      pure (.ok none)

/-- The call of the router that it makes. -/
def routerCall : SessionCall → RouterCall
  | .resolve key _ _ => .resolveSessionDetailed key
  | .forget key => .forgetSession key

/-- What it does with the router's result. -/
def report (gw : Gateway MemorySig) :
    SessionCall → CallResult → Prog (GatewaySig MemorySig) (Except Status (Option String))
  | .resolve key rid identity, .outcome (.ok (some o)) => do
      if o.newlyBound then
        gw.emit (.sessionCreate rid key.tenant identity.userId (",".intercalate identity.groups)
          key.sessionId o.addr)
      pure (.ok (some o.addr))
  | .resolve _ _ _, .outcome (.error status) => pure (.error status)
  | _, _ => pure (.ok none)

/-- A call is its router call and then the report. -/
theorem prog_eq (gw : Gateway MemorySig) (call : SessionCall) :
    call.prog gw = (call.routerCall.prog gw.router).inl >>= call.report gw := by
  cases call with
  | forget key =>
    simp only [prog, routerCall, RouterCall.prog, Prog.inl_bind, Prog.bind_assoc, route]
    rfl
  | resolve key rid identity =>
    simp only [prog, routerCall, RouterCall.prog, Prog.inl_bind, Prog.bind_assoc,
      Gateway.resolveSessionAudited, route]
    -- The router part is the same program, and the reports agree on each outcome.
    congr 1
    funext outcome
    rcases outcome with status | _ | o <;> rfl

/-- The report makes no call of the router. -/
theorem report_uses (gw : Gateway MemorySig) (call : SessionCall) (result : CallResult) :
    (call.report gw result).Uses IsRight := by
  unfold report
  split
  · dsimp only
    split
    · unfold Gateway.emit
      split
      · exact ⟨trivial, fun _ => trivial⟩
      · trivial
    · trivial
  · trivial
  · trivial

end SessionCall

/-- Whether an event writes a `session.create`. -/
def isCreate : Event (GatewaySig MemorySig) → Bool
  | ⟨.inr (.audit (.sessionCreate _ _ _ _ _ _)), _⟩ => true
  | _ => false

/-- A finished report has written one `session.create` exactly when the binding is new. -/
theorem report_creates {gw : Gateway MemorySig} (henabled : gw.audit.enabled = true)
    {key : SessionKey} {rid : String} {identity : Identity} {o : ResolveOutcome}
    {es : List (Event (GatewaySig MemorySig))} {v : Except Status (Option String)}
    (h : ((SessionCall.resolve key rid identity).report gw (.outcome (.ok (some o)))).After es
      (.ret v)) :
    es.countP isCreate = if o.newlyBound then 1 else 0 := by
  obtain ⟨addr, newlyBound⟩ := o
  cases newlyBound with
  | false =>
    obtain ⟨rfl, -⟩ := Prog.after_ret.mp h
    rfl
  | true =>
    simp only [SessionCall.report, Gateway.emit, AuditConfig.writes, henabled, if_true] at h
    obtain ⟨u, es', rfl, hrest⟩ := h.first
    obtain ⟨rfl, -⟩ := hrest.returned
    rfl

section
variable {ι : Type} [DecidableEq ι]

/-- The steps of audited calls on one `MemoryStore`. -/
def auditedSemantics : Semantics (GatewaySig MemorySig) MemoryStore.State :=
  memoryBacking.semantics.sum (Semantics.arbitrary ProxySig MemoryStore.State)

/-- Calls of any gateways at their start, on an empty `MemoryStore`. -/
def auditedCalls (gw : ι → Gateway MemorySig) (call : ι → SessionCall) :
    Config (GatewaySig MemorySig) MemoryStore.State ι (Except Status (Option String)) :=
  ⟨MemoryStore.new, fun i => (call i).prog (gw i)⟩

/-- Every gateway uses the in-process store, and its audit log is enabled. -/
def Auditing (gw : ι → Gateway MemorySig) : Prop :=
  ∀ i, (gw i).router.store = MemoryStore.store ∧ (gw i).audit.enabled = true

/-- The call binds the key in the stretch. -/
def BindsIn (key : SessionKey) (seg : List (MemoryRecord ι)) (i : ι) : Prop :=
  ∃ rec ∈ seg, ∃ chosen winner, BindsAt key rec i chosen winner

/-- Exactly one `session.create` is written by the calls whose bind is in the stretch, and the
call whose bind inserted the entry writes it. -/
def CreatedOnce (key : SessionKey) (seg : List (MemoryRecord ι))
    (t : List (Record (GatewaySig MemorySig) MemoryStore.State ι)) : Prop :=
  ∃ i, (∃ rec ∈ seg, (∃ chosen winner, BindsAt key rec i chosen winner) ∧
      rec.pre.sessions key = none) ∧
    (eventsOf i t).countP isCreate = 1 ∧
    ∀ j, BindsIn key seg j → (eventsOf j t).countP isCreate ≠ 0 → j = i

variable {gw : ι → Gateway MemorySig} {call : ι → SessionCall} {key : SessionKey}
  {t : List (Record (GatewaySig MemorySig) MemoryStore.State ι)}
  {c : Config (GatewaySig MemorySig) MemoryStore.State ι (Except Status (Option String))}

/-- A run of audited calls, at its router calls. -/
theorem audited_lefts (hgw : Auditing gw) (hrun : Run auditedSemantics (auditedCalls gw call) t c) :
    ∃ d, Run memoryBacking.semantics
        (memoryCalls (fun i => (gw i).router.tenants) fun i => (call i).routerCall) (lefts t) d ∧
      ∀ i, Linked ((call i).report (gw i)) (eventsOf i t) (c.thread i) (d.thread i) := by
  have hstart : auditedCalls gw call = ⟨MemoryStore.new, fun i =>
      ((call i).routerCall.prog ⟨(gw i).router.tenants, MemoryStore.store⟩).inl >>=
        (call i).report (gw i)⟩ := by
    unfold auditedCalls
    congr 1
    funext i
    rw [SessionCall.prog_eq, ← (hgw i).1]
  rw [hstart] at hrun
  obtain ⟨d, hd, -, hlinked⟩ := hrun.lefts fun i => (call i).report_uses (gw i)
  exact ⟨d, hd, hlinked⟩

/-- Every audited call resolves or forgets a session. -/
theorem routerCall_resolvesOrForgets (call : SessionCall) : ResolvesOrForgets call.routerCall := by
  cases call with
  | resolve key rid identity => exact .inl ⟨key, rfl⟩
  | forget key => exact .inr ⟨key, rfl⟩

/-- Commands of the router write nothing to the log. -/
theorem countP_isCreate_inl (es : List (Event (RouterSig MemorySig))) :
    (es.map (Event.inl : _ → Event (GatewaySig MemorySig))).countP isCreate = 0 := by
  rw [List.countP_eq_zero]
  intro e he
  obtain ⟨e', -, rfl⟩ := List.mem_map.mp he
  exact Bool.false_ne_true

/-- The `session.create` events of a finished call that has bound: one if the bind returned its
pick, else none. -/
theorem creates_eq (hgw : Auditing gw)
    {d : Config (RouterSig MemorySig) MemoryStore.State ι CallResult}
    (hd : Run memoryBacking.semantics
      (memoryCalls (fun i => (gw i).router.tenants) fun i => (call i).routerCall) (lefts t) d)
    (hlinked : ∀ i, Linked ((call i).report (gw i)) (eventsOf i t) (c.thread i) (d.thread i))
    {rec : MemoryRecord ι} (hrec : rec ∈ lefts t) {j : ι} {chosen winner : String}
    (hbind : BindsAt key rec j chosen winner) {v : Except Status (Option String)}
    (hdone : c.thread j = .ret v) :
    (eventsOf j t).countP isCreate = if winner = chosen then 1 else 0 := by
  obtain ⟨hcall, -, hthread⟩ :=
    bound_call (fun i => routerCall_resolvesOrForgets (call i)) hd hrec hbind
  obtain ⟨es₁, es₂, hes, hwhere⟩ := hlinked j
  -- The router part has returned, so the call is on a path of its report, at the end of it.
  have hpath : ((call j).report (gw j) (.outcome (.ok (some ⟨winner, winner == chosen⟩)))).After
      es₂ (.ret v) := by
    rw [hthread, hdone] at hwhere
    rcases hwhere with ⟨rfl, hx⟩ | ⟨a, ha, hafter⟩
    · rw [hx]
      exact .nil _
    · cases ha
      exact hafter
  cases hj : call j with
  | forget k =>
    rw [hj] at hcall
    cases hcall
  | resolve k rid identity =>
    rw [hj] at hpath
    rw [hes, List.countP_append, countP_isCreate_inl, report_creates (hgw j).2 hpath]
    simp

/-- A binding gets exactly one `session.create`, from the call that inserted it, if and only if
no bind in its stretch finds the key bound to its own pick. -/
theorem createdOnce_iff (hgw : Auditing gw)
    (hrun : Run auditedSemantics (auditedCalls gw call) t c) {pre seg post : List (MemoryRecord ι)}
    (hst : Stretch key (lefts t) pre seg post)
    (hbind : ∃ rec ∈ seg, ∃ i chosen winner, BindsAt key rec i chosen winner)
    (hdone : ∀ i, BindsIn key seg i → ∃ v, c.thread i = .ret v) :
    CreatedOnce key seg t ↔ NoSamePick key seg := by
  obtain ⟨d, hd, hlinked⟩ := audited_lefts hgw hrun
  have hcalls : ∀ i, ResolvesOrForgets (call i).routerCall :=
    fun i => routerCall_resolvesOrForgets (call i)
  -- A call of the stretch writes its event exactly when its router call reports.
  have hcount : ∀ i, BindsIn key seg i →
      (ReportsNew (d.thread i) → (eventsOf i t).countP isCreate = 1) ∧
      ((eventsOf i t).countP isCreate ≠ 0 → ReportsNew (d.thread i)) := by
    intro i hi
    obtain ⟨v, hv⟩ := hdone i hi
    obtain ⟨rec, hrec, chosen, winner, hb⟩ := hi
    rw [creates_eq hgw hd hlinked (hst.mem hrec) hb hv, reportsNew_iff hcalls hd (hst.mem hrec) hb]
    by_cases hsame : winner = chosen
    · simp [hsame]
    · simp [hsame]
  -- So the two ways to count creators agree, call by call.
  rw [← exactlyOneCreator_iff hcalls hd hst hbind]
  constructor
  · rintro ⟨i, ⟨rec, hrec, ⟨chosen, winner, hb⟩, hnone⟩, hone, honly⟩
    have hbinds : BindsIn key seg i := ⟨rec, hrec, chosen, winner, hb⟩
    refine ⟨i, ⟨rec, hrec, ⟨chosen, winner, hb⟩, hnone⟩, (hcount i hbinds).2 (by omega), ?_⟩
    intro j hj hnew
    have hj1 := (hcount j hj).1 hnew
    exact honly j hj (by omega)
  · rintro ⟨i, ⟨rec, hrec, ⟨chosen, winner, hb⟩, hnone⟩, hnew, honly⟩
    have hbinds : BindsIn key seg i := ⟨rec, hrec, chosen, winner, hb⟩
    refine ⟨i, ⟨rec, hrec, ⟨chosen, winner, hb⟩, hnone⟩, (hcount i hbinds).1 hnew, ?_⟩
    intro j hj hne
    exact honly j hj ((hcount j hj).2 hne)

/-- **One creator per binding.** In every interleaving of calls on one `MemoryStore`, and every
stretch between two removals of a key's binding in which a bind on the key happens. Among
`resolve_session_detailed` calls, exactly one of those whose bind is in the stretch reports a
new binding, and it is the one that inserted the entry, if and only if no bind in the stretch
finds the key bound to its own pick. Among `resolve_session_audited` calls that have returned,
the same condition decides whether `session.create` is written exactly once. -/
theorem oneCreator_iff_noSamePick {key : SessionKey} {pre seg post : List (MemoryRecord ι)}
    (hbind : ∃ rec ∈ seg, ∃ i chosen winner, BindsAt key rec i chosen winner) :
    (∀ replica call t c, (∀ i, ResolvesOrForgets (call i)) →
      Run memoryBacking.semantics (memoryCalls replica call) t c →
      Stretch key t pre seg post → (ExactlyOneCreator key seg c ↔ NoSamePick key seg)) ∧
    ∀ gw call t c, Auditing gw → Run auditedSemantics (auditedCalls gw call) t c →
      Stretch key (lefts t) pre seg post → (∀ i, BindsIn key seg i → ∃ v, c.thread i = .ret v) →
      (CreatedOnce key seg t ↔ NoSamePick key seg) := by
  refine ⟨fun replica call t c hcalls hrun hst => ?_, fun gw call t c hgw hrun hst hdone => ?_⟩
  · exact exactlyOneCreator_iff hcalls hrun hst hbind
  · exact createdOnce_iff hgw hrun hst hbind hdone

end

/-! ### Two calls that race -/

namespace Race

/-- The session that both calls resolve. -/
def key : SessionKey := ⟨"team-a", "alice", "sess-1"⟩

/-- Two calls of replicas with one pool. -/
def start : Config (RouterSig MemorySig) MemoryStore.State Bool CallResult :=
  memoryCalls (fun _ => .single 0) fun _ => .resolveSessionDetailed key

/-- The store before the session is bound. -/
def unbound : MemoryStore.State := MemoryStore.new

/-- The store once the session is bound. -/
def boundTo (a : String) : MemoryStore.State :=
  { unbound with sessions := Function.update unbound.sessions key (some a) }

/-- The bind that inserts the entry. -/
def firstBind (a : String) : MemoryRecord Bool :=
  ⟨some (true, bindEvent key a a), unbound, boundTo a⟩

/-- The bind that finds the entry. -/
def secondBind (a b : String) : MemoryRecord Bool :=
  ⟨some (false, bindEvent key b a), boundTo a, boundTo a⟩

/-- Both calls miss, the first picks `a` and the second `b`, the first binds and then the
second. -/
def trace (a b : String) : List (MemoryRecord Bool) :=
  [⟨some (true, ⟨.inr (.lookupSession key), (none : Option String)⟩), unbound, unbound⟩,
    ⟨some (false, ⟨.inr (.lookupSession key), (none : Option String)⟩), unbound, unbound⟩,
    ⟨some (true, ⟨.inl (.pick 0), some a⟩), unbound, unbound⟩,
    ⟨some (false, ⟨.inl (.pick 0), some b⟩), unbound, unbound⟩,
    firstBind a, secondBind a b]

/-- The entry of the session once it is bound. -/
theorem boundTo_key (a : String) : (boundTo a).sessions key = some a := by
  simp [boundTo]

theorem firstBind_mem (a b : String) : firstBind a ∈ trace a b := by
  simp [trace]

theorem secondBind_mem (a b : String) : secondBind a b ∈ trace a b := by
  simp [trace]

/-- The binds of the run. -/
theorem bind_cases {a b : String} {rec : MemoryRecord Bool} (hrec : rec ∈ trace a b) {i : Bool}
    {chosen winner : String} (hb : BindsAt key rec i chosen winner) :
    rec = firstBind a ∨ rec = secondBind a b ∧ chosen = b := by
  simp only [trace, List.mem_cons, List.not_mem_nil, or_false] at hrec
  rcases hrec with rfl | rfl | rfl | rfl | rfl | rfl
  · cases hb
  · cases hb
  · cases hb
  · cases hb
  · exact .inl rfl
  · cases hb
    exact .inr ⟨rfl, rfl⟩

/-- The trace is a run. The second call reports a new binding if it picked the same address. -/
theorem run (a b : String) : ∃ c, Run memoryBacking.semantics start (trace a b) c ∧
    c.thread true = .ret (.outcome (.ok (some ⟨a, true⟩))) ∧
    c.thread false = .ret (.outcome (.ok (some ⟨a, a == b⟩))) := by
  have hmiss : memoryBacking.semantics.cmd (.inr (.lookupSession key)) unbound
      (none : Option String) unbound := rfl
  have hpick : ∀ addr : Option String,
      memoryBacking.semantics.cmd (.inl (.pick 0)) unbound addr unbound := fun _ => rfl
  have hinsert : memoryBacking.semantics.cmd (.inr (.bindSessionIfAbsent key a)) unbound a
      (boundTo a) := MemoryStore.apply_bind_of_none (s := unbound) rfl a
  have hfind : memoryBacking.semantics.cmd (.inr (.bindSessionIfAbsent key b)) (boundTo a) a
      (boundTo a) := MemoryStore.apply_bind_of_some (boundTo_key a) b
  -- Both calls miss before either of them binds.
  have h₁ : Run memoryBacking.semantics start _ _ := Run.nil.snoc (.cmd (i := true) rfl hmiss)
  have h₂ := h₁.snoc (.cmd (i := false) rfl hmiss)
  have h₃ := h₂.snoc (.cmd (i := true) rfl (hpick (some a)))
  have h₄ := h₃.snoc (.cmd (i := false) rfl (hpick (some b)))
  have h₅ := h₄.snoc (.cmd (i := true) rfl hinsert)
  have h₆ := h₅.snoc (.cmd (i := false) rfl hfind)
  refine ⟨_, h₆, ?_, rfl⟩
  show Prog.ret (CallResult.outcome (.ok (some ⟨a, a == a⟩))) = _
  rw [beq_self_eq_true]

/-- The binding is never removed, so the whole run is one stretch. -/
theorem stretch (a b : String) : Stretch key (trace a b) [] (trace a b) [] := by
  refine ⟨by simp, ?_, .inl rfl, .inl rfl⟩
  rintro rec hrec ⟨⟨i, hact⟩, -⟩
  simp only [trace, List.mem_cons, List.not_mem_nil, or_false] at hrec
  rcases hrec with rfl | rfl | rfl | rfl | rfl | rfl <;> cases hact

/-- There is a bind in the run. -/
theorem binds (a b : String) :
    ∃ rec ∈ trace a b, ∃ i chosen winner, BindsAt key rec i chosen winner :=
  ⟨_, firstBind_mem a b, true, a, a, rfl⟩

end Race

/-- With different picks the call that inserted the entry is the only creator. -/
theorem oneCreator_differentPicks :
    ∃ c, Run memoryBacking.semantics Race.start (Race.trace "be-a:15002" "be-b:15002") c ∧
      ExactlyOneCreator Race.key (Race.trace "be-a:15002" "be-b:15002") c := by
  obtain ⟨c, hrun, -, -⟩ := Race.run "be-a:15002" "be-b:15002"
  have hst := Race.stretch "be-a:15002" "be-b:15002"
  refine ⟨c, hrun, ((oneCreator_iff_noSamePick (Race.binds _ _)).1 _ _ _ c
    (fun _ => .inl ⟨_, rfl⟩) hrun hst).mpr ?_⟩
  intro rec hrec i chosen winner hb
  rcases Race.bind_cases hrec hb with rfl | ⟨rfl, rfl⟩
  · intro hnone
    cases hnone
  · show (Race.boundTo "be-a:15002").sessions Race.key ≠ some "be-b:15002"
    rw [Race.boundTo_key]
    decide

/-- With the same pick both calls report a new binding. -/
theorem bothCreators :
    ∃ c, Run memoryBacking.semantics Race.start (Race.trace "be-a:15002" "be-a:15002") c ∧
      Stretch Race.key (Race.trace "be-a:15002" "be-a:15002") []
        (Race.trace "be-a:15002" "be-a:15002") [] ∧
      ReportsNew (c.thread true) ∧ ReportsNew (c.thread false) ∧
      ¬ ExactlyOneCreator Race.key (Race.trace "be-a:15002" "be-a:15002") c := by
  obtain ⟨c, hrun, htrue, hfalse⟩ := Race.run "be-a:15002" "be-a:15002"
  have hnew : ReportsNew (c.thread true) := ⟨_, htrue⟩
  have hnew' : ReportsNew (c.thread false) := ⟨_, hfalse⟩
  refine ⟨c, hrun, Race.stretch _ _, hnew, hnew', ?_⟩
  -- Both calls would have to be the one creator.
  rintro ⟨i, -, -, honly⟩
  have h₁ : true = i := honly true ⟨_, Race.firstBind_mem _ _, _, _, rfl⟩ hnew
  have h₂ : false = i := honly false ⟨_, Race.secondBind_mem _ _, _, _, rfl⟩ hnew'
  exact Bool.false_ne_true (h₂.trans h₁.symm)

end SparkGateway.Proofs.Routing

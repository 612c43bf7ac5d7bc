import SparkGateway.Proofs.Handler.BodyRun
import SparkGateway.Proofs.Handler.ReleaseRace

/-!
# `SparkGateway.Proofs.Handler.Contract`: what each command of a handler rests on

`Contract gw rpc es c` says what has to be behind a handler of `rpc` when it performs the command
`c`, where `es` are its events so far:

* nothing is picked, looked up, bound, forgotten, dialed or sent before the caller is `Admitted`:
  authenticated, with a tenant, and let through by the limiter if there is one;
* the pool, the session key and the operation are those of the caller and of the RPC;
* a new binding is an address that the tenant's pool has just picked;
* a backend is dialed, remembered or called only at an address that was `Obtained` by routing;
* a session or an operation is forgotten only after the backend answered Ok;
* an audit event reports what has happened (`Reported`), and the outcome of an RPC is written last
  (`Concluded`).

`handle_contract` proves this for the twelve handlers, whatever the replies, and that the outcome
which was written is the one that the handler returns (`Settled`). A statement about every
interleaving gets the contract for each command by `Run.issued`.
-/

set_option autoImplicit false

namespace SparkGateway.Proofs.Handler

open SparkGateway.Lib
open SparkGateway.Spec

/-- An event of a handler on a `MemoryStore`. -/
abbrev HandlerEvent : Type := Event (GatewaySig MemorySig)

/-! ### The contract -/

section
variable (gw : Gateway MemorySig) (rpc : Rpc) (es : List HandlerEvent) (id : Identity)
  (tenant : String)

/-- The authenticator and the tenant resolver know the caller. -/
structure Identified : Prop where
  authenticated : (⟨.inr (.authenticate rpc.metadata), .ok id⟩ : HandlerEvent) ∈ es
  resolved : gw.tenantResolver.resolve rpc.metadata id = .ok tenant

/-- The caller is known, and the limiter has let it through. -/
structure Admitted : Prop extends Identified gw rpc es id tenant where
  checked : gw.rateLimited = true →
    (⟨.inr (.check tenant id.userId), .admitted⟩ : HandlerEvent) ∈ es

/-- The session key of an RPC, if it names a session. -/
def keyOf : Option SessionKey := (sessionOf rpc).map fun sessionId =>
  keyFromIdentity tenant sessionId id

/-- How an address comes from the routing tables and the tenant's pool. -/
inductive Obtained (key : SessionKey) (addr : String) : Prop where
  /-- It is the operation's. -/
  | op {opId : String} (hop : opOf rpc = some opId)
      (hfound : (⟨storeCmd (.lookupOp opId), some addr⟩ : HandlerEvent) ∈ es)
  /-- It is the session's, found or bound. -/
  | session {e : HandlerEvent} (hmem : e ∈ es) (hres : ResolvedTo key addr e)
  /-- Without a session id it is any pick. -/
  | picked {pool : PoolId} (hzero : key.isZero = true)
      (hpool : gw.router.tenants.poolFor key.tenant = .ok (some pool))
      (hpick : (⟨.inl (.inl (.pick pool)), some addr⟩ : HandlerEvent) ∈ es)

/-- The address comes from the caller's routing. -/
def ObtainedFor (addr : String) : Prop :=
  ∃ key, keyOf rpc id tenant = some key ∧ Obtained gw rpc es key addr

/-- The commands of an admitted caller. -/
def OwnCmd : (GatewaySig MemorySig).Cmd → Prop
  | .inl (.inl (.pick pool)) => gw.router.tenants.poolFor tenant = .ok (some pool)
  | .inl (.inr (.lookupSession key)) => keyOf rpc id tenant = some key ∧ key.isZero = false
  | .inl (.inr (.bindSessionIfAbsent key chosen)) =>
      keyOf rpc id tenant = some key ∧ key.isZero = false ∧
        ∃ pool, gw.router.tenants.poolFor tenant = .ok (some pool) ∧
          (⟨.inl (.inl (.pick pool)), some chosen⟩ : HandlerEvent) ∈ es
  | .inl (.inr (.forgetSession key)) =>
      keyOf rpc id tenant = some key ∧ ∃ md m addr rid resp,
        rpc = .request md (.releaseSession m) ∧ ObtainedFor gw rpc es id tenant addr ∧
          (⟨.inr (.call addr rid (.releaseSession (m.stamp id))), .ok resp⟩ : HandlerEvent) ∈ es
  | .inl (.inr (.lookupOp opId)) => opOf rpc = some opId ∧ opId ≠ ""
  | .inl (.inr (.bindOp opId addr)) =>
      (∃ md m, rpc = .request md (.executePlan m) ∧ m.body.operationId = some opId ∧ opId ≠ "") ∧
        ObtainedFor gw rpc es id tenant addr
  | .inl (.inr (.forgetOp opId)) =>
      opId ≠ "" ∧ ∃ md m addr rid resp,
        rpc = .request md (.releaseExecute m) ∧ m.body.operationId = opId ∧
          ObtainedFor gw rpc es id tenant addr ∧
          (⟨.inr (.call addr rid (.releaseExecute (m.stamp id))), .ok resp⟩ : HandlerEvent) ∈ es
  | .inr (.channel addr) => ObtainedFor gw rpc es id tenant addr
  | .inr (.call addr _ req) => ObtainedFor gw rpc es id tenant addr ∧
      ∃ md r, rpc = .request md r ∧ req = stampRequest id r
  | .inr (.addArtifacts addr _ first rest) => ObtainedFor gw rpc es id tenant addr ∧
      ∃ md m, rpc = .addArtifacts md ⟨m :: rest.messages, rest.ending⟩ ∧ first = m.stamp id
  | .inr _ => False

end

/-- The commands that need no caller: the correlation id, authentication, and the counts. -/
def Unbound : (GatewaySig MemorySig).Cmd → Prop
  | .inr .requestId => True
  | .inr (.authenticate _) => True
  | .inr (.recordAuthFailure _) => True
  | .inr (.recordRpc _ _) => True
  | _ => False

section
variable (gw : Gateway MemorySig) (rpc : Rpc) (es : List HandlerEvent)

/-- The handler has this correlation id. -/
def HasId (rid : String) : Prop := (⟨.inr .requestId, rid⟩ : HandlerEvent) ∈ es

/-- The authenticator or the tenant resolver did not know the caller, and the reason that is
reported. -/
inductive TurnedAway (status : Status) : String → Prop where
  | unauthenticated
      (h : (⟨.inr (.authenticate rpc.metadata), .error status⟩ : HandlerEvent) ∈ es) :
      TurnedAway status (authFailureReason status)
  | noTenant {id : Identity}
      (h : (⟨.inr (.authenticate rpc.metadata), .ok id⟩ : HandlerEvent) ∈ es)
      (hresolve : gw.tenantResolver.resolve rpc.metadata id = .error status) :
      TurnedAway status "missing_tenant"

/-- The admitted caller that an event names, with its key if the RPC names a session. -/
structure NamesCaller (id : Identity) (tenant user groups : String) : Prop where
  admitted : Admitted gw rpc es id tenant
  user_eq : user = id.userId
  groups_eq : groups = ",".intercalate id.groups

/-- What is behind an audit event of the caller or of its session. -/
def Reported : AuditEvent → Prop
  | .authFailure rid name reason => HasId es rid ∧ name = rpc.name ∧
      (⟨.inr (.recordAuthFailure reason), ()⟩ : HandlerEvent) ∈ es ∧
      ∃ status, TurnedAway gw rpc es status reason
  | .sessionCreate rid tenant user groups session addr => HasId es rid ∧
      ∃ id, NamesCaller gw rpc es id tenant user groups ∧
        keyOf rpc id tenant = some ⟨tenant, user, session⟩ ∧
        (⟨storeCmd (.bindSessionIfAbsent ⟨tenant, user, session⟩ addr), addr⟩ : HandlerEvent) ∈ es
  | .sessionRelease rid tenant user groups session addr => HasId es rid ∧
      ∃ id md m resp before, NamesCaller gw rpc es id tenant user groups ∧
        keyOf rpc id tenant = some ⟨tenant, user, session⟩ ∧
        rpc = .request md (.releaseSession m) ∧
        -- The address was obtained and the backend there answered Ok before the key was forgotten.
        Obtained gw rpc before ⟨tenant, user, session⟩ addr ∧
        (⟨.inr (.call addr rid (.releaseSession (m.stamp id))), .ok resp⟩ : HandlerEvent) ∈ before ∧
        es = before ++ [storeEvent (.forgetSession ⟨tenant, user, session⟩) ()]
  | .rpcOk _ _ _ _ => False
  | .rpcError _ _ _ _ _ _ => False

/-- What is behind the audit event of an outcome. -/
def Concluded : AuditEvent → Prop
  | .rpcOk rid name tenant user => HasId es rid ∧ name = rpc.name ∧
      ∃ id, Admitted gw rpc es id tenant ∧ user = id.userId
  | .rpcError rid name tenant user _ _ => HasId es rid ∧ name = rpc.name ∧
      ∃ id, Admitted gw rpc es id tenant ∧ user = id.userId
  | _ => False

/-- The contract up to the outcome. -/
inductive BodyContract (c : (GatewaySig MemorySig).Cmd) : Prop where
  | unbound (h : Unbound c)
  | report {event : AuditEvent} (h : Reported gw rpc es event) (hc : c = .inr (.audit event))
  | check {id : Identity} {tenant : String} (hid : Identified gw rpc es id tenant)
      (hc : c = .inr (.check tenant id.userId))
  | own {id : Identity} {tenant : String} (hadm : Admitted gw rpc es id tenant)
      (hc : OwnCmd gw rpc es id tenant c)

/-- **The contract** of a handler of `rpc` that has performed the events `es`. -/
inductive Contract (c : (GatewaySig MemorySig).Cmd) : Prop where
  | body (h : BodyContract gw rpc es c)
  | conclude {event : AuditEvent} (h : Concluded gw rpc es event) (hc : c = .inr (.audit event))

end

/-! ### The outcome -/

/-- The outcome that an event writes. -/
def outcomeOf : HandlerEvent → Option AuditEvent
  | ⟨.inr (.audit (.rpcOk rid name tenant user)), _⟩ => some (.rpcOk rid name tenant user)
  | ⟨.inr (.audit (.rpcError rid name tenant user code message)), _⟩ =>
      some (.rpcError rid name tenant user code message)
  | _ => none

/-- The events that report a result: none for a cancelled call. -/
def outcomeEvents (rid name tenant user : String) : Except Status Response → List AuditEvent
  | .ok _ => [.rpcOk rid name tenant user]
  | .error status => if status.code = .cancelled then [] else
      [.rpcError rid name tenant user (statusCodeLabel status) status.message]

section
variable (gw : Gateway MemorySig) (rpc : Rpc) (es : List HandlerEvent)

/-- Why a caller did not get through admission: it was refused, which is counted and written, or
the limiter did not let it through. -/
inductive Denied (status : Status) : Prop where
  | refused {rid reason : String} (h : TurnedAway gw rpc es status reason)
      (hcount : (⟨.inr (.recordAuthFailure reason), ()⟩ : HandlerEvent) ∈ es)
      (hwritten : gw.audit.enabled = true →
        (⟨.inr (.audit (.authFailure rid rpc.name reason)), ()⟩ : HandlerEvent) ∈ es)
  | limited {id : Identity} {tenant : String} {verdict : Verdict}
      (hid : Identified gw rpc es id tenant)
      (h : (⟨.inr (.check tenant id.userId), verdict⟩ : HandlerEvent) ∈ es)
      (hverdict : verdict.toResult tenant id.userId = .error status)

/-- What admission leaves behind. -/
def AdmissionPost : Except Status (Identity × String) → Prop
  | .ok (id, tenant) => Admitted gw rpc es id tenant
  | .error status => Denied gw rpc es status

/-- What a handler that returned has written of its outcome. -/
inductive Settled : Except Status Response → Prop where
  /-- The outcome of an admitted caller is in the trail, once. -/
  | admitted {rid : String} {id : Identity} {tenant : String} {result : Except Status Response}
      (hrid : HasId es rid) (hadm : Admitted gw rpc es id tenant)
      (hout : es.filterMap outcomeOf =
        (outcomeEvents rid rpc.name tenant id.userId result).filter gw.audit.writes) :
      Settled result
  /-- There is none of a caller that was turned away. -/
  | denied {status : Status} (hden : Denied gw rpc es status)
      (hout : es.filterMap outcomeOf = []) : Settled (.error status)

end

/-! ### The contract of an event, and more events -/

section
variable {gw : Gateway MemorySig} {rpc : Rpc} {es es' : List HandlerEvent} {id : Identity}
  {tenant : String}

/-- What is behind every command but an audit event. -/
theorem Contract.unaudited {c : (GatewaySig MemorySig).Cmd} (h : Contract gw rpc es c)
    (hc : ∀ event, c ≠ .inr (.audit event)) : Unbound c ∨
      (∃ id tenant, Identified gw rpc es id tenant ∧ c = .inr (.check tenant id.userId)) ∨
      ∃ id tenant, Admitted gw rpc es id tenant ∧ OwnCmd gw rpc es id tenant c := by
  cases h with
  | conclude _ haudit => exact absurd haudit (hc _)
  | body h =>
    cases h with
    | unbound h => exact .inl h
    | report _ haudit => exact absurd haudit (hc _)
    | check hid hcheck => exact .inr (.inl ⟨_, _, hid, hcheck⟩)
    | own hadm hown => exact .inr (.inr ⟨_, _, hadm, hown⟩)

/-- What is behind an audit event. -/
theorem Contract.audited {event : AuditEvent}
    (h : Contract gw rpc es (.inr (.audit event))) :
    Reported gw rpc es event ∨ Concluded gw rpc es event := by
  cases h with
  | conclude h hc =>
    cases hc
    exact .inr h
  | body h =>
    cases h with
    | unbound h => exact h.elim
    | report h hc =>
      cases hc
      exact .inl h
    | check _ hc => cases hc
    | own _ hc => exact hc.elim

/-- An authenticated caller stays authenticated as the call goes on. -/
theorem Identified.extend (h : Identified gw rpc es id tenant) (hes : es <+: es') :
    Identified gw rpc es' id tenant := ⟨hes.subset h.authenticated, h.resolved⟩

/-- An admitted caller stays admitted as the call goes on. -/
theorem Admitted.extend (h : Admitted gw rpc es id tenant) (hes : es <+: es') :
    Admitted gw rpc es' id tenant :=
  ⟨h.toIdentified.extend hes, fun hlimited => hes.subset (h.checked hlimited)⟩

/-- The request id of a call stays its id. -/
theorem HasId.extend {rid : String} (h : HasId es rid) (hes : es <+: es') : HasId es' rid :=
  hes.subset h

/-- A refusal stays in the history of the call. -/
theorem TurnedAway.extend {status : Status} {reason : String}
    (h : TurnedAway gw rpc es status reason)
    (hes : es <+: es') : TurnedAway gw rpc es' status reason := by
  cases h with
  | unauthenticated h => exact .unauthenticated (hes.subset h)
  | noTenant h hresolve => exact .noTenant (hes.subset h) hresolve

/-- A denial stays in the history of the call. -/
theorem Denied.extend {status : Status} (h : Denied gw rpc es status) (hes : es <+: es') :
    Denied gw rpc es' status := by
  cases h with
  | refused h hcount hwritten =>
    exact .refused (h.extend hes) (hes.subset hcount) fun haudit => hes.subset (hwritten haudit)
  | limited hid h hverdict => exact .limited (hid.extend hes) (hes.subset h) hverdict

/-- An address that the router gave stays obtained. -/
theorem Obtained.extend {key : SessionKey} {addr : String} (h : Obtained gw rpc es key addr)
    (hes : es <+: es') : Obtained gw rpc es' key addr := by
  cases h with
  | op hop hfound => exact .op hop (hes.subset hfound)
  | session hmem hres => exact .session (hes.subset hmem) hres
  | picked hzero hpool hpick => exact .picked hzero hpool (hes.subset hpick)

/-- An address obtained for the caller stays obtained. -/
theorem ObtainedFor.extend {addr : String} (h : ObtainedFor gw rpc es id tenant addr)
    (hes : es <+: es') : ObtainedFor gw rpc es' id tenant addr := by
  obtain ⟨key, hkey, hobt⟩ := h
  exact ⟨key, hkey, hobt.extend hes⟩

end

/-! ### Routing -/

section
variable {A : HandlerEvent → Prop} {gw : Gateway MemorySig} {rpc : Rpc} {es : List HandlerEvent}
  {id : Identity} {tenant : String}

/-- An audit event that reports what has happened. -/
theorem emit_contract (gw' : Gateway MemorySig) {event : AuditEvent}
    (h : Reported gw rpc es event) :
    (gw'.emit event).Obeys A (BodyContract gw rpc) (fun es' _ => es <+: es' ∧
      (gw'.audit.writes event = true → (⟨.inr (.audit event), ()⟩ : HandlerEvent) ∈ es')) es := by
  unfold Gateway.emit
  split
  · exact ⟨.report h rfl, fun _ _ => ⟨List.prefix_append _ _, fun _ => by simp⟩⟩
  · rename_i haudit
    exact ⟨List.prefix_refl _, fun h => absurd h haudit⟩

/-- `resolve_session_detailed` stays with the caller's key and pool, and an address that it returns
is the key's. A binding that it calls new is one that it has asked for. -/
theorem resolve_contract (hstore : gw.router.store = MemoryStore.store)
    (hadm : Admitted gw rpc es id tenant) {key : SessionKey} (hkey : keyOf rpc id tenant = some key)
    (htenant : key.tenant = tenant) :
    (route (gw.router.resolveSessionDetailed key)).Obeys A (BodyContract gw rpc)
      (fun es' out => ∀ o, out = .ok (some o) → Obtained gw rpc es' key o.addr ∧
        (o.newlyBound = true → (⟨storeCmd (.bindSessionIfAbsent key o.addr), o.addr⟩ :
          HandlerEvent) ∈ es')) es := by
  obtain ⟨⟨tenants, store⟩, resolver, limited, audit⟩ := gw
  obtain rfl : store = MemoryStore.store := hstore
  subst htenant
  unfold Router.resolveSessionDetailed
  dsimp only
  rcases hpool : tenants.poolFor key.tenant with status | _ | pool
  · exact fun o ho => nomatch ho
  · exact fun o ho => nomatch ho
  · cases hzero : key.isZero with
    | true =>
      simp only [if_true]
      refine ⟨.own hadm hpool, fun picked _ => ?_⟩
      cases picked with
      | none => exact fun o ho => nomatch ho
      | some addr =>
        rintro o ho
        obtain rfl : (⟨addr, false⟩ : ResolveOutcome) = o := by simpa using ho
        exact ⟨.picked hzero hpool (by simp), nofun⟩
    | false =>
      simp only [Bool.false_eq_true, if_false]
      refine ⟨.own hadm ⟨hkey, hzero⟩, fun found _ => ?_⟩
      cases found with
      | some existing =>
        rintro o ho
        obtain rfl : (⟨existing, false⟩ : ResolveOutcome) = o := by simpa using ho
        exact ⟨.session (by simp) (.inl rfl), nofun⟩
      | none =>
        have hadm₁ := hadm.extend (List.prefix_append es [⟨storeCmd (.lookupSession key), none⟩])
        refine ⟨.own hadm₁ hpool, fun picked _ => ?_⟩
        cases picked with
        | none => exact fun o ho => nomatch ho
        | some chosen =>
          -- The pick is the last event when its address is bound.
          refine ⟨.own (hadm₁.extend (List.prefix_append _ _))
            ⟨hkey, hzero, pool, hpool, by simp⟩, fun (winner : String) _ => ?_⟩
          rintro o ho
          obtain rfl : (⟨winner, winner == chosen⟩ : ResolveOutcome) = o := by simpa using ho
          refine ⟨.session (by simp) (.inr ⟨chosen, rfl⟩), fun hnew => ?_⟩
          obtain rfl : winner = chosen := by simpa using hnew
          simp

/-- The key of a caller belongs to its tenant. -/
theorem keyOf_tenant {key : SessionKey} (hkey : keyOf rpc id tenant = some key) :
    key.tenant = tenant := by
  unfold keyOf at hkey
  obtain ⟨sessionId, -, rfl⟩ := Option.map_eq_some_iff.mp hkey
  rfl

/-- ... and to its user. -/
theorem keyOf_userId {key : SessionKey} (hkey : keyOf rpc id tenant = some key) :
    key.userId = id.userId := by
  unfold keyOf at hkey
  obtain ⟨sessionId, -, rfl⟩ := Option.map_eq_some_iff.mp hkey
  rfl

/-- Routing by session. -/
theorem sessionAddr_contract (hstore : gw.router.store = MemoryStore.store)
    (hadm : Admitted gw rpc es id tenant) {key : SessionKey} (hkey : keyOf rpc id tenant = some key)
    {rid : String} (hrid : HasId es rid) :
    (gw.sessionAddr key rid id).run.Obeys A (BodyContract gw rpc)
      (fun es' r => ∀ addr, r = .ok addr → ObtainedFor gw rpc es' id tenant addr) es := by
  refine Prog.Obeys.bind (p := gw.resolveSessionAudited key rid id) (Prog.Obeys.bind
    ((resolve_contract hstore hadm hkey (keyOf_tenant hkey)).extends.mono
      fun es₁ out ⟨hes₁, hout⟩ => ?_))
  rcases out with status | _ | o
  · exact fun addr haddr => nomatch haddr
  · exact fun addr haddr => nomatch haddr
  · -- Only a new binding is reported, and the bind is in the history then.
    obtain ⟨hobt, hbound⟩ := hout o rfl
    dsimp only
    split
    · rename_i hnew
      obtain ⟨tenant', user, session⟩ := key
      obtain rfl : tenant' = tenant := keyOf_tenant hkey
      have huser : user = id.userId := keyOf_userId hkey
      have hreported : Reported gw rpc es₁ (.sessionCreate rid tenant' id.userId
          (",".intercalate id.groups) session o.addr) := by
        subst huser
        exact ⟨hrid.extend hes₁, id, ⟨hadm.extend hes₁, rfl, rfl⟩, hkey, hbound hnew⟩
      refine Prog.Obeys.bind ((emit_contract gw hreported).mono fun es₂ _ hes => ?_)
      rintro addr ⟨⟩
      exact ⟨_, hkey, hobt.extend hes.1⟩
    · rintro addr ⟨⟩
      exact ⟨key, hkey, hobt⟩

/-- Routing by operation. -/
theorem opAddr_contract (hstore : gw.router.store = MemoryStore.store)
    (hadm : Admitted gw rpc es id tenant) {key : SessionKey} (hkey : keyOf rpc id tenant = some key)
    {opId : String} (hop : opOf rpc = some opId) :
    (gw.opAddr opId key).run.Obeys A (BodyContract gw rpc)
      (fun es' r => ∀ addr, r = .ok addr → ObtainedFor gw rpc es' id tenant addr) es := by
  -- Both ways through `resolve_op` that do not find the operation end in `resolve_session`.
  have hsession : ∀ es₁, es <+: es₁ → (route (gw.router.resolveSession key)).Obeys A
      (BodyContract gw rpc)
      (fun es' r => ∀ addr, r = .ok (some addr) → ObtainedFor gw rpc es' id tenant addr) es₁ := by
    intro es₁ hes
    unfold route Router.resolveSession
    rw [Prog.inl_bind]
    refine Prog.Obeys.bind ((resolve_contract hstore (hadm.extend hes) hkey
      (keyOf_tenant hkey)).mono fun es' out hout => ?_)
    rcases out with status | _ | o
    · exact fun addr haddr => nomatch haddr
    · exact fun addr haddr => nomatch haddr
    · rintro addr ⟨⟩
      exact ⟨key, hkey, (hout o rfl).1⟩
  refine Prog.Obeys.bind (p := route (gw.router.resolveOp opId key))
    (Prog.Obeys.mono (Q := fun es' r => ∀ addr, r = .ok (some addr) →
      ObtainedFor gw rpc es' id tenant addr) (fun es' r hr => ?_) ?_)
  · rcases r with status | _ | addr
    · exact fun addr haddr => nomatch haddr
    · exact fun addr haddr => nomatch haddr
    · rintro addr ⟨⟩
      exact hr addr rfl
  · unfold Router.resolveOp
    split
    · exact hsession es (List.prefix_refl es)
    · rename_i hne
      have hne : opId ≠ "" := by simpa using hne
      obtain ⟨⟨tenants, store⟩, resolver, limited, audit⟩ := gw
      obtain rfl : store = MemoryStore.store := hstore
      refine ⟨.own hadm ⟨hop, hne⟩, fun found _ => ?_⟩
      cases found with
      | some b =>
        rintro addr ⟨⟩
        exact ⟨key, hkey, .op hop (by simp)⟩
      | none => exact hsession _ (List.prefix_append _ _)

/-! ### Forwarding -/

/-- Dialling keeps the contract if the address was obtained for the caller. -/
theorem client_contract (hadm : Admitted gw rpc es id tenant) {addr : String}
    (hobt : ObtainedFor gw rpc es id tenant addr) :
    (Gateway.client (S := MemorySig) addr).run.Obeys A (BodyContract gw rpc)
      (fun es' _ => es <+: es') es := by
  refine Prog.Obeys.bind (p := dial addr) ⟨.own hadm hobt, fun r _ => ?_⟩
  cases r <;> exact List.prefix_append _ _

/-- A request goes to an obtained address, with the caller's identity on it. -/
theorem forward_contract (hadm : Admitted gw rpc es id tenant) {addr rid : String}
    (hobt : ObtainedFor gw rpc es id tenant addr) {md : MetadataMap} {r req : Request}
    (hrpc : rpc = .request md r) (hreq : req = stampRequest id r) :
    (Gateway.forward (S := MemorySig) addr rid req).run.Obeys A (BodyContract gw rpc)
      (fun es' result => ∀ resp, result = .ok resp →
        (⟨.inr (.call addr rid req), .ok resp⟩ : HandlerEvent) ∈ es') es := by
  show (Gateway.client addr >>= fun _ => ExceptT.mk (callBackend addr rid req)).run.Obeys A _ _ es
  rw [ExceptT.run_bind]
  refine Prog.Obeys.bind ((client_contract hadm hobt).mono fun es₁ result hes => ?_)
  cases result with
  | error status => exact fun resp hresp => nomatch hresp
  | ok _ =>
    refine ⟨.own (hadm.extend hes) ⟨hobt.extend hes, md, r, hrpc, hreq⟩, fun answer _ => ?_⟩
    rintro resp rfl
    exact List.mem_append_right _ List.mem_cons_self

/-- After the routing: the request is sent, and nothing more is asked. -/
theorem forward_last (hadm : Admitted gw rpc es id tenant) {addr rid : String}
    (hobt : ObtainedFor gw rpc es id tenant addr) {md : MetadataMap} {r req : Request}
    (hrpc : rpc = .request md r) (hreq : req = stampRequest id r) :
    (Gateway.forward (S := MemorySig) addr rid req).run.Obeys A (BodyContract gw rpc)
      (fun _ _ => True) es :=
  (forward_contract hadm hobt hrpc hreq).mono fun _ _ _ => trivial

/-! ### The bodies -/

/-- The bodies that only route by session and forward. -/
theorem sessionBody_contract (hstore : gw.router.store = MemoryStore.store) {md : MetadataMap}
    {wrap : Message Payload → Request} {m : Message Payload} (hrpc : rpc = .request md (wrap m))
    (hsession : requestSession (wrap m) = m.sessionId)
    (hwrap : stampRequest id (wrap m) = wrap (m.stamp id)) {rid : String}
    (hrid : HasId es rid) (hadm : Admitted gw rpc es id tenant) :
    (gw.sessionBody wrap m rid id tenant).run.Obeys A (BodyContract gw rpc)
      (fun _ _ => True) es := by
  have hkey : keyOf rpc id tenant = some (keyFromIdentity tenant m.sessionId id) := by
    subst hrpc
    simp only [keyOf, sessionOf, hsession, Option.map_some]
  refine obeys_rpc_bind ((sessionAddr_contract hstore hadm hkey hrid).extends.mono
    fun es₁ r hr addr haddr => ?_)
  exact forward_last (hadm.extend hr.1) (hr.2 addr haddr) hrpc hwrap.symm

/-- The bodies that only route by operation and forward. -/
theorem opBody_contract (hstore : gw.router.store = MemoryStore.store) {md : MetadataMap}
    {req req' : Request} (hrpc : rpc = .request md req) {opId : String}
    (hop : opOf rpc = some opId) (hreq : req' = stampRequest id req) (rid : String)
    (hadm : Admitted gw rpc es id tenant) :
    (gw.opAddr opId (keyFromIdentity tenant (requestSession req) id) >>= fun addr =>
      Gateway.forward addr rid req').run.Obeys A (BodyContract gw rpc) (fun _ _ => True) es := by
  have hkey : keyOf rpc id tenant = some (keyFromIdentity tenant (requestSession req) id) := by
    subst hrpc
    rfl
  refine obeys_rpc_bind ((opAddr_contract hstore hadm hkey hop).extends.mono
    fun es₁ r hr addr haddr => ?_)
  exact forward_last (hadm.extend hr.1) (hr.2 addr haddr) hrpc hreq

/-- The body of `ReleaseExecute` keeps the contract. -/
theorem releaseExecuteBody_contract (hstore : gw.router.store = MemoryStore.store)
    {md : MetadataMap} {m : Message ReleaseExecuteBody}
    (hrpc : rpc = .request md (.releaseExecute m)) (rid : String)
    (hadm : Admitted gw rpc es id tenant) :
    (gw.releaseExecuteBody m rid id tenant).run.Obeys A (BodyContract gw rpc)
      (fun _ _ => True) es := by
  have hkey : keyOf rpc id tenant = some (keyFromIdentity tenant m.sessionId id) := by
    subst hrpc
    rfl
  have hop : opOf rpc = some m.body.operationId := by subst hrpc; rfl
  refine obeys_rpc_bind ((opAddr_contract hstore hadm hkey hop).extends.mono
    fun es₁ r hr addr haddr => ?_)
  have hobt := hr.2 addr haddr
  refine obeys_rpc_bind ((forward_contract (hadm.extend hr.1) hobt hrpc rfl).extends.mono
    fun es₂ r hsent resp hresp => ?_)
  -- The backend has answered Ok, which is what `forget_op` needs.
  have hadm₂ : Admitted gw rpc es₂ id tenant := hadm.extend (hr.1.trans hsent.1)
  refine obeys_rpc_bind (Prog.Obeys.mono (fun _ _ _ _ _ => trivial) (Q := fun _ _ => True) ?_)
  refine Prog.Obeys.bind (p := route (gw.router.forgetOp m.body.operationId)) ?_
  unfold Router.forgetOp
  split
  · trivial
  · rename_i hne
    obtain ⟨⟨tenants, store⟩, resolver, limited, audit⟩ := gw
    obtain rfl : store = MemoryStore.store := hstore
    exact ⟨.own hadm₂ ⟨by simpa using hne, md, m, addr, rid, resp, hrpc, rfl,
      hobt.extend hsent.1, hsent.2 resp hresp⟩, fun _ _ => trivial⟩

/-- The body of `ReleaseSession` keeps the contract. -/
theorem releaseSessionBody_contract (hstore : gw.router.store = MemoryStore.store)
    {md : MetadataMap} {m : Message Payload} (hrpc : rpc = .request md (.releaseSession m))
    {rid : String} (hrid : HasId es rid) (hadm : Admitted gw rpc es id tenant) :
    (gw.releaseSessionBody m rid id tenant).run.Obeys A (BodyContract gw rpc)
      (fun _ _ => True) es := by
  have hkey : keyOf rpc id tenant = some (keyFromIdentity tenant m.sessionId id) := by
    subst hrpc
    rfl
  obtain ⟨⟨tenants, store⟩, resolver, limited, audit⟩ := gw
  obtain rfl : store = MemoryStore.store := hstore
  refine obeys_rpc_bind ((sessionAddr_contract rfl hadm hkey hrid).extends.mono
    fun es₁ r hr addr haddr => ?_)
  have hobt := hr.2 addr haddr
  refine obeys_rpc_bind ((forward_contract (hadm.extend hr.1) hobt hrpc rfl).extends.mono
    fun es₂ r hsent resp hresp => ?_)
  have hadm₂ := hadm.extend (hr.1.trans hsent.1)
  have hcall := hsent.2 resp hresp
  obtain ⟨key', hkey', hobt'⟩ := hobt
  obtain rfl := Option.some.inj (hkey.symm.trans hkey')
  refine obeys_rpc_bind ⟨.own hadm₂ ⟨hkey, md, m, addr, rid, resp, hrpc,
    ⟨_, hkey, hobt'.extend hsent.1⟩, hcall⟩, fun _ _ _ _ => ?_⟩
  -- `session.release` is written, and the response returned.
  have hes₃ := List.prefix_append es₂ [(⟨storeCmd (.forgetSession
    (keyFromIdentity tenant m.sessionId id)), ()⟩ : HandlerEvent)]
  have hreported : Reported _ rpc _ (.sessionRelease rid tenant id.userId
      (",".intercalate id.groups) m.sessionId addr) :=
    ⟨hrid.extend ((hr.1.trans hsent.1).trans hes₃), id, md, m, resp, es₂,
      ⟨hadm₂.extend hes₃, rfl, rfl⟩, hkey, hrpc, hobt'.extend hsent.1, hcall, rfl⟩
  refine obeys_rpc_bind (Prog.Obeys.bind ((emit_contract _ hreported).mono fun _ _ _ => ?_))
  exact fun _ _ => trivial

/-- The body of `ExecutePlan` keeps the contract. -/
theorem executePlanBody_contract (hstore : gw.router.store = MemoryStore.store)
    {md : MetadataMap} {m : Message ExecutePlanBody} (hrpc : rpc = .request md (.executePlan m))
    {rid : String} (hrid : HasId es rid) (hadm : Admitted gw rpc es id tenant) :
    (gw.executePlanBody m rid id tenant).run.Obeys A (BodyContract gw rpc)
      (fun _ _ => True) es := by
  have hkey : keyOf rpc id tenant = some (keyFromIdentity tenant m.sessionId id) := by
    subst hrpc
    rfl
  refine obeys_rpc_bind ((sessionAddr_contract hstore hadm hkey hrid).extends.mono
    fun es₁ r hr addr haddr => ?_)
  have hobt := hr.2 addr haddr
  have hadm₁ : Admitted gw rpc es₁ id tenant := hadm.extend hr.1
  -- Whether or not the operation was remembered, the request is forwarded to the same address.
  have hforward : ∀ es₂, es₁ <+: es₂ → (Gateway.forward (S := MemorySig) addr rid
      (.executePlan (m.stamp id))).run.Obeys A (BodyContract gw rpc) (fun _ _ => True) es₂ :=
    fun es₂ hes => forward_last (hadm₁.extend hes) (hobt.extend hes) hrpc rfl
  have hsame : (m.stamp id).body = m.body := rfl
  dsimp only
  rw [hsame]
  split
  · rename_i opId hopId
    split
    · rename_i hne
      have hne : opId ≠ "" := by simpa using hne
      refine obeys_rpc_bind (Prog.Obeys.bind
        (p := route (gw.router.rememberOp opId addr)) ?_)
      unfold Router.rememberOp
      rw [if_neg (by simpa using hne)]
      obtain ⟨⟨tenants, store⟩, resolver, limited, audit⟩ := gw
      obtain rfl : store = MemoryStore.store := hstore
      exact ⟨.own hadm₁ ⟨⟨md, m, hrpc, hopId, hne⟩, hobt⟩,
        fun _ _ _ _ => hforward _ (List.prefix_append _ _)⟩
    · exact hforward es₁ (List.prefix_refl _)
  · exact hforward es₁ (List.prefix_refl _)

/-- The body of `AddArtifacts` keeps the contract. -/
theorem addArtifactsBody_contract (hstore : gw.router.store = MemoryStore.store)
    {md : MetadataMap} {inbound : ClientStream} (hrpc : rpc = .addArtifacts md inbound)
    {rid : String} (hrid : HasId es rid) (hadm : Admitted gw rpc es id tenant) :
    (gw.addArtifactsBody inbound rid id tenant).run.Obeys A (BodyContract gw rpc)
      (fun _ _ => True) es := by
  obtain ⟨messages, ending⟩ := inbound
  cases messages with
  | nil => cases ending <;> trivial
  | cons m rest =>
    have hkey : keyOf rpc id tenant = some (keyFromIdentity tenant m.sessionId id) := by
      subst hrpc
      rfl
    refine obeys_rpc_bind ((sessionAddr_contract hstore hadm hkey hrid).extends.mono
      fun es₁ r hr addr haddr => ?_)
    have hobt := hr.2 addr haddr
    refine obeys_rpc_bind ((client_contract (hadm.extend hr.1) hobt).mono fun es₂ r hes _ _ => ?_)
    exact obeys_rpc_bind ⟨.own (hadm.extend (hr.1.trans hes))
      ⟨hobt.extend hes, md, m, hrpc, rfl⟩, fun reply _ _ _ => trivial⟩

/-- The body of every handler. -/
theorem body_contract (hstore : gw.router.store = MemoryStore.store) {rid : String}
    (hrid : HasId es rid) (hadm : Admitted gw rpc es id tenant) :
    (bodyOf gw rpc rid id tenant).run.Obeys A (BodyContract gw rpc) (fun _ _ => True) es := by
  rcases hrpc : rpc with ⟨md, req⟩ | ⟨md, inbound⟩
  · rw [hrpc] at hadm
    cases req with
    | analyzePlan m => exact sessionBody_contract hstore rfl rfl rfl hrid hadm
    | config m => exact sessionBody_contract hstore rfl rfl rfl hrid hadm
    | artifactStatus m => exact sessionBody_contract hstore rfl rfl rfl hrid hadm
    | interrupt m => exact opBody_contract hstore rfl rfl rfl rid hadm
    | releaseExecute m => exact releaseExecuteBody_contract hstore rfl rid hadm
    | releaseSession m => exact releaseSessionBody_contract hstore rfl hrid hadm
    | fetchErrorDetails m => exact sessionBody_contract hstore rfl rfl rfl hrid hadm
    | cloneSession m => exact sessionBody_contract hstore rfl rfl rfl hrid hadm
    | getStatus m => exact sessionBody_contract hstore rfl rfl rfl hrid hadm
    | executePlan m => exact executePlanBody_contract hstore rfl hrid hadm
    | reattachExecute m => exact opBody_contract hstore rfl rfl rfl rid hadm
  · exact addArtifactsBody_contract hstore rfl hrid (hrpc ▸ hadm)

/-! ### The frame -/

/-- A refusal is counted and written. -/
theorem refuse_contract {α : Type} {rid reason : String} {status : Status} (hrid : HasId es rid)
    (hturned : TurnedAway gw rpc es status reason) :
    (recordAuthFailure reason >>= fun _ => gw.emit (.authFailure rid rpc.name reason) >>= fun _ =>
      pure (.error status : Except Status α)).Obeys A (BodyContract gw rpc)
        (fun es' r => r = .error status ∧ Denied gw rpc es' status) es := by
  refine Prog.Obeys.bind (p := recordAuthFailure reason) ⟨.unbound trivial, fun _ _ => ?_⟩
  show (gw.emit (.authFailure rid rpc.name reason) >>= fun _ =>
    pure (Except.error status)).Obeys A (BodyContract gw rpc) _
      (es ++ [⟨.inr (.recordAuthFailure reason), ()⟩])
  have hes := List.prefix_append es [(⟨.inr (.recordAuthFailure reason), ()⟩ : HandlerEvent)]
  have hcount : (⟨.inr (.recordAuthFailure reason), ()⟩ : HandlerEvent) ∈
      es ++ [⟨.inr (.recordAuthFailure reason), ()⟩] := by simp
  have hreported : Reported gw rpc (es ++ [⟨.inr (.recordAuthFailure reason), ()⟩])
      (.authFailure rid rpc.name reason) :=
    ⟨hrid.extend hes, rfl, hcount, status, hturned.extend hes⟩
  exact Prog.Obeys.bind ((emit_contract gw hreported).mono fun es' _ hes' =>
    ⟨rfl, .refused (hturned.extend (hes.trans hes'.1)) (hes'.1.subset hcount) hes'.2⟩)

/-- The limiter, asked for a caller that is known. -/
theorem limit_contract (hid : Identified gw rpc es id tenant) :
    (gw.limit tenant id.userId >>= fun _ => pure (id, tenant)).run.Obeys A (BodyContract gw rpc)
      (AdmissionPost gw rpc) es := by
  rw [ExceptT.run_bind]
  unfold Gateway.limit
  dsimp only [ExceptT.run_mk]
  split
  · refine ⟨.check hid rfl, fun (verdict : Verdict) _ => ?_⟩
    have hes := List.prefix_append es
      [(⟨.inr (.check tenant id.userId), verdict⟩ : HandlerEvent)]
    have hdenied : ∀ status, verdict.toResult tenant id.userId = .error status →
        Denied gw rpc (es ++ [⟨.inr (.check tenant id.userId), verdict⟩]) status :=
      fun status => .limited (hid.extend hes) (by simp)
    cases verdict with
    | admitted => exact ⟨hid.extend hes, fun _ => by simp⟩
    | rejected scope => cases scope <;> exact hdenied _ rfl
    | unavailable => exact hdenied _ rfl
  · rename_i hlimited
    exact ⟨hid, fun h => absurd h hlimited⟩

/-- Admission: a caller that gets through it is admitted, and another was denied. -/
theorem admission_contract {rid : String} (hrid : HasId es rid) :
    (gw.authenticateAndResolve rpc.metadata rid rpc.name).run.Obeys A (BodyContract gw rpc)
      (AdmissionPost gw rpc) es := by
  show (gw.authenticate rpc.metadata rid rpc.name >>= fun identity =>
    gw.resolveTenant rpc.metadata identity rid rpc.name >>= fun tenant =>
      gw.limit tenant identity.userId >>= fun _ => pure (identity, tenant)).run.Obeys A _ _ es
  rw [ExceptT.run_bind]
  -- The authenticator's reply decides first.
  refine Prog.Obeys.bind (Prog.Obeys.bind (p := runAuthenticator rpc.metadata)
    ⟨.unbound trivial, fun reply _ => ?_⟩)
  have hrid₁ : HasId (es ++ [⟨.inr (.authenticate rpc.metadata), reply⟩]) rid :=
    hrid.extend (List.prefix_append _ _)
  cases reply with
  | error status =>
    refine (refuse_contract hrid₁ (.unauthenticated (by simp))).mono ?_
    rintro es' _ ⟨rfl, hdenied⟩
    exact hdenied
  | ok identity =>
    show (gw.resolveTenant rpc.metadata identity rid rpc.name >>= fun tenant =>
      gw.limit tenant identity.userId >>= fun _ => pure (identity, tenant)).run.Obeys A
        (BodyContract gw rpc) (AdmissionPost gw rpc) _
    rw [ExceptT.run_bind]
    -- Then the tenant, and then the limiter.
    unfold Gateway.resolveTenant
    dsimp only [ExceptT.run_mk]
    split
    · rename_i tenant htenant
      exact limit_contract ⟨by simp, htenant⟩
    · rename_i status hresolve
      refine Prog.Obeys.bind ((refuse_contract hrid₁ (.noTenant (by simp) hresolve)).mono ?_)
      rintro es' _ ⟨rfl, hdenied⟩
      exact hdenied

/-- Up to the report of its result a handler writes no outcome. -/
theorem outcomeOf_body (es : List HandlerEvent) (c : (GatewaySig MemorySig).Cmd)
    (r : (GatewaySig MemorySig).Reply c) (h : BodyContract gw rpc es c) :
    outcomeOf ⟨c, r⟩ = none := by
  cases h with
  | unbound h =>
    rcases c with c | c
    · rfl
    · cases c with
      | audit event => exact h.elim
      | _ => rfl
  | @report event h hc =>
    -- Before the report there is no event of an outcome.
    subst hc
    cases event with
    | rpcOk => exact h.elim
    | rpcError => exact h.elim
    | _ => rfl
  | check hid hc =>
    subst hc
    rfl
  | own hadm hc =>
    rcases c with c | c
    · rfl
    · cases c with
      | audit event => exact hc.elim
      | _ => rfl

/-- A part of a handler before the report, in the contract of the whole. -/
theorem beforeReport {α : Type} {p : Prog (GatewaySig MemorySig) α}
    {Q : List HandlerEvent → α → Prop} (h : p.Obeys A (BodyContract gw rpc) Q es)
    (hes : ∀ e ∈ es, outcomeOf e = none) :
    p.Obeys A (Contract gw rpc)
      (fun es' a => es <+: es' ∧ (∀ e ∈ es', outcomeOf e = none) ∧ Q es' a) es :=
  ((h.collect outcomeOf_body hes).weaken fun _ _ => .body).extends

/-- `finalise_rpc` writes the outcome of an admitted caller, and nothing else. -/
theorem finaliseRpc_contract {rid : String} (hrid : HasId es rid)
    (hadm : Admitted gw rpc es id tenant) (hes : ∀ e ∈ es, outcomeOf e = none)
    (result : Except Status Response) :
    (gw.finaliseRpc result (some (tenant, id.userId)) rid rpc.name).Obeys A (Contract gw rpc)
      (fun es' _ => es'.filterMap outcomeOf =
        (outcomeEvents rid rpc.name tenant id.userId result).filter gw.audit.writes) es := by
  have hnone : es.filterMap outcomeOf = [] := List.filterMap_eq_nil_iff.mpr hes
  -- The event is written, or the switches drop it.
  have hwrite : ∀ event, Concluded gw rpc es event →
      outcomeOf ⟨.inr (.audit event), ()⟩ = some event →
      (gw.emit event).Obeys A (Contract gw rpc) (fun es' _ =>
        es'.filterMap outcomeOf = [event].filter gw.audit.writes) es := by
    intro event hevent houtcome
    unfold Gateway.emit
    split
    · rename_i haudit
      refine ⟨.conclude hevent rfl, fun _ _ => ?_⟩
      show (es ++ [(⟨.inr (.audit event), ()⟩ : HandlerEvent)]).filterMap outcomeOf =
        [event].filter gw.audit.writes
      simp [hnone, houtcome, haudit]
    · rename_i haudit
      show es.filterMap outcomeOf = [event].filter gw.audit.writes
      simp [hnone, haudit]
  cases result with
  | ok response => exact hwrite _ ⟨hrid, rfl, id, hadm, rfl⟩ rfl
  | error status =>
    unfold Gateway.finaliseRpc outcomeEvents
    dsimp only
    split
    · -- A cancelled RPC is not reported.
      exact hnone
    · exact hwrite _ ⟨hrid, rfl, id, hadm, rfl⟩ rfl

/-- Counting the RPC writes nothing. -/
theorem recordRpc_contract {result : Except Status Response} (hes : Settled gw rpc es result) :
    (recordRpc rpc.name (resultLabel result) >>= fun _ => pure result).Obeys A (Contract gw rpc)
      (Settled gw rpc) es := by
  refine ⟨.body (.unbound trivial), fun reply _ => ?_⟩
  have hpre := List.prefix_append es
    [(⟨.inr (.recordRpc rpc.name (resultLabel result)), reply⟩ : HandlerEvent)]
  have hout : (es ++ [(⟨.inr (.recordRpc rpc.name (resultLabel result)), reply⟩ :
      HandlerEvent)]).filterMap outcomeOf = es.filterMap outcomeOf := by
    rw [List.filterMap_append]
    exact List.append_nil _
  cases hes with
  | admitted hrid hadm h => exact .admitted (hrid.extend hpre) (hadm.extend hpre) (hout.trans h)
  | denied hden h => exact .denied (hden.extend hpre) (hout.trans h)

/-- **The contract of a handler.** On every path, each command of a handler is one that the
contract allows after what came before, and when the handler returns its outcome is settled. -/
theorem handle_contract (hstore : gw.router.store = MemoryStore.store) :
    (gw.handle rpc).Obeys A (Contract gw rpc) (Settled gw rpc) [] := by
  rw [handle_eq]
  unfold Gateway.handleRpc
  refine Prog.Obeys.bind (p := requestId) ⟨.body (.unbound trivial), fun rid _ => ?_⟩
  -- The request id comes first, and every audit event carries it.
  have hrid : HasId [⟨.inr .requestId, rid⟩] rid := List.mem_cons_self
  have hnone : ∀ e ∈ [(⟨.inr .requestId, rid⟩ : HandlerEvent)], outcomeOf e = none := by
    intro e he
    rw [List.mem_singleton.mp he]
    rfl
  refine Prog.Obeys.bind ((beforeReport (admission_contract hrid) hnone).mono
    fun es₁ result ⟨hes₁, hnone₁, hpost⟩ => ?_)
  have hrid₁ := hrid.extend hes₁
  rcases result with status | ⟨identity, tenant⟩
  · exact recordRpc_contract (.denied hpost (List.filterMap_eq_nil_iff.mpr hnone₁))
  · -- From here on the caller is admitted, whatever the body does.
    have hadm₁ : Admitted gw rpc es₁ identity tenant := hpost
    refine Prog.Obeys.bind ((beforeReport (body_contract hstore hrid₁ hadm₁) hnone₁).mono
      fun es₂ result ⟨hes₂, hnone₂, _⟩ => ?_)
    have hrid₂ := hrid₁.extend hes₂
    have hadm₂ := hadm₁.extend hes₂
    refine Prog.Obeys.bind ((finaliseRpc_contract hrid₂ hadm₂ hnone₂ result).extends.mono
      fun es₃ _ ⟨hes₃, hout⟩ => ?_)
    exact recordRpc_contract (.admitted (hrid₂.extend hes₃) (hadm₂.extend hes₃) hout)

end

end SparkGateway.Proofs.Handler

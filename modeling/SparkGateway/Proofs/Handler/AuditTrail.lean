import SparkGateway.Proofs.Handler.Commands

/-!
# `SparkGateway.Proofs.Handler.AuditTrail`: the failure events of an RPC

An operator reads failures off the audit log: an RPC that fails should leave exactly one event
there, `auth.failure` if the caller was refused and `rpc.error` with the tenant and the user
otherwise, and an RPC that succeeds none (`AuditComplete`).

The events come from three places. `authenticate_and_resolve` writes `auth.failure`,
`finalise_rpc` writes `rpc.error` once the audit context is filled, and a body writes no failure
event at all (`failures_body`). The limiter runs between the two: an RPC that it rejects has an
identity and a tenant, yet no audit context, so it leaves no event. `auditComplete_iff` says
that this is the only hole, for every store, every backing and every answer of the world.
-/

set_option autoImplicit false

namespace SparkGateway.Proofs.Handler

open SparkGateway.Lib
open SparkGateway.Spec

section
variable {S : Sig} {σ : Type}

/-- The failure events among the effects of a run, in order. -/
def failures (es : List Effect) : List AuditEvent := (audits es).filter AuditEvent.isFailure

/-- Authentication or tenant resolution refuses the caller. -/
inductive Refused (gw : Gateway S) (env : Env) (metadata : MetadataMap) : Prop where
  | caller {status : Status} (hauth : env.authenticate metadata = .error status)
  | tenant {identity : Identity} {status : Status}
      (hauth : env.authenticate metadata = .ok identity)
      (htenant : gw.tenantResolver.resolve metadata identity = .error status)

/-- A limiter is configured and does not admit the call of an authenticated caller with a tenant. -/
def LimitRejected (gw : Gateway S) (env : Env) (metadata : MetadataMap) : Prop :=
  ∃ identity tenant, env.authenticate metadata = .ok identity ∧
    gw.tenantResolver.resolve metadata identity = .ok tenant ∧
    gw.rateLimited = true ∧ env.check tenant identity.userId ≠ .admitted

/-- The event that reports the failure of an RPC with `status`. -/
inductive FailureReport (gw : Gateway S) (env : Env) (rpc : Rpc) (status : Status) :
    AuditEvent → Prop where
  | refused {reason : String} (href : Refused gw env rpc.metadata) :
      FailureReport gw env rpc status (.authFailure env.requestId rpc.name reason)
  | failed {identity : Identity} {tenant : String}
      (hauth : env.authenticate rpc.metadata = .ok identity)
      (htenant : gw.tenantResolver.resolve rpc.metadata identity = .ok tenant) :
      FailureReport gw env rpc status (.rpcError env.requestId rpc.name tenant identity.userId
        (statusCodeLabel status) status.message)

/-- An RPC that fails leaves exactly one failure event, the one that reports it, unless its
code is Ok or Cancelled. An RPC that succeeds leaves none. -/
structure AuditComplete (gw : Gateway S) (h : Handler S σ) (env : Env) (rpc : Rpc) (s : σ) :
    Prop where
  failed : ∀ status, (runRpc gw h env rpc s).value = .error status →
    status.code ≠ .ok → status.code ≠ .cancelled →
    ∃ event, failures (effects (runRpc gw h env rpc s).trace) = [event] ∧
      FailureReport gw env rpc status event
  succeeded : ∀ resp, (runRpc gw h env rpc s).value = .ok resp →
    failures (effects (runRpc gw h env rpc s).trace) = []

/-! ### Where failure events come from -/

theorem failures_append (es es' : List Effect) :
    failures (es ++ es') = failures es ++ failures es' := by
  simp [failures, audits]

/-- A body writes no failure event. -/
theorem failures_body (gw : Gateway S) (h : Handler S σ) (env : Env) (rpc : Rpc) (rid : String)
    (identity : Identity) (tenant : String) (s : σ) :
    failures (observe env h (bodyOf gw rpc rid identity tenant).run s).2.2 = [] := by
  refine List.filter_eq_nil_iff.mpr fun event hevent => ?_
  obtain ⟨effect, heffect, heq⟩ := List.mem_filterMap.mp hevent
  have hbody := body_effects gw rid identity tenant env h rpc s effect heffect
  cases effect with
  | audited written =>
    cases heq
    have hnot : event.isFailure = false := hbody
    simp [hnot]
  | _ => cases heq

variable {gw : Gateway S} {env : Env}

/-- An enabled log keeps every failure event. -/
theorem failures_writing (henabled : gw.audit.enabled = true) {event : AuditEvent}
    (hevent : event.isFailure = true) : failures (writing gw event) = [event] := by
  have hwrites : gw.audit.writes event = true := by
    cases event <;> simp_all [AuditConfig.writes, AuditEvent.isFailure]
  rw [writing, if_pos hwrites]
  simp [failures, audits, Effect.event, hevent]

/-- The report of a successful RPC has no failure event. -/
theorem failures_finalEffects_ok (resp : Response) (tenant userId rid rpc : String) :
    failures (finalEffects gw (.ok resp) tenant userId rid rpc) = [] := by
  unfold finalEffects writing
  cases gw.audit.writes (.rpcOk rid rpc tenant userId) <;> rfl

/-! ### The ways out of `authenticate_and_resolve` -/

/-- A refused caller leaves an `auth.failure`. -/
theorem admission_of_refused {md : MetadataMap} (href : Refused gw env md) :
    ∃ status reason, admission gw env md = .error status ∧
      ∀ rid rpc, admissionEffects gw env md rid rpc = writing gw (.authFailure rid rpc reason) := by
  cases href with
  | @caller status hauth =>
    refine ⟨status, authFailureReason status, ?_, fun rid rpc => ?_⟩
    · simp [admission, hauth]
    · simp [admissionEffects, hauth]
  | @tenant identity status hauth htenant =>
    refine ⟨status, "missing_tenant", ?_, fun rid rpc => ?_⟩
    · simp [admission, hauth, htenant]
    · simp [admissionEffects, hauth, htenant]

/-- Every verdict but admission is `ResourceExhausted` to the client. -/
theorem toResult_of_ne_admitted (tenant userId : String) {v : Verdict} (hv : v ≠ .admitted) :
    ∃ status, v.toResult tenant userId = .error status ∧ status.code = .resourceExhausted := by
  cases v with
  | admitted => exact absurd rfl hv
  | rejected scope => cases scope <;> exact ⟨_, rfl, rfl⟩
  | unavailable => exact ⟨_, rfl, rfl⟩

/-- A caller over the limit leaves nothing. -/
theorem admission_of_limitRejected {md : MetadataMap} (hlimit : LimitRejected gw env md) :
    ∃ status, admission gw env md = .error status ∧ status.code = .resourceExhausted ∧
      ∀ rid rpc, admissionEffects gw env md rid rpc = [] := by
  obtain ⟨identity, tenant, hauth, htenant, hlimited, hrejected⟩ := hlimit
  obtain ⟨status, hstatus, hcode⟩ := toResult_of_ne_admitted tenant identity.userId hrejected
  refine ⟨status, ?_, hcode, fun rid rpc => ?_⟩
  · simp [admission, hauth, htenant, hlimited, hstatus]
  · simp [admissionEffects, hauth, htenant]

/-- Everyone else is admitted. -/
theorem admission_of_not_limitRejected {md : MetadataMap} (hlimit : ¬ LimitRejected gw env md)
    (href : ¬ Refused gw env md) :
    ∃ identity tenant, env.authenticate md = .ok identity ∧
      gw.tenantResolver.resolve md identity = .ok tenant ∧
      admission gw env md = .ok (identity, tenant) := by
  cases hauth : env.authenticate md with
  | error status => exact absurd (.caller hauth) href
  | ok identity =>
    cases htenant : gw.tenantResolver.resolve md identity with
    | error status => exact absurd (.tenant hauth htenant) href
    | ok tenant =>
      refine ⟨identity, tenant, rfl, htenant, ?_⟩
      by_cases hadmitted : env.check tenant identity.userId = .admitted
      · simp [admission, hauth, htenant, hadmitted, Verdict.toResult]
      · have hlimited : gw.rateLimited = false := by
          by_contra hon
          exact hlimit ⟨identity, tenant, hauth, htenant, by simpa using hon, hadmitted⟩
        simp [admission, hauth, htenant, hlimited]

/-! ### The whole RPC -/

/-- The failure events of an admitted RPC are those of `finalise_rpc`. -/
theorem failures_of_admitted (h : Handler S σ) (s : σ) {rpc : Rpc} {identity : Identity}
    {tenant : String} (hadm : admission gw env rpc.metadata = .ok (identity, tenant)) :
    failures (effects (runRpc gw h env rpc s).trace) =
      failures (finalEffects gw (runRpc gw h env rpc s).value tenant identity.userId
        env.requestId rpc.name) := by
  obtain ⟨hvalue, -, heffects⟩ := runRpc_of_admitted h s hadm
  rw [heffects, hvalue, failures_append, failures_body, List.nil_append]

/-- **Audit completeness.** With the audit log enabled, an RPC leaves exactly the failure event
it should if and only if the limiter admits it or is not reached. -/
theorem auditComplete_iff (gw : Gateway S) (h : Handler S σ) (env : Env) (rpc : Rpc) (s : σ)
    (henabled : gw.audit.enabled = true) :
    AuditComplete gw h env rpc s ↔ ¬ LimitRejected gw env rpc.metadata := by
  constructor
  · -- A rejected RPC fails with `ResourceExhausted`, and its run wrote nothing.
    intro hcomplete hlimit
    obtain ⟨status, hadm, hcode, hnone⟩ := admission_of_limitRejected hlimit
    obtain ⟨hvalue, -, heffects⟩ := runRpc_of_refused h s hadm
    obtain ⟨event, hevent, -⟩ := hcomplete.failed status hvalue (by simp [hcode]) (by simp [hcode])
    rw [heffects, hnone] at hevent
    simp [failures, audits] at hevent
  · intro hlimit
    by_cases href : Refused gw env rpc.metadata
    · -- The event comes from `authenticate_and_resolve`.
      obtain ⟨status, reason, hadm, hwritten⟩ := admission_of_refused href
      obtain ⟨hvalue, -, heffects⟩ := runRpc_of_refused h s hadm
      refine ⟨fun status' hvalue' _ _ => ?_, fun resp hok => ?_⟩
      · refine ⟨.authFailure env.requestId rpc.name reason, ?_, .refused href⟩
        rw [heffects, hwritten, failures_writing henabled rfl]
      · rw [hvalue] at hok
        cases hok
    · -- The event comes from `finalise_rpc`.
      obtain ⟨identity, tenant, hauth, htenant, hadm⟩ :=
        admission_of_not_limitRejected hlimit href
      refine ⟨fun status hvalue hok hcancelled => ?_, fun resp hvalue => ?_⟩
      · refine ⟨.rpcError env.requestId rpc.name tenant identity.userId (statusCodeLabel status)
          status.message, ?_, .failed hauth htenant⟩
        rw [failures_of_admitted h s hadm, hvalue]
        show failures (if status.code = .cancelled then [] else _) = _
        rw [if_neg hcancelled, failures_writing henabled rfl]
      · rw [failures_of_admitted h s hadm, hvalue, failures_finalEffects_ok]

end

/-- A call of `AnalyzePlan` without metadata. -/
def analyzeCall : Rpc := .request (fun _ => none) (.analyzePlan ⟨"session-1", none, []⟩)

/-- Without a healthy backend the call fails and is reported. -/
theorem auditComplete_noBackend :
    AuditComplete (Gateway.inProcess (.single 0)) MemoryStore.apply
      { Env.healthy (Identity.user "alice") "be-a:15002" with pick := fun _ => none }
      analyzeCall MemoryStore.new := by
  refine (auditComplete_iff (Gateway.inProcess (.single 0)) _ _ _ _ rfl).mpr ?_
  rintro ⟨_, _, _, _, hlimited, _⟩
  cases hlimited

/-- Alice is over the limit: the call is refused, and the log, though enabled, is empty. -/
theorem limitRejection_unaudited :
    let gw := { Gateway.inProcess (.single 0) with rateLimited := true }
    let env := { Env.healthy (Identity.user "alice") "be-a:15002" with
      check := fun _ _ => .rejected .user }
    let run := runRpc gw MemoryStore.apply env analyzeCall MemoryStore.new
    gw.audit.enabled = true ∧
      (∃ status, run.value = .error status ∧ status.code = .resourceExhausted) ∧
      audits (effects run.trace) = [] ∧
      ¬ AuditComplete gw MemoryStore.apply env analyzeCall MemoryStore.new := by
  intro gw env run
  have hvalue : ∃ status, run.value = .error status ∧ status.code = .resourceExhausted :=
    ⟨_, rfl, rfl⟩
  have hnone : audits (effects run.trace) = [] := rfl
  refine ⟨rfl, hvalue, hnone, fun hcomplete => ?_⟩
  obtain ⟨status, hstatus, hcode⟩ := hvalue
  obtain ⟨event, hevent, -⟩ := hcomplete.failed status hstatus (by simp [hcode]) (by simp [hcode])
  have hempty : failures (effects run.trace) = [] := by rw [failures, hnone]; rfl
  rw [hempty] at hevent
  cases hevent

end SparkGateway.Proofs.Handler

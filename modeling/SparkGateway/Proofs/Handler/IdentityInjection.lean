import SparkGateway.Proofs.Handler.Transition
import SparkGateway.Proofs.Handler.Upload

/-!
# `SparkGateway.Proofs.Handler.IdentityInjection`: whose name a forwarded message carries

A backend takes the user of a session from `UserContext.user_id`, so every message that the
gateway forwards should carry the verified user, and be the client's message in every other
field (`Injected`). A handler sends one request and stamps it. `add_artifacts` sends a stream
and stamps its first message only: the task that forwards the rest copies each message as the
client wrote it. `identityInjected_iff` says what follows. For a request the identity is
injected whatever the client sent. For an upload it is injected in every run exactly when the
client itself put the verified user into each message after the first.
-/

set_option autoImplicit false

namespace SparkGateway.Proofs.Handler

open SparkGateway.Lib
open SparkGateway.Spec

/-- The forwarded message `m'` is the client's message `m` with the verified user in it. The
other fields are the client's, those of its user context included. -/
structure Injected {β : Type} (id : Identity) (m m' : Message β) : Prop where
  sessionId : m'.sessionId = m.sessionId
  body : m'.body = m.body
  userContext : m'.userContext = some { m.userContext.getD .default with userId := id.userId }

/-- The forwarded request is the client's request with the verified user in it. -/
def RequestInjected (id : Identity) : Request → Request → Prop
  | .analyzePlan m, .analyzePlan m' => Injected id m m'
  | .config m, .config m' => Injected id m m'
  | .artifactStatus m, .artifactStatus m' => Injected id m m'
  | .interrupt m, .interrupt m' => Injected id m m'
  | .releaseExecute m, .releaseExecute m' => Injected id m m'
  | .releaseSession m, .releaseSession m' => Injected id m m'
  | .fetchErrorDetails m, .fetchErrorDetails m' => Injected id m m'
  | .cloneSession m, .cloneSession m' => Injected id m m'
  | .getStatus m, .getStatus m' => Injected id m m'
  | .executePlan m, .executePlan m' => Injected id m m'
  | .reattachExecute m, .reattachExecute m' => Injected id m m'
  | _, _ => False

/-- Every message that a run forwards is the corresponding message of the client with the
verified user in it. The messages of an upload correspond in order. -/
def IdentityInjected (id : Identity) (rpc : Rpc) (es : List Effect) : Prop :=
  ∀ effect ∈ es, match effect with
    | .sent _ _ req => ∃ md r, rpc = .request md r ∧ RequestInjected id r req
    | .uploaded _ _ delivered => ∃ md inbound ms, rpc = .addArtifacts md inbound ∧
        ms <+: inbound.messages ∧ List.Forall₂ (Injected id) ms delivered
    | _ => True

/-- The client put the user `id` into every message of an upload after the first. -/
def TailCarries (id : Identity) : Rpc → Prop
  | .request _ _ => True
  | .addArtifacts _ inbound =>
      ∀ m ∈ inbound.messages.tail, m.userContext.map (·.userId) = some id.userId

/-! ### Stamping -/

section
variable {β : Type} {id : Identity}

/-- A stamped message has the caller's identity, and otherwise the client's fields. -/
theorem injected_stamp (m : Message β) : Injected id m (m.stamp id) := by
  refine ⟨rfl, rfl, ?_⟩
  show stampUserContext m.userContext id = _
  cases m.userContext with
  | none => rfl
  | some ctx => rfl

/-- A stamped request has the caller's identity, and otherwise the client's fields. -/
theorem requestInjected_stamp (r : Request) : RequestInjected id r (stampRequest id r) := by
  cases r <;> exact injected_stamp _

/-- A message is injected as it is exactly when it carries the user already. -/
theorem injected_self_iff {m : Message β} :
    Injected id m m ↔ m.userContext.map (·.userId) = some id.userId := by
  constructor
  · intro h
    rw [h.userContext]
    rfl
  · intro h
    refine ⟨rfl, rfl, ?_⟩
    cases hctx : m.userContext with
    | none =>
      rw [hctx] at h
      cases h
    | some ctx =>
      rw [hctx] at h
      have huser : ctx.userId = id.userId := Option.some.inj h
      rw [Option.getD_some, ← huser]

end

/-- What corresponds to a prefix is a prefix of what corresponds to the whole. -/
theorem forall₂_of_isPrefix {α β : Type} {R : α → β → Prop} {as : List α} {bs ds : List β}
    (h : List.Forall₂ R as bs) (hds : ds <+: bs) : ∃ cs, cs <+: as ∧ List.Forall₂ R cs ds := by
  refine ⟨as.take ds.length, List.take_prefix _ _, ?_⟩
  have htake := List.forall₂_take ds.length h
  rwa [← List.prefix_iff_eq_take.mp hds] at htake

/-! ### What a run forwards -/

section
variable {S : Sig} {σ : Type} {gw : Gateway S} {env : Env} {rpc : Rpc} {id : Identity}

/-- Writing an event has no other effect. -/
theorem mem_writing {event : AuditEvent} {effect : Effect} (h : effect ∈ writing gw event) :
    effect = .audited event := by
  unfold writing at h
  split at h
  · exact List.mem_singleton.mp h
  · cases h

/-- The caller that is admitted is the one that was authenticated. -/
theorem authenticate_of_admission {md : MetadataMap} {tenant : String}
    (hadm : admission gw env md = .ok (id, tenant)) : env.authenticate md = .ok id := by
  unfold admission at hadm
  cases hauth : env.authenticate md with
  | error status => simp [hauth] at hadm
  | ok identity =>
    simp only [hauth] at hadm
    split at hadm
    · cases hadm
    · split at hadm
      · split at hadm
        · cases hadm
        · cases hadm
          rfl
      · cases hadm
        rfl

/-- The effects of an RPC besides audit events are those of its body, for the authenticated
caller. -/
theorem effect_cases (h : Handler S σ) (s : σ) (hauth : env.authenticate rpc.metadata = .ok id)
    {effect : Effect} (heffect : effect ∈ effects (runRpc gw h env rpc s).trace) :
    (∃ event, effect = .audited event) ∨ BodyEffect env rpc env.requestId id effect := by
  cases hadm : admission gw env rpc.metadata with
  | error status =>
    -- Nothing is sent for a caller that is not admitted.
    obtain ⟨-, -, heffects⟩ := runRpc_of_refused h s hadm
    rw [heffects] at heffect
    unfold admissionEffects at heffect
    split at heffect
    · exact .inl ⟨_, mem_writing heffect⟩
    · split at heffect
      · exact .inl ⟨_, mem_writing heffect⟩
      · cases heffect
  | ok p =>
    obtain ⟨identity, tenant⟩ := p
    obtain rfl : identity = id :=
      Except.ok.inj ((authenticate_of_admission hadm).symm.trans hauth)
    obtain ⟨-, -, heffects⟩ := runRpc_of_admitted h s hadm
    rw [heffects] at heffect
    rcases List.mem_append.mp heffect with hbody | hfinal
    · exact .inr (body_effects gw _ _ _ env h rpc s effect hbody)
    · unfold finalEffects at hfinal
      split at hfinal
      · exact .inl ⟨_, mem_writing hfinal⟩
      · split at hfinal
        · cases hfinal
        · exact .inl ⟨_, mem_writing hfinal⟩

/-- If the client's later messages carry the user, every forwarded message does. -/
theorem identityInjected_of_tailCarries (hcarries : TailCarries id rpc) (h : Handler S σ) (s : σ)
    (hauth : env.authenticate rpc.metadata = .ok id) :
    IdentityInjected id rpc (effects (runRpc gw h env rpc s).trace) := by
  intro effect heffect
  rcases effect_cases h s hauth heffect with ⟨event, rfl⟩ | hbody
  · trivial
  cases effect with
  | picked pool addr => trivial
  | audited event => trivial
  | sent addr rid req =>
    obtain ⟨-, md, r, hrpc, rfl⟩ := hbody
    exact ⟨md, r, hrpc, requestInjected_stamp r⟩
  | uploaded addr rid delivered =>
    obtain ⟨-, md, m, rest, rfl, rfl⟩ := hbody
    -- The first message is stamped and the others carry the user already.
    have htail : List.Forall₂ (Injected id) rest.messages rest.messages :=
      List.forall₂_same.mpr fun m' hm' => injected_self_iff.mpr (hcarries m' hm')
    have hall : List.Forall₂ (Injected id) (m :: rest.messages) (m.stamp id :: rest.messages) :=
      .cons (injected_stamp m) htail
    obtain ⟨ms, hms, hforall⟩ := forall₂_of_isPrefix hall (delivered_isPrefix _ _ env.uploadMoves)
    exact ⟨md, _, ms, rfl, hms, hforall⟩

end

/-! ### An upload that is delivered to its end -/

section
variable {env : Env} {id : Identity} {md : MetadataMap} {m : AddArtifactsRequest}
  {rest : List AddArtifactsRequest} {ending : StreamEnd}

/-- An upload that is routed to a backend which can be dialed is sent. -/
theorem uploaded_mem {gw : Gateway MemorySig} (hstore : gw.router.store = MemoryStore.store)
    (s : MemoryStore.State) {tenant addr : String}
    (hadm : admission gw env md = .ok (id, tenant))
    (haddr : (routeBySession gw.router.tenants env (keyFromIdentity tenant m.sessionId id) s).addr
      = some addr) (hchannel : env.channel addr = .ok ()) :
    .uploaded addr env.requestId (deliveredOf env (m.stamp id) ⟨rest, ending⟩) ∈
      effects (runRpc gw MemoryStore.apply env (.addArtifacts md ⟨m :: rest, ending⟩) s).trace := by
  have hadm' : admission gw env (Rpc.addArtifacts md ⟨m :: rest, ending⟩).metadata
      = .ok (id, tenant) := hadm
  obtain ⟨-, -, heffects⟩ := runRpc_of_admitted MemoryStore.apply s hadm'
  -- The code's routing gives the address of the abstract one.
  have hroutes := (routes_addrOf env s hstore id tenant (.addArtifacts md ⟨m :: rest, ending⟩)).1
  rw [observe_addrOf] at hroutes
  rw [heffects, observe_body]
  refine List.mem_append_left _ ?_
  rcases hrun : routing env MemoryStore.apply gw (.addArtifacts md ⟨m :: rest, ending⟩) id tenant s
    with ⟨value, s', es⟩
  rw [hrun] at hroutes
  cases value with
  | error status => cases hroutes.trans haddr
  | ok a =>
    obtain rfl : a = addr := Option.some.inj (hroutes.trans haddr)
    simp [sending, hchannel]

/-- A world in which the caller is `id`, everything works, and the upload makes the moves. -/
def uploadEnv (id : Identity) (moves : List ForwarderMove) : Env :=
  { Env.healthy id "be-a:15002" with uploadMoves := moves }

/-- In that world the upload is sent. -/
theorem uploaded_mem_uploadEnv (moves : List ForwarderMove) :
    .uploaded "be-a:15002" "rid" (deliveredOf (uploadEnv id moves) (m.stamp id) ⟨rest, ending⟩) ∈
      effects (runRpc (Gateway.inProcess (.single 0)) MemoryStore.apply (uploadEnv id moves)
        (.addArtifacts md ⟨m :: rest, ending⟩) MemoryStore.new).trace := by
  obtain ⟨tenant, htenant⟩ : ∃ tenant, TenantResolver.default.resolve md id = .ok tenant := by
    unfold TenantResolver.resolve TenantResolver.candidate TenantResolver.default
    simp only
    split
    · split <;> exact ⟨_, rfl⟩
    · exact ⟨_, rfl⟩
  have hadm : admission (Gateway.inProcess (.single 0)) (uploadEnv id moves) md
      = .ok (id, tenant) := by
    simp [admission, Gateway.inProcess, uploadEnv, Env.healthy, htenant]
  refine uploaded_mem rfl MemoryStore.new hadm ?_ rfl
  unfold routeBySession sessionRoute
  cases hzero : (keyFromIdentity tenant m.sessionId id).isZero with
  | true => rfl
  | false => rfl

/-- **Identity injection.** In every run of the RPC of an authenticated caller the forwarded
messages carry its identity, if and only if the RPC is not an upload or the client put the
identity into every message after the first. -/
theorem identityInjected_iff (rpc : Rpc) (id : Identity) :
    (∀ (S : Sig) (σ : Type) (gw : Gateway S) (h : Handler S σ) (env : Env) (s : σ),
      env.authenticate rpc.metadata = .ok id →
      IdentityInjected id rpc (effects (runRpc gw h env rpc s).trace)) ↔ TailCarries id rpc := by
  constructor
  · intro hall
    cases rpc with
    | request md req => trivial
    | addArtifacts md inbound =>
      obtain ⟨messages, ending⟩ := inbound
      cases messages with
      | nil =>
        intro m hm
        cases hm
      | cons m rest =>
        -- A run in which the whole stream is delivered.
        obtain ⟨moves, hmoves⟩ := delivered_all (m.stamp id) ⟨rest, ending⟩
        have hrun := hall MemorySig MemoryStore.State (Gateway.inProcess (.single 0))
          MemoryStore.apply (uploadEnv id moves) MemoryStore.new rfl _
          (uploaded_mem_uploadEnv moves)
        obtain ⟨md', inbound, ms, hrpc, hms, hforall⟩ := hrun
        obtain ⟨-, rfl⟩ := Rpc.addArtifacts.inj hrpc
        have hdelivered : deliveredOf (uploadEnv id moves) (m.stamp id) ⟨rest, ending⟩
            = m.stamp id :: rest := hmoves
        rw [hdelivered] at hforall
        have hlength : ms.length = (m :: rest).length := by
          rw [hforall.length_eq, List.length_cons, List.length_cons]
        rw [hms.eq_of_length hlength] at hforall
        cases hforall with
        | cons hfirst hrest =>
          intro m' hm'
          exact injected_self_iff.mp (List.forall₂_same.mp hrest m' hm')
  · intro hcarries S σ gw h env s hauth
    exact identityInjected_of_tailCarries hcarries h s hauth

end

/-- An upload of two messages, the second one in the name of bob. -/
def bobsUpload : Rpc :=
  .addArtifacts (fun _ => none)
    ⟨[⟨"sess-1", none, []⟩, ⟨"sess-1", some ⟨"bob", "", []⟩, []⟩], .done⟩

/-- Alice sends it, and the backend receives the second message with bob's name. -/
theorem upload_forwards_foreign_user :
    let alice := Identity.user "alice"
    let es := effects (runRpc (Gateway.inProcess (.single 0)) MemoryStore.apply
      (uploadEnv alice [.deliver, .read, .send, .deliver]) bobsUpload MemoryStore.new).trace
    .uploaded "be-a:15002" "rid" [⟨"sess-1", some ⟨"alice", "", []⟩, []⟩,
        ⟨"sess-1", some ⟨"bob", "", []⟩, []⟩] ∈ es ∧
      ¬ IdentityInjected alice bobsUpload es := by
  intro alice es
  have hmem : .uploaded "be-a:15002" "rid" [⟨"sess-1", some ⟨"alice", "", []⟩, []⟩,
      ⟨"sess-1", some ⟨"bob", "", []⟩, []⟩] ∈ es :=
    @uploaded_mem_uploadEnv alice _ _ _ _ [.deliver, .read, .send, .deliver]
  refine ⟨hmem, fun hinjected => ?_⟩
  -- The second message was delivered as Bob's.
  obtain ⟨md, inbound, ms, -, -, hforall⟩ := hinjected _ hmem
  cases hforall with
  | cons _ hrest =>
    cases hrest with
    | cons hbob _ =>
      have huser : some "bob" = some "alice" :=
        congrArg (Option.map UserContext.userId) hbob.userContext
      exact absurd huser (by decide)

end SparkGateway.Proofs.Handler

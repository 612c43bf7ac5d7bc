import SparkGateway.Proofs.Handler.IdentityInjection

/-!
# `SparkGateway.Proofs.Handler.UploadEnd`: when a backend sees an upload end

The backend takes an upload for complete when its stream closes normally: the channel is empty
and its sender is gone (`ClosedNormally`). The sender lives in the forwarding task, and the task
ends when `inbound.message()` returns anything but a message. That is the end of the client's
stream, but also an error in the middle of it, after which the stream closes in the same way.

While the receiver lives, the task only ends with nothing left to read or to send
(`EndedAtEnd`), so a stream that closes normally has delivered every message the gateway
received. `notTruncated_iff` says when that is the whole upload: in every run of an upload a
normal close means that the client's stream ended normally and was delivered to its end,
exactly when that stream does not end with an error.
-/

set_option autoImplicit false

namespace SparkGateway.Proofs.Handler

open SparkGateway.Lib
open SparkGateway.Spec

/-- The backend has read the whole stream and found its end: the channel is empty, and the task
that held the sender is gone. -/
def ClosedNormally (f : Forwarder) : Prop :=
  f.receiving = true ∧ f.running = false ∧ f.queue = []

/-- What the backend should receive of an upload: its messages, the first one stamped. -/
def stampedMessages (id : Identity) (inbound : ClientStream) : List AddArtifactsRequest :=
  match inbound.messages with
  | [] => []
  | m :: rest => m.stamp id :: rest

/-- The forwarding of an upload by `id` after some moves, if it has a first message. -/
def uploadAfter (id : Identity) (inbound : ClientStream) (moves : List ForwarderMove) :
    Option Forwarder :=
  match inbound.messages with
  | [] => none
  | m :: rest => some ((Forwarder.start (m.stamp id) ⟨rest, inbound.ending⟩).run moves)

/-- What was delivered is an initial part of the upload, and if the stream to the backend has
closed normally, the client's stream has ended normally and all of it was delivered. -/
structure NotTruncated (id : Identity) (inbound : ClientStream) (f : Forwarder) : Prop where
  isPrefix : f.delivered <+: stampedMessages id inbound
  complete : ClosedNormally f →
    inbound.ending = .done ∧ f.delivered = stampedMessages id inbound

/-! ### How the task ends -/

/-- As long as someone receives, the task ends only when there is nothing left to forward. -/
def EndedAtEnd (f : Forwarder) : Prop :=
  f.receiving = true → f.running = false → f.held = none ∧ f.inbound = []

/-- One move keeps that the task ends at the end of the stream. -/
theorem Moved.endedAtEnd {f f' : Forwarder} (hmoved : Moved f f') (h : EndedAtEnd f) :
    EndedAtEnd f' := by
  cases hmoved with
  | idle => exact h
  | taken hrunning =>
    intro _ hended
    exact absurd (hended.symm.trans hrunning) Bool.false_ne_true
  | ended hheld hinbound => exact fun _ _ => ⟨hheld, hinbound⟩
  | refused hreceiving =>
    intro halive
    exact absurd (hreceiving.symm.trans halive) Bool.false_ne_true
  | queued hrunning =>
    intro _ hended
    exact absurd (hended.symm.trans hrunning) Bool.false_ne_true
  | handed => exact h
  | closed => exact fun halive => absurd halive Bool.false_ne_true

/-- A run keeps that the task ends at the end of the stream. -/
theorem endedAtEnd_run (moves : List ForwarderMove) {f : Forwarder} (h : EndedAtEnd f) :
    EndedAtEnd (f.run moves) := by
  induction moves generalizing f with
  | nil => exact h
  | cons m moves ih => exact ih ((moved f m).endedAtEnd h)

/-- At the start the task has not ended. -/
theorem endedAtEnd_start (first : AddArtifactsRequest) (rest : ClientStream) :
    EndedAtEnd (Forwarder.start first rest) :=
  fun _ hended => absurd hended.symm Bool.false_ne_true

/-- **A normal close delivers everything**, with whatever the inbound stream ended. -/
theorem delivered_of_closedNormally (first : AddArtifactsRequest) (rest : ClientStream)
    (moves : List ForwarderMove)
    (hclosed : ClosedNormally ((Forwarder.start first rest).run moves)) :
    ((Forwarder.start first rest).run moves).delivered = first :: rest.messages := by
  obtain ⟨hreceiving, hended, hqueue⟩ := hclosed
  obtain ⟨hheld, hinbound⟩ :=
    endedAtEnd_run moves (endedAtEnd_start first rest) hreceiving hended
  have hall := (forwarded_run moves (forwarded_start first rest)).1 hreceiving
  rw [hqueue, hheld, hinbound] at hall
  simpa using hall

/-- Some interleaving closes the stream normally, with whatever the inbound stream ends. -/
theorem closedNormally_exists (first : AddArtifactsRequest) (rest : ClientStream) :
    ∃ moves, ClosedNormally ((Forwarder.start first rest).run moves) := by
  refine ⟨.deliver :: (List.replicate rest.messages.length carryOne).flatten ++ [.read], ?_⟩
  have hfirst : (Forwarder.start first rest).move .deliver
      = ⟨rest.messages, rest.ending, none, [], true, true, [first]⟩ := rfl
  rw [Forwarder.run, List.cons_append, List.foldl_cons, List.foldl_append, hfirst]
  show ClosedNormally (Forwarder.run [.read] (Forwarder.run _ _))
  rw [carry_all]
  exact ⟨rfl, rfl, rfl⟩

/-! ### Uploads -/

/-- An upload of `m :: rest` whose stream does not end with an error. -/
theorem notTruncated_of_done (id : Identity) (m : AddArtifactsRequest)
    (rest : List AddArtifactsRequest) (moves : List ForwarderMove) :
    NotTruncated id ⟨m :: rest, .done⟩
      ((Forwarder.start (m.stamp id) ⟨rest, .done⟩).run moves) where
  isPrefix := delivered_isPrefix (m.stamp id) ⟨rest, .done⟩ moves
  complete hclosed := ⟨rfl, delivered_of_closedNormally (m.stamp id) ⟨rest, .done⟩ moves hclosed⟩

/-- **No silently truncated upload.** In every run of the upload, whatever the backend and the
interleaving do, what reaches the backend is not truncated, if and only if the client's stream
ends normally (or fails before its first message, so that nothing is sent). -/
theorem notTruncated_iff (id : Identity) (inbound : ClientStream) :
    (∀ (S : Sig) (σ : Type) (gw : Gateway S) (h : Handler S σ) (env : Env) (s : σ)
      (md : MetadataMap), env.authenticate md = .ok id →
      ∀ addr rid delivered,
        .uploaded addr rid delivered ∈
          effects (runRpc gw h env (.addArtifacts md inbound) s).trace →
        ∃ f, uploadAfter id inbound env.uploadMoves = some f ∧ f.delivered = delivered ∧
          NotTruncated id inbound f) ↔
      inbound.messages = [] ∨ inbound.ending = .done := by
  obtain ⟨messages, ending⟩ := inbound
  constructor
  · intro hall
    cases messages with
    | nil => exact .inl rfl
    | cons m rest =>
      -- A run in which the stream closes normally.
      obtain ⟨moves, hclosed⟩ := closedNormally_exists (m.stamp id) ⟨rest, ending⟩
      obtain ⟨f, hf, -, hcomplete⟩ := hall MemorySig MemoryStore.State
        (Gateway.inProcess (.single 0)) MemoryStore.apply (uploadEnv id moves) MemoryStore.new
        (fun _ => none) rfl _ _ _ (uploaded_mem_uploadEnv moves)
      obtain rfl := Option.some.inj hf
      exact .inr (hcomplete.complete hclosed).1
  · intro hending S σ gw h env s md hauth addr rid delivered heffect
    have hauth' : env.authenticate (Rpc.addArtifacts md ⟨messages, ending⟩).metadata = .ok id :=
      hauth
    obtain ⟨event, hevent⟩ | hbody := effect_cases h s hauth' heffect
    · cases hevent
    · obtain ⟨-, md', m, rest, hrpc, hdelivered⟩ := hbody
      cases hrpc
      -- The upload has a first message, so its stream ends normally.
      cases hending with
      | inl hnil => cases hnil
      | inr hdone =>
        obtain ⟨rest, ending⟩ := rest
        cases hdone
        exact ⟨_, rfl, hdelivered.symm, notTruncated_of_done id m rest env.uploadMoves⟩

/-- An upload whose stream breaks after its first message. -/
def brokenStream : ClientStream := ⟨[⟨"sess-1", none, []⟩], .error (.unavailable "reset")⟩

/-- Alice sends it: the stream to the backend closes normally after the first message, and the
RPC is answered `Ok`. -/
theorem brokenUpload_closes_normally :
    let alice := Identity.user "alice"
    let moves := [.deliver, .read]
    let o := runRpc (Gateway.inProcess (.single 0)) MemoryStore.apply (uploadEnv alice moves)
      (.addArtifacts (fun _ => none) brokenStream) MemoryStore.new
    .uploaded "be-a:15002" "rid" [⟨"sess-1", some ⟨"alice", "", []⟩, []⟩] ∈ effects o.trace ∧
      o.value = .ok (.unary []) ∧
      ∃ f, uploadAfter alice brokenStream moves = some f ∧ ClosedNormally f ∧
        ¬ NotTruncated alice brokenStream f := by
  refine ⟨uploaded_mem_uploadEnv _, by decide +kernel, _, rfl, ⟨rfl, rfl, rfl⟩, ?_⟩
  intro hcomplete
  have hdone := (hcomplete.complete ⟨rfl, rfl, rfl⟩).1
  cases hdone

end SparkGateway.Proofs.Handler

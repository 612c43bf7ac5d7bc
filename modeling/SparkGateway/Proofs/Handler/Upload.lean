import SparkGateway.Spec.ArtifactStream

/-!
# `SparkGateway.Proofs.Handler.Upload`: what an upload delivers

The forwarding task and the backend call of an upload run at the same time. Whatever their
interleaving, the channel keeps the order and drops nothing while its receiver lives: the
messages delivered, queued, held and still to be read are those of the client (`Forwarded`).
So the backend receives a prefix of the client's stream (`delivered_isPrefix`), and some
interleaving delivers all of it (`delivered_all`).
-/

set_option autoImplicit false

namespace SparkGateway.Proofs.Handler

open SparkGateway.Spec

/-! ### What a move can do -/

/-- The states that one move can lead to. -/
inductive Moved (f : Forwarder) : Forwarder → Prop where
  | idle : Moved f f
  /-- The task has read a message. -/
  | taken {m : AddArtifactsRequest} {ms : List AddArtifactsRequest} (hrunning : f.running = true)
      (hheld : f.held = none) (hinbound : f.inbound = m :: ms) :
      Moved f { f with inbound := ms, held := some m }
  /-- The task has seen the inbound stream end, in whichever way. -/
  | ended (hheld : f.held = none) (hinbound : f.inbound = []) : Moved f { f with running := false }
  /-- The task has found the receiver gone. -/
  | refused (hreceiving : f.receiving = false) :
      Moved f { f with running := false, held := none }
  | queued {m : AddArtifactsRequest} (hrunning : f.running = true) (hheld : f.held = some m) :
      Moved f { f with queue := f.queue ++ [m], held := none }
  | handed {m : AddArtifactsRequest} {ms : List AddArtifactsRequest}
      (hreceiving : f.receiving = true) (hqueue : f.queue = m :: ms) :
      Moved f { f with queue := ms, delivered := f.delivered ++ [m] }
  | closed : Moved f { f with receiving := false, queue := [] }

/-- Every move leads to one of these states. -/
theorem moved (f : Forwarder) (m : ForwarderMove) : Moved f (f.move m) := by
  cases m with
  | read =>
    unfold Forwarder.move
    dsimp only
    split
    · exact .taken ‹_› ‹_› ‹_›
    · exact .ended ‹_› ‹_›
    · exact .idle
  | send =>
    unfold Forwarder.move
    dsimp only
    split
    · split
      · -- The receiver has gone, or the channel is full, or there is room.
        rename_i hreceiving
        exact .refused (by simpa using hreceiving)
      · split
        · exact .queued ‹_› ‹_›
        · exact .idle
    · exact .idle
  | deliver =>
    unfold Forwarder.move
    dsimp only
    split
    · exact .handed ‹_› ‹_›
    · exact .idle
  | closeReceiver => exact .closed

/-! ### The messages stay in order -/

/-- While the receiver lives, every message of `all` is in one of four places, in order. Once
it is gone, what was delivered stays a prefix. -/
def Forwarded (all : List AddArtifactsRequest) (f : Forwarder) : Prop :=
  (f.receiving = true → f.delivered ++ f.queue ++ f.held.toList ++ f.inbound = all) ∧
    f.delivered <+: all

/-- The upload starts with its first message queued and the others to be read. -/
theorem forwarded_start (first : AddArtifactsRequest) (rest : ClientStream) :
    Forwarded (first :: rest.messages) (Forwarder.start first rest) := by
  refine ⟨fun _ => ?_, ?_⟩
  · simp [Forwarder.start]
  · exact List.nil_prefix

/-- Every move keeps the messages in order. -/
theorem Moved.forwarded {all : List AddArtifactsRequest} {f f' : Forwarder} (hmoved : Moved f f')
    (h : Forwarded all f) : Forwarded all f' := by
  obtain ⟨hall, hprefix⟩ := h
  cases hmoved with
  | idle => exact ⟨hall, hprefix⟩
  | taken _ hheld hinbound =>
    -- A message that is taken moves from the inbound stream to the task, and all are still there.
    refine ⟨fun hreceiving => ?_, hprefix⟩
    rw [← hall hreceiving, hheld, hinbound]
    simp
  | ended => exact ⟨hall, hprefix⟩
  | refused hreceiving =>
    exact ⟨fun halive => absurd (hreceiving.symm.trans halive) Bool.false_ne_true, hprefix⟩
  | queued _ hheld =>
    refine ⟨fun hreceiving => ?_, hprefix⟩
    rw [← hall hreceiving, hheld]
    simp
  | @handed m ms hreceiving hqueue =>
    -- The oldest message of the queue is the next one delivered.
    have hmoved : (f.delivered ++ [m]) ++ (ms ++ f.held.toList ++ f.inbound) = all := by
      rw [← hall hreceiving, hqueue]
      simp
    refine ⟨fun _ => ?_, ⟨_, hmoved⟩⟩
    rw [← hmoved]
    simp
  | closed => exact ⟨fun halive => absurd halive Bool.false_ne_true, hprefix⟩

/-- Every interleaving keeps the messages in order. -/
theorem forwarded_run {all : List AddArtifactsRequest} (moves : List ForwarderMove) {f : Forwarder}
    (h : Forwarded all f) : Forwarded all (f.run moves) := by
  induction moves generalizing f with
  | nil => exact h
  | cons m moves ih => exact ih ((moved f m).forwarded h)

/-- The backend receives a prefix of the client's stream. -/
theorem delivered_isPrefix (first : AddArtifactsRequest) (rest : ClientStream)
    (moves : List ForwarderMove) :
    ((Forwarder.start first rest).run moves).delivered <+: first :: rest.messages :=
  (forwarded_run moves (forwarded_start first rest)).2

/-- The moves that carry the next message through an empty channel. -/
def carryOne : List ForwarderMove := [.read, .send, .deliver]

/-- Carrying one message after another delivers what is left of the stream. -/
theorem carry_all (inbound : List AddArtifactsRequest) (ending : StreamEnd)
    (delivered : List AddArtifactsRequest) :
    Forwarder.run (List.replicate inbound.length carryOne).flatten
      ⟨inbound, ending, none, [], true, true, delivered⟩ =
        ⟨[], ending, none, [], true, true, delivered ++ inbound⟩ := by
  induction inbound generalizing delivered with
  | nil => simp [Forwarder.run]
  | cons m ms ih =>
    have hone : Forwarder.run carryOne ⟨m :: ms, ending, none, [], true, true, delivered⟩
        = ⟨ms, ending, none, [], true, true, delivered ++ [m]⟩ := rfl
    rw [List.length_cons, List.replicate_succ, List.flatten_cons, Forwarder.run, List.foldl_append]
    show Forwarder.run _ (Forwarder.run carryOne _) = _
    rw [hone, ih, List.append_assoc]
    rfl

/-- Some interleaving delivers the whole stream. -/
theorem delivered_all (first : AddArtifactsRequest) (rest : ClientStream) :
    ∃ moves, ((Forwarder.start first rest).run moves).delivered = first :: rest.messages := by
  refine ⟨.deliver :: (List.replicate rest.messages.length carryOne).flatten, ?_⟩
  have hfirst : (Forwarder.start first rest).move .deliver
      = ⟨rest.messages, rest.ending, none, [], true, true, [first]⟩ := rfl
  show (Forwarder.run _ ((Forwarder.start first rest).move .deliver)).delivered = _
  rw [hfirst, carry_all]
  rfl

end SparkGateway.Proofs.Handler

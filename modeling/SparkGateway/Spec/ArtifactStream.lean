import SparkGateway.Spec.Grpc

/-!
# `SparkGateway.Spec.ArtifactStream`: the forwarding task of an upload

`add_artifacts` (`crates/proxy/src/handler.rs`) puts the first message of the client's stream
into a bounded channel and spawns a task that copies the rest into it, while the backend
call reads from the other end. `Forwarder` is the state of the three: the inbound stream, the
task with the message it holds, and the channel with what the backend call took out of it.

One `ForwarderMove` is one step of one of them, so a list of moves is an interleaving. The task
ends when the inbound stream ends, normally or with an error, and when the channel's receiver
is gone.
-/

set_option autoImplicit false

namespace SparkGateway.Spec

/-- The state of an upload. -/
structure Forwarder where
  inbound : List AddArtifactsRequest
  ending : StreamEnd
  held : Option AddArtifactsRequest
  queue : List AddArtifactsRequest
  running : Bool
  receiving : Bool
  delivered : List AddArtifactsRequest

/-- A step of the task (`read`, `send`) or of the backend call (`deliver`, `closeReceiver`). -/
inductive ForwarderMove where
  | read
  | send
  | deliver
  | closeReceiver
deriving DecidableEq, Repr

namespace Forwarder

/-- The capacity of the channel. -/
def channelCapacity : Nat := 8

/-- The upload when the task is spawned: the first message is in the channel. -/
def start (first : AddArtifactsRequest) (rest : ClientStream) : Forwarder where
  inbound := rest.messages
  ending := rest.ending
  held := none
  queue := [first]
  running := true
  receiving := true
  delivered := []

/-- One step, or nothing if it is not enabled. -/
def move (f : Forwarder) : ForwarderMove → Forwarder
  | .read =>
      -- `while let Ok(Some(m)) = inbound.message().await`: an error ends the loop as the end does.
      match f.running, f.held, f.inbound with
      | true, none, m :: ms => { f with inbound := ms, held := some m }
      | true, none, [] => { f with running := false }
      | _, _, _ => f
  | .send =>
      match f.running, f.held with
      | true, some m =>
          -- `tx.send(m).await.is_err()`: the task stops, and the message is lost.
          if !f.receiving then { f with running := false, held := none }
          else if f.queue.length < channelCapacity then
            { f with queue := f.queue ++ [m], held := none }
          -- A full channel: the task waits with the message in its hands.
          else f
      | _, _ => f
  | .deliver =>
      match f.receiving, f.queue with
      | true, m :: ms => { f with queue := ms, delivered := f.delivered ++ [m] }
      | _, _ => f
  -- What is in the channel goes with its receiver.
  | .closeReceiver => { f with receiving := false, queue := [] }

/-- An interleaving of steps. -/
def run (moves : List ForwarderMove) (f : Forwarder) : Forwarder := moves.foldl move f

end Forwarder

end SparkGateway.Spec

import SparkGateway.Spec.Sequential

/-!
# `SparkGateway.Spec.Metrics`: the count of finished RPCs

`scg_rpcs_total` is a counter by RPC and code. A handler starts with an `RpcGuard`
(`crates/observability/src/metrics.rs`), `finalise_guard` gives it the code of the handler's
result, and the counter is incremented when the guard is dropped, which is when the handler
returns.

The response of `ExecutePlan` and `ReattachExecute` is a stream. It is read after that, through
`forward_server_stream`, which passes the backend's items on as they come. An item is a message
or the status with which the stream breaks off. `clientLabel` is the code that the client has at
the end, when it has read the whole response.
-/

set_option autoImplicit false

namespace SparkGateway.Spec

open SparkGateway.Lib

/-! ### The guard -/

/-- `RpcGuard`: the RPC, the code to count, and whether it was recorded. -/
structure RpcGuard where
  rpc : String
  code : String
  recorded : Bool
deriving DecidableEq, Repr

namespace RpcGuard

/-- `Metrics::rpc_guard`. -/
def new (rpc : String) : RpcGuard := ⟨rpc, "Cancelled", false⟩

/-- `RpcGuard::record`. Only the first call counts. -/
def record (guard : RpcGuard) (code : String) : RpcGuard :=
  if guard.recorded then guard else { guard with recorded := true, code := code }

/-- `RpcGuard::drop`: the labels that `record_rpc` increments. -/
def drop (guard : RpcGuard) : String × String := (guard.rpc, guard.code)

end RpcGuard

/-- `finalise_guard`. -/
def finaliseGuard (guard : RpcGuard) : Except Status Response → RpcGuard
  | .ok _ => guard.record "OK"
  | .error status => guard.record (statusCodeLabel status)

/-! ### The counter -/

section
variable {S : Sig}

/-- The labels that one command increments. -/
def countOf : Event (GatewaySig S) → Option (String × String)
  | ⟨.inr (.recordRpc rpc code), _⟩ => some (rpc, code)
  | _ => none

/-- The increments of `scg_rpcs_total` in a run, in order. -/
def rpcsTotal (t : List (Event (GatewaySig S))) : List (String × String) := t.filterMap countOf

end

/-! ### The response as the client reads it -/

/-- `StreamItem`. -/
abbrev StreamItem := Except Status Payload

/-- The items of a backend's stream: its messages, and the status if it breaks off. -/
def streamItems (messages : List Payload) : StreamEnd → List StreamItem
  | .done => messages.map .ok
  | .error status => messages.map .ok ++ [.error status]

/-- `forward_server_stream`. -/
def forwardServerStream : List StreamItem → List StreamItem
  | [] => []
  | item :: upstream => item :: forwardServerStream upstream

/-- The final code of a stream: that of the first item which is a status. -/
def streamLabel : List StreamItem → String
  | [] => "OK"
  | .ok _ :: rest => streamLabel rest
  | .error status :: _ => statusCodeLabel status

/-- The final code that the client receives. -/
def clientLabel : Except Status Response → String
  | .error status => statusCodeLabel status
  | .ok (.stream messages ending) =>
      streamLabel (forwardServerStream (streamItems messages ending))
  | .ok _ => "OK"

/-! ### The answers of the backends -/

/-- What the backend answers to what was sent to it. -/
def Effect.answer (env : Env) : Effect → Option (Except Status Response)
  | .sent addr rid req => some (env.call addr rid req)
  | .uploaded addr rid delivered => some (env.uploadAnswer addr rid delivered)
  | _ => none

/-- The backends' answers in a run. -/
def answers (env : Env) (es : List Effect) : List (Except Status Response) :=
  es.filterMap (Effect.answer env)

/-- A stream that ends with an error. -/
def breaksOff : Except Status Response → Bool
  | .ok (.stream _ (.error status)) => status.code != .ok
  | _ => false

end SparkGateway.Spec

import Mathlib.Logic.Basic

/-!
# `SparkGateway.Spec.Grpc`: statuses, metadata and the Spark Connect messages

The gRPC vocabulary of the proxy: `tonic::Code` and `tonic::Status`, the request metadata,
the verified `Identity` (`crates/auth/src/identity.rs`), and the messages of
`proto/spark/connect/base.proto` in the shape the proxy uses them.

A message is a `Message β`: the two fields every request has, `session_id` and
`user_context`, and a body `β`. The body spells out the fields that a handler reads
(`operation_id`, the `interrupt` and `release` oneofs); every other field of the message is
in `rest`, in wire form, because the proxy copies it and never looks at it.
-/

set_option autoImplicit false

namespace SparkGateway.Spec

/-- `tonic::Code`. -/
inductive Code where
  | ok | cancelled | unknown | invalidArgument | deadlineExceeded | notFound | alreadyExists
  | permissionDenied | resourceExhausted | failedPrecondition | aborted | outOfRange
  | unimplemented | internal | unavailable | dataLoss | unauthenticated
deriving DecidableEq, Repr

/-- `tonic::Status`: the code and the message. -/
structure Status where
  code : Code
  message : String
deriving DecidableEq, Repr

namespace Status

def unauthenticated (message : String) : Status := ⟨.unauthenticated, message⟩
def permissionDenied (message : String) : Status := ⟨.permissionDenied, message⟩
def unavailable (message : String) : Status := ⟨.unavailable, message⟩
def invalidArgument (message : String) : Status := ⟨.invalidArgument, message⟩
def resourceExhausted (message : String) : Status := ⟨.resourceExhausted, message⟩

end Status

/-- The code points that Rust's `{:?}` writes as `\u{..}`: control and format characters, spaces but
the plain one, combining marks and private use. This is all of them up to U+0377. Beyond, the
combining marks of the scripts and the unassigned code points are not in this list. -/
def unicodeEscaped (c : Nat) : Bool :=
  c < 0x20 || (0x7f ≤ c && c ≤ 0xa0) || c == 0xad || (0x300 ≤ c && c ≤ 0x36f) ||
    (0x2000 ≤ c && c ≤ 0x200f) || (0x2028 ≤ c && c ≤ 0x202f) || (0x205f ≤ c && c ≤ 0x206f) ||
    c == 0x3000 || (0xe000 ≤ c && c ≤ 0xf8ff) || (0xfe00 ≤ c && c ≤ 0xfe0f) || c == 0xfeff ||
    0xe0000 ≤ c

/-- Rust's `{:?}` of a string: quoted, with the quote, the backslash and what cannot be printed
escaped. -/
def debugStr (s : String) : String :=
  let esc (c : Char) : String :=
    if c = '\t' then "\\t" else if c = '\r' then "\\r" else if c = '\n' then "\\n"
    else if c = '"' then "\\\"" else if c = '\\' then "\\\\" else if c.toNat = 0 then "\\0"
    else if unicodeEscaped c.toNat then
      "\\u\x7b" ++ String.ofList (Nat.toDigits 16 c.toNat) ++ "\x7d"
    else String.singleton c
  "\"" ++ String.join (s.toList.map esc) ++ "\""

/-! ### Metadata -/

/-- The bytes of one metadata value. -/
abbrev MetadataValue := List UInt8

/-- `MetadataValue::to_str`: the text of a value of visible ASCII, space and tab only. -/
def MetadataValue.toStr (v : MetadataValue) : Option String :=
  if v.all fun b => (32 ≤ b && b < 127) || b == 9 then
    some (String.ofList (v.map fun b => Char.ofNat b.toNat))
  else none

/-- `MetadataMap`, by its `get`. -/
abbrev MetadataMap := String → Option MetadataValue

/-! ### Identity -/

/-- What the gateway knows about the caller after authentication. -/
structure Identity where
  userId : String
  tenant : Option String
  groups : List String
deriving DecidableEq, Repr

/-- `Identity::user`. -/
def Identity.user (userId : String) : Identity := ⟨userId, none, []⟩

/-! ### Messages -/

/-- Fields in wire form. -/
abbrev Payload := List UInt8

/-- `google.protobuf.Any`. -/
structure AnyMessage where
  typeUrl : String
  value : Payload
deriving DecidableEq, Repr

/-- `UserContext`. -/
structure UserContext where
  userId : String
  userName : String
  extensions : List AnyMessage
deriving DecidableEq, Repr

/-- `UserContext::default`. -/
def UserContext.default : UserContext := ⟨"", "", []⟩

/-- A request message: the fields shared by every request, and the rest. -/
structure Message (β : Type) where
  sessionId : String
  userContext : Option UserContext
  body : β
deriving DecidableEq, Repr

/-- The fields of `ExecutePlanRequest` besides the shared ones. -/
structure ExecutePlanBody where
  operationId : Option String
  rest : Payload
deriving DecidableEq, Repr

/-- The `interrupt` oneof of `InterruptRequest`. -/
inductive InterruptOneof where
  | operationTag (tag : String)
  | operationId (id : String)
deriving DecidableEq, Repr

/-- The fields of `InterruptRequest` besides the shared ones. -/
structure InterruptBody where
  interrupt : Option InterruptOneof
  rest : Payload
deriving DecidableEq, Repr

/-- The fields of `ReattachExecuteRequest` besides the shared ones. -/
structure ReattachExecuteBody where
  operationId : String
  rest : Payload
deriving DecidableEq, Repr

/-- The `release` oneof of `ReleaseExecuteRequest`: drop the operation, or only its
buffered responses up to one of them. -/
inductive ReleaseOneof where
  | releaseAll
  | releaseUntil (responseId : String)
deriving DecidableEq, Repr

/-- The fields of `ReleaseExecuteRequest` besides the shared ones. -/
structure ReleaseExecuteBody where
  operationId : String
  release : Option ReleaseOneof
  rest : Payload
deriving DecidableEq, Repr

/-- The requests of one message, by RPC. `AddArtifacts` is a stream of messages and stands
apart (`ClientStream`). -/
inductive Request where
  | analyzePlan (m : Message Payload)
  | config (m : Message Payload)
  | artifactStatus (m : Message Payload)
  | interrupt (m : Message InterruptBody)
  | releaseExecute (m : Message ReleaseExecuteBody)
  | releaseSession (m : Message Payload)
  | fetchErrorDetails (m : Message Payload)
  | cloneSession (m : Message Payload)
  | getStatus (m : Message Payload)
  | executePlan (m : Message ExecutePlanBody)
  | reattachExecute (m : Message ReattachExecuteBody)
deriving DecidableEq, Repr

/-- One message of an `AddArtifacts` upload. -/
abbrev AddArtifactsRequest := Message Payload

/-- How a message stream ends. -/
inductive StreamEnd where
  | done
  | error (status : Status)
deriving DecidableEq, Repr

/-- The inbound stream of an `AddArtifacts` call: its messages, and how it ends. -/
structure ClientStream where
  messages : List AddArtifactsRequest
  ending : StreamEnd
deriving DecidableEq, Repr

/-- An inbound call: its metadata, and its request. -/
inductive Rpc where
  | request (metadata : MetadataMap) (req : Request)
  | addArtifacts (metadata : MetadataMap) (inbound : ClientStream)

/-- The metadata of an RPC's request. -/
def Rpc.metadata : Rpc → MetadataMap
  | .request md _ => md
  | .addArtifacts md _ => md

/-- The RPC name that metrics and audit events carry. -/
def Request.name : Request → String
  | .analyzePlan _ => "AnalyzePlan"
  | .config _ => "Config"
  | .artifactStatus _ => "ArtifactStatus"
  | .interrupt _ => "Interrupt"
  | .releaseExecute _ => "ReleaseExecute"
  | .releaseSession _ => "ReleaseSession"
  | .fetchErrorDetails _ => "FetchErrorDetails"
  | .cloneSession _ => "CloneSession"
  | .getStatus _ => "GetStatus"
  | .executePlan _ => "ExecutePlan"
  | .reattachExecute _ => "ReattachExecute"

/-- The name under which an RPC is counted. -/
def Rpc.name : Rpc → String
  | .request _ req => req.name
  | .addArtifacts _ _ => "AddArtifacts"

/-- What a backend sends back when it answers Ok. -/
inductive Response where
  | unary (body : Payload)
  | cloneSession (newSessionId : String) (body : Payload)
  | stream (items : List Payload) (ending : StreamEnd)
deriving DecidableEq, Repr

end SparkGateway.Spec

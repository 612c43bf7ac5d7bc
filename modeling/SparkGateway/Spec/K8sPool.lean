import Mathlib.Data.Int.Notation
import Mathlib.Data.Nat.Notation

/-!
# `SparkGateway.Spec.K8sPool`: the Kubernetes service-watch pool

`crates/pool-k8s/src/lib.rs`. The pool holds the ready addresses of one `Endpoints` object. A
task drives the `kube` watcher and handles one event after another; `onEvent` is the body of its
loop. The fields of `Endpoints` are those that `extract_addresses` reads.

The size observer of the source is a callback. The pool here keeps the sizes that it was called
with since it was registered.
-/

set_option autoImplicit false

namespace SparkGateway.Spec

/-! ### `Endpoints` -/

/-- `EndpointAddress` of the Kubernetes API, as far as the watcher reads it. -/
structure EndpointAddress where
  ip : String
deriving DecidableEq, Repr

/-- The port number is an `i32`. -/
structure EndpointPort where
  port : ℤ
deriving DecidableEq, Repr

/-- `addresses` are the ready pods. -/
structure EndpointSubset where
  addresses : Option (List EndpointAddress)
  ports : Option (List EndpointPort)
deriving DecidableEq, Repr

/-- `Endpoints` of the Kubernetes API, as far as the watcher reads it. -/
structure Endpoints where
  subsets : Option (List EndpointSubset)
deriving DecidableEq, Repr

/-- `subset.ports.as_ref().is_some_and(..)`. -/
def EndpointSubset.portMatches (subset : EndpointSubset) (targetPort : UInt16) : Bool :=
  match subset.ports with
  | none => false
  | some ports => ports.any fun p => decide (p.port = (targetPort.toNat : ℤ))

/-- `extract_addresses`: the ready addresses of the subsets that serve the port. -/
def extractAddresses (ep : Endpoints) (targetPort : UInt16) : List String :=
  match ep.subsets with
  | none => []
  | some subsets => subsets.flatMap fun subset =>
      if !subset.portMatches targetPort then []
      else
        match subset.addresses with
        | none => []
        | some addrs => addrs.map fun a => a.ip ++ ":" ++ toString targetPort.toNat

/-! ### The pool -/

/-- `Inner`: the backend list, the round-robin cursor, and the sizes reported to the observer if
one is registered. -/
structure K8sPool where
  backends : List String
  cursor : UInt64
  observed : Option (List ℕ)
deriving DecidableEq, Repr

namespace K8sPool

/-- The pool before the watcher's first event. -/
def new : K8sPool := ⟨[], 0, none⟩

/-- `set_size_observer`: a new observer hears the current size at once. -/
def setSizeObserver (pool : K8sPool) : K8sPool :=
  { pool with observed := some [pool.backends.length] }

/-- `set_backends`: the observer hears of a list that differs. -/
def setBackends (pool : K8sPool) (addrs : List String) : K8sPool :=
  if pool.backends ≠ addrs then
    { pool with backends := addrs, observed := pool.observed.map (· ++ [addrs.length]) }
  else pool

/-- `Pool::pick`. The cursor moves only if there is a backend, and wraps around. -/
def pick (pool : K8sPool) : Option String × K8sPool :=
  if pool.backends.isEmpty then (none, pool)
  else
    let idx := pool.cursor
    (pool.backends[idx.toNat % pool.backends.length]?, { pool with cursor := idx + 1 })

/-- `Pool::all_healthy`. -/
def allHealthy (pool : K8sPool) : List String := pool.backends

/-- `Pool::mark_unhealthy`: a hint that is only logged. -/
def markUnhealthy (pool : K8sPool) (_addr : String) : K8sPool := pool

end K8sPool

/-! ### Histories of calls -/

/-- A call of the pool's methods that can change it. -/
inductive K8sPoolCall where
  | setBackends (addrs : List String)
  | setSizeObserver
  | pick
  | markUnhealthy (addr : String)
deriving DecidableEq, Repr

/-! ### The watcher -/

/-- `watcher::Event`. -/
inductive WatcherEvent where
  | apply (ep : Endpoints)
  | delete (ep : Endpoints)
  | init
  | initApply (ep : Endpoints)
  | initDone
deriving DecidableEq, Repr

/-- What the watcher's stream yields: an event, or an error with its text. -/
abbrev WatcherItem := Except String WatcherEvent

namespace K8sPool

/-- The loop of the watcher task, for one item of the stream. -/
def onEvent (targetPort : UInt16) (pool : K8sPool) : WatcherItem → K8sPool
  | .ok (.apply ep) => pool.setBackends (extractAddresses ep targetPort)
  | .ok (.initApply ep) => pool.setBackends (extractAddresses ep targetPort)
  | .ok (.delete _) => pool.setBackends []
  | .ok .init => pool
  | .ok .initDone => pool
  | .error _ => pool

/-- The pool after some items of the stream. -/
def watch (targetPort : UInt16) (pool : K8sPool) (items : List WatcherItem) : K8sPool :=
  items.foldl (onEvent targetPort) pool

end K8sPool

end SparkGateway.Spec

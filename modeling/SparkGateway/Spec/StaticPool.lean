/-!
# `SparkGateway.Spec.StaticPool`: the pool with a fixed membership

`crates/pool-static/src/lib.rs`. The backends are those of the configuration, and `new` refuses an
empty list, so a `StaticPool` has at least one backend. The default of the `Pool` trait ignores
the hint that a backend is unreachable.
-/

set_option autoImplicit false

namespace SparkGateway.Spec

/-- `StaticPoolError`. -/
inductive StaticPoolError where
  | empty
deriving DecidableEq, Repr

/-- `StaticPool`: a nonempty list of addresses and a cursor. -/
structure StaticPool where
  backends : List String
  nonempty : backends ≠ []
  cursor : UInt64

namespace StaticPool

/-- `StaticPool::new`. -/
def new (addresses : List String) : Except StaticPoolError StaticPool :=
  if h : addresses = [] then .error .empty else .ok ⟨addresses, h, 0⟩

/-- `Pool::pick`. The cursor wraps around. -/
def pick (pool : StaticPool) : Option String × StaticPool :=
  let idx := pool.cursor
  let n := pool.backends.length
  (pool.backends[idx.toNat % n]?, { pool with cursor := idx + 1 })

/-- `Pool::all_healthy`: every backend is presumed healthy. -/
def allHealthy (pool : StaticPool) : List String := pool.backends

/-- `Pool::mark_unhealthy`, as the trait has it. -/
def markUnhealthy (pool : StaticPool) (_addr : String) : StaticPool := pool

end StaticPool

/-- A call of the pool's methods that can change it. -/
inductive StaticPoolCall where
  | pick
  | markUnhealthy (addr : String)
deriving DecidableEq, Repr

end SparkGateway.Spec

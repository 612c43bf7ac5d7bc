import SparkGateway.Spec.Affinity
import SparkGateway.Spec.Grpc

/-!
# `SparkGateway.Spec.Routing`: tenant pools and the router

`TenantRouter` and `Router` of `crates/routing/src/lib.rs`. A pool is known by its id; a
`pick` is a command that any address, or none, can answer, since pools rotate and their
members come and go. The router's functions are programs over the pools and the commands of
the affinity store, in the order in which the source makes them.
-/

set_option autoImplicit false

namespace SparkGateway.Spec

open SparkGateway.Lib

/-- The identity of a pool (`Arc<dyn Pool>`). -/
abbrev PoolId := ℕ

/-- What the router asks of a backend pool. -/
inductive PoolCmd where
  | pick (pool : PoolId)

/-- A pick answers with an address, or with none. -/
abbrev PoolCmd.Reply : PoolCmd → Type
  | .pick _ => Option String

/-- The pools' picks, each one atomic step. -/
abbrev PoolSig : Sig := ⟨PoolCmd, PoolCmd.Reply⟩

/-- The commands of a router over a store with the commands `S`. -/
abbrev RouterSig (S : Sig) : Sig := PoolSig.sum S

/-- What to do with a tenant that has no pool of its own. -/
inductive UnknownTenantPolicy where
  | useDefault
  | reject
deriving DecidableEq, Repr

/-- Maps a tenant to its pool. -/
structure TenantRouter where
  tenants : String → Option PoolId
  default : Option PoolId
  policy : UnknownTenantPolicy

/-- `pool_for`. -/
def TenantRouter.poolFor (r : TenantRouter) (tenant : String) : Except Status (Option PoolId) :=
  match r.tenants tenant with
  | some p => .ok (some p)
  | none =>
    match r.policy with
    | .useDefault => .ok r.default
    | .reject =>
        .error (.permissionDenied ("tenant " ++ debugStr tenant ++ " has no configured pool"))

/-- `ResolveOutcome`. -/
structure ResolveOutcome where
  addr : String
  newlyBound : Bool
deriving DecidableEq, Repr

/-- Resolves a request to a backend address. -/
structure Router (S : Sig) where
  tenants : TenantRouter
  store : AffinityStore S

namespace Router

variable {S : Sig}

/-- `BackendPool::pick` of one pool. -/
def pick (pool : PoolId) : Prog (RouterSig S) (Option String) :=
  (Prog.perform (S := PoolSig) (.pick pool)).inl

/-- The part of `resolve_session_detailed` from the pool on: the binding if there is one,
else a pick that is bound unless another call was faster. -/
def resolveIn (r : Router S) (pool : PoolId) (key : SessionKey) :
    Prog (RouterSig S) (Option ResolveOutcome) := do
  match ← (r.store.lookupSession key).inr with
  | some existing => pure (some ⟨existing, false⟩)
  | none =>
    match ← pick pool with
    | none => pure none
    | some chosen =>
      -- Another call can have bound the key since the lookup.
      let winner ← (r.store.bindSessionIfAbsent key chosen).inr
      pure (some ⟨winner, winner == chosen⟩)

/-- `resolve_session_detailed`. -/
def resolveSessionDetailed (r : Router S) (key : SessionKey) :
    Prog (RouterSig S) (Except Status (Option ResolveOutcome)) :=
  match r.tenants.poolFor key.tenant with
  | .error status => pure (.error status)
  | .ok none => pure (.ok none)
  | .ok (some pool) =>
    if key.isZero then do
      -- The table is not read, and nothing is bound.
      let picked ← pick pool
      pure (.ok (picked.map fun addr => ⟨addr, false⟩))
    else do
      let outcome ← r.resolveIn pool key
      pure (.ok outcome)

/-- `resolve_session`. -/
def resolveSession (r : Router S) (key : SessionKey) :
    Prog (RouterSig S) (Except Status (Option String)) := do
  let outcome ← r.resolveSessionDetailed key
  pure (outcome.map fun o => o.map (·.addr))

/-- `resolve_op`. -/
def resolveOp (r : Router S) (opId : String) (key : SessionKey) :
    Prog (RouterSig S) (Except Status (Option String)) :=
  if opId == "" then r.resolveSession key
  else do
    match ← (r.store.lookupOp opId).inr with
    -- Found: neither the tenant's pool nor the session is looked at.
    | some b => pure (.ok (some b))
    | none => r.resolveSession key

/-- `remember_op`. -/
def rememberOp (r : Router S) (opId backend : String) : Prog (RouterSig S) Unit :=
  if opId == "" then pure () else (r.store.bindOp opId backend).inr

/-- `forget_op`. -/
def forgetOp (r : Router S) (opId : String) : Prog (RouterSig S) Unit :=
  if opId == "" then pure () else (r.store.forgetOp opId).inr

/-- `forget_session`. -/
def forgetSession (r : Router S) (key : SessionKey) : Prog (RouterSig S) Unit :=
  (r.store.forgetSession key).inr

end Router

/-- A call of one of the router's functions. -/
inductive RouterCall where
  | resolveSession (key : SessionKey)
  | resolveSessionDetailed (key : SessionKey)
  | resolveOp (opId : String) (key : SessionKey)
  | rememberOp (opId backend : String)
  | forgetOp (opId : String)
  | forgetSession (key : SessionKey)

/-- What a call returns. -/
inductive CallResult where
  | addr (r : Except Status (Option String))
  | outcome (r : Except Status (Option ResolveOutcome))
  | unit

/-- The address in `Ok(Some(addr))`. -/
def CallResult.okAddr : CallResult → Option String
  | .addr (.ok (some a)) => some a
  | .outcome (.ok (some o)) => some o.addr
  | _ => none

/-- The program of a call. -/
def RouterCall.prog {S : Sig} (r : Router S) : RouterCall → Prog (RouterSig S) CallResult
  | .resolveSession key => do
      let a ← r.resolveSession key
      pure (.addr a)
  | .resolveSessionDetailed key => do
      let o ← r.resolveSessionDetailed key
      pure (.outcome o)
  | .resolveOp opId key => do
      let a ← r.resolveOp opId key
      pure (.addr a)
  | .rememberOp opId backend => do
      r.rememberOp opId backend
      pure .unit
  | .forgetOp opId => do
      r.forgetOp opId
      pure .unit
  | .forgetSession key => do
      r.forgetSession key
      pure .unit

end SparkGateway.Spec

import SparkGateway.Spec.Routing

/-!
# `SparkGateway.Proofs.Routing.RouterCommands`: which commands the router performs

The router picks from pools and calls the operations of its store. If the programs of these
operations stay within a set `P` of commands (`StoreUses`), the router's functions perform picks
and commands in `P`. A key without a session id is never bound, so a store needs to stay within
`P` only for binds of other keys.
-/

set_option autoImplicit false

namespace SparkGateway.Proofs.Routing

open SparkGateway.Lib
open SparkGateway.Spec

variable {S : Sig}

/-- A condition on the commands of the store only. -/
def OnStore (P : S.Cmd → Prop) : (RouterSig S).Cmd → Prop
  | .inl _ => True
  | .inr c => P c

/-- The operations that the router uses to resolve and to keep operations stay within `P`. -/
structure StoreUses (store : AffinityStore S) (P : S.Cmd → Prop) : Prop where
  lookupSession : ∀ key, (store.lookupSession key).Uses P
  bindSessionIfAbsent : ∀ key b, key.isZero = false → (store.bindSessionIfAbsent key b).Uses P
  lookupOp : ∀ op, (store.lookupOp op).Uses P
  bindOp : ∀ op b, (store.bindOp op b).Uses P
  forgetOp : ∀ op, (store.forgetOp op).Uses P

namespace StoreUses

variable {r : Router S} {P : (RouterSig S).Cmd → Prop}

/-- Resolving within a pool stays within `P`. Only a key with a session id is bound. -/
theorem resolveIn (h : StoreUses r.store fun c => P (.inr c))
    (hpick : ∀ pool, P (.inl (.pick pool))) (pool : PoolId) {key : SessionKey}
    (hkey : key.isZero = false) : (r.resolveIn pool key).Uses P := by
  unfold Router.resolveIn
  refine (h.lookupSession key).inr.bind fun found => ?_
  cases found with
  | some existing => trivial
  | none =>
    refine ⟨hpick pool, fun picked => ?_⟩
    cases picked with
    | none => trivial
    | some chosen => exact (h.bindSessionIfAbsent key chosen hkey).inr.bind fun _ => trivial

/-- `resolve_session_detailed` stays within `P`. -/
theorem resolveSessionDetailed (h : StoreUses r.store fun c => P (.inr c))
    (hpick : ∀ pool, P (.inl (.pick pool))) (key : SessionKey) :
    (r.resolveSessionDetailed key).Uses P := by
  unfold Router.resolveSessionDetailed
  rcases r.tenants.poolFor key.tenant with status | _ | pool
  · trivial
  · trivial
  · cases hzero : key.isZero with
    | true => exact ⟨hpick pool, fun _ => trivial⟩
    | false => exact (h.resolveIn hpick pool hzero).bind fun _ => trivial

/-- `resolve_session` stays within `P`. -/
theorem resolveSession (h : StoreUses r.store fun c => P (.inr c))
    (hpick : ∀ pool, P (.inl (.pick pool))) (key : SessionKey) : (r.resolveSession key).Uses P :=
  (h.resolveSessionDetailed hpick key).bind fun _ => trivial

/-- `resolve_op` stays within `P`. -/
theorem resolveOp (h : StoreUses r.store fun c => P (.inr c))
    (hpick : ∀ pool, P (.inl (.pick pool))) (op : String) (key : SessionKey) :
    (r.resolveOp op key).Uses P := by
  unfold Router.resolveOp
  split
  · exact h.resolveSession hpick key
  · refine (h.lookupOp op).inr.bind fun found => ?_
    cases found with
    | some b => trivial
    | none => exact h.resolveSession hpick key

/-- `remember_op` stays within `P`. -/
theorem rememberOp (h : StoreUses r.store fun c => P (.inr c)) (op b : String) :
    (r.rememberOp op b).Uses P := by
  unfold Router.rememberOp
  split
  · trivial
  · exact (h.bindOp op b).inr

/-- `forget_op` stays within `P`. -/
theorem routerForgetOp (h : StoreUses r.store fun c => P (.inr c)) (op : String) :
    (r.forgetOp op).Uses P := by
  unfold Router.forgetOp
  split
  · trivial
  · exact (h.forgetOp op).inr

/-- The commands of a call. -/
theorem call (h : StoreUses r.store fun c => P (.inr c)) (hpick : ∀ pool, P (.inl (.pick pool)))
    (hforget : ∀ key, (r.store.forgetSession key).Uses fun c => P (.inr c)) (call : RouterCall) :
    (call.prog r).Uses P := by
  cases call with
  | resolveSession key => exact (h.resolveSession hpick key).bind fun _ => trivial
  | resolveSessionDetailed key => exact (h.resolveSessionDetailed hpick key).bind fun _ => trivial
  | resolveOp op key => exact (h.resolveOp hpick op key).bind fun _ => trivial
  | rememberOp op b => exact (h.rememberOp op b).bind fun _ => trivial
  | forgetOp op => exact (h.routerForgetOp op).bind fun _ => trivial
  | forgetSession key => exact (hforget key).inr.bind fun _ => trivial

end StoreUses

end SparkGateway.Proofs.Routing

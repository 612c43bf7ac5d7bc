import SparkGateway.Proofs.Serving.Guards

/-!
# `SparkGateway.Proofs.Serving.Cancellation`: a dropped RPC leaves what a paused one leaves

A handler that is dropped while it waits has done a part of its work. What it leaves behind in the
affinity store, the limiter and the pools is what the same handler leaves when it is only not
scheduled again. So every run of served RPCs, with any of them dropped anywhere and their gauges
and drains in between, is for the shared tables a run of the plain handlers of `Spec/Handler.lean`
(`cancellation_refines`), and what is proved of every run of those holds here as well. The one thing
that a dropped handler does on top is to count itself.
-/

set_option autoImplicit false

namespace SparkGateway.Proofs.Serving

open SparkGateway.Lib
open SparkGateway.Spec
open SparkGateway.Proofs.Handler (bodyOf handle_eq counting drop_finaliseGuard)

section
variable {S : Sig}

/-- The command that counts an RPC. -/
def isCounting : (GatewaySig S).Cmd → Bool
  | .inl _ => false
  | .inr c => counting c

/-- What is left of the plain handler when the served one has returned. -/
def Completed (o : Option (Except Status Response))
    (q : Prog (GatewaySig S) (Except Status Response)) : Prop :=
  ∀ result, o = some result → q = .ret result

variable (gw : Gateway S)

/-- A handler is the part up to its result, and then the report of the result. -/
theorem handleRpc_eq (name : String) (md : MetadataMap)
    (body : String → Identity → String → RpcM S Response) :
    gw.handleRpc name md body = gw.attempt name md body >>= fun r =>
      gw.finaliseRpc r.2.2 r.2.1 r.1 name >>= fun _ =>
        recordRpc name (resultLabel r.2.2) >>= fun _ => pure r.2.2 := by
  unfold Gateway.handleRpc Gateway.attempt
  rw [Prog.bind_assoc]
  congr 1
  funext rid
  rw [Prog.bind_assoc]
  congr 1
  funext r
  rcases r with status | ⟨identity, tenant⟩
  · rfl
  · show _ = ((body rid identity tenant).run >>= _) >>= _
    rw [Prog.bind_assoc]
    rfl

section
variable {out : Unit → Prog (GatewaySig S) (Except Status Response) → Prop}
  {q : Prog (GatewaySig S) (Except Status Response)}

/-- Taking the stream guard is not a step of the handler. -/
theorem streamGuard_refines (kind : StreamKind) (h : out () q) :
    (streamGuard kind : Prog (ServeSig S) Unit).Refines isCounting out q := by
  unfold streamGuard
  split
  · exact h
  · exact Prog.refines_inr _ fun _ => h

/-- Dropping the stream guard is not a step of the handler. -/
theorem dropStreamGuard_refines (held : Bool) (h : out () q) :
    (dropStreamGuard held : Prog (ServeSig S) Unit).Refines isCounting out q := by
  cases held with
  | false => exact h
  | true => exact Prog.refines_inr _ fun _ => h

/-- Sending the stream out is not a step of the handler. -/
theorem streamOut_refines (items : List StreamItem) (h : out () q) :
    (streamOut items : Prog (ServeSig S) Unit).Refines isCounting out q := by
  induction items with
  | nil => exact dropStreamGuard_refines true h
  | cons item rest ih =>
    refine Prog.Refines.bind (Prog.refines_inr suspend fun resumed => ?_)
    cases resumed with
    | false => exact dropStreamGuard_refines true h
    | true => exact ih

/-- Responding is not a step of the handler. -/
theorem respond_refines (kind : StreamKind) (result : Except Status Response) (h : out () q) :
    (Gateway.respond kind result : Prog (ServeSig S) Unit).Refines isCounting out q := by
  unfold Gateway.respond
  split
  · exact streamOut_refines _ h
  · exact h

end

/-- The report of a result is that of the plain handler. -/
theorem conclude_refines (kind : StreamKind) (name rid : String) (ctx : Option (String × String))
    (result : Except Status Response) :
    (gw.conclude kind name rid ctx result).Refines isCounting (fun _ q => q = .ret result)
      (gw.finaliseRpc result ctx rid name >>= fun _ =>
        recordRpc name (resultLabel result) >>= fun _ => pure result) := by
  refine Prog.Refines.bind (dropStreamGuard_refines _ ?_)
  refine Prog.Refines.bind (Prog.refines_inl _ fun _ => ?_)
  refine Prog.Refines.bind (dropStreamGuard_refines _ ?_)
  rw [dropRpcGuard, drop_finaliseGuard]
  exact Prog.refines_inl _ fun _ => rfl

/-- A served RPC performs a part of what its handler does, and all of it if it is not dropped. -/
theorem serve_refines (rpc : Rpc) :
    (gw.serve rpc).Refines isCounting Completed (gw.handle rpc) := by
  rw [serve_eq, handle_eq, handleRpc_eq]
  refine Prog.Refines.bind (streamGuard_refines _ ?_)
  refine Prog.Refines.bind ((Prog.suspendable_refines suspend awaited _).mono fun o q hq => ?_)
  rcases o with _ | ⟨rid, ctx, result⟩
  · -- A dropped handler counts itself, wherever the plain one stands.
    refine Prog.Refines.bind (dropStreamGuard_refines _ ?_)
    exact .inr ⟨rfl, fun _ result h => nomatch h⟩
  · rw [hq _ rfl]
    refine Prog.Refines.bind ((conclude_refines gw _ _ _ _ _).mono fun _ q hq => ?_)
    refine Prog.Refines.bind (respond_refines _ _ ?_)
    intro result' h
    rw [hq, Option.some.inj h]

end

/-! ### Runs -/

section
variable {P : PoolId → PoolModel} {limits : LimiterConfig} {deadlineMs : ℕ}

/-- The plain handlers see the tables, the limiter and the pools. -/
theorem server_views :
    Views (serverSemantics P limits deadlineMs) (processSemantics P limits) ServerState.process
      isCounting where
  left h := by
    obtain ⟨p, hcmd, rfl⟩ := h
    exact hcmd
  extra {c s r s'} hc h := by
    obtain ⟨p, hcmd, rfl⟩ := h
    -- The counter is no part of what plain handlers share.
    rcases c with c | c
    · cases hc
    · cases c with
      | recordRpc rpc code => exact hcmd
      | _ => cases hc
  right {c s r s'} h := by
    cases c with
    | suspend => exact congrArg ServerState.process (show s' = s from h)
    | inc =>
      obtain rfl : s' = { s with activeStreams := s.activeStreams + 1 } := h
      rfl
    | dec =>
      obtain rfl : s' = { s with activeStreams := s.activeStreams - 1 } := h
      rfl
  env h := by
    cases h with
    | pool henv => exact .inl henv
    | _ => exact .inr rfl

variable {ι : Type} [DecidableEq ι] {gw : Gateway MemorySig} {rpc : ι → Rpc} {s : ServerState P}
  {t : List (ServerRecord P ι)}
  {c : Config (ServeSig MemorySig) (ServerState P) ι (Option (Except Status Response))}

/-- **Cancellation is safe.** For every run of the server, in which futures are dropped where they
wait, there is a run of plain handlers that ends with the same tables, pools and buckets, in which
the RPCs perform the same commands in the same order, up to the counting of RPCs, and in which
every RPC that the server has answered returns that answer. -/
theorem cancellation_refines
    (hrun : Run (serverSemantics P limits deadlineMs) (server gw rpc s) t c) :
    ∃ t' c', Run (processSemantics P limits) (process gw rpc s.process) t' c' ∧
      c'.shared = c.shared.process ∧
      plainActions isCounting t' = leftActions isCounting t ∧
      ∀ i result, c.thread i = .ret (some result) → c'.thread i = .ret result := by
  obtain ⟨t', c', hrun', hshared, hacts, hthread⟩ :=
    hrun.refines server_views fun i => serve_refines gw (rpc i)
  refine ⟨t', c', hrun', hshared, hacts, fun i result hret => ?_⟩
  have hi := hthread i
  rw [hret] at hi
  exact hi result rfl

end

/-- The store after one plan was dropped, and another one waits, is one that plain handlers
reach. -/
theorem cancellation_refines_twoPlans :
    ∃ t' c', Run (processSemantics staticPools .unlimited)
      (process (.inProcess (.single 0)) TwoPlans.rpc TwoPlans.start.process) t' c' ∧
      c'.shared = TwoPlans.plans.2.shared.process := by
  obtain ⟨t', c', hrun, hshared, -⟩ := cancellation_refines TwoPlans.run
  exact ⟨t', c', hrun, hshared⟩

end SparkGateway.Proofs.Serving

import SparkGateway.Spec.Metrics
import SparkGateway.Proofs.Handler.OpAffinity

/-!
# `SparkGateway.Proofs.Handler.FinalCode`: the code that an RPC is counted with

Every RPC increments `scg_rpcs_total` once, with the code of the handler's result
(`counts_handle`): no step before the end of the frame counts, and `Counts.bind` puts such a step
before one that counts.

The result of a handler is the answer of a backend or an error of the gateway (`runRpc_answers`).
It is final except for a stream, whose code is known only at its end, when the guard is gone. So
`finalCode_iff` says that the code counted is the one the client receives exactly if no backend's
answer is a stream that breaks off.
-/

set_option autoImplicit false

namespace SparkGateway.Proofs.Handler

open SparkGateway.Lib
open SparkGateway.Spec

/-! ### The end of a stream -/

/-- The forwarding loop hands on what it reads, in order. -/
theorem forwardServerStream_eq (items : List StreamItem) : forwardServerStream items = items := by
  induction items with
  | nil => rfl
  | cons item upstream ih => rw [forwardServerStream, ih]

/-- The messages before the end do not matter. -/
theorem streamLabel_messages (messages : List Payload) (items : List StreamItem) :
    streamLabel (messages.map .ok ++ items) = streamLabel items := by
  induction messages with
  | nil => rfl
  | cons message messages ih => exact ih

/-- Only the code Ok has the label `OK`. -/
theorem statusCodeLabel_eq_ok_iff (status : Status) :
    statusCodeLabel status = "OK" ↔ status.code = .ok := by
  unfold statusCodeLabel
  cases status.code <;> decide

/-- The code of the handler's result is final unless the response is a stream that breaks off. -/
theorem resultLabel_eq_clientLabel_iff (result : Except Status Response) :
    resultLabel result = clientLabel result ↔ breaksOff result = false := by
  rcases result with status | resp
  · simp [resultLabel, clientLabel, breaksOff]
  · cases resp with
    | unary body => simp [resultLabel, clientLabel, breaksOff]
    | cloneSession newSessionId body => simp [resultLabel, clientLabel, breaksOff]
    | stream messages ending =>
      cases ending with
      | done =>
        have hend := streamLabel_messages messages []
        rw [List.append_nil] at hend
        simp [resultLabel, clientLabel, breaksOff, forwardServerStream_eq, streamItems, hend,
          streamLabel]
      | error status =>
        simp only [resultLabel, clientLabel, breaksOff, forwardServerStream_eq, streamItems,
          streamLabel_messages, streamLabel]
        rw [eq_comm, statusCodeLabel_eq_ok_iff]
        simp

/-! ### One increment -/

section
variable {S : Sig} {σ α : Type} (env : Env) (h : Handler S σ)

/-- The commands that do not increment the counter. -/
def Uncounted : (GatewaySig S).Cmd → Prop
  | .inl _ => True
  | .inr c => counting c = false

/-- A command that does not count leaves the counter alone. -/
theorem countOf_eq_none {e : Event (GatewaySig S)} (he : Uncounted e.1) : countOf e = none := by
  rcases e with ⟨(c | c), reply⟩
  · rfl
  · cases c with
    | recordRpc rpc code => cases he
    | _ => rfl

/-- The program increments the counter once, with the code of its result. -/
def Counts (name : String) (p : Prog (GatewaySig S) (Except Status Response)) : Prop :=
  ∀ s, rpcsTotal (p.exec (gatewayHandler env h) s).trace =
    [(name, resultLabel (p.exec (gatewayHandler env h) s).value)]

/-- A step before it that does not count. -/
theorem Counts.bind {name : String} {p : Prog (GatewaySig S) α}
    {f : α → Prog (GatewaySig S) (Except Status Response)}
    (hp : p.Uses Uncounted) (hf : ∀ a, Counts env h name (f a)) :
    Counts env h name (p >>= f) := by
  intro s
  have hnone : rpcsTotal (p.exec (gatewayHandler env h) s).trace = [] :=
    List.filterMap_eq_nil_iff.mpr fun e he => countOf_eq_none (hp.exec _ s e he).1
  rw [Prog.exec_bind]
  simp only [rpcsTotal, List.filterMap_append] at hnone ⊢
  rw [hnone, List.nil_append]
  exact hf _ _

/-- Nothing that a body does counts. -/
theorem uncounted_allows (gw : Gateway S) (rpc : Rpc) (rid : String) (id : Identity) :
    Allows Uncounted gw rpc rid id := by
  have hroute : ∀ {β : Type} (p : Prog (RouterSig S) β), (route p).Uses Uncounted :=
    fun p => (Prog.Uses.of_forall (fun _ => trivial) p).inl
  exact {
    session := fun _ => hroute _
    op := fun _ _ => hroute _
    rememberOp := fun _ _ => hroute _
    forgetOp := fun _ => hroute _
    forgetSession := fun _ _ _ _ => hroute _
    channel := fun _ => rfl
    audit := fun _ _ => rfl
    call := fun _ _ _ _ => rfl
    upload := fun _ _ _ _ _ => rfl }

/-- **Every RPC is counted once**, with the code of the handler's result. -/
theorem counts_handle (gw : Gateway S) (rpc : Rpc) : Counts env h rpc.name (gw.handle rpc) := by
  rw [handle_eq]
  unfold Gateway.handleRpc
  refine Counts.bind env h (p := requestId) ⟨rfl, fun _ => trivial⟩ fun rid => ?_
  refine Counts.bind env h (admission_uses (fun _ hc => hc) _ _ _) fun admitted => ?_
  rcases admitted with status | ⟨identity, tenant⟩
  · exact Counts.bind env h (finaliseRpc_uses (fun _ hc => hc) _ _ _ _) fun _ _ => rfl
  · refine Counts.bind env h (uncounted_allows gw rpc rid identity).body_uses fun result => ?_
    exact Counts.bind env h (finaliseRpc_uses (fun _ hc => hc) _ _ _ _) fun _ _ => rfl

end

/-! ### The answer of a backend -/

/-- Only what is sent to a backend is answered. -/
theorem answers_of_contacts (env : Env) {es : List Effect} (hes : contacts es = []) :
    answers env es = [] := by
  refine List.filterMap_eq_nil_iff.mpr fun e he => ?_
  have hcontact := List.filterMap_eq_nil_iff.mp hes e he
  cases e with
  | picked pool addr => rfl
  | sent addr rid req => cases hcontact
  | uploaded addr rid delivered => cases hcontact
  | audited event => rfl

/-- The result is the only answer of a backend, or an error without one. -/
def Answered (env : Env) (result : Except Status Response) (es : List Effect) : Prop :=
  answers env es = [result] ∨ answers env es = [] ∧ ∃ status, result = .error status

/-- Steps that contact nobody do not change what was answered. -/
theorem Answered.append {env : Env} {result : Except Status Response}
    {before es after : List Effect} (hbefore : contacts before = []) (hafter : contacts after = [])
    (hes : Answered env result es) : Answered env result (before ++ es ++ after) := by
  have hanswers : answers env (before ++ es ++ after) = answers env es := by
    have hleft := answers_of_contacts env hbefore
    have hright := answers_of_contacts env hafter
    simp only [answers, List.filterMap_append] at hleft hright ⊢
    rw [hleft, hright, List.nil_append, List.append_nil]
  unfold Answered
  rw [hanswers]
  exact hes

/-- An error of the gateway. -/
theorem Answered.error {env : Env} {es : List Effect} (hes : contacts es = []) (status : Status) :
    Answered env (.error status) es := .inr ⟨answers_of_contacts env hes, status, rfl⟩

section
variable {S : Sig} {σ : Type} (env : Env) (h : Handler S σ)

/-- Resolving a session contacts nobody. -/
theorem contacts_resolved (r : Router S) (key : SessionKey) (s : σ) :
    contacts (resolved env h r key s).2.2 = [] := by
  unfold resolved
  split
  · rfl
  · rfl
  · split
    · unfold picking
      cases env.pick _ <;> rfl
    · dsimp only
      split <;> rfl

/-- No backend is asked while an RPC is routed. -/
theorem contacts_routing (gw : Gateway S) (rpc : Rpc) (id : Identity) (tenant : String) (s : σ) :
    contacts (routing env h gw rpc id tenant s).2.2 = [] := by
  unfold routing
  split
  · rfl
  · split
    · rfl
    · exact contacts_resolved env h _ _ _
  · dsimp only
    rw [contacts_append, contacts_resolved, (creating_silent gw _ id _ _).1]
    rfl

/-- What is sent is answered once, or the dial fails. -/
theorem answered_sending (rpc : Rpc) (id : Identity) (addr : String) :
    Answered env (answerOf env rpc id addr) (sending env rpc id addr) := by
  unfold answerOf sending
  cases env.channel addr with
  | error e => exact .error rfl _
  | ok _ =>
    cases rpc with
    | request md req => exact .inl rfl
    | addArtifacts md inbound =>
      obtain ⟨messages, ending⟩ := inbound
      cases messages with
      | nil => exact .error rfl _
      | cons m rest => exact .inl rfl

/-- The result of a body is the answer of the backend it contacted, or an error without one. -/
theorem answered_body (gw : Gateway S) (rpc : Rpc) (id : Identity) (tenant : String) (s : σ) :
    Answered env (observe env h (bodyOf gw rpc env.requestId id tenant).run s).1
      (observe env h (bodyOf gw rpc env.requestId id tenant).run s).2.2 := by
  rw [observe_body]
  have hrouting := contacts_routing env h gw rpc id tenant s
  generalize routing env h gw rpc id tenant s = routed at hrouting ⊢
  obtain ⟨value, s', es⟩ := routed
  cases value with
  | error status => exact .error hrouting status
  | ok addr =>
    have hsending := (answered_sending env rpc id addr).append hrouting
      (releasing_silent env gw rpc id tenant addr).1
    rwa [List.append_assoc] at hsending

/-- **The result of a handler** is the answer of the one backend it asked, or an error. -/
theorem answered_runRpc (gw : Gateway S) (rpc : Rpc) (s : σ) :
    Answered env (runRpc gw h env rpc s).value (effects (runRpc gw h env rpc s).trace) := by
  cases hadm : admission gw env rpc.metadata with
  | error status =>
    obtain ⟨hvalue, -, heffects⟩ := runRpc_of_refused h s hadm
    rw [hvalue, heffects]
    exact .error (admissionEffects_silent env gw _ _ _).1 status
  | ok p =>
    obtain ⟨id, tenant⟩ := p
    obtain ⟨hvalue, -, heffects⟩ := runRpc_of_admitted h s hadm
    rw [hvalue, heffects]
    have hnothing : contacts [] = [] := rfl
    exact (answered_body env h gw rpc id tenant s).append hnothing
      (finalEffects_silent gw _ tenant _ _ _).1

/-! ### The final code -/

/-- A stream breaks off in an answer exactly if it does so in the result. -/
theorem Answered.breaksOff_iff {result : Except Status Response} {es : List Effect}
    (hes : Answered env result es) :
    breaksOff result = false ↔ ∀ answer ∈ answers env es, breaksOff answer = false := by
  obtain hanswers | ⟨hanswers, status, hresult⟩ := hes
  · simp [hanswers]
  · simp [hanswers, hresult, breaksOff]

/-- The labels that the guard of a handler counts. -/
theorem drop_finaliseGuard (name : String) (result : Except Status Response) :
    (finaliseGuard (RpcGuard.new name) result).drop = (name, resultLabel result) := by
  cases result <;> rfl

/-- **The count of an RPC.** Every RPC is counted once, with what its guard has when the handler
returns. It is the code that the client receives exactly if no stream from a backend breaks
off. -/
theorem finalCode_iff (gw : Gateway S) (rpc : Rpc) (s : σ) :
    let run := runRpc gw h env rpc s
    rpcsTotal run.trace = [(finaliseGuard (RpcGuard.new rpc.name) run.value).drop] ∧
      (rpcsTotal run.trace = [(rpc.name, clientLabel run.value)] ↔
        ∀ answer ∈ answers env (effects run.trace), breaksOff answer = false) := by
  intro run
  have hcount : rpcsTotal run.trace = [(rpc.name, resultLabel run.value)] :=
    counts_handle env h gw rpc s
  refine ⟨hcount.trans (by rw [drop_finaliseGuard]), ?_⟩
  rw [hcount, ← (answered_runRpc env h gw rpc s).breaksOff_iff, ← resultLabel_eq_clientLabel_iff]
  simp [run]

end

/-- Alice's `ExecutePlan`, which the backend answers with a stream. -/
def executing (messages : List Payload) (ending : StreamEnd) :
    Outcome (GatewaySig MemorySig) MemoryStore.State (Except Status Response) :=
  runRpc onePool MemoryStore.apply
    { Env.healthy alice "be-a:15002" with call := fun _ _ _ => .ok (.stream messages ending) }
    executeOp MemoryStore.new

/-- The backend sends the whole result. -/
theorem finalCode_wholeStream :
    let run := executing [[1], [2]] .done
    rpcsTotal run.trace = [("ExecutePlan", clientLabel run.value)] :=
  (finalCode_iff _ MemoryStore.apply onePool executeOp MemoryStore.new).2.mpr (by decide +kernel)

/-- The backend goes away after the first message: the client gets `Unavailable`, and the RPC is
counted as `OK`. -/
theorem brokenStream_counted_ok :
    let run := executing [[1]] (.error (.unavailable "connection reset"))
    rpcsTotal run.trace = [("ExecutePlan", "OK")] ∧ clientLabel run.value = "Unavailable" := by
  decide +kernel

end SparkGateway.Proofs.Handler

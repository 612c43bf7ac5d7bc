import SparkGateway.Lib.Once
import SparkGateway.Lib.Schedule
import SparkGateway.Proofs.Handler.FinalCode
import SparkGateway.Spec.Shutdown

/-!
# `SparkGateway.Proofs.Serving.Guards`: what the two guards of an RPC count

An RPC can be dropped at each of its suspensions, and other RPCs run in between. `ServeCmd` is the
contract of one RPC with the counters, by the `Tally` of what it has done so far: it takes its unit
of `scg_active_streams` first and gives it back once, it counts itself once, and as long as it waits
for something it has its unit. `serve_obeys` proves it for the twelve RPCs.

* `activeStreams_exact`: in every run the gauge is the number of the RPCs that hold a stream guard.
  A streaming RPC that waits is one of them, and one that is over is not.
* `rpcs_counted_once`: in every run `scg_rpcs_total` has one count for each RPC whose guard was
  dropped, with the code of its result, or with `Cancelled` if the RPC was dropped before.
-/

set_option autoImplicit false

namespace SparkGateway.Proofs.Serving

open SparkGateway.Lib
open SparkGateway.Spec
open SparkGateway.Proofs.Handler (bodyOf counting admission_uses finaliseRpc_uses Allows
  drop_finaliseGuard)

section
variable {S : Sig}

/-! ### The tally of an RPC -/

/-- The gauge goes up. -/
def isInc : Event (ServeSig S) → Bool
  | ⟨.inr .inc, _⟩ => true
  | _ => false

/-- The gauge goes down. -/
def isDec : Event (ServeSig S) → Bool
  | ⟨.inr .dec, _⟩ => true
  | _ => false

/-- The labels that an event counts. -/
def servedCount : Event (ServeSig S) → Option (String × String)
  | ⟨.inl (.inr (.recordRpc rpc code)), _⟩ => some (rpc, code)
  | _ => none

/-- What an RPC has done to the counters. -/
structure Tally where
  incs : ℕ
  decs : ℕ
  labels : List (String × String)

/-- The tally of the events of an RPC. -/
def tally (es : List (Event (ServeSig S))) : Tally :=
  ⟨es.countP isInc, es.countP isDec, es.filterMap servedCount⟩

/-- The commands that touch no counter. -/
def Quiet : (ServeSig S).Cmd → Prop
  | .inl (.inr c) => counting c = false
  | .inl (.inl _) => True
  | .inr .suspend => True
  | .inr _ => False

/-- A stream guard that is taken adds one up. -/
theorem tally_inc (es : List (Event (ServeSig S))) :
    tally (es ++ [⟨.inr .inc, ()⟩]) =
      ⟨(tally es).incs + 1, (tally es).decs, (tally es).labels⟩ := by
  simp [tally, isInc, isDec, servedCount]

/-- A stream guard that is dropped adds one down. -/
theorem tally_dec (es : List (Event (ServeSig S))) :
    tally (es ++ [⟨.inr .dec, ()⟩]) =
      ⟨(tally es).incs, (tally es).decs + 1, (tally es).labels⟩ := by
  simp [tally, isInc, isDec, servedCount]

/-- A count adds its labels. -/
theorem tally_count (es : List (Event (ServeSig S))) (rpc code : String) :
    tally (es ++ [⟨.inl (.inr (.recordRpc rpc code)), ()⟩]) =
      ⟨(tally es).incs, (tally es).decs, (tally es).labels ++ [(rpc, code)]⟩ := by
  simp [tally, isInc, isDec, servedCount]

/-- Any other event adds nothing. -/
theorem tally_other (es : List (Event (ServeSig S))) {e : Event (ServeSig S)}
    (hinc : isInc e = false) (hdec : isDec e = false) (hcount : servedCount e = none) :
    tally (es ++ [e]) = tally es := by
  simp [tally, hinc, hdec, hcount]

/-- A quiet command adds nothing. -/
theorem tally_quiet (es : List (Event (ServeSig S))) {c : (ServeSig S).Cmd} (h : Quiet c)
    (r : (ServeSig S).Reply c) : tally (es ++ [⟨c, r⟩]) = tally es := by
  rcases c with (c | c) | c
  · exact tally_other es rfl rfl rfl
  · cases c with
    | recordRpc rpc code => cases h
    | _ => exact tally_other es rfl rfl rfl
  · cases c with
    | suspend => exact tally_other es rfl rfl rfl
    | inc => exact h.elim
    | dec => exact h.elim

/-! ### The contract -/

/-- The RPC has its unit of the gauge. -/
def Holds (kind : StreamKind) (a : Tally) : Prop := kind ≠ .unary → a.incs = 1 ∧ a.decs = 0

/-- What an RPC may do next. -/
def ServeCmd (kind : StreamKind) (es : List (Event (ServeSig S))) : (ServeSig S).Cmd → Prop
  | .inr .inc => kind ≠ .unary ∧ tally es = ⟨0, 0, []⟩
  | .inr .dec => kind ≠ .unary ∧ (tally es).incs = 1 ∧ (tally es).decs = 0
  | .inr .suspend => Holds kind (tally es)
  | .inl (.inr (.recordRpc _ _)) => (tally es).labels = []
  | .inl _ => True

/-- What an RPC has done when it is over. -/
structure Served (rpc : Rpc) (es : List (Event (ServeSig S)))
    (o : Option (Except Status Response)) : Prop where
  released : (tally es).decs = (tally es).incs
  counted : (tally es).labels = [(rpc.name, servedLabel o)]

section
variable {kind : StreamKind} {A : Event (ServeSig S) → Prop} {α : Type} {a : Tally}
  {es : List (Event (ServeSig S))}

/-- A part that touches no counter. It waits only while the guard is held. -/
theorem quiet_obeys {P : (ServeSig S).Cmd → Prop} {p : Prog (ServeSig S) α}
    (hP : ∀ c, P c → Quiet c) (hheld : P (.inr .suspend) → Holds kind a) (hp : p.Uses P)
    (hes : tally es = a) : p.Obeys A (ServeCmd kind) (fun es' _ => tally es' = a) es := by
  induction p generalizing es with
  | ret b => exact hes
  | step c k ih =>
    -- The command counts nothing, so the tally is the same for the rest.
    have hquiet := hP c hp.1
    refine ⟨?_, fun r _ => ih r (hp.2 r) ((tally_quiet es hquiet r).trans hes)⟩
    rcases c with (c | c) | c
    · trivial
    · cases c with
      | recordRpc rpc code => cases hquiet
      | _ => trivial
    · cases c with
      | suspend =>
        show Holds kind (tally es)
        rw [hes]
        exact hheld hp.1
      | inc => exact hquiet.elim
      | dec => exact hquiet.elim

/-- A stream guard is taken once, unless the RPC is unary. -/
theorem streamGuard_obeys (hes : tally es = ⟨0, 0, []⟩) :
    (streamGuard kind : Prog (ServeSig S) Unit).Obeys A (ServeCmd kind)
      (fun es' _ => tally es' = ⟨(kind != .unary).toNat, 0, []⟩) es := by
  unfold streamGuard
  split
  · rename_i hkind
    rw [hkind]
    exact hes
  · rename_i hkind
    refine ⟨⟨hkind, hes⟩, fun r _ => ?_⟩
    show tally (es ++ [⟨.inr .inc, ()⟩]) = _
    rw [tally_inc, hes, show (kind != .unary) = true from bne_iff_ne.mpr hkind]
    rfl

/-- A guard that is dropped is held. -/
theorem dropStreamGuard_obeys (held : Bool) (hheld : held = true → kind ≠ .unary ∧ a.decs = 0)
    (hincs : a.incs = (kind != .unary).toNat) (hes : tally es = a) :
    (dropStreamGuard held : Prog (ServeSig S) Unit).Obeys A (ServeCmd kind)
      (fun es' _ => tally es' = ⟨a.incs, a.decs + held.toNat, a.labels⟩) es := by
  subst hes
  cases held with
  | false => rfl
  | true =>
    obtain ⟨hkind, hdecs⟩ := hheld rfl
    rw [show (kind != .unary) = true from bne_iff_ne.mpr hkind] at hincs
    exact ⟨⟨hkind, hincs, hdecs⟩, fun r _ => tally_dec es⟩

/-- The RPC guard counts once when it is dropped. -/
theorem dropRpcGuard_obeys {guard : RpcGuard} (hlabels : a.labels = []) (hes : tally es = a) :
    (dropRpcGuard guard : Prog (ServeSig S) Unit).Obeys A (ServeCmd kind)
      (fun es' _ => tally es' = ⟨a.incs, a.decs, [guard.drop]⟩) es := by
  subst hes
  refine ⟨hlabels, fun r _ => ?_⟩
  show tally (es ++ [⟨.inl (.inr (.recordRpc guard.drop.1 guard.drop.2)), ()⟩]) = _
  rw [tally_count, hlabels]
  rfl

/-- A response stream holds the guard until it ends. -/
theorem streamOut_obeys (items : List StreamItem) {labels : List (String × String)}
    (hes : tally es = ⟨1, 0, labels⟩) :
    (streamOut items : Prog (ServeSig S) Unit).Obeys A (ServeCmd .response)
      (fun es' _ => tally es' = ⟨1, 1, labels⟩) es := by
  have hkind : StreamKind.response ≠ .unary := nofun
  have hdrop : ∀ {es : List (Event (ServeSig S))}, tally es = ⟨1, 0, labels⟩ →
      (dropStreamGuard true : Prog (ServeSig S) Unit).Obeys A (ServeCmd .response)
        (fun es' _ => tally es' = ⟨1, 1, labels⟩) es :=
    fun hes => dropStreamGuard_obeys true (fun _ => ⟨hkind, rfl⟩) rfl hes
  induction items generalizing es with
  | nil => exact hdrop hes
  | cons item rest ih =>
    refine ⟨fun _ => by rw [hes]; exact ⟨rfl, rfl⟩, fun resumed _ => ?_⟩
    have hsame := (tally_quiet es (c := .inr .suspend) trivial resumed).trans hes
    cases resumed with
    | false => exact hdrop hsame
    | true => exact ih hsame

end

section
variable (gw : Gateway S) {A : Event (ServeSig S) → Prop}

/-- The part of a handler up to its result touches no counter. -/
theorem attempt_uses {rpc : Rpc} :
    (gw.attempt rpc.name rpc.metadata (bodyOf gw rpc)).Uses fun c => Quiet (.inl c) := by
  refine Prog.Uses.bind (p := requestId) ⟨rfl, fun _ => trivial⟩ fun rid => ?_
  refine Prog.Uses.bind (admission_uses (fun c hc => hc) _ _ _) fun r => ?_
  cases r with
  | error status => trivial
  | ok caller =>
    have hroute : ∀ {α : Type} (p : Prog (RouterSig S) α),
        (route p).Uses fun c => Quiet (.inl c) :=
      fun p => (Prog.Uses.of_forall (fun _ => trivial) p).inl
    have hallows : Allows (fun c => Quiet (.inl c)) gw rpc rid caller.1 :=
      ⟨fun _ => hroute _, fun _ _ => hroute _, fun _ _ => hroute _, fun _ => hroute _,
        fun _ _ _ _ => hroute _, fun _ => rfl, fun _ _ => rfl, fun _ _ _ _ => rfl,
        fun _ _ _ _ _ => rfl⟩
    exact Prog.Uses.bind hallows.body_uses fun _ => trivial

/-- The guards that `conclude` drops. -/
def concluded (kind : StreamKind) (result : Except Status Response) : ℕ :=
  (decide (kind = .response) && !result.isOk).toNat + (decide (kind = .upload)).toNat

/-- What follows the result: the RPC is counted, and only a response stream keeps the guard. -/
theorem conclude_obeys {kind : StreamKind} {name rid : String} {ctx : Option (String × String)}
    {result : Except Status Response} {es : List (Event (ServeSig S))}
    (hes : tally es = ⟨(kind != .unary).toNat, 0, []⟩) :
    (gw.conclude kind name rid ctx result).Obeys A (ServeCmd kind)
      (fun es' _ => tally es' = ⟨(kind != .unary).toNat, concluded kind result,
        [(name, resultLabel result)]⟩) es := by
  -- The report neither counts nor suspends.
  have hfinal : ((gw.finaliseRpc result ctx rid name).inl (T := ServingSig)).Uses
      fun c => Quiet c ∧ c ≠ .inr .suspend :=
    (finaliseRpc_uses (fun c hc => ⟨hc, nofun⟩) result ctx rid name).inl
  refine Prog.Obeys.bind ((dropStreamGuard_obeys _ (fun h => ?_) rfl hes).mono fun es₁ _ h₁ => ?_)
  · simp only [Bool.and_eq_true, decide_eq_true_eq] at h
    rw [h.1]
    exact ⟨nofun, rfl⟩
  refine Prog.Obeys.bind ((quiet_obeys (fun _ h => h.1) (fun h => absurd rfl h.2) hfinal
    h₁).mono fun es₂ _ h₂ => ?_)
  refine Prog.Obeys.bind ((dropStreamGuard_obeys _ (fun h => ?_) rfl h₂).mono fun es₃ _ h₃ => ?_)
  · -- Of the two places that may drop the stream guard, each kind of RPC uses one.
    simp only [decide_eq_true_eq] at h
    rw [h]
    exact ⟨nofun, rfl⟩
  refine (dropRpcGuard_obeys rfl h₃).mono fun es₄ _ h₄ => ?_
  rw [h₄, drop_finaliseGuard]
  simp [concluded]

/-- The response stream gives the guard back that `conclude` has left. -/
theorem respond_obeys {kind : StreamKind} {result : Except Status Response}
    {labels : List (String × String)} {es : List (Event (ServeSig S))}
    (hes : tally es = ⟨(kind != .unary).toNat, concluded kind result, labels⟩) :
    (Gateway.respond kind result : Prog (ServeSig S) Unit).Obeys A (ServeCmd kind)
      (fun es' _ => tally es' = ⟨(kind != .unary).toNat, (kind != .unary).toNat, labels⟩) es := by
  cases kind with
  | unary => exact hes
  | upload => exact hes
  | response =>
    cases result with
    | error status => exact hes
    | ok response => exact streamOut_obeys _ hes

/-- The contract of one RPC. -/
theorem serveRpc_obeys (rpc : Rpc) :
    (gw.serveRpc rpc.streamKind rpc.name rpc.metadata (bodyOf gw rpc)).Obeys A
      (ServeCmd rpc.streamKind) (Served rpc) [] := by
  have hattempt : (Prog.suspendable suspend awaited
      (gw.attempt rpc.name rpc.metadata (bodyOf gw rpc))).Uses Quiet :=
    Prog.Uses.suspendable awaited ⟨trivial, fun _ => trivial⟩ (attempt_uses gw)
  refine Prog.Obeys.bind ((streamGuard_obeys rfl).mono fun es₁ _ h₁ => ?_)
  have hheld : Holds rpc.streamKind ⟨(rpc.streamKind != .unary).toNat, 0, []⟩ := by
    intro hkind
    rw [show (rpc.streamKind != .unary) = true from bne_iff_ne.mpr hkind]
    exact ⟨rfl, rfl⟩
  refine Prog.Obeys.bind ((quiet_obeys (fun _ h => h) (fun _ => hheld) hattempt
    h₁).mono fun es₂ o h₂ => ?_)
  rcases o with _ | ⟨rid, ctx, result⟩
  · -- The future is dropped: its guards are.
    refine Prog.Obeys.bind ((dropStreamGuard_obeys _
      (fun h => ⟨bne_iff_ne.mp h, rfl⟩) rfl h₂).mono fun es₃ _ h₃ => ?_)
    refine Prog.Obeys.bind ((dropRpcGuard_obeys rfl h₃).mono fun es₄ _ h₄ => ?_)
    show Served rpc es₄ none
    exact ⟨by simp [h₄], by rw [h₄]; rfl⟩
  · refine Prog.Obeys.bind ((conclude_obeys gw h₂).mono fun es₃ _ h₃ => ?_)
    refine Prog.Obeys.bind ((respond_obeys h₃).mono fun es₄ _ h₄ => ?_)
    show Served rpc es₄ (some result)
    exact ⟨by rw [h₄], by rw [h₄]; rfl⟩

/-- Each handler is served under its own kind, name and body. -/
theorem serve_eq (rpc : Rpc) :
    gw.serve rpc = gw.serveRpc rpc.streamKind rpc.name rpc.metadata (bodyOf gw rpc) := by
  cases rpc with
  | addArtifacts md inbound => rfl
  | request md req => cases req <;> rfl

/-- The contract of the RPCs. -/
theorem serve_obeys (rpc : Rpc) :
    (gw.serve rpc).Obeys A (ServeCmd rpc.streamKind) (Served rpc) [] := by
  rw [serve_eq]
  exact serveRpc_obeys gw rpc

end

end

/-! ### Runs -/

/-- A step of a run of served RPCs. -/
abbrev ServerRecord (P : PoolId → PoolModel) (ι : Type) :=
  Record (ServeSig MemorySig) (ServerState P) ι

section
variable {P : PoolId → PoolModel} {limits : LimiterConfig} {deadlineMs : ℕ} {ι : Type}
  [DecidableEq ι] {gw : Gateway MemorySig} {rpc : ι → Rpc} {s : ServerState P}
  {t : List (ServerRecord P ι)}
  {c : Config (ServeSig MemorySig) (ServerState P) ι (Option (Except Status Response))}

/-- The RPCs that hold a stream guard. -/
def openStreams (t : List (ServerRecord P ι)) : Set ι := performers isInc t \ performers isDec t

/-- The labels that an RPC was counted with. -/
def labelsOf (i : ι) (t : List (ServerRecord P ι)) : List (String × String) :=
  (eventsOf i t).filterMap servedCount

/-- The increments of `scg_rpcs_total`, in order. -/
def servedTotal (t : List (ServerRecord P ι)) : List (String × String) :=
  (actions t).filterMap fun a => servedCount a.2

/-- Each RPC keeps its contract in a run. -/
theorem serveCmd_of_run {before after : List (ServerRecord P ι)} {rec : ServerRecord P ι}
    (hrun : Run (serverSemantics P limits deadlineMs) (server gw rpc s) (before ++ rec :: after) c)
    {i : ι} {e : Event (ServeSig MemorySig)} (hact : rec.actor = some (i, e)) :
    ServeCmd (rpc i).streamKind (eventsOf i before) e.1 :=
  hrun.issued (A := fun _ => True) hact (serve_obeys gw (rpc i)) fun _ _ => trivial

/-- The gauge is what the steps have done to it. -/
theorem activeStreams_run
    (hrun : Run (serverSemantics P limits deadlineMs) (server gw rpc s) t c) :
    c.shared.activeStreams =
      s.activeStreams + (occurrences isInc t : ℤ) - (occurrences isDec t : ℤ) := by
  induction hrun with
  | nil => simp [server, occurrences, actions]
  | @snoc t c₁ rec c₂ _ hstep ih =>
    rw [occurrences_append, occurrences_append]
    cases hstep with
    | @cmd i cmd k r s' hth hcmd =>
      rw [occurrences_cmd, occurrences_cmd]
      rcases cmd with cmd | cmd
      · -- Only the two steps of the gauge change it.
        obtain ⟨p, -, rfl⟩ := hcmd
        exact ih
      · cases cmd with
        | suspend =>
          obtain rfl : s' = c₁.shared := hcmd
          exact ih
        | inc =>
          obtain rfl : s' = { c₁.shared with activeStreams := c₁.shared.activeStreams + 1 } := hcmd
          show c₁.shared.activeStreams + 1 = s.activeStreams + ((occurrences isInc t + 1 : ℕ) : ℤ) -
            ((occurrences isDec t + 0 : ℕ) : ℤ)
          omega
        | dec =>
          obtain rfl : s' = { c₁.shared with activeStreams := c₁.shared.activeStreams - 1 } := hcmd
          show c₁.shared.activeStreams - 1 = s.activeStreams + ((occurrences isInc t + 0 : ℕ) : ℤ) -
            ((occurrences isDec t + 1 : ℕ) : ℤ)
          omega
    | env henv =>
      rw [occurrences_env, occurrences_env]
      cases henv <;> exact ih

/-- A guard that was dropped was taken before. -/
theorem performers_dec_subset
    (hrun : Run (serverSemantics P limits deadlineMs) (server gw rpc s) t c) :
    performers isDec t ⊆ performers isInc t := by
  intro i hi
  obtain ⟨e, he, hdec⟩ := List.countP_pos_iff.mp hi
  obtain ⟨rec, hrec, hact⟩ := mem_eventsOf.mp he
  obtain ⟨before, after, rfl⟩ := List.append_of_mem hrec
  have hcmd := serveCmd_of_run hrun hact
  rcases e with ⟨c | c, r⟩
  · cases hdec
  · cases c with
    | dec =>
      have hincs : (eventsOf i before).countP isInc = 1 := hcmd.2.1
      show 0 < (eventsOf i (before ++ rec :: after)).countP isInc
      rw [eventsOf_append, List.countP_append, hincs]
      omega
    | _ => cases hdec

/-- A guard is taken once and dropped once. -/
theorem guard_once
    (hrun : Run (serverSemantics P limits deadlineMs) (server gw rpc s) t c) (i : ι) :
    (eventsOf i t).countP isInc ≤ 1 ∧ (eventsOf i t).countP isDec ≤ 1 := by
  have hi := serve_obeys (A := fun _ => True) gw (rpc i)
  constructor
  · refine hrun.atMostOnce (fun es c r hG hkind => ?_) hi fun _ _ => trivial
    rcases c with c | c
    · cases hkind
    · cases c with
      | inc => exact congrArg Tally.incs hG.2
      | _ => cases hkind
  · refine hrun.atMostOnce (fun es c r hG hkind => ?_) hi fun _ _ => trivial
    rcases c with c | c
    · cases hkind
    · cases c with
      | dec => exact hG.2.2
      | _ => cases hkind

/-- The number of open streams is the value of the gauge. -/
theorem ncard_openStreams
    (hrun : Run (serverSemantics P limits deadlineMs) (server gw rpc s) t c)
    (hstart : s.activeStreams = 0) :
    (openStreams t).Finite ∧ c.shared.activeStreams = ((openStreams t).ncard : ℤ) := by
  obtain ⟨hfin, hincs⟩ := ncard_performers fun i => (guard_once hrun i).1
  obtain ⟨hfin', hdecs⟩ := ncard_performers fun i => (guard_once hrun i).2
  have hsub := performers_dec_subset hrun
  have hle := Set.ncard_le_ncard hsub hfin
  refine ⟨hfin.subset Set.sdiff_subset, ?_⟩
  rw [activeStreams_run hrun, hstart, openStreams, Set.ncard_sdiff hsub hfin', ← hincs, ← hdecs]
  omega

/-- **The gauge of active streams.** In every run of the server from a gauge of zero, the gauge is
the number of open streams. An open stream is never that of a unary RPC. An RPC that streams is
among them while it is suspended, and no RPC is among them once its future is gone, whether it has
ended or was dropped. -/
theorem activeStreams_exact
    (hrun : Run (serverSemantics P limits deadlineMs) (server gw rpc s) t c)
    (hstart : s.activeStreams = 0) :
    c.shared.activeStreams = ((openStreams t).ncard : ℤ) ∧
      ∀ i, (i ∈ openStreams t → (rpc i).streamKind ≠ .unary) ∧
        ((rpc i).streamKind ≠ .unary → (∃ k, c.thread i = .step (.inr .suspend) k) →
          i ∈ openStreams t) ∧
        (∀ o, c.thread i = .ret o → i ∉ openStreams t) := by
  refine ⟨(ncard_openStreams hrun hstart).2, fun i => ⟨fun hi => ?_, fun hkind hwait => ?_,
    fun o hret hi => ?_⟩⟩
  · -- A guard was taken, which a unary RPC never does.
    obtain ⟨e, he, hinc⟩ := List.countP_pos_iff.mp hi.1
    obtain ⟨rec, hrec, hact⟩ := mem_eventsOf.mp he
    obtain ⟨before, after, rfl⟩ := List.append_of_mem hrec
    have hcmd := serveCmd_of_run hrun hact
    rcases e with ⟨c | c, r⟩
    · cases hinc
    · cases c with
      | inc => exact hcmd.1
      | _ => cases hinc
  · -- At a suspension the guard is held.
    obtain ⟨k, hk⟩ := hwait
    have hrest := (serve_obeys (A := fun _ => True) gw (rpc i)).after (hrun.after i)
      fun _ _ => trivial
    rw [hk] at hrest
    obtain ⟨hincs, hdecs⟩ : (eventsOf i t).countP isInc = 1 ∧ (eventsOf i t).countP isDec = 0 :=
      hrest.1 hkind
    have hnone : ¬ 0 < (eventsOf i t).countP isDec := by omega
    exact ⟨show 0 < (eventsOf i t).countP isInc by omega, hnone⟩
  · -- At the end it has been released.
    have hserved := hrun.returned hret (serve_obeys (A := fun _ => True) gw (rpc i))
      fun _ _ => trivial
    have hincs : 0 < (eventsOf i t).countP isInc := hi.1
    have hdecs : (eventsOf i t).countP isDec = (eventsOf i t).countP isInc := hserved.released
    exact hi.2 (show 0 < (eventsOf i t).countP isDec by omega)

/-- An event that counts with a label. -/
def countsAs (label : String × String) (e : Event (ServeSig MemorySig)) : Bool :=
  servedCount e == some label

/-- The counts of a label among the events of one RPC. -/
theorem countP_countsAs (label : String × String) (es : List (Event (ServeSig MemorySig))) :
    es.countP (countsAs label) = (es.filterMap servedCount).count label := by
  induction es with
  | nil => rfl
  | cons e es ih =>
    rw [List.countP_cons, ih]
    cases hcount : servedCount e with
    | none => simp [countsAs, hcount]
    | some label' => simp [countsAs, hcount, List.count_cons]

omit [DecidableEq ι] in
/-- The counts of a label in a run. -/
theorem occurrences_countsAs (label : String × String) (t : List (ServerRecord P ι)) :
    occurrences (countsAs label) t = (servedTotal t).count label := by
  rw [servedTotal, show (fun a : ι × Event (ServeSig MemorySig) => servedCount a.2) =
    servedCount ∘ Prod.snd from rfl, ← List.filterMap_map, ← countP_countsAs, List.countP_map]
  rfl

/-- An RPC is counted once. -/
theorem labelsOf_length
    (hrun : Run (serverSemantics P limits deadlineMs) (server gw rpc s) t c) (i : ι) :
    (labelsOf i t).length ≤ 1 := by
  have honce : (eventsOf i t).countP (fun e => (servedCount e).isSome) ≤ 1 := by
    refine hrun.atMostOnce (fun es c r hG hkind => ?_)
      (serve_obeys (A := fun _ => True) gw (rpc i)) fun _ _ => trivial
    rcases c with (c | c) | c
    · cases hkind
    · cases c with
      | recordRpc name code =>
        have hlabels : es.filterMap servedCount = [] := hG
        rw [← List.length_filterMap_eq_countP, hlabels]
        rfl
      | _ => cases hkind
    · cases hkind
  rwa [labelsOf, List.length_filterMap_eq_countP]

/-- **The count of RPCs**, also of those that are dropped. -/
theorem rpcs_counted_once
    (hrun : Run (serverSemantics P limits deadlineMs) (server gw rpc s) t c) :
    (∀ label, (servedTotal t).count label = { i | labelsOf i t = [label] }.ncard) ∧
      ∀ i, (labelsOf i t).length ≤ 1 ∧
        ∀ o, c.thread i = .ret o → labelsOf i t = [((rpc i).name, servedLabel o)] := by
  refine ⟨fun label => ?_, fun i => ⟨labelsOf_length hrun i, fun o hret => ?_⟩⟩
  · have hcount : ∀ i, (eventsOf i t).countP (countsAs label) = (labelsOf i t).count label :=
      fun i => countP_countsAs label _
    have honce : ∀ i, (eventsOf i t).countP (countsAs label) ≤ 1 := by
      intro i
      rw [hcount]
      exact List.count_le_length.trans (labelsOf_length hrun i)
    rw [← occurrences_countsAs, ← (ncard_performers honce).2]
    congr 1
    ext i
    -- The RPC has at most one label, so it has this one or another one.
    have hlength := labelsOf_length hrun i
    show 0 < (eventsOf i t).countP (countsAs label) ↔ labelsOf i t = [label]
    rw [hcount]
    rcases hlabels : labelsOf i t with _ | ⟨label', _ | ⟨label'', rest⟩⟩
    · simp
    · rw [List.count_pos_iff, List.mem_singleton, List.singleton_inj, eq_comm]
    · rw [hlabels] at hlength
      simp at hlength
  · exact (hrun.returned hret (serve_obeys (A := fun _ => True) gw (rpc i))
      fun _ _ => trivial).counted

end

namespace TwoPlans

/-- The process has one backend. -/
def start : ServerState staticPools := .start (.fresh fun _ => ⟨["be:15002"], by simp, 0⟩)

/-- Both RPCs are plans of one session. -/
def rpc (_ : Bool) : Rpc := .request (fun _ => none) (.executePlan ⟨"s", none, ⟨none, []⟩⟩)

/-- The first plan is dropped while it waits for the authenticator, where the second one waits. -/
def turns : List Bool := List.replicate 5 false ++ List.replicate 2 true

/-- The steps of the two plans, and where they lead. -/
def plans :=
  schedule (fun resumed =>
      serverHandler staticPools .unlimited (.healthy (.user "alice") "") resumed) turns
    (server (.inProcess (.single 0)) rpc start)

/-- The schedule is a run of the server. -/
theorem run : Run (serverSemantics staticPools .unlimited 0)
    (server (.inProcess (.single 0)) rpc start) plans.1 plans.2 :=
  schedule_run (fun _ => serverHandler_allowed staticPools .unlimited 0 _ _) turns _

end TwoPlans

/-- One of the two plans is an active stream. -/
theorem activeStreams_exact_twoPlans :
    (openStreams TwoPlans.plans.1).ncard = 1 ∧ true ∈ openStreams TwoPlans.plans.1 := by
  obtain ⟨hgauge, hstreams⟩ := activeStreams_exact TwoPlans.run rfl
  have hone : TwoPlans.plans.2.shared.activeStreams = 1 := by decide +kernel
  refine ⟨by omega, (hstreams true).2.1 nofun ⟨_, rfl⟩⟩

/-- The other one is counted as cancelled. -/
theorem rpcs_counted_once_twoPlans :
    labelsOf false TwoPlans.plans.1 = [("ExecutePlan", "Cancelled")] :=
  ((rpcs_counted_once TwoPlans.run).2 false).2 none rfl

end SparkGateway.Proofs.Serving

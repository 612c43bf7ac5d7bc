import SparkGateway.Proofs.Handler.TableOwnership

/-!
# `SparkGateway.Proofs.Handler.AuditTruth`: the audit trail of a busy process tells the truth

The handlers of a process write the audit trail while the handlers of other RPCs run between their
steps. Still, each event can be trusted, whatever the interleaving:

* `auth.failure` names the RPC and the reason for which the authenticator or the tenant resolver
  turned its caller away;
* `session.create` names the verified caller, its session and a backend to which the table had
  bound the session just before;
* `session.release` names the verified caller, its session and the backend that agreed to the
  release. The handler had resolved the session to that backend, and its own `forget_session` left
  the session unbound. What it removed is the binding to that backend, unless another handler
  released the session in between. A release without a session id removes nothing;
* the outcome of an RPC is written at most once, and it is the outcome that the handler returns.

What may happen to the table between the command and its report is left open: the trail is in the
order of the reports, not of the commands.
-/

set_option autoImplicit false

namespace SparkGateway.Proofs.Handler

open SparkGateway.Lib
open SparkGateway.Spec
open SparkGateway.Proofs.Routing

section
variable {ι : Type} [DecidableEq ι] {P : PoolId → PoolModel} {limits : LimiterConfig}
  {gw : Gateway MemorySig} {rpc : ι → Rpc} {s : ProcessState P}
  {c : Config (GatewaySig MemorySig) (ProcessState P) ι (Except Status Response)}
  {t : List (ProcessRecord P ι)}

/-- Handler `i` has released the key, as a key that was bound to `addr`. Its `forget_session` left
the key unbound. A key without a session id was not bound at all. For any other key the handler had
resolved it to `addr`, and what it then removed is that binding, unless another handler forgot the
key in between. -/
def Released (i : ι) (key : SessionKey) (addr : String) (before : List (ProcessRecord P ι)) :
    Prop :=
  ∃ t₁ forget t₂, before = t₁ ++ forget :: t₂ ∧ Forgets i key forget ∧
    forget.post.store.sessions key = none ∧
    (key.isZero = true ∧ forget.pre.store.sessions key = none ∨
      ∃ t₃ resolve t₄, t₁ = t₃ ++ resolve :: t₄ ∧
        (∃ e, resolve.actor = some (i, e) ∧ ResolvedTo key addr e) ∧
        resolve.post.store.sessions key = some addr ∧
        (forget.pre.store.sessions key = some addr ∨
          ∃ rec ∈ t₄, ∃ j, j ≠ i ∧ Forgets j key rec))

/-- What the session table says of an event of handler `i` after the records `before`. -/
def TableAgrees (i : ι) (before : List (ProcessRecord P ι)) : AuditEvent → Prop
  | .sessionCreate _ tenant user _ session addr => ∃ rec ∈ before,
      (∃ e, rec.actor = some (i, e)) ∧
        rec.post.store.sessions ⟨tenant, user, session⟩ = some addr
  | .sessionRelease _ tenant user _ session addr =>
      Released i ⟨tenant, user, session⟩ addr before
  | _ => True

/-- The event is true of what handler `i` and the tables have done in `before`. -/
structure TrueEvent (gw : Gateway MemorySig) (rpc : ι → Rpc) (i : ι)
    (before : List (ProcessRecord P ι)) (event : AuditEvent) : Prop where
  reported : Reported gw (rpc i) (eventsOf i before) event ∨
    Concluded gw (rpc i) (eventsOf i before) event
  table : TableAgrees i before event

/-- A key without a session id is never bound. -/
theorem zero_stays_unbound (hstore : gw.router.store = MemoryStore.store)
    (hzero : ∀ key : SessionKey, key.isZero = true → s.store.sessions key = none)
    (hrun : Run (processSemantics P limits) (process gw rpc s) t c) {key : SessionKey}
    (hkey : key.isZero = true) : c.shared.store.sessions key = none := by
  refine hrun.invariant (P := fun u => u.store.sessions key = none) ?_ (hzero key hkey)
  intro rec hrec hpre
  obtain ⟨t₁, t₂, rfl⟩ := List.append_of_mem hrec
  obtain ⟨c₁, c₂, -, hstep, -⟩ := hrun.step_at
  rcases (process_accesses hstep).session_cases key with
    hsame | ⟨i, addr, reply, hact, -⟩ | ⟨i, -, -, hnone⟩
  · exact hsame.trans hpre
  · -- The handlers bind no such key.
    obtain ⟨id, tenant, -, -, hbinds, -⟩ := own_of_storeCmd (contract_of_run hstore hrun hact)
    rw [hkey] at hbinds
    cases hbinds
  · exact hnone

/-- A handler that has obtained the address of its key, and then forgotten the key. -/
theorem released_of_obtained (hstore : gw.router.store = MemoryStore.store)
    (hzero : ∀ key : SessionKey, key.isZero = true → s.store.sessions key = none)
    (hrun : Run (processSemantics P limits) (process gw rpc s) t c) {i : ι} {md : MetadataMap}
    {m : Message Payload} (hrpc : rpc i = .request md (.releaseSession m)) {key : SessionKey}
    {addr : String} {es : List HandlerEvent} (hobt : Obtained gw (rpc i) es key addr)
    (hes : eventsOf i t = es ++ [storeEvent (.forgetSession key) ()]) :
    Released i key addr t := by
  obtain ⟨t₁, forget, t₂, rfl, hforget, rfl⟩ := eventsOf_eq_snoc hes
  obtain ⟨c₁, c₂, hrun₁, hstep, -⟩ := hrun.step_at
  refine ⟨t₁, forget, t₂, rfl, hforget, forget_reply (access_at hstep hforget), ?_⟩
  cases hobt with
  | op hop =>
    -- A release is not routed by an operation.
    rw [hrpc] at hop
    cases hop
  | picked hkey =>
    rw [hstep.shared.1]
    exact .inl ⟨hkey, zero_stays_unbound hstore hzero hrun₁ hkey⟩
  | session hmem hres =>
    obtain ⟨t₃, resolve, t₄, c₃, c₄, rfl, hact, -, hresolve, hrun₄⟩ := hrun₁.event_at hmem
    have hbound := (resolves_bound hresolve ⟨i, _, hact, hres⟩).1
    refine .inr ⟨t₃, resolve, t₄, rfl, ⟨_, hact, hres⟩, hbound, ?_⟩
    by_cases hother : ∃ rec ∈ t₄, ∃ j, Forgets j key rec
    · obtain ⟨rec, hrec, j, hj⟩ := hother
      refine .inr ⟨rec, hrec, j, ?_, hj⟩
      rintro rfl
      -- The handler itself has forgotten nothing before.
      have hguard : Guard (rpc j) (eventsOf j (t₃ ++ resolve :: t₄))
          (storeCmd (.forgetSession key)) :=
        hrun.issued (A := fun _ => True) hforget (handle_obeys hstore _) fun _ _ => trivial
      exact hguard.2.2 _ (mem_eventsOf.mpr ⟨rec, by simp [hrec], hj⟩)
    · rw [hstep.shared.1]
      refine .inl (binding_kept hrun₄ (hresolve.shared.2 ▸ hbound) fun rec hrec j hj => ?_)
      exact hother ⟨rec, hrec, j, hj⟩

/-- What is reported of a session is what the table has been told. -/
theorem tableAgrees_of_reported (hstore : gw.router.store = MemoryStore.store)
    (hzero : ∀ key : SessionKey, key.isZero = true → s.store.sessions key = none)
    (hrun : Run (processSemantics P limits) (process gw rpc s) t c) {i : ι} {event : AuditEvent}
    (h : Reported gw (rpc i) (eventsOf i t) event) : TableAgrees i t event := by
  cases event with
  | sessionCreate rid tenant user groups session addr =>
    obtain ⟨-, id, -, -, hbind⟩ := h
    obtain ⟨rec, hrec, hact⟩ := mem_eventsOf.mp hbind
    obtain ⟨c₁, c₂, hstep⟩ := hrun.step_of_mem hrec
    exact ⟨rec, hrec, ⟨_, hact⟩, (bind_reply (access_at hstep hact)).1⟩
  | sessionRelease rid tenant user groups session addr =>
    obtain ⟨-, id, md, m, resp, es, -, -, hrpc, hobt, -, hes⟩ := h
    exact released_of_obtained hstore hzero hrun hrpc hobt hes
  | _ => trivial

/-- **The audit trail tells the truth** in every run of any handlers, from a table without keys
that have no session id: each event that is written is true, and what a handler that has returned
wrote of its outcome is what it returned. -/
theorem audit_truthful (hstore : gw.router.store = MemoryStore.store)
    (hzero : ∀ key : SessionKey, key.isZero = true → s.store.sessions key = none)
    (hrun : Run (processSemantics P limits) (process gw rpc s) t c) :
    (∀ before rec after i event, t = before ++ rec :: after →
      rec.actor = some (i, ⟨.inr (.audit event), ()⟩) → TrueEvent gw rpc i before event) ∧
    ∀ i result, c.thread i = .ret result → Settled gw (rpc i) (eventsOf i t) result := by
  refine ⟨?_, fun i result hret =>
    hrun.returned (A := fun _ => True) hret (handle_contract hstore) fun _ _ => trivial⟩
  rintro before rec after i event rfl hact
  obtain ⟨c₁, c₂, hbefore, -, -⟩ := hrun.step_at
  have haudited := (contract_of_run hstore hrun hact).audited
  refine ⟨haudited, ?_⟩
  rcases haudited with hreported | hconcluded
  · exact tableAgrees_of_reported hstore hzero hbefore hreported
  · cases event with
    | sessionCreate => exact hconcluded.elim
    | sessionRelease => exact hconcluded.elim
    | _ => trivial

end

namespace Handover

/-- The second call writes that it has released the session. -/
theorem records_release : ∃ before rec after, records = before ++ rec :: after ∧
    rec.actor = some (1, ⟨.inr (.audit
      (.sessionRelease "rid" "default" "alice" "" "sess-1" "be-a:15002")), ()⟩) := by
  have hlength : 15 < records.length := by decide +kernel
  exact ⟨records.take 15, records.get ⟨15, hlength⟩, records.drop 16, rfl, rfl⟩

end Handover

/-- Alice's `session.release` is true. -/
theorem audit_truthful_alice : ∃ before rec after,
    Handover.records = before ++ rec :: after ∧
      TrueEvent Handover.gateway Handover.rpc 1 before
        (.sessionRelease "rid" "default" "alice" "" "sess-1" "be-a:15002") := by
  obtain ⟨c, hrun⟩ := Handover.run
  obtain ⟨before, rec, after, hsplit, hact⟩ := Handover.records_release
  exact ⟨before, rec, after, hsplit,
    (audit_truthful rfl (fun _ _ => rfl) hrun).1 before rec after 1 _ hsplit hact⟩

end SparkGateway.Proofs.Handler

import Mathlib.Data.List.Chain
import SparkGateway.Proofs.Handler.OpAffinity

/-!
# `SparkGateway.Proofs.Handler.SessionTrail`: the audit log and the session table

An operator reads off the audit log which sessions are bound: a `session.create` when a session
is entered into the table, and a `session.release` when it is removed. `Mirrors` says that the log
is right about one session. Its events alternate, starting with a `session.create`, and the last
one is a `session.create` if and only if the session has an entry.

Two kinds of RPC break this. One that names an unknown operation is routed by the session table
without `resolve_session_audited`, so it can bind a session and write nothing (`Unreported`). A
`ReleaseSession` without a session id is forwarded like any other one and writes a
`session.release`, although such a session is never bound (`EmptyRelease`). `mirrors_iff` says
that these are the only ones: the log mirrors the table after every RPC of a history if and only
if none of its RPCs is of these kinds.

`trail_cases` is what one RPC writes about a session, and `transition_session_cases` what it does
to the entry. `mirrors_step` puts the two side by side.
-/

set_option autoImplicit false

namespace SparkGateway.Proofs.Handler

open SparkGateway.Lib
open SparkGateway.Spec

/-! ### The trail of a session -/

/-- What an event says of a session. -/
inductive Mark where
  | create
  | release
deriving DecidableEq, Repr

/-- What an event says of the session of `key`. -/
def markOf (key : SessionKey) : AuditEvent → Option Mark
  | .sessionCreate _ tenant userId _ sessionId _ =>
      if SessionKey.mk tenant userId sessionId = key then some .create else none
  | .sessionRelease _ tenant userId _ sessionId _ =>
      if SessionKey.mk tenant userId sessionId = key then some .release else none
  | _ => none

/-- The events of a run about the session of `key`, in order. -/
def trail (key : SessionKey) (es : List Effect) : List Mark := (audits es).filterMap (markOf key)

/-- The trail of a session over a history of RPCs. -/
def trailAfter (gw : Gateway MemorySig) (key : SessionKey) :
    List (Env × Rpc) → MemoryStore.State → List Mark
  | [], _ => []
  | (env, rpc) :: steps, s =>
      trail key (effects (runRpc gw MemoryStore.apply env rpc s).trace) ++
        trailAfter gw key steps (runRpc gw MemoryStore.apply env rpc s).state

/-- The trail is right about the entry of the session. -/
structure Mirrors (marks : List Mark) (entry : Option String) : Prop where
  alternates : marks.IsChain (· ≠ ·)
  starts : marks.head? ≠ some .release
  last : (marks.getLast? == some .create) = entry.isSome

section
variable (gw : Gateway MemorySig) (env : Env) (rpc : Rpc) (s : MemoryStore.State)
  (key : SessionKey)

/-- The RPC binds the session by way of the fallback for an unknown operation. -/
def Unreported : Prop := (opOf rpc).isSome = true ∧ ∃ addr, Binds gw env rpc s key addr

/-- The RPC is a `ReleaseSession` without a session id that is answered Ok. -/
def EmptyRelease : Prop := key.isZero = true ∧ Releases gw env rpc s key

/-- The RPC binds the session and reports it. -/
def Announces : Prop := opOf rpc = none ∧ ∃ addr, Binds gw env rpc s key addr

end

/-! ### How a trail grows -/

section
variable {marks : List Mark} {b : String}

/-- An empty trail mirrors an absent entry. -/
theorem mirrors_nil : Mirrors [] none := ⟨.nil, by simp, rfl⟩

/-- One more event, which differs from the last one. -/
theorem Mirrors.snoc {entry entry' : Option String} (h : Mirrors marks entry) {mark : Mark}
    (hmark : (mark == .create) = entry'.isSome) (hnext : entry.isSome ≠ entry'.isSome) :
    Mirrors (marks ++ [mark]) entry' := by
  have hlast := h.last
  rw [← hmark] at hnext
  refine ⟨?_, ?_, ?_⟩
  · rw [List.isChain_append]
    refine ⟨h.alternates, .singleton _, ?_⟩
    intro m hm m' hm'
    obtain rfl : mark = m' := by simpa using hm'
    rintro rfl
    rw [show marks.getLast? = some m from hm] at hlast
    exact hnext hlast.symm
  · cases marks with
    | cons m marks => exact h.starts
    | nil =>
      -- Without an event there is no entry, so the first one is a `session.create`.
      cases mark with
      | create => simp
      | release => exact absurd hlast.symm hnext
  · rw [List.getLast?_concat]
    exact hmark

/-- A release of a session that is not bound cannot follow. -/
theorem Mirrors.not_release (h : Mirrors marks none) (entry : Option String) :
    ¬ Mirrors (marks ++ [.release]) entry := by
  intro h'
  have hlast := h.last
  have halt := h'.alternates
  rw [List.isChain_append] at halt
  cases hm : marks.getLast? with
  | none =>
    rw [List.getLast?_eq_none_iff.mp hm] at h'
    exact h'.starts rfl
  | some m =>
    rw [hm] at hlast
    cases m with
    | create => cases hlast
    | release => exact halt.2.2 .release hm .release rfl rfl

/-- A trail is right about one entry only. -/
theorem Mirrors.isSome_eq {entry entry' : Option String} (h : Mirrors marks entry)
    (h' : Mirrors marks entry') : entry.isSome = entry'.isSome := h.last.symm.trans h'.last

end

/-! ### What one RPC writes -/

@[simp] theorem trail_append (key : SessionKey) (es es' : List Effect) :
    trail key (es ++ es') = trail key es ++ trail key es' := by
  simp [trail, audits]

section
variable {gw : Gateway MemorySig} (henabled : gw.audit.enabled = true) (key : SessionKey)
include henabled

/-- An enabled log keeps every event about a session. -/
theorem trail_writing (event : AuditEvent) :
    trail key (writing gw event) = (markOf key event).toList := by
  by_cases hwrites : gw.audit.writes event = true
  · rw [writing, if_pos hwrites]
    show [event].filterMap (markOf key) = _
    cases hmark : markOf key event <;> simp [hmark]
  · -- Only the events of successful RPCs can be switched off.
    rw [writing, if_neg hwrites]
    cases event with
    | rpcOk rid rpc tenant userId => rfl
    | _ => exact absurd henabled hwrites

/-- The report of the result says nothing of a session. -/
theorem trail_finalEffects (result : Except Status Response) (tenant userId rid rpc : String) :
    trail key (finalEffects gw result tenant userId rid rpc) = [] := by
  unfold finalEffects
  split
  · exact trail_writing henabled key _
  · split
    · rfl
    · exact trail_writing henabled key _

/-- Neither does admission. -/
theorem trail_admissionEffects (env : Env) (md : MetadataMap) (rid rpc : String) :
    trail key (admissionEffects gw env md rid rpc) = [] := by
  unfold admissionEffects
  split
  · exact trail_writing henabled key _
  · split
    · exact trail_writing henabled key _
    · rfl

omit henabled in
/-- Sending leaves no mark in the trail. -/
theorem trail_sending (env : Env) (rpc : Rpc) (id : Identity) (addr : String) :
    trail key (sending env rpc id addr) = [] := by
  unfold sending
  split
  · rfl
  · split <;> rfl

omit henabled in
/-- Resolving a session leaves no mark in the trail; the report of it comes after. -/
theorem trail_sessionRoute (r : TenantRouter) (env : Env) (key' : SessionKey)
    (s : MemoryStore.State) : trail key (sessionRoute r env key' s).2.2 = [] := by
  unfold sessionRoute
  split
  · rfl
  · rfl
  · split
    · split <;> rfl
    · split <;> rfl

omit henabled in
/-- A binding is new if there was no entry and the pool picked. -/
theorem newlyBound_iff (r : TenantRouter) (env : Env) (s : MemoryStore.State) (addr : String) :
    (sessionRoute r env key s).1 = .ok (some ⟨addr, true⟩) ↔
      key.isZero = false ∧ s.sessions key = none ∧
        ∃ pool, r.poolFor key.tenant = .ok (some pool) ∧ env.pick pool = some addr := by
  unfold sessionRoute
  cases hpool : r.poolFor key.tenant with
  | error status => simp
  | ok pool? =>
    cases pool? with
    | none => simp
    | some pool =>
      cases hzero : key.isZero with
      | true => cases hpick : env.pick pool <;> simp [hpick]
      | false =>
        cases hold : s.sessions key with
        | some existing => simp
        | none => cases hpick : env.pick pool <;> simp [hpick]

/-- A new binding is reported with its session. -/
theorem trail_creating (rid : String) (id : Identity) (tenant sessionId : String)
    (outcome : Except Status (Option ResolveOutcome)) :
    trail key (creating gw rid id (keyFromIdentity tenant sessionId id) outcome) =
      match outcome with
      | .ok (some ⟨_, true⟩) =>
          if keyFromIdentity tenant sessionId id = key then [.create] else []
      | _ => [] := by
  rcases outcome with status | _ | ⟨addr, newlyBound⟩
  · rfl
  · rfl
  · cases newlyBound with
    | false => rfl
    | true =>
      refine (trail_writing henabled key _).trans ?_
      show (if keyFromIdentity tenant sessionId id = key then some Mark.create else none).toList = _
      split <;> rfl

variable (hstore : gw.router.store = MemoryStore.store)
include hstore

/-- Routing writes about the session if it binds it, and not by way of an operation. -/
theorem trail_routing {env : Env} {rpc : Rpc} {id : Identity} {tenant : String}
    (hadm : admission gw env rpc.metadata = .ok (id, tenant)) (s : MemoryStore.State) :
    Announces gw env rpc s key ∧
        trail key (routing env MemoryStore.apply gw rpc id tenant s).2.2 = [.create] ∨
      ¬ Announces gw env rpc s key ∧
        trail key (routing env MemoryStore.apply gw rpc id tenant s).2.2 = [] := by
  have hroute := fun key' s' => resolved_memory gw.router.tenants env key' s'
  rw [← router_eq hstore] at hroute
  unfold routing
  cases hsession : sessionOf rpc with
  | none =>
    refine .inr ⟨?_, rfl⟩
    rintro ⟨-, addr, ⟨_, _, _, _, hsome, -⟩, -⟩
    cases hsession.symm.trans hsome
  | some sessionId =>
    cases hop : opOf rpc with
    | some opId =>
      refine .inr ⟨fun hann => ?_, ?_⟩
      · cases hop.symm.trans hann.1
      · simp only
        rcases opServed MemoryStore.apply gw.router opId s with ⟨_ | b, s'⟩
        · simp only [hroute]
          exact trail_sessionRoute key _ env _ s'
        · rfl
    | none =>
      simp only [hroute, trail_append, trail_sessionRoute, List.nil_append,
        trail_creating henabled key]
      by_cases hann : Announces gw env rpc s key
      · refine .inl ⟨hann, ?_⟩
        obtain ⟨-, addr, ⟨id', tenant', sessionId', hadm', hsession', rfl, -⟩, hbinds⟩ := hann
        obtain ⟨rfl, rfl⟩ := Prod.mk.inj (Except.ok.inj (hadm.symm.trans hadm'))
        obtain rfl := Option.some.inj (hsession.symm.trans hsession')
        rw [(newlyBound_iff _ _ env s addr).mpr hbinds]
        exact if_pos rfl
      · refine .inr ⟨hann, ?_⟩
        split
        · rename_i addr hnew
          -- Newly bound, but then another session.
          refine if_neg ?_
          rintro rfl
          exact hann ⟨hop, addr, ⟨id, tenant, sessionId, hadm, hsession, rfl, fun opId h => by
            cases hop.symm.trans h⟩, (newlyBound_iff _ _ env s addr).mp hnew⟩
        · rfl

omit hstore in
/-- A release that is answered Ok is reported with its session. -/
theorem trail_releasing {env : Env} {rpc : Rpc} {id : Identity} {tenant addr : String}
    {s : MemoryStore.State} (hadm : admission gw env rpc.metadata = .ok (id, tenant))
    (haddr : (routeOf gw.router.tenants env rpc id tenant s).addr = some addr) :
    Releases gw env rpc s key ∧
        trail key (releasing env gw rpc id tenant addr) = [.release] ∨
      ¬ Releases gw env rpc s key ∧ trail key (releasing env gw rpc id tenant addr) = [] := by
  rcases releases_cases key hadm haddr with ⟨hrel, md, m, rfl, rfl, hok⟩ | ⟨hrel, hother⟩
  · refine .inl ⟨hrel, ?_⟩
    simp only [releasing, hok, if_true]
    refine (trail_writing henabled _ _).trans ?_
    exact congrArg Option.toList (if_pos rfl)
  · refine .inr ⟨hrel, ?_⟩
    unfold releasing
    split
    · -- The release is of another session, whose event is not in this trail.
      rename_i md m
      split
      · rename_i hok
        refine (trail_writing henabled key _).trans ?_
        refine congrArg Option.toList (if_neg ?_)
        exact (hother md m rfl hok).symm
      · rfl
    · rfl

/-- **What one RPC writes about a session**: a `session.create` if it binds the session by way of
the session path, and then a `session.release` if it releases it. -/
theorem trail_cases (env : Env) (rpc : Rpc) (s : MemoryStore.State) :
    ∃ created released,
      trail key (effects (runRpc gw MemoryStore.apply env rpc s).trace) = created ++ released ∧
      (Announces gw env rpc s key ∧ created = [.create] ∨
        ¬ Announces gw env rpc s key ∧ created = []) ∧
      (Releases gw env rpc s key ∧ released = [.release] ∨
        ¬ Releases gw env rpc s key ∧ released = []) := by
  cases hadm : admission gw env rpc.metadata with
  | error status =>
    obtain ⟨-, -, heffects⟩ := runRpc_of_refused MemoryStore.apply s hadm
    refine ⟨[], [], ?_, .inr ⟨?_, rfl⟩, .inr ⟨?_, rfl⟩⟩
    · rw [heffects]
      exact trail_admissionEffects henabled key env _ _ _
    · rintro ⟨-, addr, ⟨_, _, _, hadm', -⟩, -⟩
      cases hadm.symm.trans hadm'
    · rintro ⟨_, _, _, _, _, hadm', -⟩
      cases hadm.symm.trans hadm'
  | ok p =>
    obtain ⟨id, tenant⟩ := p
    obtain ⟨-, -, heffects⟩ := runRpc_of_admitted MemoryStore.apply s hadm
    have hroutes := (routes_addrOf env s hstore id tenant rpc).1
    have hrouting := trail_routing henabled key hstore hadm s
    rw [heffects, trail_append, trail_finalEffects henabled, List.append_nil, observe_body]
    rw [observe_addrOf] at hroutes
    rcases hrun : routing env MemoryStore.apply gw rpc id tenant s with ⟨value, s', es⟩
    rw [hrun] at hroutes hrouting
    cases value with
    | error status =>
      -- Not routed, so not released.
      refine ⟨trail key es, [], (List.append_nil _).symm, hrouting, .inr ⟨fun hrel => ?_, rfl⟩⟩
      obtain ⟨md, m, addr, -, -, haddr, -⟩ := (releases_iff hadm).mp hrel
      cases hroutes.trans haddr
    | ok addr =>
      refine ⟨trail key es, trail key (releasing env gw rpc id tenant addr), ?_, hrouting,
        trail_releasing henabled key hadm hroutes.symm⟩
      simp only [trail_append, trail_sending, List.nil_append]

end

/-! ### Log and table -/

section
variable {gw : Gateway MemorySig} {env : Env} {rpc : Rpc} {s : MemoryStore.State}
  {key : SessionKey}

/-- A release is routed by the session table. -/
theorem Releases.bySession (h : Releases gw env rpc s key) :
    BySession gw env rpc s key ∧ opOf rpc = none := by
  obtain ⟨id, tenant, md, m, addr, hadm, rfl, rfl, -, -⟩ := h
  exact ⟨⟨id, tenant, m.sessionId, hadm, rfl, rfl, fun opId hop => by cases hop⟩, rfl⟩

/-- A release of a session without an entry binds it first. -/
theorem Releases.binds (h : Releases gw env rpc s key) (hzero : key.isZero = false)
    (hnone : s.sessions key = none) : ∃ addr, Binds gw env rpc s key addr := by
  have hby := h.bySession.1
  obtain ⟨id, tenant, md, m, addr, hadm, -, -, haddr, -⟩ := h
  rw [routeOf_of_bySession hby hadm, routeBySession_addr_iff] at haddr
  obtain ⟨pool, hpool, hleads⟩ := haddr
  simp only [hzero, hnone, Bool.false_eq_true, if_false] at hleads
  exact ⟨addr, hby, hzero, hnone, pool, hpool, hleads⟩

variable (hstore : gw.router.store = MemoryStore.store)
include hstore

/-- A session without an id has no entry. -/
theorem session_zero : ∀ (steps : List (Env × Rpc)) (s : MemoryStore.State),
    key.isZero = true → s.sessions key = none → (tablesAfter gw steps s).sessions key = none := by
  intro steps
  induction steps with
  | nil => intro s _ hnone; exact hnone
  | cons step rest ih =>
    intro s hzero hnone
    obtain ⟨env, rpc⟩ := step
    refine ih _ hzero ?_
    show (runRpc gw MemoryStore.apply env rpc s).state.sessions key = none
    rw [(runRpc_transition env s hstore rpc).1]
    rcases transition_session_cases gw env rpc s key with
      ⟨-, hnext⟩ | ⟨-, ⟨addr, ⟨-, hnonzero, -⟩, -⟩ | ⟨-, hnext⟩⟩
    · exact hnext
    · cases hzero.symm.trans hnonzero
    · rw [hnext]
      exact hnone

variable (henabled : gw.audit.enabled = true)
include henabled

/-- An RPC that releases the session leaves a `session.release` behind. The log is right then,
unless the session has no id. -/
theorem mirrors_released {marks : List Mark} (hmirrors : Mirrors marks (s.sessions key))
    (hunbound : key.isZero = true → s.sessions key = none) (hrel : Releases gw env rpc s key) :
    Mirrors (marks ++ trail key (effects (runRpc gw MemoryStore.apply env rpc s).trace)) none ↔
      ¬ EmptyRelease gw env rpc s key := by
  obtain ⟨created, released, htrail, hcreated, hreleased⟩ :=
    trail_cases henabled key hstore env rpc s
  obtain rfl : released = [.release] := (hreleased.resolve_right fun h => h.1 hrel).2
  rw [htrail]
  cases hzero : key.isZero with
  | true =>
    obtain rfl : created = [] := by
      refine (hcreated.resolve_left ?_).2
      rintro ⟨⟨-, addr, -, hnonzero, -⟩, -⟩
      cases hzero.symm.trans hnonzero
    rw [hunbound hzero] at hmirrors
    exact iff_of_false (hmirrors.not_release none) fun h => h ⟨hzero, hrel⟩
  | false =>
    refine iff_of_true ?_ fun h => by cases hzero.symm.trans h.1
    cases hentry : s.sessions key with
    | some b =>
      obtain rfl : created = [] := by
        refine (hcreated.resolve_left ?_).2
        rintro ⟨⟨-, addr, -, -, hnone, -⟩, -⟩
        cases hentry.symm.trans hnone
      rw [hentry] at hmirrors
      exact hmirrors.snoc rfl (by simp)
    | none =>
      -- Bound and released by the same RPC.
      have hbinds := hrel.binds hzero hentry
      obtain rfl : created = [.create] :=
        (hcreated.resolve_right fun h => h.1 ⟨hrel.bySession.2, hbinds⟩).2
      obtain ⟨addr, -⟩ := hbinds
      rw [hentry] at hmirrors
      have hcreate : Mirrors (marks ++ [.create]) (some addr) := hmirrors.snoc rfl (by simp)
      rw [← List.append_assoc]
      exact hcreate.snoc rfl (by simp)

/-- An RPC that binds the session leaves a `session.create` behind, unless it was routed by way of
an operation. -/
theorem mirrors_bound {marks : List Mark} {addr : String}
    (hmirrors : Mirrors marks (s.sessions key)) (hrel : ¬ Releases gw env rpc s key)
    (hbinds : Binds gw env rpc s key addr) :
    Mirrors (marks ++ trail key (effects (runRpc gw MemoryStore.apply env rpc s).trace))
      (some addr) ↔ ¬ Unreported gw env rpc s key := by
  obtain ⟨created, released, htrail, hcreated, hreleased⟩ :=
    trail_cases henabled key hstore env rpc s
  obtain rfl : released = [] := (hreleased.resolve_left fun h => hrel h.1).2
  rw [hbinds.2.2.1] at hmirrors
  rw [htrail, List.append_nil]
  -- A binding is reported if the session was resolved, and not if it came by the operation.
  cases hop : opOf rpc with
  | none =>
    obtain rfl : created = [.create] :=
      (hcreated.resolve_right fun h => h.1 ⟨hop, addr, hbinds⟩).2
    refine iff_of_true (hmirrors.snoc rfl (by simp)) ?_
    rintro ⟨hsome, -⟩
    rw [hop] at hsome
    cases hsome
  | some opId =>
    obtain rfl : created = [] := by
      refine (hcreated.resolve_left ?_).2
      rintro ⟨⟨hnone, -⟩, -⟩
      cases hop.symm.trans hnone
    rw [List.append_nil]
    refine iff_of_false (fun h => ?_) fun h => h ⟨by rw [hop]; rfl, addr, hbinds⟩
    cases hmirrors.isSome_eq h

/-- Any other RPC writes nothing about the session. -/
theorem trail_kept (hrel : ¬ Releases gw env rpc s key)
    (hnot : ∀ addr, ¬ Binds gw env rpc s key addr) :
    trail key (effects (runRpc gw MemoryStore.apply env rpc s).trace) = [] := by
  obtain ⟨created, released, htrail, hcreated, hreleased⟩ :=
    trail_cases henabled key hstore env rpc s
  rw [htrail, (hreleased.resolve_left fun h => hrel h.1).2, List.append_nil]
  refine (hcreated.resolve_left ?_).2
  rintro ⟨⟨-, addr, hbinds⟩, -⟩
  exact hnot addr hbinds

/-- **One RPC.** A log that mirrors the table before it does so after it, unless the RPC binds the
session without a report or releases a session without an id. -/
theorem mirrors_step {marks : List Mark} (hmirrors : Mirrors marks (s.sessions key))
    (hunbound : key.isZero = true → s.sessions key = none) :
    Mirrors (marks ++ trail key (effects (runRpc gw MemoryStore.apply env rpc s).trace))
        ((runRpc gw MemoryStore.apply env rpc s).state.sessions key) ↔
      ¬ Unreported gw env rpc s key ∧ ¬ EmptyRelease gw env rpc s key := by
  rw [(runRpc_transition env s hstore rpc).1]
  rcases transition_session_cases gw env rpc s key with
    ⟨hrel, hnext⟩ | ⟨hrel, ⟨addr, hbinds, hnext⟩ | ⟨hnot, hnext⟩⟩
  · rw [hnext, mirrors_released hstore henabled hmirrors hunbound hrel]
    refine (and_iff_right ?_).symm
    rintro ⟨hop, -⟩
    rw [hrel.bySession.2] at hop
    cases hop
  · rw [hnext, mirrors_bound hstore henabled hmirrors hrel hbinds]
    exact (and_iff_left fun h => hrel h.2).symm
  · rw [hnext, trail_kept hstore henabled hrel hnot, List.append_nil]
    refine iff_of_true hmirrors ⟨?_, fun h => hrel h.2⟩
    rintro ⟨-, addr, hbinds⟩
    exact hnot addr hbinds

omit hstore henabled in
/-- The trail of a history with one more RPC. -/
theorem trailAfter_snoc (steps : List (Env × Rpc)) : ∀ s : MemoryStore.State,
    trailAfter gw key (steps ++ [(env, rpc)]) s = trailAfter gw key steps s ++
      trail key (effects (runRpc gw MemoryStore.apply env rpc (tablesAfter gw steps s)).trace) := by
  induction steps with
  | nil => intro s; simp [trailAfter, tablesAfter, storeAfter]
  | cons step rest ih =>
    intro s
    obtain ⟨env', rpc'⟩ := step
    show _ ++ trailAfter gw key (rest ++ [(env, rpc)]) _ = _ ++ trailAfter gw key rest _ ++ _
    rw [ih, List.append_assoc]
    rfl

/-- **The audit trail mirrors the session table.** On an empty store and with the log enabled,
after every RPC of a history the events about a session alternate, starting with a
`session.create`, and the last one is a `session.create` exactly when the session is bound, if and
only if no RPC of the history binds the session by way of the fallback for an unknown operation,
and none is a `ReleaseSession` of it without a session id that is answered Ok. -/
theorem mirrors_iff (steps : List (Env × Rpc)) :
    (∀ pre post, steps = pre ++ post → Mirrors (trailAfter gw key pre MemoryStore.new)
      ((tablesAfter gw pre MemoryStore.new).sessions key)) ↔
    ∀ pre env rpc post, steps = pre ++ (env, rpc) :: post →
      ¬ Unreported gw env rpc (tablesAfter gw pre MemoryStore.new) key ∧
        ¬ EmptyRelease gw env rpc (tablesAfter gw pre MemoryStore.new) key := by
  -- A key without a session id is never bound.
  have hunbound : ∀ pre, key.isZero = true →
      (tablesAfter gw pre MemoryStore.new).sessions key = none :=
    fun pre hzero => session_zero hstore pre _ hzero rfl
  constructor
  · -- The trail mirrors the entry before the step and after it, so the step was reported.
    intro hall pre env rpc post hsteps
    have hafter := hall (pre ++ [(env, rpc)]) post (by rw [hsteps]; simp)
    rw [trailAfter_snoc, tablesAfter_snoc] at hafter
    exact (mirrors_step hstore henabled (hall pre _ hsteps) (hunbound pre)).mp hafter
  · intro hnone pre
    induction pre using List.reverseRecOn with
    | nil => exact fun _ _ => mirrors_nil
    | append_singleton pre step ih =>
      intro post hsteps
      obtain ⟨env, rpc⟩ := step
      rw [List.append_assoc] at hsteps
      have hbefore := ih _ hsteps
      rw [trailAfter_snoc, tablesAfter_snoc]
      exact (mirrors_step hstore henabled hbefore (hunbound pre)).mpr
        (hnone pre env rpc post hsteps)

end

/-! ### Where the log is wrong -/

namespace Trail

def key : SessionKey := ⟨"default", "alice", "sess-1"⟩

/-- Everyone works, and the pool offers one backend. -/
def healthy : Env := Env.healthy alice "be-a:15002"

def config : Rpc := .request (fun _ => none) (.config ⟨"sess-1", none, []⟩)

/-- A `ReleaseSession` of `sess-1`. -/
def release : Rpc := .request (fun _ => none) (.releaseSession ⟨"sess-1", none, []⟩)

/-- A `ReattachExecute` of an operation that the gateway does not know. -/
def reattach : Rpc := .request (fun _ => none) (.reattachExecute ⟨"sess-1", none, ⟨"op-1", []⟩⟩)

/-- A `ReleaseSession` without a session id. -/
def emptyRelease : Rpc := .request (fun _ => none) (.releaseSession ⟨"", none, []⟩)

end Trail

/-- A session that is bound by a `Config` call and then released. -/
theorem mirrors_configured_released :
    trailAfter onePool Trail.key [(Trail.healthy, Trail.config), (Trail.healthy, Trail.release)]
        MemoryStore.new = [.create, .release] ∧
      ∀ pre post, [(Trail.healthy, Trail.config), (Trail.healthy, Trail.release)] = pre ++ post →
        Mirrors (trailAfter onePool Trail.key pre MemoryStore.new)
          ((tablesAfter onePool pre MemoryStore.new).sessions Trail.key) := by
  refine ⟨by decide +kernel, (mirrors_iff rfl rfl _).mpr ?_⟩
  intro pre env rpc post hsteps
  have hmem : (env, rpc) ∈ [(Trail.healthy, Trail.config), (Trail.healthy, Trail.release)] := by
    rw [hsteps]
    simp
  -- The session has an id, and neither RPC names an operation.
  have hop : opOf rpc = none := by
    rcases List.mem_cons.mp hmem with heq | hmem
    · rw [(Prod.mk.inj heq).2]
      rfl
    · rw [(Prod.mk.inj (List.mem_singleton.mp hmem)).2]
      rfl
  refine ⟨?_, fun h => absurd h.1 (by decide)⟩
  rintro ⟨hsome, -⟩
  rw [hop] at hsome
  cases hsome

/-- A `ReattachExecute` of an unknown operation binds its session and writes nothing. A
`ReleaseSession` without a session id writes a `session.release` for a session that was never
bound. -/
theorem trail_differs_from_table :
    ((tablesAfter onePool [(Trail.healthy, Trail.reattach)] MemoryStore.new).sessions Trail.key
        = some "be-a:15002" ∧
      trailAfter onePool Trail.key [(Trail.healthy, Trail.reattach)] MemoryStore.new = []) ∧
    ((tablesAfter onePool [(Trail.healthy, Trail.emptyRelease)] MemoryStore.new).sessions
        ⟨"default", "alice", ""⟩ = none ∧
      trailAfter onePool ⟨"default", "alice", ""⟩ [(Trail.healthy, Trail.emptyRelease)]
        MemoryStore.new = [.release]) ∧
    ¬ Mirrors [] (some "be-a:15002") ∧ ¬ Mirrors [.release] none := by
  refine ⟨⟨by decide +kernel, by decide +kernel⟩, ⟨by decide +kernel, by decide +kernel⟩, ?_, ?_⟩
  · exact fun h => by cases h.last
  · exact fun h => h.starts rfl

end SparkGateway.Proofs.Handler

import SparkGateway.Lib.History
import SparkGateway.Lib.Schedule
import SparkGateway.Proofs.Handler.Commands
import SparkGateway.Proofs.Routing.RouterCommands
import SparkGateway.Proofs.Routing.SessionCreate

/-!
# `SparkGateway.Proofs.Handler.ReleaseRace`: which binding a release removes

`release_session` resolves its key, forwards, and forgets the key when the backend has answered
Ok. `forget_session` takes no address, so it removes whatever the key is bound to by then. A full
round trip lies between the two steps, and other handlers run in it.

The handlers here are whole RPCs of any kind, interleaved on one `MemoryStore`. On the paths of a
handler, `handle_obeys` says that it forgets a session only after it has resolved it. On the steps
of a run, the binding of a key goes through three phases after it was resolved to `a` (`Phase`):
it is still that binding, it is gone, or it was removed and bound again.

`releaseRemovesOwn_iff` puts the two together. A release removes nothing, or the very binding it
resolved, exactly when its key was not `Rebound` in between: removed by another release and then
bound again.
-/

set_option autoImplicit false

namespace SparkGateway.Proofs.Handler

open SparkGateway.Lib
open SparkGateway.Spec
open SparkGateway.Proofs.Routing

/-! ### Handlers and their steps -/

/-- The steps of handlers on a `MemoryStore`. -/
abbrev HandlerRecord (ι : Type) : Type := Record (GatewaySig MemorySig) MemoryStore.State ι

section
variable {ι : Type}

/-- The handlers of some RPCs at their start, on an empty `MemoryStore`. -/
def handlers (gw : ι → Gateway MemorySig) (rpc : ι → Rpc) :
    Config (GatewaySig MemorySig) MemoryStore.State ι (Except Status Response) :=
  ⟨MemoryStore.new, fun i => (gw i).handle (rpc i)⟩

/-- A command of the store, in a handler. -/
abbrev storeCmd (c : MemoryCmd) : (GatewaySig MemorySig).Cmd := .inl (.inr c)

/-- The event of a command of the store, in a handler. -/
abbrev storeEvent (c : MemoryCmd) (reply : MemoryCmd.Reply c) : Event (GatewaySig MemorySig) :=
  ⟨storeCmd c, reply⟩

/-- The event resolves the key to `a`: a lookup that found `a`, or a bind that returned it. -/
def ResolvedTo (key : SessionKey) (a : String) (e : Event (GatewaySig MemorySig)) : Prop :=
  e = ⟨storeCmd (.lookupSession key), some a⟩ ∨
    ∃ chosen, e = ⟨storeCmd (.bindSessionIfAbsent key chosen), a⟩

/-- The step is the handler's `forget_session` of the key. -/
def ForgetsAt (i : ι) (key : SessionKey) (rec : HandlerRecord ι) : Prop :=
  rec.actor = some (i, ⟨storeCmd (.forgetSession key), ()⟩)

/-- The step resolves the key to `a` for the handler `i`. -/
def ResolvesAt (i : ι) (key : SessionKey) (a : String) (rec : HandlerRecord ι) : Prop :=
  ∃ e, rec.actor = some (i, e) ∧ ResolvedTo key a e

/-- The step is a `forget_session` that removes the binding of the key. -/
def RemovesBinding (key : SessionKey) (rec : HandlerRecord ι) : Prop :=
  (∃ i, ForgetsAt i key rec) ∧ rec.pre.sessions key ≠ none

/-- The step is a bind that makes a new binding of the key. -/
def InsertsBinding (key : SessionKey) (rec : HandlerRecord ι) : Prop :=
  (∃ i chosen winner, rec.actor =
    some (i, ⟨storeCmd (.bindSessionIfAbsent key chosen), winner⟩)) ∧
    rec.pre.sessions key = none

/-- In these steps the binding of the key was removed, and then bound again for good. -/
def Rebound (key : SessionKey) (t : List (HandlerRecord ι)) : Prop :=
  ∃ t₁ removal t₂ insertion t₃, t = t₁ ++ removal :: (t₂ ++ insertion :: t₃) ∧
    RemovesBinding key removal ∧ InsertsBinding key insertion ∧
    ∀ rec ∈ t₃, ¬ RemovesBinding key rec

/-- A release that resolved its key to `a`, before the steps `t`, removes nothing, or the binding
of its key to `a`, which has been in place since. -/
def RemovesOwn (key : SessionKey) (a : String) (t : List (HandlerRecord ι))
    (release : HandlerRecord ι) : Prop :=
  release.pre.sessions key = none ∨
    release.pre.sessions key = some a ∧ ∀ rec ∈ t, rec.post.sessions key = some a

/-! ### One step -/

variable [DecidableEq ι]
  {c c' : Config (GatewaySig MemorySig) MemoryStore.State ι (Except Status Response)}
  {rec : HandlerRecord ι} {key : SessionKey}

/-- A step of a handler leaves the tables alone, or it accesses the store. -/
theorem handler_accesses (h : Step auditedSemantics c rec c') : Accesses storeEvent id rec := by
  cases h with
  | env henv => exact (henv.elim (fun h => h.elim id id) id).elim
  | @cmd i cmd k r s' hth hcmd =>
    rcases cmd with (pool | cmd) | cmd
    · obtain rfl : s' = c.shared := hcmd
      exact .inl rfl
    · exact .inr ⟨i, cmd, r, rfl, hcmd⟩
    · obtain rfl : s' = c.shared := hcmd
      exact .inl rfl

/-- What a step of a handler does to the binding of a key. -/
theorem handler_session_cases (h : Step auditedSemantics c rec c') (key : SessionKey) :
    rec.post.sessions key = rec.pre.sessions key ∨
    (InsertsBinding key rec ∧ rec.post.sessions key ≠ none) ∨
    (RemovesBinding key rec ∧ rec.post.sessions key = none) := by
  rcases (handler_accesses h).session_cases key with
    hsame | ⟨i, chosen, winner, hact, hold, hnew⟩ | ⟨i, hact, hold, hnone⟩
  · exact .inl hsame
  · exact .inr (.inl ⟨⟨⟨i, chosen, winner, hact⟩, hold⟩,
      fun hnone => Option.some_ne_none chosen (hnew.symm.trans hnone)⟩)
  · exact .inr (.inr ⟨⟨⟨i, hact⟩, hold⟩, hnone⟩)

/-- What an event that resolves a key says of the tables before and after it. -/
theorem ResolvedTo.bound {a : String} {e : Event (GatewaySig MemorySig)} (h : ResolvedTo key a e)
    {m m' : MemoryStore.State}
    (happly : ∀ cmd reply, e = storeEvent cmd reply → MemoryStore.apply cmd m = (reply, m')) :
    m'.sessions key = some a ∧ (m.sessions key = none ∨ m.sessions key = some a) := by
  obtain rfl | ⟨chosen, rfl⟩ := h
  · -- The lookup saw the binding, and changed nothing.
    obtain ⟨hfound, rfl⟩ := lookup_reply (happly _ _ rfl)
    exact ⟨hfound, .inr hfound⟩
  · obtain ⟨hpost, hold | ⟨hold, -⟩⟩ := bind_reply (happly _ _ rfl)
    · exact ⟨hpost, .inr hold⟩
    · exact ⟨hpost, .inl hold⟩

/-- A step that resolves the key leaves it bound to what was resolved. -/
theorem resolved_post (h : Step auditedSemantics c rec c') {i : ι} {a : String}
    (hres : ResolvesAt i key a rec) : rec.post.sessions key = some a := by
  obtain ⟨e, hact, hres⟩ := hres
  refine (hres.bound (m := rec.pre) ?_).1
  rintro cmd reply rfl
  exact h.cmd_of hact

/-! ### The binding after a resolve -/

/-- Where the binding of a key stands, some steps `t` after it was resolved to `a`. -/
inductive Phase (key : SessionKey) (a : String) (t : List (HandlerRecord ι))
    (s : MemoryStore.State) : Prop where
  /-- It has not changed. -/
  | kept (hbound : s.sessions key = some a) (hall : ∀ rec ∈ t, rec.post.sessions key = some a)
  /-- It is gone. -/
  | gone (hunbound : s.sessions key = none) (hremoved : ∃ rec ∈ t, RemovesBinding key rec)
  /-- It was removed and bound again. -/
  | rebound (hbound : s.sessions key ≠ none) (hrebound : Rebound key t)

/-- A removal leaves the key unbound. -/
theorem removed_post (h : Step auditedSemantics c rec c') (hrem : RemovesBinding key rec) :
    rec.post.sessions key = none := by
  obtain ⟨⟨i, hact⟩, -⟩ := hrem
  exact forget_reply (h.cmd_of hact)

/-- An insertion leaves it bound. -/
theorem inserted_post (h : Step auditedSemantics c rec c') (hins : InsertsBinding key rec) :
    rec.post.sessions key ≠ none := by
  obtain ⟨⟨i, chosen, winner, hact⟩, -⟩ := hins
  rw [(bind_reply (h.cmd_of hact)).1]
  exact Option.some_ne_none winner

variable {a : String} {t : List (HandlerRecord ι)}

/-- One step, from one phase to the next. -/
theorem Phase.step (h : Phase key a t c.shared) (hstep : Step auditedSemantics c rec c') :
    Phase key a (t ++ [rec]) c'.shared := by
  obtain ⟨hpre, hpost⟩ := hstep.shared
  rw [← hpre] at h
  rw [← hpost]
  rcases handler_session_cases hstep key with hsame | ⟨hins, hnew⟩ | ⟨hrem, hnone⟩
  · cases h with
    | kept hbound hall =>
      have hrec : rec.post.sessions key = some a := hsame.trans hbound
      refine .kept hrec fun rec' hrec' => ?_
      rcases List.mem_append.mp hrec' with hold | hlast
      · exact hall rec' hold
      · exact List.mem_singleton.mp hlast ▸ hrec
    | gone hunbound hremoved =>
      obtain ⟨removal, hmem, hrem⟩ := hremoved
      exact .gone (hsame.trans hunbound) ⟨removal, List.mem_append_left _ hmem, hrem⟩
    | rebound hbound hrebound =>
      -- A step that leaves the binding is no removal.
      have hkeeps : ¬ RemovesBinding key rec := fun hrem =>
        hbound (hsame.symm.trans (removed_post hstep hrem))
      obtain ⟨t₁, removal, t₂, insertion, t₃, rfl, hrem, hins, hafter⟩ := hrebound
      refine .rebound (hsame ▸ hbound) ⟨t₁, removal, t₂, insertion, t₃ ++ [rec], by simp, hrem,
        hins, fun rec' hrec' => ?_⟩
      rcases List.mem_append.mp hrec' with hold | hlast
      · exact hafter rec' hold
      · exact List.mem_singleton.mp hlast ▸ hkeeps
  · cases h with
    | kept hbound _ => exact absurd (hins.2.symm.trans hbound) (by simp)
    | gone _ hremoved =>
      obtain ⟨removal, hmem, hrem⟩ := hremoved
      obtain ⟨t₁, t₂, rfl⟩ := List.append_of_mem hmem
      exact .rebound hnew ⟨t₁, removal, t₂, rec, [], by simp, hrem, hins, by simp⟩
    | rebound hbound _ => exact absurd hins.2 hbound
  · exact .gone hnone ⟨rec, by simp, hrem⟩

/-- Every run after a resolve is in one of the phases. -/
theorem phase_run (h : Run auditedSemantics c t c') (hbound : c.shared.sessions key = some a) :
    Phase key a t c'.shared := by
  induction h with
  | nil => exact .kept hbound (by simp)
  | snoc _ hstep ih => exact ih.step hstep

/-- A binding that was made again is there at the end. -/
theorem bound_of_rebound (h : Run auditedSemantics c t c') (hrebound : Rebound key t) :
    c'.shared.sessions key ≠ none := by
  obtain ⟨t₁, removal, t₂, insertion, t₃, rfl, -, hins, hafter⟩ := hrebound
  obtain ⟨c₁, c₂, -, -, h₂⟩ := h.step_at
  obtain ⟨c₃, c₄, -, hstep, h₃⟩ := h₂.step_at
  have hnew : c₄.shared.sessions key ≠ none := hstep.shared.2 ▸ inserted_post hstep hins
  refine h₃.invariant (P := fun s => s.sessions key ≠ none) ?_ hnew
  intro rec hrec hpre
  obtain ⟨c₅, c₆, hstep⟩ := h₃.step_of_mem hrec
  rcases handler_session_cases hstep key with hsame | ⟨-, hnew⟩ | ⟨hrem, -⟩
  · exact hsame ▸ hpre
  · exact hnew
  · exact absurd hrem (hafter rec hrec)

/-- **One release.** Its key was resolved to `a` before the steps `t`, and it forgets the key
after them. -/
theorem removesOwn_iff_not_rebound (h : Run auditedSemantics c t c')
    (hbound : c.shared.sessions key = some a) (hrelease : rec.pre = c'.shared) :
    RemovesOwn key a t rec ↔ ¬ Rebound key t := by
  unfold RemovesOwn
  rw [hrelease]
  constructor
  · rintro (hnone | ⟨-, hall⟩) hrebound
    · exact bound_of_rebound h hrebound hnone
    · -- The removal contradicts that the binding was in place all the time.
      obtain ⟨t₁, removal, t₂, insertion, t₃, rfl, hrem, -, -⟩ := hrebound
      obtain ⟨c₁, c₂, -, hstep, -⟩ := h.step_at
      have hkept := hall removal (by simp)
      rw [removed_post hstep hrem] at hkept
      cases hkept
  · intro hrebound
    cases phase_run h hbound with
    | kept hbound hall => exact .inr ⟨hbound, hall⟩
    | gone hunbound _ => exact .inl hunbound
    | rebound _ hre => exact absurd hre hrebound

end

/-! ### The paths of a handler -/

/-- The RPC is a `ReleaseSession`. -/
def IsRelease : Rpc → Prop
  | .request _ (.releaseSession _) => True
  | _ => False

/-- A command that every handler may perform at any time. -/
def Quiet : (GatewaySig MemorySig).Cmd → Prop
  | .inl (.inr (.bindSessionIfAbsent key _)) => key.isZero = false
  | .inl (.inr (.forgetSession _)) => False
  | _ => True

/-- What a handler of `rpc` may do after the events `es`: it binds only keys with a session id,
and it forgets a key only in a `ReleaseSession` that has resolved it, unless it has no session
id, and that has forgotten nothing yet. -/
def Guard (rpc : Rpc) (es : List (Event (GatewaySig MemorySig))) :
    (GatewaySig MemorySig).Cmd → Prop
  | .inl (.inr (.bindSessionIfAbsent key _)) => key.isZero = false
  | .inl (.inr (.forgetSession key)) =>
      IsRelease rpc ∧ (key.isZero = true ∨ ∃ a, ∃ e ∈ es, ResolvedTo key a e) ∧
        ∀ e ∈ es, Quiet e.1
  | _ => True

/-- The quiet commands are always allowed. -/
theorem guard_of_quiet (rpc : Rpc) (es : List (Event (GatewaySig MemorySig)))
    {c : (GatewaySig MemorySig).Cmd} (hc : Quiet c) : Guard rpc es c := by
  rcases c with (pool | cmd) | cmd
  · trivial
  · cases cmd with
    | forgetSession key => exact hc.elim
    | bindSessionIfAbsent key b => exact hc
    | lookupSession key => trivial
    | lookupOp op => trivial
    | bindOp op b => trivial
    | forgetOp op => trivial
  · trivial

/-- The commands of the proxy are quiet. -/
theorem quiet_of_isRight {c : (GatewaySig MemorySig).Cmd} (hc : IsRight c) : Quiet c := by
  rcases c with c | c
  · exact hc.elim
  · trivial

/-- The store of a handler makes one access for each operation. -/
theorem memory_quiet : StoreUses MemoryStore.store fun c => Quiet (storeCmd c) where
  lookupSession _ := ⟨trivial, fun _ => trivial⟩
  bindSessionIfAbsent _ _ hkey := ⟨hkey, fun _ => trivial⟩
  lookupOp _ := ⟨trivial, fun _ => trivial⟩
  bindOp _ _ := ⟨trivial, fun _ => trivial⟩
  forgetOp _ := ⟨trivial, fun _ => trivial⟩

section
variable {gw : Gateway MemorySig} {rpc : Rpc}

/-- Only a `ReleaseSession` does more than quiet commands. -/
theorem quiet_allows (hstore : gw.router.store = MemoryStore.store) (hrpc : ¬ IsRelease rpc)
    (rid : String) (id : Identity) : Allows Quiet gw rpc rid id := by
  have hquiet : StoreUses gw.router.store fun c => Quiet (storeCmd c) := hstore ▸ memory_quiet
  exact {
    session := fun key =>
      (hquiet.resolveSessionDetailed (P := fun c => Quiet (.inl c)) (fun _ => trivial) key).inl
    op := fun opId key =>
      (hquiet.resolveOp (P := fun c => Quiet (.inl c)) (fun _ => trivial) opId key).inl
    rememberOp := fun opId addr => (hquiet.rememberOp (P := fun c => Quiet (.inl c)) opId addr).inl
    forgetOp := fun opId => (hquiet.routerForgetOp (P := fun c => Quiet (.inl c)) opId).inl
    forgetSession := fun md m heq => (hrpc (heq ▸ trivial)).elim
    channel := fun _ => trivial
    audit := fun _ _ => trivial
    call := fun _ _ _ _ => trivial
    upload := fun _ _ _ _ _ => trivial }

/-! ### The frame of a handler -/

variable {α β : Type} {A : Event (GatewaySig MemorySig) → Prop}
  {G : List (Event (GatewaySig MemorySig)) → (GatewaySig MemorySig).Cmd → Prop}

/-- A handler does what its body does, and commands of the proxy. There are only such commands
behind the body. -/
theorem handleRpc_obeys (hG : ∀ es c, G es (.inr c)) {name : String} {md : MetadataMap}
    {body : String → Identity → String → RpcM MemorySig Response}
    (hbody : ∀ rid id tenant es, (∀ e ∈ es, IsRight e.1) →
      (body rid id tenant).run.Obeys A G (fun _ _ => True) es) :
    (gw.handleRpc name md body).Obeys A G (fun _ _ => True) [] := by
  -- What comes after the body touches neither the store nor the pools.
  have hproxy : ∀ {p : Prog (GatewaySig MemorySig) Unit} {r : Except Status Response} {es},
      p.Uses IsRight → (p >>= fun _ => recordRpc name (resultLabel r) >>= fun _ => pure r).Obeys A G
        (fun _ _ => True) es := by
    intro p r es hp
    refine Prog.Obeys.mono (fun _ _ _ => trivial) (Prog.Uses.obeys (P := IsRight) ?_ ?_)
    · exact hp.bind fun _ => ⟨trivial, fun _ => trivial⟩
    · rintro es' (c | c) - hc
      · exact hc.elim
      · exact hG es' c
  unfold Gateway.handleRpc
  refine Prog.Obeys.bind (p := requestId) ⟨hG _ _, fun rid _ => ?_⟩
  -- Neither does the admission.
  have hadmission : (gw.authenticateAndResolve md rid name).run.Uses IsRight :=
    admission_uses (fun _ _ => trivial) md rid name
  have hrid : ∀ e ∈ [(⟨.inr .requestId, rid⟩ : Event (GatewaySig MemorySig))], IsRight e.1 := by
    intro e he
    rw [List.mem_singleton.mp he]
    trivial
  refine Prog.Obeys.bind (Prog.Obeys.mono (fun es result hes => ?_)
    (hadmission.collect (hadmission.obeys ?_) hrid))
  · rcases result with status | ⟨identity, tenant⟩
    · exact hproxy (finaliseRpc_uses (fun _ _ => trivial) _ _ _ _)
    · refine Prog.Obeys.bind ((hbody rid identity tenant es hes.1).mono fun es result _ => ?_)
      exact hproxy (finaliseRpc_uses (fun _ _ => trivial) _ _ _ _)
  · rintro es' (c | c) - hc
    · exact hc.elim
    · exact hG es' c

/-! ### The body of a release -/

/-- The events resolve the key, unless it has no session id. -/
def Resolved (key : SessionKey) (es : List (Event (GatewaySig MemorySig))) : Prop :=
  key.isZero = true ∨ ∃ a, ∃ e ∈ es, ResolvedTo key a e

/-- A session that was resolved stays resolved. -/
theorem Resolved.extend {key : SessionKey} {es es' : List (Event (GatewaySig MemorySig))}
    (h : Resolved key es) (hes : es <+: es') : Resolved key es' := by
  obtain hzero | ⟨a, e, he, hres⟩ := h
  · exact .inl hzero
  · exact .inr ⟨a, e, hes.subset he, hres⟩

/-- A sequence keeps a discipline if its first part does and, after each Ok result, the second. -/
theorem obeys_rpc_bind {p : RpcM MemorySig α} {f : α → RpcM MemorySig β}
    {es : List (Event (GatewaySig MemorySig))}
    (hp : p.run.Obeys A G
      (fun es r => ∀ a, r = .ok a → (f a).run.Obeys A G (fun _ _ => True) es) es) :
    (p >>= f).run.Obeys A G (fun _ _ => True) es := by
  rw [ExceptT.run_bind]
  refine Prog.Obeys.bind (hp.mono fun es r hr => ?_)
  cases r with
  | error status => trivial
  | ok a => exact hr a rfl

/-- Resolving a session: the address comes from the store, unless there is no session id. -/
theorem route_resolves (hstore : gw.router.store = MemoryStore.store) (key : SessionKey)
    (es : List (Event (GatewaySig MemorySig))) :
    (route (gw.router.resolveSessionDetailed key)).Obeys A (Guard rpc)
      (fun es out => ∀ o, out = .ok (some o) → Resolved key es) es := by
  obtain ⟨⟨tenants, store⟩, resolver, limited, audit⟩ := gw
  obtain rfl : store = MemoryStore.store := hstore
  unfold Router.resolveSessionDetailed
  dsimp only
  rcases tenants.poolFor key.tenant with status | _ | pool
  · exact fun o ho => nomatch ho
  · exact fun o ho => nomatch ho
  · cases hzero : key.isZero with
    | true =>
      simp only [if_true]
      -- Such a key is not bound, and needs no event.
      exact ⟨trivial, fun picked _ o ho => .inl hzero⟩
    | false =>
      simp only [Bool.false_eq_true, if_false]
      -- The session was looked up, or it is bound to the winner.
      refine ⟨trivial, fun found _ => ?_⟩
      cases found with
      | some existing => exact fun o ho => .inr ⟨existing, _, by simp, .inl rfl⟩
      | none =>
        refine ⟨trivial, fun picked _ => ?_⟩
        cases picked with
        | none => exact fun o ho => nomatch ho
        | some chosen =>
          exact ⟨hzero, fun winner _ o ho => .inr ⟨winner, _, by simp, .inr ⟨chosen, rfl⟩⟩⟩

/-- A handler goes on from `require_addr` only with a resolved key. -/
theorem sessionAddr_resolves (hstore : gw.router.store = MemoryStore.store) (key : SessionKey)
    (rid : String) (id : Identity) (es : List (Event (GatewaySig MemorySig))) :
    (gw.sessionAddr key rid id).run.Obeys A (Guard rpc)
      (fun es r => ∀ addr, r = .ok addr → Resolved key es) es := by
  refine Prog.Obeys.bind (p := gw.resolveSessionAudited key rid id) (Prog.Obeys.bind
    ((route_resolves hstore key es).mono fun es out hout => ?_))
  rcases out with status | _ | o
  · exact fun addr haddr => nomatch haddr
  · exact fun addr haddr => nomatch haddr
  · have hres := hout o rfl
    dsimp only
    split
    · -- `session.create` comes after the events that resolved the key.
      have huses : (gw.emit (.sessionCreate rid key.tenant id.userId (",".intercalate id.groups)
          key.sessionId o.addr)).Uses Quiet := uses_emit gw trivial
      refine Prog.Obeys.bind (Prog.Obeys.mono (fun es' _ hes => ?_)
        (huses.obeys fun es' c _ hc => guard_of_quiet rpc es' hc))
      exact fun addr _ => hres.extend hes
    · exact fun addr _ => hres

/-- `ReleaseSession` forgets one key, and only after it has resolved it. -/
theorem releaseSessionBody_obeys (hstore : gw.router.store = MemoryStore.store)
    (md : MetadataMap) (m : Message Payload) (rid : String) (id : Identity) (tenant : String)
    {es : List (Event (GatewaySig MemorySig))} (hes : ∀ e ∈ es, Quiet e.1) :
    (gw.releaseSessionBody m rid id tenant).run.Obeys A
      (Guard (.request md (.releaseSession m))) (fun _ _ => True) es := by
  -- Up to the answer of the backend it does what any handler of a session does.
  have hconfig : ¬ IsRelease (.request md (.config m)) := fun h => h
  have hquiet : Allows Quiet gw (.request md (.config m)) rid id :=
    quiet_allows hstore hconfig rid id
  refine obeys_rpc_bind (Prog.Obeys.mono (fun es₁ r hr addr haddr => ?_)
    ((hquiet.sessionAddr _ rid id).collect (sessionAddr_resolves hstore _ rid id es) hes))
  have hresolved := hr.2 addr haddr
  have hforward : (Gateway.forward (S := MemorySig) addr rid
      (.releaseSession (m.stamp id))).run.Uses Quiet :=
    uses_rpc_bind (uses_client trivial) fun _ => ⟨trivial, fun _ => trivial⟩
  refine obeys_rpc_bind (Prog.Obeys.mono (fun es₂ r hes₂ resp _ => ?_)
    (hforward.collect (hforward.obeys fun es' c _ hc => guard_of_quiet _ es' hc) hr.1))
  -- The round trip is over, and the events that resolved the key are still behind it.
  obtain ⟨⟨tenants, store⟩, resolver, limited, audit⟩ := gw
  obtain rfl : store = MemoryStore.store := hstore
  refine obeys_rpc_bind ⟨⟨trivial, hresolved.extend hes₂.2, hes₂.1⟩, fun _ _ _ _ => ?_⟩
  refine Prog.Obeys.mono (fun _ _ _ => trivial) (Prog.Uses.obeys (P := Quiet) ?_
    fun es' c _ hc => guard_of_quiet _ es' hc)
  exact uses_rpc_bind (uses_rpc_lift (uses_emit _ trivial)) fun _ => trivial

/-- **The paths of a handler.** On every path a handler binds only keys with a session id, and
forgets a key only in a `ReleaseSession` that has resolved it. -/
theorem handle_obeys (hstore : gw.router.store = MemoryStore.store) (rpc : Rpc) :
    (gw.handle rpc).Obeys A (Guard rpc) (fun _ _ => True) [] := by
  rw [handle_eq]
  refine handleRpc_obeys (fun _ _ => trivial) fun rid id tenant es hes => ?_
  by_cases hrelease : IsRelease rpc
  · rcases rpc with ⟨md, req⟩ | ⟨md, inbound⟩
    · cases req with
      | releaseSession m =>
        refine releaseSessionBody_obeys hstore md m rid id tenant fun e he => ?_
        exact quiet_of_isRight (hes e he)
      | _ => exact hrelease.elim
    · exact hrelease.elim
  · have huses : (bodyOf gw rpc rid id tenant).run.Uses Quiet :=
      (quiet_allows hstore hrelease rid id).body_uses
    exact Prog.Obeys.mono (fun _ _ _ => trivial)
      (huses.obeys fun es' c _ hc => guard_of_quiet rpc es' hc)

end

/-! ### Whole runs -/

section
variable {ι : Type} [DecidableEq ι] {gw : ι → Gateway MemorySig} {rpc : ι → Rpc}
  {t : List (HandlerRecord ι)}
  {c : Config (GatewaySig MemorySig) MemoryStore.State ι (Except Status Response)}

/-- Every command of a run is one that its handler may perform. -/
theorem guard_of_run (hstore : ∀ i, (gw i).router.store = MemoryStore.store)
    {t₁ t₂ : List (HandlerRecord ι)} {rec : HandlerRecord ι}
    (hrun : Run auditedSemantics (handlers gw rpc) (t₁ ++ rec :: t₂) c) {i : ι}
    {e : Event (GatewaySig MemorySig)} (hact : rec.actor = some (i, e)) :
    Guard (rpc i) (eventsOf i t₁) e.1 :=
  hrun.issued (A := fun _ => True) hact (handle_obeys (hstore i) (rpc i)) fun _ _ => trivial

/-- A key without a session id is never bound. -/
theorem zero_unbound (hstore : ∀ i, (gw i).router.store = MemoryStore.store)
    (hrun : Run auditedSemantics (handlers gw rpc) t c) {key : SessionKey}
    (hkey : key.isZero = true) : c.shared.sessions key = none := by
  refine hrun.invariant (P := fun s => s.sessions key = none) ?_ rfl
  intro rec hrec hpre
  obtain ⟨t₁, t₂, rfl⟩ := List.append_of_mem hrec
  obtain ⟨c₁, c₂, -, hstep, -⟩ := hrun.step_at
  rcases handler_session_cases hstep key with
    hsame | ⟨⟨⟨i, chosen, winner, hact⟩, -⟩, -⟩ | ⟨-, hnone⟩
  · exact hsame.trans hpre
  · -- The handlers bind no such key.
    have hguard : key.isZero = false := guard_of_run hstore hrun hact
    rw [hkey] at hguard
    cases hguard
  · exact hnone

/-- **A release removes only the binding it released**, in every interleaving of any handlers.
Only `ReleaseSession` handlers forget a session, and each of them has resolved it before, or
there is nothing to remove. What a handler removes is the binding that it resolved, in place
without interruption, if and only if the key was not bound again after another release in
between. -/
theorem releaseRemovesOwn_iff (hstore : ∀ i, (gw i).router.store = MemoryStore.store)
    (hrun : Run auditedSemantics (handlers gw rpc) t c) :
    (∀ before release after i key, t = before ++ release :: after → ForgetsAt i key release →
      IsRelease (rpc i) ∧ (release.pre.sessions key = none ∨
        ∃ a, ∃ resolve ∈ before, ResolvesAt i key a resolve)) ∧
    (∀ before resolve between release after i key a,
      t = before ++ resolve :: (between ++ release :: after) →
      ResolvesAt i key a resolve → ForgetsAt i key release →
      (RemovesOwn key a between release ↔ ¬ Rebound key between)) := by
  constructor
  · rintro before release after i key rfl hforget
    -- The guard of the release says what came before it in the same handler.
    obtain ⟨hrelease, hresolved, -⟩ := guard_of_run hstore hrun hforget
    refine ⟨hrelease, ?_⟩
    obtain hzero | ⟨a, e, he, hres⟩ := hresolved
    · obtain ⟨c₁, c₂, hbefore, hstep, -⟩ := hrun.step_at
      rw [hstep.shared.1]
      exact .inl (zero_unbound hstore hbefore hzero)
    · obtain ⟨resolve, hmem, hact⟩ := mem_eventsOf.mp he
      exact .inr ⟨a, resolve, hmem, e, hact, hres⟩
  · rintro before resolve between release after i key a rfl hres -
    -- Between the resolution and the release, the binding can only go by another release.
    obtain ⟨c₁, c₂, -, hresolve, hrest⟩ := hrun.step_at
    obtain ⟨c₃, c₄, hbetween, hstep, -⟩ := hrest.step_at
    have hbound : c₂.shared.sessions key = some a :=
      hresolve.shared.2 ▸ resolved_post hresolve hres
    exact removesOwn_iff_not_rebound hbetween hbound hstep.shared.1

end

/-! ### Two runs -/

/-- The answers of any world are among those of the interleaving. -/
theorem gatewayHandler_audited (env : Env) (cmd : (GatewaySig MemorySig).Cmd)
    (s : MemoryStore.State) :
    auditedSemantics.cmd cmd s (gatewayHandler env MemoryStore.apply cmd s).1
      (gatewayHandler env MemoryStore.apply cmd s).2 := by
  rcases cmd with (⟨pool⟩ | cmd) | cmd
  · rfl
  · rfl
  · cases cmd <;> rfl

namespace Race

/-- Alice's session. -/
def key : SessionKey := ⟨"default", "alice", "sess-1"⟩

/-- The message of the session `sess-1`. -/
def message : Message Payload := ⟨"sess-1", none, []⟩

/-- Two releases of the session and a call of it, all by alice. -/
def rpc : Fin 3 → Rpc
  | 2 => .request (fun _ => none) (.config message)
  | _ => .request (fun _ => none) (.releaseSession message)

/-- The pool has moved on when the call picks. -/
def env : Fin 3 → Env
  | 2 => .healthy (.user "alice") "be-c:15002"
  | _ => .healthy (.user "alice") "be-a:15002"

/-- One pool for every tenant. -/
def gateway : Gateway MemorySig := .inProcess (.single 0)

/-- The records of a schedule of the three handlers. -/
def trace (turns : List (Fin 3)) : List (HandlerRecord (Fin 3)) :=
  (schedule (fun i => gatewayHandler (env i) MemoryStore.apply) turns
    (handlers (fun _ => gateway) rpc)).1

/-- Every schedule of the three handlers is a run. -/
theorem run (turns : List (Fin 3)) :
    ∃ c, Run auditedSemantics (handlers (fun _ => gateway) rpc) (trace turns) c :=
  ⟨_, schedule_run (fun i => gatewayHandler_audited (env i)) turns _⟩

/-- The first release binds the session and waits for its answer; the second one resolves,
releases and forgets; the call binds the session again; the first release forgets it. -/
def turns : List (Fin 3) := List.replicate 8 0 ++ List.replicate 6 1 ++ List.replicate 5 2 ++ [0]

end Race

/-- The first release has resolved the session to `be-a`, and removes its binding to `be-c`. -/
theorem release_removes_other_binding :
    ∃ c before resolve between release,
      Run auditedSemantics (handlers (fun _ => Race.gateway) Race.rpc)
        (before ++ resolve :: (between ++ [release])) c ∧
      ResolvesAt 0 Race.key "be-a:15002" resolve ∧ ForgetsAt 0 Race.key release ∧
      release.pre.sessions Race.key = some "be-c:15002" ∧
      release.post.sessions Race.key = none := by
  obtain ⟨c, hrun⟩ := Race.run Race.turns
  have hresolve : 4 < (Race.trace Race.turns).length := by decide +kernel
  have hrelease : 19 < (Race.trace Race.turns).length := by decide +kernel
  have hsplit : Race.trace Race.turns = (Race.trace Race.turns).take 4 ++
      (Race.trace Race.turns).get ⟨4, hresolve⟩ :: (((Race.trace Race.turns).drop 5).take 14 ++
        [(Race.trace Race.turns).get ⟨19, hrelease⟩]) := rfl
  rw [hsplit] at hrun
  exact ⟨c, _, _, _, _, hrun, ⟨_, rfl, .inr ⟨"be-a:15002", rfl⟩⟩, rfl, rfl, rfl⟩

/-- The first release alone: nothing but its own round trip lies between its two steps, and it
removes the binding that it made. -/
theorem releaseRemovesOwn_alone :
    ∃ c before resolve between release,
      Run auditedSemantics (handlers (fun _ => Race.gateway) Race.rpc)
        (before ++ resolve :: (between ++ [release])) c ∧
      ForgetsAt 0 Race.key release ∧ RemovesOwn Race.key "be-a:15002" between release := by
  obtain ⟨c, hrun⟩ := Race.run (List.replicate 9 0)
  have hresolve : 4 < (Race.trace (List.replicate 9 0)).length := by decide +kernel
  have hrelease : 8 < (Race.trace (List.replicate 9 0)).length := by decide +kernel
  have hsplit : Race.trace (List.replicate 9 0) = (Race.trace (List.replicate 9 0)).take 4 ++
      (Race.trace (List.replicate 9 0)).get ⟨4, hresolve⟩ ::
        (((Race.trace (List.replicate 9 0)).drop 5).take 3 ++
          [(Race.trace (List.replicate 9 0)).get ⟨8, hrelease⟩]) := rfl
  rw [hsplit] at hrun
  refine ⟨c, _, _, _, _, hrun, rfl, ?_⟩
  refine ((releaseRemovesOwn_iff (fun _ => rfl) hrun).2 _ _ _ _ [] 0 Race.key "be-a:15002" rfl
    ⟨_, rfl, .inr ⟨"be-a:15002", rfl⟩⟩ rfl).mpr ?_
  -- The three steps in between are `session.create`, the dial and the call.
  rintro ⟨t₁, removal, t₂, insertion, t₃, heq, ⟨⟨i, hforget⟩, -⟩, -, -⟩
  have hmem : removal ∈ ((Race.trace (List.replicate 9 0)).drop 5).take 3 := by
    rw [heq]
    simp
  rcases hmem with _ | ⟨_, _ | ⟨_, _ | ⟨_, hnil⟩⟩⟩
  · cases hforget
  · cases hforget
  · cases hforget
  · cases hnil

end SparkGateway.Proofs.Handler

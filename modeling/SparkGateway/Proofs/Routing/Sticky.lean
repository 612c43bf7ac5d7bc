import SparkGateway.Lib.Schedule
import SparkGateway.Spec.Routing

/-!
# `SparkGateway.Proofs.Routing.Sticky`: all replicas agree on a session's backend

Any number of gateway replicas share one affinity store. Each has its own `TenantRouter` and
its own pools, and any number of calls run at the same time. `Agreement B` says that in every
interleaving of the calls' atomic steps, the calls that resolve one session key by the
session path return one address, and that from the first such return on the store holds it.
No call forgets a session, no key expires and no command fails.

The rely condition is `Extends`: a binding, once there, stays. Each operation of a store gets
one rely/guarantee lemma (`StickyStore`), by the atomic steps it makes. A lookup that hits
returns a binding. A bind ends with a binding that it returns: the `SET NX` that succeeds
made it, and after one that is refused the key is bound, so the `GET` that follows finds a
value. `resolveSessionDetailed_safe` and its relatives then need only these lemmas, so they
hold for both stores.

A `resolve_op` that finds its operation returns the operation's backend, whatever the
session's. `SessionRouted` leaves these calls out by the reply to their operation lookup.
-/

set_option autoImplicit false

namespace SparkGateway.Proofs.Routing

open SparkGateway.Lib
open SparkGateway.Spec

/-- A store with its backing: what the atomic commands do to the shared state, which session
bindings a state holds, and which events are lookups that found an operation. -/
structure Backing (S : Sig) (σ : Type) where
  store : AffinityStore S
  apply : Handler S σ
  binding : σ → SessionKey → Option String
  OpHit : String → Event S → Prop

/-- One `MemoryStore` in one process. -/
def memoryBacking : Backing MemorySig MemoryStore.State where
  store := MemoryStore.store
  apply := MemoryStore.apply
  binding s := s.sessions
  OpHit opId e := ∃ b : String, e = ⟨.lookupOp opId, some b⟩

/-- One Redis database, used by the `RedisStore`s of all replicas. -/
def redisBacking (cfg : RedisStoreConfig) : Backing RedisSig RedisStore.Db where
  store := RedisStore.store cfg
  apply := RedisStore.apply
  binding db key := db (RedisStore.sessionKey cfg key)
  OpHit opId e := ∃ b : String, e = ⟨.get (RedisStore.opKey cfg opId), .ok (some b)⟩

section
variable {S : Sig} {σ : Type}

/-- The steps of calls that share the backing: a pick can answer anything, a store command
does what the backing says, and nothing else happens. -/
def Backing.semantics (B : Backing S σ) : Semantics (RouterSig S) σ :=
  (Semantics.arbitrary PoolSig σ).sum (Semantics.ofHandler B.apply fun _ _ => False)

/-- The call resolves `key`, and by the session path: it is a `resolve_session`, or a
`resolve_op` none of whose events is a lookup that found the operation. -/
def SessionRouted (B : Backing S σ) (key : SessionKey) (es : List (Event (RouterSig S))) :
    RouterCall → Prop
  | .resolveSession k => k = key
  | .resolveSessionDetailed k => k = key
  | .resolveOp opId k => k = key ∧ ∀ e, B.OpHit opId e → Event.inr e ∉ es
  | _ => False

/-- The program has returned `Ok(Some(addr))`. -/
def ReturnsAddr (p : Prog (RouterSig S) CallResult) (addr : String) : Prop :=
  ∃ r, p = .ret r ∧ r.okAddr = some addr

/-- Agreement of sticky routing: in every interleaving of any calls but `forget_session`, of
any replicas, all calls that resolve a key by the session path return the same address, and
once one of them has returned, the store's binding for the key is that address. -/
def Agreement (B : Backing S σ) : Prop :=
  ∀ (ι : Type) [DecidableEq ι] (replica : ι → TenantRouter) (call : ι → RouterCall) (s₀ : σ)
    (t : List (Record (RouterSig S) σ ι)) (c : Config (RouterSig S) σ ι CallResult),
    (∀ i key, call i ≠ .forgetSession key) →
    Run B.semantics ⟨s₀, fun i => (call i).prog ⟨replica i, B.store⟩⟩ t c →
    ∀ key : SessionKey, key.sessionId ≠ "" →
      (∀ i a, SessionRouted B key (eventsOf i t) (call i) → ReturnsAddr (c.thread i) a →
        B.binding c.shared key = some a) ∧
      (∀ i j a b, SessionRouted B key (eventsOf i t) (call i) → ReturnsAddr (c.thread i) a →
        SessionRouted B key (eventsOf j t) (call j) → ReturnsAddr (c.thread j) b → a = b)

/-! ### The rely condition and the store's obligations -/

/-- Bindings stay as they are. -/
def Extends (B : Backing S σ) (s s' : σ) : Prop :=
  ∀ key a, B.binding s key = some a → B.binding s' key = some a

/-- Bindings stay where nothing changes. -/
theorem extends_refl (B : Backing S σ) (s : σ) : Extends B s s := fun _ _ h => h

/-- Two steps that keep the bindings keep them together. -/
theorem extends_trans (B : Backing S σ) (s s' s'' : σ) (h : Extends B s s')
    (h' : Extends B s' s'') : Extends B s s'' := fun key a hb => h' key a (h key a hb)

/-- The commands of the backing alone. -/
def Backing.own (B : Backing S σ) : Semantics S σ := Semantics.ofHandler B.apply fun _ _ => False

/-- What a store's operations must do for its bindings to be sticky. -/
structure StickyStore (B : Backing S σ) : Prop where
  lookupSession : ∀ key es s, Safe B.own (Extends B)
    (fun _ r s => ∀ a, r = some a → B.binding s key = some a) (B.store.lookupSession key) es s
  bindSessionIfAbsent : ∀ key b es s, Safe B.own (Extends B)
    (fun _ r s => B.binding s key = some r) (B.store.bindSessionIfAbsent key b) es s
  lookupOp : ∀ op es s, Safe B.own (Extends B)
    (fun es r _ => ∀ a, r = some a → ∃ e ∈ es, B.OpHit op e) (B.store.lookupOp op) es s
  bindOp : ∀ op b es s, Safe B.own (Extends B) (fun _ _ _ => True) (B.store.bindOp op b) es s
  forgetOp : ∀ op es s, Safe B.own (Extends B) (fun _ _ _ => True) (B.store.forgetOp op) es s

/-! ### The router -/

namespace StickyStore

variable {B : Backing S σ} {α : Type}

/-- A store program inside a router program. -/
theorem safe_inr {Q : List (Event S) → α → σ → Prop}
    {Q' : List (Event (RouterSig S)) → α → σ → Prop} {p : Prog S α}
    {es : List (Event (RouterSig S))} {s : σ} (hp : Safe B.own (Extends B) Q p [] s)
    (hQ : ∀ es' a s, Q es' a s → Q' (es ++ es'.map Event.inr) a s) :
    Safe B.semantics (Extends B) Q' p.inr es s := by
  have hlift := Safe.inr (N := Semantics.arbitrary PoolSig σ) (Q := Q') es (hp.mono hQ)
  rwa [List.map_nil, List.append_nil] at hlift

/-- A store program and what follows it: its own obligation, then the continuation from
every value it can return. -/
theorem safe_inr_bind {Q : List (Event S) → α → σ → Prop} {β : Type}
    {Q' : List (Event (RouterSig S)) → β → σ → Prop} {p : Prog S α}
    {f : α → Prog (RouterSig S) β} {es : List (Event (RouterSig S))} {s : σ}
    (hp : Safe B.own (Extends B) Q p [] s)
    (hf : ∀ es' a s, Q es' a s →
      Safe B.semantics (Extends B) Q' (f a) (es ++ es'.map Event.inr) s) :
    Safe B.semantics (Extends B) Q' (p.inr >>= f) es s :=
  Safe.bind (extends_refl B) (safe_inr hp hf)

/-- A pick changes nothing. -/
theorem safe_pick_bind {β : Type} {Q' : List (Event (RouterSig S)) → β → σ → Prop}
    {pool : PoolId} {f : Option String → Prog (RouterSig S) β}
    {es : List (Event (RouterSig S))} {s : σ}
    (hf : ∀ es' a s, Safe B.semantics (Extends B) Q' (f a) es' s) :
    Safe B.semantics (Extends B) Q' (Router.pick pool >>= f) es s := by
  refine Safe.bind (extends_refl B) ?_
  intro s' _ r s'' hcmd
  obtain rfl : s'' = s' := hcmd
  exact ⟨extends_refl B s'', fun s''' _ => hf _ _ s'''⟩

/-- A returned value is safe if its postcondition is stable. -/
theorem safe_ret {β : Type} {Q : List (Event (RouterSig S)) → β → σ → Prop} {b : β}
    {es : List (Event (RouterSig S))} {s : σ} (h : ∀ s', Extends B s s' → Q es b s') :
    Safe B.semantics (Extends B) Q (pure b) es s := h

/-- `resolve_session_detailed` returns the binding of its key. A key without a session id is
never bound, and the call then only picks. -/
theorem resolveSessionDetailed_safe (hB : StickyStore B) (r : TenantRouter) (key : SessionKey)
    (es : List (Event (RouterSig S))) (s : σ) :
    Safe B.semantics (Extends B)
      (fun _ out s => key.sessionId ≠ "" → ∀ o, out = .ok (some o) → B.binding s key = some o.addr)
      ((⟨r, B.store⟩ : Router S).resolveSessionDetailed key) es s := by
  unfold Router.resolveSessionDetailed
  cases r.poolFor key.tenant with
  | error status =>
    refine safe_ret fun s' _ _ o ho => ?_
    cases ho
  | ok pool? =>
    cases pool? with
    | none =>
      refine safe_ret fun s' _ _ o ho => ?_
      cases ho
    | some pool =>
      show Safe _ _ _ (if key.isZero = true then _ else _) es s
      split
      · -- Nothing is promised for a key without a session id.
        rename_i hzero
        refine safe_pick_bind fun es' picked s => safe_ret fun s' _ hkey => ?_
        exact absurd (beq_iff_eq.mp hzero) hkey
      · refine Safe.bind (extends_refl B) ?_
        unfold Router.resolveIn
        refine safe_inr_bind (hB.lookupSession key [] s) fun es' found s hfound => ?_
        cases found with
        | some existing =>
          refine safe_ret fun s' hs' => safe_ret fun s'' hs'' _ o ho => ?_
          cases ho
          exact hs'' key existing (hs' key existing (hfound existing rfl))
        | none =>
          -- A miss says nothing: the key may be bound before the bind below.
          refine safe_pick_bind fun es'' picked s => ?_
          cases picked with
          | none =>
            refine safe_ret fun s' _ => safe_ret fun s'' _ _ o ho => ?_
            cases ho
          | some chosen =>
            refine safe_inr_bind (hB.bindSessionIfAbsent key chosen [] s)
              fun es₃ winner s hw => ?_
            refine safe_ret fun s' hs' => safe_ret fun s'' hs'' _ o ho => ?_
            cases ho
            exact hs'' key winner (hs' key winner hw)

/-- `resolve_session` returns the binding of its key. -/
theorem resolveSession_safe (hB : StickyStore B) (r : TenantRouter) (key : SessionKey)
    (es : List (Event (RouterSig S))) (s : σ) :
    Safe B.semantics (Extends B)
      (fun _ out s => key.sessionId ≠ "" → ∀ a, out = .ok (some a) → B.binding s key = some a)
      ((⟨r, B.store⟩ : Router S).resolveSession key) es s := by
  unfold Router.resolveSession
  refine Safe.bind (extends_refl B) ((hB.resolveSessionDetailed_safe r key es s).mono ?_)
  intro es' out s hout
  refine safe_ret fun s' hs' hkey a ha => ?_
  cases out with
  | error status => cases ha
  | ok o? =>
    cases o? with
    | none => cases ha
    | some o =>
      cases ha
      exact hs' key o.addr (hout hkey o rfl)

/-- `resolve_op` returns the binding of its key, or it found the operation. -/
theorem resolveOp_safe (hB : StickyStore B) (r : TenantRouter) (op : String)
    (key : SessionKey) (es : List (Event (RouterSig S))) (s : σ) :
    Safe B.semantics (Extends B)
      (fun es out s => key.sessionId ≠ "" → (∀ e, B.OpHit op e → Event.inr e ∉ es) →
        ∀ a, out = .ok (some a) → B.binding s key = some a)
      ((⟨r, B.store⟩ : Router S).resolveOp op key) es s := by
  unfold Router.resolveOp
  split
  · exact (hB.resolveSession_safe r key es s).mono fun _ _ _ h hkey _ => h hkey
  · refine safe_inr_bind (hB.lookupOp op [] s) fun es' found s hfound => ?_
    cases found with
    | none => exact (hB.resolveSession_safe r key _ s).mono fun _ _ _ h hkey _ => h hkey
    | some b =>
      -- The lookup found the operation, so its event is among the call's events.
      refine safe_ret fun s' _ _ hmiss => ?_
      obtain ⟨e, he, hhit⟩ := hfound b rfl
      exact absurd (List.mem_append_right es (List.mem_map_of_mem he)) (hmiss e hhit)

/-- `remember_op` touches no binding of a session. -/
theorem rememberOp_safe (hB : StickyStore B) (r : TenantRouter) (op b : String)
    (es : List (Event (RouterSig S))) (s : σ) :
    Safe B.semantics (Extends B) (fun _ _ _ => True)
      ((⟨r, B.store⟩ : Router S).rememberOp op b) es s := by
  unfold Router.rememberOp
  split
  · exact safe_ret fun _ _ => trivial
  · exact safe_inr (hB.bindOp op b [] s) fun _ _ _ _ => trivial

/-- `forget_op` touches no binding of a session. -/
theorem forgetOp_safe (hB : StickyStore B) (r : TenantRouter) (op : String)
    (es : List (Event (RouterSig S))) (s : σ) :
    Safe B.semantics (Extends B) (fun _ _ _ => True)
      ((⟨r, B.store⟩ : Router S).forgetOp op) es s := by
  unfold Router.forgetOp
  split
  · exact safe_ret fun _ _ => trivial
  · exact safe_inr (hB.forgetOp op [] s) fun _ _ _ _ => trivial

/-- What a call other than `forget_session` guarantees when it returns. -/
def Guarantee (B : Backing S σ) (call : RouterCall) (es : List (Event (RouterSig S)))
    (r : CallResult) (s : σ) : Prop :=
  ∀ key : SessionKey, key.sessionId ≠ "" → SessionRouted B key es call →
    ∀ a, r.okAddr = some a → B.binding s key = some a

/-- Every call but `forget_session` keeps the bindings, and gives its guarantee. -/
theorem call_safe (hB : StickyStore B) (r : TenantRouter) (call : RouterCall)
    (hcall : ∀ key, call ≠ .forgetSession key) (es : List (Event (RouterSig S))) (s : σ) :
    Safe B.semantics (Extends B) (Guarantee B call) (call.prog ⟨r, B.store⟩) es s := by
  cases call with
  | resolveSession k =>
    refine Safe.bind (extends_refl B) ((hB.resolveSession_safe r k es s).mono ?_)
    intro es' out s hout
    refine safe_ret fun s' hs' key hkey hrouted a ha => ?_
    obtain rfl : k = key := hrouted
    rcases out with status | _ | b <;> cases ha
    exact hs' k a (hout hkey a rfl)
  | resolveSessionDetailed k =>
    refine Safe.bind (extends_refl B) ((hB.resolveSessionDetailed_safe r k es s).mono ?_)
    intro es' out s hout
    refine safe_ret fun s' hs' key hkey hrouted a ha => ?_
    obtain rfl : k = key := hrouted
    rcases out with status | _ | o <;> cases ha
    exact hs' k o.addr (hout hkey o rfl)
  | resolveOp op k =>
    refine Safe.bind (extends_refl B) ((hB.resolveOp_safe r op k es s).mono ?_)
    intro es' out s hout
    refine safe_ret fun s' hs' key hkey hrouted a ha => ?_
    obtain ⟨rfl, hmiss⟩ := hrouted
    rcases out with status | _ | b <;> cases ha
    exact hs' k a (hout hkey hmiss a rfl)
  | rememberOp op b =>
    -- The two writes of the operation index resolve nothing.
    refine Safe.bind (extends_refl B) ((hB.rememberOp_safe r op b es s).mono ?_)
    intro es' _ s _
    exact safe_ret fun s' _ key _ hrouted => hrouted.elim
  | forgetOp op =>
    refine Safe.bind (extends_refl B) ((hB.forgetOp_safe r op es s).mono ?_)
    intro es' _ s _
    exact safe_ret fun s' _ key _ hrouted => hrouted.elim
  | forgetSession key => exact absurd rfl (hcall key)

/-- A sticky store makes all replicas agree. -/
theorem agreement (hB : StickyStore B) : Agreement B := by
  intro ι _ replica call s₀ t c hcalls hrun key hkey
  have hsafe : ∀ i, Safe B.semantics (Extends B) (Guarantee B (call i)) (c.thread i)
      (eventsOf i t) c.shared := by
    intro i
    refine Run.safe (Q := fun i => Guarantee B (call i)) (extends_refl B) (extends_trans B)
      ?_ ?_ hrun i
    · -- No key expires here: the environment takes no step.
      intro s s' henv
      rcases henv with henv | henv <;> exact henv.elim
    · intro i
      exact hB.call_safe (replica i) (call i) (hcalls i) [] s₀
  have hbound : ∀ i a, SessionRouted B key (eventsOf i t) (call i) →
      ReturnsAddr (c.thread i) a → B.binding c.shared key = some a := by
    intro i a hrouted hret
    obtain ⟨r, hr, ha⟩ := hret
    have hi := hsafe i
    rw [hr] at hi
    exact hi c.shared (extends_refl B c.shared) key hkey hrouted a ha
  refine ⟨hbound, ?_⟩
  intro i j a b hi ha hj hb
  have hab : some a = some b := (hbound i a hi ha).symm.trans (hbound j b hj hb)
  exact Option.some.inj hab

end StickyStore

end

/-! ### The two stores -/

/-- The in-process store: every operation is one access, and only a bind of an unbound key
changes a binding. -/
theorem stickyStore_memory : StickyStore memoryBacking where
  lookupSession key es s := by
    intro s' _ r s'' hcmd
    obtain ⟨rfl, rfl⟩ := Prod.mk.inj hcmd
    refine ⟨extends_refl _ _, fun s₃ hs₃ a ha => ?_⟩
    exact hs₃ key a ha
  bindSessionIfAbsent key b es s := by
    intro s' _ r s'' hcmd
    cases hold : s'.sessions key with
    | some existing =>
      obtain ⟨rfl, rfl⟩ := Prod.mk.inj ((MemoryStore.apply_bind_of_some hold b).symm.trans hcmd)
      exact ⟨extends_refl _ _, fun s₃ hs₃ => hs₃ key existing hold⟩
    | none =>
      obtain ⟨rfl, rfl⟩ := Prod.mk.inj ((MemoryStore.apply_bind_of_none hold b).symm.trans hcmd)
      refine ⟨fun k a ha => ?_, fun s₃ hs₃ => hs₃ key b ?_⟩
      · -- Only the unbound key changes.
        have hk : k ≠ key := by
          rintro rfl
          exact absurd (hold.symm.trans ha) (by simp)
        show Function.update s'.sessions key (some b) k = some a
        rw [Function.update_of_ne hk]
        exact ha
      · show Function.update s'.sessions key (some b) key = some b
        exact Function.update_self _ _ _
  lookupOp op es s := by
    intro s' _ r s'' hcmd
    obtain ⟨rfl, rfl⟩ := Prod.mk.inj hcmd
    refine ⟨extends_refl _ _, fun s₃ _ a ha => ?_⟩
    refine ⟨_, List.mem_append_right _ List.mem_cons_self, a, ?_⟩
    exact congrArg (Sigma.mk (MemoryCmd.lookupOp op)) ha
  bindOp op b es s := by
    intro s' _ r s'' hcmd
    obtain ⟨-, rfl⟩ := Prod.mk.inj hcmd
    exact ⟨fun _ _ h => h, fun _ _ => trivial⟩
  forgetOp op es s := by
    intro s' _ r s'' hcmd
    obtain ⟨-, rfl⟩ := Prod.mk.inj hcmd
    exact ⟨fun _ _ h => h, fun _ _ => trivial⟩

/-- `GET` and `EXPIRE` change nothing, and a value they return is what the `GET` saw. -/
theorem lookupAndRefresh_safe (cfg : RedisStoreConfig) (key : String) (ttl : ℕ)
    (es : List (Event RedisSig)) (db : RedisStore.Db) :
    Safe (redisBacking cfg).own (Extends (redisBacking cfg))
      (fun es r db => ∀ a, r = some a →
        (∀ k, key = RedisStore.sessionKey cfg k → (redisBacking cfg).binding db k = some a) ∧
        (⟨.get key, .ok (some a)⟩ : Event RedisSig) ∈ es)
      (RedisStore.lookupAndRefresh key ttl) es db := by
  -- The value that was read stays, whatever happens before the `EXPIRE`.
  intro db₁ _ r db₂ hcmd
  obtain ⟨rfl, rfl⟩ := Prod.mk.inj hcmd
  refine ⟨extends_refl _ _, ?_⟩
  cases hget : db₁ key with
  | none =>
    intro db₃ _ a ha
    cases ha
  | some v =>
    intro db₃ hdb₃ r' db₄ hcmd'
    obtain ⟨-, rfl⟩ := Prod.mk.inj hcmd'
    refine ⟨extends_refl _ _, ?_⟩
    intro db₅ hdb₅ a ha
    cases ha
    refine ⟨?_, ?_⟩
    · rintro k rfl
      exact hdb₅ k v (hdb₃ k v hget)
    · simp

/-- The key of an operation is no session's key. -/
theorem extends_updateOp (cfg : RedisStoreConfig) (db : RedisStore.Db) (op : String)
    (value : Option String) :
    Extends (redisBacking cfg) db (Function.update db (RedisStore.opKey cfg op) value) := by
  intro key a ha
  exact (Function.update_of_ne (RedisStore.sessionKey_ne_opKey cfg key op) _ _).trans ha

/-- The Redis-backed store. A `SET NX` that is refused leaves the key bound, and under the
rely condition it is still bound at the `GET` that follows. -/
theorem stickyStore_redis (cfg : RedisStoreConfig) : StickyStore (redisBacking cfg) where
  lookupSession key es db :=
    (lookupAndRefresh_safe cfg _ _ es db).mono fun _ _ _ h a ha => (h a ha).1 key rfl
  bindSessionIfAbsent key b es db := by
    intro db₁ _ r db₂ hcmd
    cases hold : db₁ (RedisStore.sessionKey cfg key) with
    | none =>
      obtain ⟨rfl, rfl⟩ := Prod.mk.inj
        ((RedisStore.apply_setNxEx_of_none hold b cfg.sessionTtl).symm.trans hcmd)
      refine ⟨fun k a ha => ?_, fun db₃ hdb₃ => hdb₃ key b ?_⟩
      · -- The key that is set was unbound, so no binding changes.
        have hk : RedisStore.sessionKey cfg k ≠ RedisStore.sessionKey cfg key := by
          intro heq
          have hbound : db₁ (RedisStore.sessionKey cfg k) = some a := ha
          rw [heq, hold] at hbound
          cases hbound
        show Function.update db₁ (RedisStore.sessionKey cfg key) (some b)
          (RedisStore.sessionKey cfg k) = some a
        rw [Function.update_of_ne hk]
        exact ha
      · show Function.update db₁ (RedisStore.sessionKey cfg key) (some b)
          (RedisStore.sessionKey cfg key) = some b
        exact Function.update_self _ _ _
    | some v =>
      obtain ⟨rfl, rfl⟩ := Prod.mk.inj
        ((RedisStore.apply_setNxEx_of_some hold b cfg.sessionTtl).symm.trans hcmd)
      refine ⟨extends_refl _ _, ?_⟩
      intro db₃ hdb₃ r' db₄ hcmd'
      obtain ⟨rfl, rfl⟩ := Prod.mk.inj hcmd'
      -- Others have moved since the `SET NX`, but along the rely condition.
      have hstill : db₃ (RedisStore.sessionKey cfg key) = some v := hdb₃ key v hold
      refine ⟨extends_refl _ _, ?_⟩
      rw [hstill]
      exact fun db₅ hdb₅ => hdb₅ key v hstill
  lookupOp op es db :=
    (lookupAndRefresh_safe cfg _ _ es db).mono fun _ _ _ h a ha => ⟨_, (h a ha).2, a, rfl⟩
  bindOp op b es db := by
    intro db₁ _ r db₂ hcmd
    obtain ⟨-, rfl⟩ := Prod.mk.inj hcmd
    exact ⟨extends_updateOp cfg db₁ op _, fun _ _ => trivial⟩
  forgetOp op es db := by
    intro db₁ _ r db₂ hcmd
    obtain ⟨-, rfl⟩ := Prod.mk.inj hcmd
    exact ⟨extends_updateOp cfg db₁ op _, fun _ _ => trivial⟩

/-- **Agreement of sticky routing**, for replicas that share one `MemoryStore` and for
replicas that share one Redis database under any configuration. -/
theorem stickyRouting_agreement :
    Agreement memoryBacking ∧ ∀ cfg, Agreement (redisBacking cfg) :=
  ⟨stickyStore_memory.agreement, fun cfg => (stickyStore_redis cfg).agreement⟩

/-! ### A race of two replicas -/

namespace RacingReplicas

/-- The session that both replicas resolve. -/
def key : SessionKey := ⟨"default", "alice", "s1"⟩

/-- One pool for every tenant. -/
def tenants : TenantRouter := ⟨fun _ => none, some 0, .useDefault⟩

/-- What the pool of a replica picks. -/
def picked (replica : Bool) : String := if replica then "be-a:15002" else "be-b:15002"

/-- The pools of the two replicas differ, and they share one Redis. -/
def answers (replica : Bool) : Handler (RouterSig RedisSig) RedisStore.Db
  | .inl (.pick _), db => (some (picked replica), db)
  | .inr c, db => RedisStore.apply c db

/-- Both replicas find the session unbound and pick a backend. The first one is first to bind its
own, and the second one then reads the binding. -/
def turns : List Bool := [true, false, true, false, true, false, false]

/-- Each replica resolves the session once. -/
def calls : Config (RouterSig RedisSig) RedisStore.Db Bool CallResult :=
  ⟨fun _ => none, fun _ =>
    (RouterCall.resolveSession key).prog ⟨tenants, RedisStore.store .default⟩⟩

/-- The race. -/
def raced := schedule answers turns calls

/-- The race is a run over Redis. -/
theorem run : Run (redisBacking .default).semantics calls raced.1 raced.2 := by
  refine schedule_run (fun replica cmd db => ?_) turns calls
  rcases cmd with cmd | cmd
  · cases cmd
    rfl
  · rfl

end RacingReplicas

/-- The second replica picked another backend than the first one. Both return the backend of the
first one, and Redis holds it. -/
theorem stickyRouting_agreement_twoReplicas :
    (⟨.inl (.pick 0), some "be-b:15002"⟩ : Event (RouterSig RedisSig)) ∈
        eventsOf false RacingReplicas.raced.1 ∧
      ReturnsAddr (RacingReplicas.raced.2.thread true) "be-a:15002" ∧
      (∃ b, ReturnsAddr (RacingReplicas.raced.2.thread false) b) ∧
      (∀ b, ReturnsAddr (RacingReplicas.raced.2.thread false) b → b = "be-a:15002") ∧
      (redisBacking .default).binding RacingReplicas.raced.2.shared RacingReplicas.key =
        some "be-a:15002" := by
  have hfirst : ReturnsAddr (RacingReplicas.raced.2.thread true) "be-a:15002" := ⟨_, rfl, rfl⟩
  obtain ⟨hbound, hsame⟩ := stickyRouting_agreement.2 .default Bool
    (fun _ => RacingReplicas.tenants) (fun _ => .resolveSession RacingReplicas.key) (fun _ => none)
    _ _ (fun _ _ => nofun) RacingReplicas.run RacingReplicas.key (by decide)
  exact ⟨.tail _ (.head _), hfirst, ⟨_, _, rfl, rfl⟩,
    fun b hb => hsame false true b _ rfl hb rfl hfirst, hbound true _ rfl hfirst⟩

end SparkGateway.Proofs.Routing

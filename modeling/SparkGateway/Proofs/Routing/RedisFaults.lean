import SparkGateway.Lib.History
import SparkGateway.Proofs.Routing.RouterCommands
import SparkGateway.Proofs.Routing.Sticky

/-!
# `SparkGateway.Proofs.Routing.RedisFaults`: what Redis errors can do to a session

On `faultyRedis` every command can succeed, fail without effect, or take effect with its reply
lost, and any number of replicas' calls run at the same time. No key expires.

The table is never corrupted: only a `DEL` of its key takes a binding away, since a `SET NX` does
not replace a value and the other writes go to operation keys (`WritesNoSession`). A single call
can still be routed elsewhere. `resolve_session` takes a failed `GET` for a miss and a failed bind
for a success, so both have to fail for the call to leave the binding
(`resolveSession_obeys`, on the paths of the call with replies that a key with the value allows).

`redisFaults_keep_session` has both facts. The second one is for a key with a session id: without
one the table is not read at all.
-/

set_option autoImplicit false

namespace SparkGateway.Proofs.Routing

open SparkGateway.Lib
open SparkGateway.Spec

/-! ### A faulty server -/

/-- The reply is an error. -/
def Failed : (c : RedisCmd) → c.Reply → Prop
  | .get _, r => ∃ err, r = .error err
  | .setNxEx _ _ _, r => ∃ err, r = .error err
  | .setEx _ _ _, r => ∃ err, r = .error err
  | .expire _ _, r => ∃ err, r = .error err
  | .del _, r => ∃ err, r = .error err

/-- A Redis server on which each command succeeds, or fails without effect, or takes effect with
its reply lost. -/
def faultyRedis : Semantics RedisSig RedisStore.Db where
  cmd c db r db' := RedisStore.apply c db = (r, db') ∨
    Failed c r ∧ (db' = db ∨ db' = (RedisStore.apply c db).2)
  env _ _ := False

/-- The router's calls on such a server. A pick can answer anything. -/
def faultyRouting : Semantics (RouterSig RedisSig) RedisStore.Db :=
  (Semantics.arbitrary PoolSig RedisStore.Db).sum faultyRedis

section
variable {ι : Type}

/-- The calls of some replicas at their start. -/
def routerCalls (cfg : RedisStoreConfig) (db : RedisStore.Db) (replica : ι → TenantRouter)
    (call : ι → RouterCall) : Config (RouterSig RedisSig) RedisStore.Db ι CallResult :=
  ⟨db, fun i => (call i).prog ⟨replica i, RedisStore.store cfg⟩⟩

/-- A `DEL` of the key that takes effect, whether its reply arrives or not. -/
def Deletes (key : String) (rec : Record (RouterSig RedisSig) RedisStore.Db ι) : Prop :=
  (∃ i r, rec.actor = some (i, .inr ⟨.del key, r⟩)) ∧ rec.post key = none

/-- The call is a `resolve_session` of the key. -/
def ResolvesSession (key : SessionKey) : RouterCall → Prop
  | .resolveSession k => k = key
  | .resolveSessionDetailed k => k = key
  | _ => False

/-- The Redis key has the value from the first to the last command of `i`. -/
def HoldsThroughout [DecidableEq ι] (i : ι) (t : List (Record (RouterSig RedisSig) RedisStore.Db ι))
    (key value : String) : Prop :=
  ∃ pre seg post, t = pre ++ seg ++ post ∧ eventsOf i pre = [] ∧ eventsOf i post = [] ∧
    ∀ rec ∈ seg, rec.pre key = some value ∧ rec.post key = some value

end

/-- The path of a call whose lookup failed and whose bind of its pick `a` failed as well, at the
`SET NX` or at the `GET` after it. -/
def FailedTwice (cfg : RedisStoreConfig) (key : SessionKey) (a : String)
    (es : List (Event (RouterSig RedisSig))) : Prop :=
  ∃ err pool rest,
    es = .inr ⟨.get (RedisStore.sessionKey cfg key), .error err⟩ ::
      .inl ⟨.pick pool, some a⟩ :: rest ∧
    ((∃ err, rest = [.inr ⟨.setNxEx (RedisStore.sessionKey cfg key) a cfg.sessionTtl,
        .error err⟩]) ∨
      ∃ err, rest = [.inr ⟨.setNxEx (RedisStore.sessionKey cfg key) a cfg.sessionTtl, .ok none⟩,
        .inr ⟨.get (RedisStore.sessionKey cfg key), .error err⟩])

/-! ### Which keys are written -/

/-- The command is not a plain `SET` of a session's key. -/
def WritesNoSession (cfg : RedisStoreConfig) : RedisCmd → Prop
  | .setEx key _ _ => ∀ k, key ≠ RedisStore.sessionKey cfg k
  | _ => True

/-- A lookup writes no session's key. -/
theorem lookupAndRefresh_writesNoSession (cfg : RedisStoreConfig) (key : String) (ttl : ℕ) :
    (RedisStore.lookupAndRefresh key ttl).Uses (WritesNoSession cfg) := by
  refine ⟨trivial, fun r => ?_⟩
  rcases r with err | _ | v
  · trivial
  · trivial
  · exact ⟨trivial, fun _ => trivial⟩

/-- Only `bind_op` writes without `NX`, and it writes operation keys. -/
theorem store_writesNoSession (cfg : RedisStoreConfig) :
    StoreUses (RedisStore.store cfg) (WritesNoSession cfg) where
  lookupSession key := lookupAndRefresh_writesNoSession cfg _ _
  bindSessionIfAbsent key b _ := by
    refine ⟨trivial, fun r => ?_⟩
    rcases r with err | _ | v
    · trivial
    · refine ⟨trivial, fun r => ?_⟩
      rcases r with err | _ | v <;> trivial
    · trivial
  lookupOp op := lookupAndRefresh_writesNoSession cfg _ _
  bindOp op b := ⟨fun k => Ne.symm (RedisStore.sessionKey_ne_opKey cfg k op), fun _ => trivial⟩
  forgetOp op := ⟨trivial, fun _ => trivial⟩

/-- No call of the router writes a session's key with a plain `SET`. -/
theorem call_writesNoSession (cfg : RedisStoreConfig) (replica : TenantRouter) (call : RouterCall) :
    (call.prog ⟨replica, RedisStore.store cfg⟩).Uses (OnStore (WritesNoSession cfg)) := by
  have hforget : ∀ key, ((RedisStore.store cfg).forgetSession key).Uses (WritesNoSession cfg) :=
    fun _ => ⟨trivial, fun _ => trivial⟩
  exact StoreUses.call (r := ⟨replica, RedisStore.store cfg⟩)
    (P := OnStore (S := RedisSig) (WritesNoSession cfg)) (store_writesNoSession cfg)
    (fun _ => trivial) hforget call

/-! ### A binding stays -/

section
variable {cfg : RedisStoreConfig} {k : SessionKey} {b : String}

/-- A command that takes effect and is not a plain `SET` of the key leaves its value, unless it
is a `DEL` of the key. -/
theorem apply_kept {c : RedisCmd} {db : RedisStore.Db} (hc : WritesNoSession cfg c)
    (hdb : db (RedisStore.sessionKey cfg k) = some b) :
    (RedisStore.apply c db).2 (RedisStore.sessionKey cfg k) = some b ∨
      c = .del (RedisStore.sessionKey cfg k) ∧
        (RedisStore.apply c db).2 (RedisStore.sessionKey cfg k) = none := by
  cases c with
  | get key => exact .inl hdb
  | setNxEx key value ttl =>
    refine .inl ?_
    cases hold : db key with
    | some v =>
      rw [RedisStore.apply_setNxEx_of_some hold]
      exact hdb
    | none =>
      -- A `SET NX` that writes has found its key empty, so it is another key.
      have hne : RedisStore.sessionKey cfg k ≠ key := by
        rintro rfl
        rw [hold] at hdb
        cases hdb
      rw [RedisStore.apply_setNxEx_of_none hold]
      exact (Function.update_of_ne hne _ _).trans hdb
  | setEx key value ttl => exact .inl ((Function.update_of_ne (Ne.symm (hc k)) _ _).trans hdb)
  | expire key ttl => exact .inl hdb
  | del key =>
    by_cases hkey : RedisStore.sessionKey cfg k = key
    · subst hkey
      exact .inr ⟨rfl, Function.update_self _ _ _⟩
    · exact .inl ((Function.update_of_ne hkey _ _).trans hdb)

/-- The same for a command that may fail. -/
theorem faulty_kept {c : RedisCmd} {db db' : RedisStore.Db} {r : c.Reply}
    (hcmd : faultyRedis.cmd c db r db') (hc : WritesNoSession cfg c)
    (hdb : db (RedisStore.sessionKey cfg k) = some b) :
    db' (RedisStore.sessionKey cfg k) = some b ∨
      c = .del (RedisStore.sessionKey cfg k) ∧ db' (RedisStore.sessionKey cfg k) = none := by
  have happly := apply_kept (k := k) hc hdb
  rcases hcmd with heq | ⟨-, rfl | rfl⟩
  · rwa [heq] at happly
  · exact .inl hdb
  · exact happly

variable {ι : Type} [DecidableEq ι] {db : RedisStore.Db} {replica : ι → TenantRouter}
  {call : ι → RouterCall} {t : List (Record (RouterSig RedisSig) RedisStore.Db ι)}
  {c : Config (RouterSig RedisSig) RedisStore.Db ι CallResult}

/-- One step of a run leaves a binding, unless it is a `DEL` that takes effect. -/
theorem step_kept (hrun : Run faultyRouting (routerCalls cfg db replica call) t c)
    {rec : Record (RouterSig RedisSig) RedisStore.Db ι} (hrec : rec ∈ t)
    (hpre : rec.pre (RedisStore.sessionKey cfg k) = some b) :
    rec.post (RedisStore.sessionKey cfg k) = some b ∨
      Deletes (RedisStore.sessionKey cfg k) rec := by
  obtain ⟨t₁, t₂, rfl⟩ := List.append_of_mem hrec
  obtain ⟨c₁, c₂, -, hstep, -⟩ := hrun.step_at
  rcases hact : rec.actor with _ | ⟨i, ⟨cmd, r⟩⟩
  · -- The environment does nothing.
    cases hstep with
    | cmd _ _ => cases hact
    | env henv => exact henv.elim False.elim False.elim
  · have hcmd := hstep.cmd_of hact
    rcases cmd with pick | cmd
    · have hpost : rec.post = rec.pre := hcmd
      exact .inl (hpost ▸ hpre)
    · have huses := call_writesNoSession cfg (replica i) (call i)
      have hc : WritesNoSession cfg cmd :=
        hrun.issued (A := fun _ => True)
          (G := fun _ => OnStore (S := RedisSig) (WritesNoSession cfg)) hact
          (huses.obeys fun _ _ _ h => h) fun _ _ => trivial
      obtain hkept | ⟨rfl, hnone⟩ := faulty_kept (k := k) hcmd hc hpre
      · exact .inl hkept
      · exact .inr ⟨⟨i, r, hact⟩, hnone⟩

/-- A run without such a `DEL` leaves a binding. -/
theorem run_kept {t₁ t₂ : List (Record (RouterSig RedisSig) RedisStore.Db ι)}
    {c₁ : Config (RouterSig RedisSig) RedisStore.Db ι CallResult}
    (h₁ : Run faultyRouting (routerCalls cfg db replica call) t₁ c₁)
    (h₂ : Run faultyRouting c₁ t₂ c) (hbound : c₁.shared (RedisStore.sessionKey cfg k) = some b)
    (hdel : ∀ rec ∈ t₂, ¬ Deletes (RedisStore.sessionKey cfg k) rec) :
    c.shared (RedisStore.sessionKey cfg k) = some b := by
  have hrun : Run faultyRouting (routerCalls cfg db replica call) (t₁ ++ t₂) c :=
    run_append_iff.mpr ⟨c₁, h₁, h₂⟩
  refine h₂.invariant (P := fun db => db (RedisStore.sessionKey cfg k) = some b) ?_ hbound
  intro rec hrec hpre
  exact (step_kept hrun (List.mem_append_right t₁ hrec) hpre).resolve_right (hdel rec hrec)

end

/-! ### The paths of a call on a key that holds a value -/

/-- The reply is one that a database in which the key has the value can give. -/
def Allowed (key value : String) (e : Event (RouterSig RedisSig)) : Prop :=
  ∃ db db', db key = some value ∧ faultyRouting.cmd e.1 db e.2 db'

/-- A `GET` returns the value or fails. -/
theorem allowed_get {key value : String} {r : RedisCmd.Reply (.get key)}
    (h : Allowed key value (.inr ⟨.get key, r⟩)) :
    r = .ok (some value) ∨ ∃ err, r = .error err := by
  obtain ⟨db, db', hdb, hok | ⟨hfailed, -⟩⟩ := h
  · obtain ⟨hr, -⟩ := Prod.mk.inj hok
    rw [hdb] at hr
    exact .inl hr.symm
  · exact .inr hfailed

/-- A `SET NX` is refused or fails. -/
theorem allowed_setNxEx {key value value' : String} {ttl : ℕ}
    {r : RedisCmd.Reply (.setNxEx key value' ttl)}
    (h : Allowed key value (.inr ⟨.setNxEx key value' ttl, r⟩)) :
    r = .ok none ∨ ∃ err, r = .error err := by
  obtain ⟨db, db', hdb, hok | ⟨hfailed, -⟩⟩ := h
  · obtain ⟨hr, -⟩ := Prod.mk.inj ((RedisStore.apply_setNxEx_of_some hdb value' ttl).symm.trans hok)
    exact .inl hr.symm
  · exact .inr hfailed

/-- **Two failures**: with the key at `b` throughout, a call that returns another address has
failed at its lookup and at its bind. -/
theorem resolveIn_obeys (cfg : RedisStoreConfig) (tenants : TenantRouter) (pool : PoolId)
    (key : SessionKey) (b : String) :
    ((⟨tenants, RedisStore.store cfg⟩ : Router RedisSig).resolveIn pool key).Obeys
      (Allowed (RedisStore.sessionKey cfg key) b) (fun _ _ => True)
      (fun es out => ∀ o, out = some o → o.addr ≠ b → FailedTwice cfg key o.addr es) [] := by
  refine ⟨trivial, fun r hr => ?_⟩
  obtain rfl | ⟨err, rfl⟩ := allowed_get hr
  · -- The lookup finds the binding.
    refine ⟨trivial, fun r _ o ho hne => ?_⟩
    cases ho
    exact absurd rfl hne
  · -- The failed lookup counts as a miss.
    refine ⟨trivial, fun picked _ => ?_⟩
    cases picked with
    | none => exact fun o ho => nomatch ho
    | some chosen =>
      refine ⟨trivial, fun r hr => ?_⟩
      obtain rfl | ⟨err', rfl⟩ := allowed_setNxEx hr
      · refine ⟨trivial, fun r hr => ?_⟩
        obtain rfl | ⟨err', rfl⟩ := allowed_get hr
        · intro o ho hne
          cases ho
          exact absurd rfl hne
        · intro o ho _
          cases ho
          exact ⟨err, pool, _, rfl, .inr ⟨err', rfl⟩⟩
      · intro o ho _
        cases ho
        exact ⟨err, pool, _, rfl, .inl ⟨err', rfl⟩⟩

/-- The same for the whole of `resolve_session_detailed`, for a key with a session id. -/
theorem resolveSessionDetailed_obeys (cfg : RedisStoreConfig) (tenants : TenantRouter)
    {key : SessionKey} (hkey : key.sessionId ≠ "") (b : String) :
    ((⟨tenants, RedisStore.store cfg⟩ : Router RedisSig).resolveSessionDetailed key).Obeys
      (Allowed (RedisStore.sessionKey cfg key) b) (fun _ _ => True)
      (fun es out => ∀ o, out = .ok (some o) → o.addr ≠ b → FailedTwice cfg key o.addr es) [] := by
  unfold Router.resolveSessionDetailed
  rcases tenants.poolFor key.tenant with status | _ | pool
  · exact fun o ho => nomatch ho
  · exact fun o ho => nomatch ho
  · have hzero : key.isZero = false := beq_eq_false_iff_ne.mpr hkey
    simp only [hzero, Bool.false_eq_true, if_false]
    refine Prog.Obeys.bind ((resolveIn_obeys cfg tenants pool key b).mono ?_)
    intro es out hout o ho
    exact hout o (Except.ok.inj ho)

/-- A call that resolves the key returns the value of the Redis key or has failed twice. -/
theorem call_obeys (cfg : RedisStoreConfig) (tenants : TenantRouter) {key : SessionKey}
    (hkey : key.sessionId ≠ "") (b : String) {call : RouterCall}
    (hcall : ResolvesSession key call) :
    (call.prog (⟨tenants, RedisStore.store cfg⟩ : Router RedisSig)).Obeys
      (Allowed (RedisStore.sessionKey cfg key) b) (fun _ _ => True)
      (fun es r => ∀ a, r.okAddr = some a → a ≠ b → FailedTwice cfg key a es) [] := by
  have hdetailed := resolveSessionDetailed_obeys cfg tenants hkey b
  cases call with
  | resolveSession k =>
    obtain rfl : k = key := hcall
    -- Both ways to resolve end with the outcome of `resolve_session_detailed`.
    refine Prog.Obeys.bind (Prog.Obeys.bind (hdetailed.mono ?_))
    intro es out hout a ha
    rcases out with status | _ | o <;> cases ha
    exact hout o rfl
  | resolveSessionDetailed k =>
    obtain rfl : k = key := hcall
    refine Prog.Obeys.bind (hdetailed.mono ?_)
    intro es out hout a ha
    rcases out with status | _ | o <;> cases ha
    exact hout o rfl
  | resolveOp _ _ => exact hcall.elim
  | rememberOp _ _ => exact hcall.elim
  | forgetOp _ => exact hcall.elim
  | forgetSession _ => exact hcall.elim

section
variable {ι : Type} [DecidableEq ι]

/-- If the key has the value throughout a call, its replies are allowed. -/
theorem allowed_of_holdsThroughout {c c' : Config (RouterSig RedisSig) RedisStore.Db ι CallResult}
    {t : List (Record (RouterSig RedisSig) RedisStore.Db ι)} (hrun : Run faultyRouting c t c')
    {i : ι} {key value : String} (h : HoldsThroughout i t key value) :
    ∀ e ∈ eventsOf i t, Allowed key value e := by
  obtain ⟨pre, seg, post, rfl, hpre, hpost, hseg⟩ := h
  intro e he
  rw [eventsOf_append, eventsOf_append, hpre, hpost, List.nil_append, List.append_nil] at he
  obtain ⟨rec, hrec, hact⟩ := mem_eventsOf.mp he
  obtain ⟨c₁, c₂, hstep⟩ :=
    hrun.step_of_mem (List.mem_append_left post (List.mem_append_right pre hrec))
  exact ⟨rec.pre, rec.post, (hseg rec hrec).1, hstep.cmd_of hact⟩

/-- **Redis faults never move an existing session**, in every interleaving of any calls of any
replicas under every pattern of faults. Once the key of a session has a value, it keeps it until
a `DEL` of the key takes effect. And if it has the value throughout a `resolve_session` of a
session with an id, a call that returns another address has failed at its lookup and again at
its bind. -/
theorem redisFaults_keep_session {cfg : RedisStoreConfig} {db : RedisStore.Db}
    {replica : ι → TenantRouter} {call : ι → RouterCall}
    {t : List (Record (RouterSig RedisSig) RedisStore.Db ι)}
    {c : Config (RouterSig RedisSig) RedisStore.Db ι CallResult}
    (hrun : Run faultyRouting (routerCalls cfg db replica call) t c) (key : SessionKey)
    (b : String) :
    (∀ t₁ t₂ c₁, t = t₁ ++ t₂ → Run faultyRouting (routerCalls cfg db replica call) t₁ c₁ →
      Run faultyRouting c₁ t₂ c → c₁.shared (RedisStore.sessionKey cfg key) = some b →
      (∀ rec ∈ t₂, ¬ Deletes (RedisStore.sessionKey cfg key) rec) →
      c.shared (RedisStore.sessionKey cfg key) = some b) ∧
    (key.sessionId ≠ "" → ∀ i a, ResolvesSession key (call i) → ReturnsAddr (c.thread i) a →
      HoldsThroughout i t (RedisStore.sessionKey cfg key) b → a ≠ b →
      FailedTwice cfg key a (eventsOf i t)) := by
  refine ⟨fun t₁ t₂ c₁ _ h₁ h₂ => run_kept h₁ h₂, ?_⟩
  rintro hkey i a hcall ⟨r, hret, ha⟩ hholds hne
  have hobeys := call_obeys cfg (replica i) hkey b hcall
  exact hrun.returned hret hobeys (allowed_of_holdsThroughout hrun hholds) a ha hne

end

/-! ### Two runs -/

namespace Faults

/-- One pool for every tenant. -/
def onePool : TenantRouter := ⟨fun _ => none, some 0, .useDefault⟩

/-- The error of a command that timed out. -/
def timeout : RedisError := ⟨"timed out"⟩

/-- The session of the first run. -/
def key : SessionKey := ⟨"team-a", "alice", "sess-1"⟩

/-- Its Redis key. -/
def redisKey : String := RedisStore.sessionKey .default key

/-- The session is bound to `be-a`. -/
def bound : RedisStore.Db := Function.update (fun _ => none) redisKey (some "be-a:15002")

/-- The lookup times out, and so does the `SET NX`. -/
def twoErrors : List (Record (RouterSig RedisSig) RedisStore.Db Unit) :=
  [⟨some ((), .inr ⟨.get redisKey, .error timeout⟩), bound, bound⟩,
    ⟨some ((), .inl ⟨.pick 0, some "be-b:15002"⟩), bound, bound⟩,
    ⟨some ((), .inr ⟨.setNxEx redisKey "be-b:15002" 3600, .error timeout⟩), bound, bound⟩]

/-- The first run, in which the call returns its own pick. -/
theorem run_twoErrors :
    ∃ c, Run faultyRouting (routerCalls .default bound (fun _ : Unit => onePool)
        fun _ => .resolveSession key) twoErrors c ∧ ReturnsAddr (c.thread ()) "be-b:15002" := by
  have s₁ : faultyRouting.cmd (.inr (.get redisKey)) bound
      (.error timeout : Except RedisError (Option String)) bound :=
    .inr ⟨⟨timeout, rfl⟩, .inl rfl⟩
  have s₂ : faultyRouting.cmd (.inl (.pick 0)) bound
      (some "be-b:15002" : Option String) bound := rfl
  have s₃ : faultyRouting.cmd (.inr (.setNxEx redisKey "be-b:15002" 3600)) bound
      (.error timeout : Except RedisError (Option String)) bound :=
    .inr ⟨⟨timeout, rfl⟩, .inl rfl⟩
  have h₁ : Run faultyRouting (routerCalls .default bound (fun _ : Unit => onePool)
      fun _ => .resolveSession key) _ _ := Run.nil.snoc (.cmd (i := ()) rfl s₁)
  have h₂ := h₁.snoc (.cmd (i := ()) rfl s₂)
  have h₃ := h₂.snoc (.cmd (i := ()) rfl s₃)
  exact ⟨_, h₃, _, rfl, rfl⟩

end Faults

/-- The call of that run has failed at both places. -/
theorem redisFaults_keep_session_twoErrors :
    FailedTwice .default Faults.key "be-b:15002" (eventsOf () Faults.twoErrors) := by
  obtain ⟨c, hrun, hret⟩ := Faults.run_twoErrors
  refine (redisFaults_keep_session hrun Faults.key "be-a:15002").2 (by decide) () "be-b:15002" rfl
    hret ⟨[], Faults.twoErrors, [], by simp, rfl, rfl, ?_⟩ (by decide)
  intro rec hrec
  have hbound : Faults.bound Faults.redisKey = some "be-a:15002" := Function.update_self _ _ _
  simp only [Faults.twoErrors, List.mem_cons, List.not_mem_nil, or_false] at hrec
  rcases hrec with rfl | rfl | rfl <;> exact ⟨hbound, hbound⟩

namespace SharedName

/-- A session whose name ends with the separator, and a caller of another tenant that names no
session. Their Redis keys are the same. -/
def call : Bool → RouterCall
  | true => .resolveSession ⟨"a", "b", "u|"⟩
  | false => .resolveSession ⟨"a|b", "u", ""⟩

/-- The Redis key that the two sessions share. -/
def redisKey : String := "scg:s:a|b|u|"

/-- Redis before the first call. -/
def empty : RedisStore.Db := fun _ => none

/-- The first session is bound. -/
def bound : RedisStore.Db := Function.update empty redisKey (some "be-a:15002")

/-- The first call binds the session to `be-a`, then the second one picks `be-b`. -/
def trace : List (Record (RouterSig RedisSig) RedisStore.Db Bool) :=
  [⟨some (true, .inr ⟨.get redisKey, .ok none⟩), empty, empty⟩,
    ⟨some (true, .inl ⟨.pick 0, some "be-a:15002"⟩), empty, empty⟩,
    ⟨some (true, .inr ⟨.setNxEx redisKey "be-a:15002" 3600, .ok (some "OK")⟩), empty, bound⟩,
    ⟨some (false, .inl ⟨.pick 0, some "be-b:15002"⟩), bound, bound⟩]

/-- The second run, in which the caller without a session gets its pick. -/
theorem run :
    ∃ c, Run faultyRouting (routerCalls .default empty (fun _ => Faults.onePool) call) trace c ∧
      ReturnsAddr (c.thread false) "be-b:15002" := by
  have s₁ : faultyRouting.cmd (.inr (.get redisKey)) empty
      (.ok none : Except RedisError (Option String)) empty := .inl rfl
  have s₂ : faultyRouting.cmd (.inl (.pick 0)) empty
      (some "be-a:15002" : Option String) empty := rfl
  have s₃ : faultyRouting.cmd (.inr (.setNxEx redisKey "be-a:15002" 3600)) empty
      (.ok (some "OK") : Except RedisError (Option String)) bound := .inl rfl
  have s₄ : faultyRouting.cmd (.inl (.pick 0)) bound
      (some "be-b:15002" : Option String) bound := rfl
  have h₁ : Run faultyRouting (routerCalls .default empty (fun _ => Faults.onePool) call) _ _ :=
    Run.nil.snoc (.cmd (i := true) rfl s₁)
  have h₂ := h₁.snoc (.cmd (i := true) rfl s₂)
  have h₃ := h₂.snoc (.cmd (i := true) rfl s₃)
  have h₄ := h₃.snoc (.cmd (i := false) rfl s₄)
  exact ⟨_, h₄, _, rfl, rfl⟩

end SharedName

/-- A call without a session id returns another address than the one its Redis key has
throughout, and no command of it has failed: it makes none. -/
theorem emptySessionId_ignores_binding :
    ∃ c, Run faultyRouting (routerCalls .default SharedName.empty (fun _ => Faults.onePool)
        SharedName.call) SharedName.trace c ∧
      RedisStore.sessionKey .default ⟨"a|b", "u", ""⟩ = SharedName.redisKey ∧
      ReturnsAddr (c.thread false) "be-b:15002" ∧
      HoldsThroughout false SharedName.trace SharedName.redisKey "be-a:15002" ∧
      eventsOf false SharedName.trace = [.inl ⟨.pick 0, some "be-b:15002"⟩] := by
  obtain ⟨c, hrun, hret⟩ := SharedName.run
  have hbound : SharedName.bound SharedName.redisKey = some "be-a:15002" :=
    Function.update_self _ _ _
  refine ⟨c, hrun, by decide +kernel, hret, ?_, rfl⟩
  refine ⟨SharedName.trace.take 3, SharedName.trace.drop 3, [], rfl, rfl, rfl, ?_⟩
  intro rec hrec
  obtain rfl := List.mem_singleton.mp hrec
  exact ⟨hbound, hbound⟩

end SparkGateway.Proofs.Routing

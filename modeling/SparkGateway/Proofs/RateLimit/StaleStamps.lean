import SparkGateway.Proofs.RateLimit.ClusterQuota

/-!
# `SparkGateway.Proofs.RateLimit.StaleStamps`: a time that is read too early

`take_one` reads the clock before its script is executed. The replicas do not wait for each other,
so the script of a call can be executed after that of a call of another replica which has read a
later time. The script refills nothing for the old time, but it stores it, and the next call with
the present time refills the stretch between the two once more. No clock has to be wrong for that.

`staleStamps_exceed` shows how far this goes. The clocks are accurate, no `EVAL` fails, and each
call has a replica of its own, so that none waits for a connection. `n` calls read the time at the
start, and their scripts are under way until the time has come for one more token,
`1000 / rpcs_per_second` milliseconds later. `n` other calls come at this moment. If the scripts of
the old and the new calls take turns, every new call is admitted: `n` calls in no time at all, for
any `n`.

Calls of one replica share its connection in the order in which they came, so this takes many
replicas.
-/

set_option autoImplicit false

namespace SparkGateway.Proofs.RateLimit

open SparkGateway.Lib
open SparkGateway.Lib.TokenBucket
open SparkGateway.Spec

/-! ### The script -/

section
variable {rate : BucketRate}

/-- The time after which a bucket has refilled one token. -/
def oneToken (rate : BucketRate) : ℚ := 1000 / rate.rpcsPerSecond

/-- An enabled bucket refills a token in finite time. -/
theorem oneToken_pos (hon : rate.isEnabled = true) : 0 < oneToken rate :=
  div_pos (by norm_num) (of_decide_eq_true (Bool.and_eq_true_iff.mp hon).1)

/-- An enabled bucket has room for a token. -/
theorem one_le_burst (hon : rate.isEnabled = true) : (1 : ℚ) ≤ rate.burst :=
  Nat.one_le_cast.mpr (of_decide_eq_true (Bool.and_eq_true_iff.mp hon).2)

/-- A bucket that was last asked with the time zero gives a token for the present. -/
theorem script_present (hon : rate.isEnabled = true) {data : Option RedisBucket}
    (hdata : ∀ b, data = some b → b.ts = 0 ∧ 0 ≤ b.tokens) :
    ∃ tokens, tokenBucketScript rate.rpcsPerSecond rate.burst (oneToken rate) data =
      (true, ⟨tokens, oneToken rate⟩) ∧ 0 ≤ tokens := by
  have hburst := one_le_burst hon
  have hrps : 0 < rate.rpcsPerSecond := of_decide_eq_true (Bool.and_eq_true_iff.mp hon).1
  -- On a fresh key or on an old one, there is a token.
  suffices hscript : ∀ b : RedisBucket, 1 ≤ refill (rate.burst : ℚ) rate.rpcsPerSecond
      (max 0 ((oneToken rate - b.ts) / 1000)) b.tokens →
      ∃ tokens, tokenBucketScript rate.rpcsPerSecond rate.burst (oneToken rate) (some b) =
        (true, ⟨tokens, oneToken rate⟩) ∧ 0 ≤ tokens by
    cases data with
    | none =>
      rw [tokenBucketScript_none]
      refine hscript ⟨rate.burst, oneToken rate⟩ ?_
      rw [sub_self, zero_div, max_self, refill_zero (le_refl _)]
      exact hburst
    | some b =>
      obtain ⟨hts, htokens⟩ := hdata b rfl
      -- Since the time zero exactly one token was refilled.
      have hrefill : max 0 ((oneToken rate - b.ts) / 1000) * rate.rpcsPerSecond = 1 := by
        rw [hts, sub_zero, max_eq_right (div_nonneg (oneToken_pos hon).le (by norm_num)), oneToken]
        field_simp
      refine hscript b (le_min hburst ?_)
      rw [hrefill]
      linarith
  intro b hb
  rw [tokenBucketScript_some, take_of_le hb]
  exact ⟨_, rfl, sub_nonneg.mpr hb⟩

/-- A call with the time zero sets the bucket back. -/
theorem script_stale {b : RedisBucket} (hb : 0 ≤ b.tokens)
    (hrps : 0 ≤ rate.rpcsPerSecond) :
    ∃ answer tokens, tokenBucketScript rate.rpcsPerSecond rate.burst 0 (some b) =
      (answer, ⟨tokens, 0⟩) ∧ 0 ≤ tokens := by
  rw [tokenBucketScript_some]
  refine ⟨_, _, rfl, take_snd_nonneg (le_min (Nat.cast_nonneg _) (add_nonneg hb ?_))⟩
  exact mul_nonneg (le_max_left _ _) hrps

end

/-! ### The calls -/

section
variable {l : RedisLimiter} {replica : ℕ} {tenant user : String}

/-- What a call does with the answer of the tenant's bucket. -/
def afterTenant (l : RedisLimiter) : Option Bool → Prog LimiterSig Verdict
  | some true => .ret .admitted
  | some false => .ret (.rejected .tenant)
  | none => .ret (l.handleRedisError.getD .admitted)

/-- A call that has read its time and has the connection. -/
def sending (l : RedisLimiter) (replica : ℕ) (tenant : String) (nowMs : ℚ) :
    Prog LimiterSig Verdict :=
  .step (S := LimiterSig)
    (.eval (l.tenantKey tenant) (l.limits.limitsFor tenant).tenant nowMs) fun reply =>
      .step (S := LimiterSig) (.release replica) fun _ => afterTenant l reply

/-- A call at its start. -/
def coming (l : RedisLimiter) (replica : ℕ) (tenant : String) : Prog LimiterSig Verdict :=
  .step (S := LimiterSig) .now fun nowMs =>
    .step (S := LimiterSig) (.queue replica) fun ticket =>
      .step (S := LimiterSig) (.acquire replica ticket) fun _ => sending l replica tenant nowMs

/-- A call of a tenant without quotas for its users. -/
theorem checkSteps_tenantOnly (replica : ℕ) (user : String)
    (hon : (l.limits.limitsFor tenant).tenant.isEnabled = true)
    (hoff : (l.limits.limitsFor tenant).perUser.isEnabled = false) :
    l.checkSteps replica tenant user = coming l replica tenant := by
  unfold RedisLimiter.checkSteps RedisLimiter.checkBucketSteps
  simp only [hon, hoff, Bool.not_true, Bool.false_and, Bool.false_eq_true, if_true, if_false]
  refine congrArg (Prog.step (S := LimiterSig) LimiterCmd.now) (funext fun nowMs => ?_)
  refine congrArg (Prog.step (S := LimiterSig) (.queue replica)) (funext fun ticket => ?_)
  refine congrArg (Prog.step (S := LimiterSig) (.acquire replica ticket)) (funext fun _ => ?_)
  refine congrArg (Prog.step (S := LimiterSig) (.eval _ _ nowMs)) (funext fun reply => ?_)
  refine congrArg (Prog.step (S := LimiterSig) (.release replica)) (funext fun _ => ?_)
  rcases reply with _ | _ | _
  · unfold afterTenant
    cases l.handleRedisError <;> rfl
  · rfl
  · rfl

section
variable {ι : Type} [DecidableEq ι] {c₀ c : Config LimiterSig ClusterState ι Verdict}
  {t : List (ClusterRecord ι)} {i : ι}

/-- The steps `more` lead the call `i` to `p`, and leave the other calls alone. -/
structure Advances (c₀ c : Config LimiterSig ClusterState ι Verdict) (i : ι)
    (p : Prog LimiterSig Verdict) (t more : List (ClusterRecord ι))
    (c' : Config LimiterSig ClusterState ι Verdict) : Prop where
  run : Run (clusterSemantics accurate) c₀ (t ++ more) c'
  clock : c'.shared.clock = c.shared.clock
  thread : c'.thread i = p
  others : ∀ j, j ≠ i → c'.thread j = c.thread j

/-- One more command of the call. -/
theorem Advances.cmd {c' : Config LimiterSig ClusterState ι Verdict} {k : LimiterCmd}
    {f : LimiterSig.Reply k → Prog LimiterSig Verdict} {more : List (ClusterRecord ι)}
    (h : Advances c₀ c i (.step (S := LimiterSig) k f) t more c') {r : LimiterSig.Reply k}
    {s' : ClusterState} (hcmd : (clusterSemantics accurate).cmd k c'.shared r s')
    (hclock : s'.clock = c'.shared.clock) :
    Advances c₀ c i (f r) t (more ++ [⟨some (i, ⟨k, r⟩), c'.shared, s'⟩])
      ⟨s', Function.update c'.thread i (f r)⟩ where
  run := by
    rw [← List.append_assoc]
    exact h.run.snoc (.cmd h.thread hcmd)
  clock := hclock.trans h.clock
  thread := Function.update_self _ _ _
  others j hj := (Function.update_of_ne hj _ _).trans (h.others j hj)

/-- The call goes on from where it came to. -/
theorem Advances.trans {c₁ c₂ : Config LimiterSig ClusterState ι Verdict}
    {p q : Prog LimiterSig Verdict} {more₁ more₂ : List (ClusterRecord ι)}
    (h₁ : Advances c₀ c i p t more₁ c₁) (h₂ : Advances c₀ c₁ i q (t ++ more₁) more₂ c₂) :
    Advances c₀ c i q t (more₁ ++ more₂) c₂ where
  run := by
    rw [← List.append_assoc]
    exact h₂.run
  clock := h₂.clock.trans h₁.clock
  thread := h₂.thread
  others j hj := (h₂.others j hj).trans (h₁.others j hj)

/-- In the steps no script on the tenant's key fails, and the bucket does not expire. -/
def Undisturbed (l : RedisLimiter) (tenant : String) (t : List (ClusterRecord ι)) : Prop :=
  ∀ rec ∈ t, (∀ x, stampOf (l.tenantKey tenant) rec ≠ some (x, none)) ∧
    Unexpired (l.tenantKey tenant) rec

omit [DecidableEq ι] in
/-- Two undisturbed parts make an undisturbed run. -/
theorem Undisturbed.append {t' : List (ClusterRecord ι)} (h : Undisturbed l tenant t)
    (h' : Undisturbed l tenant t') : Undisturbed l tenant (t ++ t') := by
  intro rec hrec
  rcases List.mem_append.mp hrec with hmem | hmem
  · exact h rec hmem
  · exact h' rec hmem

/-- A call reads the clock and gets the connection, which nobody has used. -/
theorem read_run (hrun : Run (clusterSemantics accurate) c₀ t c)
    (hth : c.thread i = coming l replica tenant) (hlock : c.shared.locks replica = ⟨0, 0⟩) :
    ∃ more c', Advances c₀ c i (sending l replica tenant c.shared.clock) t more c' ∧
      Undisturbed l tenant more ∧ c'.shared.db = c.shared.db ∧
      ∀ other, other ≠ replica → c'.shared.locks other = c.shared.locks other := by
  have hstart : Advances c₀ c i (coming l replica tenant) t [] c :=
    ⟨(List.append_nil t).symm ▸ hrun, rfl, hth, fun _ _ => rfl⟩
  have hread := hstart.cmd (r := c.shared.clock) ⟨rfl, rfl⟩ rfl
  have hqueued := hread.cmd (r := (c.shared.locks replica).next) ⟨rfl, rfl⟩ rfl
  -- The ticket that it has drawn is the one whose turn it is.
  have hturn : (c.shared.locks replica).next =
      ((c.shared.drawTicket replica).locks replica).serving := by
    simp [ClusterState.drawTicket, hlock]
  refine ⟨_, _, hqueued.cmd (r := ()) ⟨hturn, rfl⟩ rfl, ?_, rfl, fun other hother => ?_⟩
  · intro rec hrec
    simp only [List.nil_append, List.cons_append, List.mem_cons, List.not_mem_nil, or_false] at hrec
    rcases hrec with rfl | rfl | rfl <;> exact ⟨nofun, fun h => h⟩
  · exact Function.update_of_ne hother _ _

/-- The script of a call is executed, and the call ends. -/
theorem eval_run (hrun : Run (clusterSemantics accurate) c₀ t c) {nowMs : ℚ}
    (hth : c.thread i = sending l replica tenant nowMs) {answer : Bool} {b : RedisBucket}
    (hscript : tokenBucketScript (l.limits.limitsFor tenant).tenant.rpcsPerSecond
      (l.limits.limitsFor tenant).tenant.burst nowMs (c.shared.db (l.tenantKey tenant)) =
        (answer, b)) :
    ∃ more c', Advances c₀ c i (afterTenant l (some answer)) t more c' ∧
      Undisturbed l tenant more ∧
      (∃ rec ∈ more, stampOf (l.tenantKey tenant) rec = some (nowMs, some answer) ∧
        ∃ e, rec.actor = some (i, e)) ∧
      c'.shared.db (l.tenantKey tenant) = some b ∧
      ∀ other, other ≠ replica → c'.shared.locks other = c.shared.locks other := by
  have hstart : Advances c₀ c i (sending l replica tenant nowMs) t [] c :=
    ⟨(List.append_nil t).symm ▸ hrun, rfl, hth, fun _ _ => rfl⟩
  -- Redis executes the script, and the reply arrives.
  have hcmd : (clusterSemantics accurate).cmd
      (.eval (l.tenantKey tenant) (l.limits.limitsFor tenant).tenant nowMs) c.shared (some answer)
      { c.shared with db := Function.update c.shared.db (l.tenantKey tenant) (some b) } := by
    refine ⟨.none, ?_⟩
    rw [RedisLimiter.takeOne, hscript]
    rfl
  have hevaluated := hstart.cmd hcmd rfl
  have hstamp : ∀ s s', stampOf (l.tenantKey tenant) (⟨some (i, evaluated (l.tenantKey tenant)
      (l.limits.limitsFor tenant).tenant nowMs (some answer)), s, s'⟩ : ClusterRecord ι) =
        some (nowMs, some answer) := fun _ _ => if_pos rfl
  refine ⟨_, _, hevaluated.cmd (r := ()) rfl rfl, ?_,
    ⟨_, List.mem_cons_self, hstamp _ _, _, rfl⟩, Function.update_self _ _ _, fun other hother => ?_⟩
  · -- Neither step loses a reply or the bucket.
    have hbucket : Function.update c.shared.db (l.tenantKey tenant) (some b)
        (l.tenantKey tenant) ≠ none := by
      rw [Function.update_self]
      exact Option.some_ne_none b
    intro rec hrec
    simp only [List.nil_append, List.cons_append, List.mem_cons, List.not_mem_nil, or_false] at hrec
    rcases hrec with rfl | rfl
    · refine ⟨fun x hlost => ?_, fun _ => hbucket⟩
      cases (hstamp _ _).symm.trans hlost
    · refine ⟨fun x hlost => ?_, fun h => h⟩
      cases hlost
  · exact Function.update_of_ne hother _ _

/-- A call that comes when the time for one more token has come is admitted. -/
theorem present_run (hrun : Run (clusterSemantics accurate) c₀ t c)
    (hon : (l.limits.limitsFor tenant).tenant.isEnabled = true)
    (hth : c.thread i = coming l replica tenant) (hlock : c.shared.locks replica = ⟨0, 0⟩)
    (hclock : c.shared.clock = oneToken (l.limits.limitsFor tenant).tenant)
    (hbucket : ∀ b, c.shared.db (l.tenantKey tenant) = some b → b.ts = 0 ∧ 0 ≤ b.tokens) :
    ∃ more c', Advances c₀ c i (.ret .admitted) t more c' ∧ Undisturbed l tenant more ∧
      i ∈ actors (AnsweredIn (l.tenantKey tenant) (oneToken (l.limits.limitsFor tenant).tenant)
        (oneToken (l.limits.limitsFor tenant).tenant) (some true)) more ∧
      (∃ b, c'.shared.db (l.tenantKey tenant) = some b ∧ 0 ≤ b.tokens) ∧
      ∀ other, other ≠ replica → c'.shared.locks other = c.shared.locks other := by
  -- It reads the time and gets its connection.
  obtain ⟨more₁, c₁, hread, hquiet₁, hdb₁, hlocks₁⟩ := read_run hrun hth hlock
  have hsending := hread.thread
  rw [hclock] at hsending
  -- Its script is executed.
  obtain ⟨tokens, hscript, htokens⟩ := script_present hon hbucket
  rw [← hdb₁] at hscript
  obtain ⟨more₂, c₂, heval, hquiet₂, ⟨rec, hrec, hstamp, hact⟩, hdb₂, hlocks₂⟩ :=
    eval_run hread.run hsending hscript
  refine ⟨_, c₂, hread.trans heval, hquiet₁.append hquiet₂,
    ⟨rec, List.mem_append_right more₁ hrec, ⟨_, hstamp, le_refl _, le_refl _⟩, hact⟩,
    ⟨_, hdb₂, htokens⟩, fun other hother => ?_⟩
  rw [hlocks₂ other hother, hlocks₁ other hother]

/-- A call that has read the time zero sets the bucket back. -/
theorem stale_run (hrun : Run (clusterSemantics accurate) c₀ t c)
    (hon : (l.limits.limitsFor tenant).tenant.isEnabled = true)
    (hth : c.thread i = sending l replica tenant 0) {b : RedisBucket}
    (hb : c.shared.db (l.tenantKey tenant) = some b) (htokens : 0 ≤ b.tokens) :
    ∃ answer more c', Advances c₀ c i (afterTenant l (some answer)) t more c' ∧
      Undisturbed l tenant more ∧
      (∃ tokens, c'.shared.db (l.tenantKey tenant) = some ⟨tokens, 0⟩ ∧ 0 ≤ tokens) ∧
      ∀ other, other ≠ replica → c'.shared.locks other = c.shared.locks other := by
  have hrps : 0 ≤ (l.limits.limitsFor tenant).tenant.rpcsPerSecond :=
    (of_decide_eq_true (Bool.and_eq_true_iff.mp hon).1).le
  obtain ⟨answer, tokens, hscript, htokens'⟩ := script_stale htokens hrps
  rw [← hb] at hscript
  obtain ⟨more, c', heval, hquiet, -, hdb, hlocks⟩ := eval_run hrun hth hscript
  exact ⟨answer, more, c', heval, hquiet, ⟨tokens, hdb, htokens'⟩, hlocks⟩

end

end

/-! ### The rounds -/

section
variable {l : RedisLimiter} {tenant user : String}

/-- Each call has a replica of its own. -/
def replicaOf : ℕ ⊕ ℕ → ℕ
  | .inl i => 2 * i
  | .inr i => 2 * i + 1

/-- Different calls come to different replicas. -/
theorem replicaOf_ne {i j : ℕ ⊕ ℕ} (h : i ≠ j) : replicaOf i ≠ replicaOf j := by
  rcases i with i | i <;> rcases j with j | j <;> simp [replicaOf] at h ⊢ <;> omega

/-- Old calls on the right, new ones on the left. -/
def turns (l : RedisLimiter) (tenant user : String) (i : ℕ ⊕ ℕ) : CheckCall :=
  ⟨l, replicaOf i, tenant, user⟩

/-- After `k` of `n` rounds: the new calls of these rounds are admitted, the scripts of the old ones
of the others are under way, and the bucket was last asked by an old one. -/
structure Round (l : RedisLimiter) (tenant user : String) (n k : ℕ)
    (t : List (ClusterRecord (ℕ ⊕ ℕ))) (c : Config LimiterSig ClusterState (ℕ ⊕ ℕ) Verdict) :
    Prop where
  run : Run (clusterSemantics accurate) (cluster (turns l tenant user) (.fresh 0)) t c
  clock : c.shared.clock = oneToken (l.limits.limitsFor tenant).tenant
  admitted : ∀ i < k, c.thread (.inl i) = .ret .admitted ∧
    .inl i ∈ actors (AnsweredIn (l.tenantKey tenant) (oneToken (l.limits.limitsFor tenant).tenant)
      (oneToken (l.limits.limitsFor tenant).tenant) (some true)) t
  fresh : ∀ i, k ≤ i → c.thread (.inl i) = coming l (replicaOf (.inl i)) tenant ∧
    c.shared.locks (replicaOf (.inl i)) = ⟨0, 0⟩
  stale : ∀ i, k ≤ i → i < n → c.thread (.inr i) = sending l (replicaOf (.inr i)) tenant 0
  bucket : ∀ b, c.shared.db (l.tenantKey tenant) = some b → b.ts = 0 ∧ 0 ≤ b.tokens
  undisturbed : Undisturbed l tenant t

/-- The old calls read the time at the start. -/
theorem stale_read (user : String) (hon : (l.limits.limitsFor tenant).tenant.isEnabled = true)
    (hoff : (l.limits.limitsFor tenant).perUser.isEnabled = false) (n : ℕ) :
    ∃ t c, Run (clusterSemantics accurate) (cluster (turns l tenant user) (.fresh 0)) t c ∧
      c.shared.clock = 0 ∧ (∀ key, c.shared.db key = none) ∧
      (∀ i < n, c.thread (.inr i) = sending l (replicaOf (.inr i)) tenant 0) ∧
      (∀ i, (∀ j < n, i ≠ .inr j) → c.thread i = coming l (replicaOf i) tenant ∧
        c.shared.locks (replicaOf i) = ⟨0, 0⟩) ∧
      Undisturbed l tenant t := by
  induction n with
  | zero =>
    exact ⟨[], _, .nil, rfl, fun _ => rfl, fun _ h => absurd h (Nat.not_lt_zero _),
      fun i _ => ⟨checkSteps_tenantOnly (replicaOf i) user hon hoff, rfl⟩,
      fun _ h => absurd h List.not_mem_nil⟩
  | succ n ih =>
    obtain ⟨t, c, hrun, hclock, hdb, hstale, hrest, hnone⟩ := ih
    -- The next of the late calls reads the time zero and waits in its own replica.
    obtain ⟨hcoming, hlock⟩ := hrest (.inr n) fun j hj h => absurd (Sum.inr.inj h) (by omega)
    obtain ⟨more, c', hread, hquiet, hdb', hlocks⟩ := read_run hrun hcoming hlock
    refine ⟨_, c', hread.run, hread.clock.trans hclock, fun key => ?_, fun i hi => ?_,
      fun i hi => ?_, hnone.append hquiet⟩
    · rw [hdb']
      exact hdb key
    · by_cases hin : i = n
      · rw [hin, hread.thread, hclock]
      · exact (hread.others _ fun h => hin (Sum.inr.inj h)).trans (hstale i (by omega))
    · have hne : i ≠ .inr n := hi n (Nat.lt_succ_self n)
      obtain ⟨hthread, hfree⟩ := hrest i fun j hj => hi j (by omega)
      exact ⟨(hread.others i hne).trans hthread, (hlocks _ (replicaOf_ne hne)).trans hfree⟩

/-- One round: a new call reads the time and is admitted, and an old one sets the bucket back. -/
theorem Round.next {n k : ℕ} {t : List (ClusterRecord (ℕ ⊕ ℕ))}
    {c : Config LimiterSig ClusterState (ℕ ⊕ ℕ) Verdict} (h : Round l tenant user n k t c)
    (hon : (l.limits.limitsFor tenant).tenant.isEnabled = true) (hk : k < n) :
    ∃ t' c', Round l tenant user n (k + 1) t' c' := by
  -- The new call is admitted.
  obtain ⟨hcoming, hlock⟩ := h.fresh k (le_refl k)
  obtain ⟨more₁, c₁, hnew, hquiet₁, hactor₁, ⟨b, hb, htokens⟩, hlocks₁⟩ :=
    present_run h.run hon hcoming hlock h.clock h.bucket
  -- The script of the old call is executed.
  have hwaits : c₁.thread (.inr k) = sending l (replicaOf (.inr k)) tenant 0 :=
    (hnew.others _ Sum.inr_ne_inl).trans (h.stale k (le_refl k) hk)
  obtain ⟨_, more₂, c₂, hold, hquiet₂, ⟨tokens, hdb, htokens'⟩, hlocks₂⟩ :=
    stale_run hnew.run hon hwaits hb htokens
  -- The calls of the other rounds have not moved.
  have hothers : ∀ i : ℕ ⊕ ℕ, i ≠ .inl k → i ≠ .inr k → c₂.thread i = c.thread i ∧
      c₂.shared.locks (replicaOf i) = c.shared.locks (replicaOf i) := by
    intro i hinl hinr
    constructor
    · rw [hold.others i hinr, hnew.others i hinl]
    · rw [hlocks₂ _ (replicaOf_ne hinr), hlocks₁ _ (replicaOf_ne hinl)]
  refine ⟨_, c₂, hold.run, ?_, fun i hi => ?_, fun i hi => ?_, fun i hi hin => ?_, fun b hb => ?_,
    (h.undisturbed.append hquiet₁).append hquiet₂⟩
  · rw [hold.clock, hnew.clock, h.clock]
  · simp only [actors_append, Set.mem_union]
    by_cases hik : i = k
    · subst hik
      exact ⟨(hold.others _ Sum.inl_ne_inr).trans hnew.thread, .inl (.inr hactor₁)⟩
    · obtain ⟨hadmitted, hactor⟩ := h.admitted i (by omega)
      have hne : (.inl i : ℕ ⊕ ℕ) ≠ .inl k := fun heq => hik (Sum.inl.inj heq)
      exact ⟨(hothers _ hne Sum.inl_ne_inr).1.trans hadmitted, .inl (.inl hactor)⟩
  · have hne : (.inl i : ℕ ⊕ ℕ) ≠ .inl k := fun heq => absurd (Sum.inl.inj heq) (by omega)
    obtain ⟨hthread, hfree⟩ := h.fresh i (by omega)
    exact ⟨(hothers _ hne Sum.inl_ne_inr).1.trans hthread,
      (hothers _ hne Sum.inl_ne_inr).2.trans hfree⟩
  · have hne : (.inr i : ℕ ⊕ ℕ) ≠ .inr k := fun heq => absurd (Sum.inr.inj heq) (by omega)
    exact (hothers _ Sum.inr_ne_inl hne).1.trans (h.stale i (by omega) hin)
  · rw [hdb] at hb
    cases hb
    exact ⟨rfl, htokens'⟩

/-- Any number of rounds. -/
theorem rounds (user : String) (hon : (l.limits.limitsFor tenant).tenant.isEnabled = true)
    (hoff : (l.limits.limitsFor tenant).perUser.isEnabled = false) (n : ℕ) :
    ∃ t c, Round l tenant user n n t c := by
  suffices hrounds : ∀ k ≤ n, ∃ t c, Round l tenant user n k t c from hrounds n (le_refl n)
  intro k
  induction k with
  | zero =>
    intro _
    obtain ⟨t, c, hrun, hclock, hdb, hstale, hfresh, hquiet⟩ := stale_read user hon hoff n
    -- Then the time comes for one more token.
    have hmoves : (clusterSemantics accurate).env c.shared
        { c.shared with clock := oneToken (l.limits.limitsFor tenant).tenant } := by
      refine ⟨?_, fun _ => .inl rfl, rfl⟩
      rw [hclock]
      exact (oneToken_pos hon).le
    refine ⟨_, _, hrun.snoc (.env hmoves), rfl, fun i hi => absurd hi (Nat.not_lt_zero i),
      fun i _ => hfresh (.inl i) fun j _ => Sum.inl_ne_inr, fun i _ hi => hstale i hi,
      fun b hb => ?_, hquiet.append fun rec hrec => ?_⟩
    · exact absurd (hdb _ ▸ hb : none = some b) (by simp)
    · rw [List.mem_singleton.mp hrec]
      exact ⟨nofun, fun h => h⟩
  | succ k ih =>
    intro hk
    obtain ⟨t, c, hround⟩ := ih (by omega)
    exact hround.next hon (by omega)

/-- **Without order the quota has no bound.** A tenant with a quota and without quotas for its
users, replicas with accurate clocks and one call each: for any `n` there is a run without faults on
the tenant's bucket, and in which it does not expire, such that `n` calls with the same time are
admitted. -/
theorem staleStamps_exceed (hon : (l.limits.limitsFor tenant).tenant.isEnabled = true)
    (hoff : (l.limits.limitsFor tenant).perUser.isEnabled = false) (n : ℕ) :
    ∃ moment t c,
      Run (clusterSemantics accurate) (cluster (turns l tenant user) (.fresh 0)) t c ∧
      Undisturbed l tenant t ∧
      n ≤ (admittedCalls l (turns l tenant user) tenant moment moment t c).ncard := by
  obtain ⟨t, c, hround⟩ := rounds user hon hoff n
  refine ⟨oneToken (l.limits.limitsFor tenant).tenant, t, c, hround.run, hround.undisturbed, ?_⟩
  -- The first call of each round was admitted at this time.
  have hsubset : Sum.inl '' (Finset.range n : Set ℕ) ⊆ admittedCalls l (turns l tenant user) tenant
      (oneToken (l.limits.limitsFor tenant).tenant)
      (oneToken (l.limits.limitsFor tenant).tenant) t c := by
    rintro _ ⟨i, hi, rfl⟩
    obtain ⟨hret, hactor⟩ := hround.admitted i (Finset.mem_range.mp hi)
    exact ⟨rfl, hret, some true, hactor⟩
  have hfinite : (admittedCalls l (turns l tenant user) tenant
      (oneToken (l.limits.limitsFor tenant).tenant)
      (oneToken (l.limits.limitsFor tenant).tenant) t c).Finite := by
    refine (finite_actors (fun _ => True) t).subset ?_
    rintro i ⟨-, -, reply, rec, hrec, -, hact⟩
    exact ⟨rec, hrec, trivial, hact⟩
  have hcard := Set.ncard_le_ncard hsubset hfinite
  rwa [Set.ncard_image_of_injective _ Sum.inl_injective, Set.ncard_coe_finset,
    Finset.card_range] at hcard

end

/-- Three calls at one moment, where the quota is one. -/
theorem staleStamps_exceed_sixReplicas : ∃ moment t c,
    Run (clusterSemantics accurate)
      (cluster (turns OneReplica.limiter "team-a" "alice") (.fresh 0)) t c ∧
    3 ≤ (admittedCalls OneReplica.limiter (turns OneReplica.limiter "team-a" "alice") "team-a"
      moment moment t c).ncard := by
  have hon : (OneReplica.limiter.limits.limitsFor "team-a").tenant.isEnabled = true := by
    decide +kernel
  have hoff : (OneReplica.limiter.limits.limitsFor "team-a").perUser.isEnabled = false := by
    decide +kernel
  obtain ⟨moment, t, c, hrun, -, hcard⟩ := staleStamps_exceed hon hoff 3
  exact ⟨moment, t, c, hrun, hcard⟩

end SparkGateway.Proofs.RateLimit

import SparkGateway.Proofs.Serving.Guards

/-!
# `SparkGateway.Proofs.Serving.Drain`: when the servers are told to stop

The shutdown task of `main` moves among the RPCs, and RPCs begin and end while it drains.
`drain_cases` says what one step of a run can do to it.

* `shutdown_sound`: the servers are told to stop only after a signal. A drain that is reported as
  complete has seen a moment after the signal at which no RPC held a stream guard, and one that is
  reported as forced has lasted the whole deadline. From `mark_not_ready` on `/readyz` answers 503.
* `shutdown_prompt`: a task that is polled in time is done at the deadline, and it is done one look
  after the last stream has ended, even if RPCs went on beginning before that.

`Progress` is the invariant of the first, over the steps of the run so far. The second one is about
a run whose clock does not go on while the task can move (`Timely`). A timer may fire late by
`slack`. `Within` is its invariant: the latest time at which the task can stand where it stands.
-/

set_option autoImplicit false

namespace SparkGateway.Proofs.Serving

open SparkGateway.Lib
open SparkGateway.Spec

section
variable {P : PoolId → PoolModel} {limits : LimiterConfig} {deadlineMs : ℕ} {ι : Type}
  [DecidableEq ι] {gw : Gateway MemorySig} {rpc : ι → Rpc} {s : ServerState P}
  {t before after : List (ServerRecord P ι)} {rec sig : ServerRecord P ι}
  {c c' : Config (ServeSig MemorySig) (ServerState P) ι (Option (Except Status Response))}

/-! ### One step -/

/-- What a step can do to the shutdown task, to the readiness and to the clock. -/
theorem drain_cases (hstep : Step (serverSemantics P limits deadlineMs) c rec c') :
    (rec.post.drain = rec.pre.drain ∧ rec.post.ready = rec.pre.ready ∧
      (rec.post.time = rec.pre.time ∨ rec.post.time = rec.pre.time + 1)) ∨
    (rec.pre.drain = .awaitSignal ∧ rec.post = { rec.pre with drain := .signalled }) ∨
    (rec.pre.drain = .signalled ∧
      rec.post = { rec.pre with drain := .notReady, ready := false }) ∨
    ∃ d, rec.pre.drain.next deadlineMs rec.pre.time rec.pre.activeStreams = some d ∧
      rec.post = { rec.pre with drain := d } := by
  cases hstep with
  | @cmd i cmd k r s' hth hcmd =>
    rcases cmd with cmd | cmd
    · -- The steps of an RPC leave the shutdown task, the flag and the clock alone.
      obtain ⟨p, -, rfl⟩ := hcmd
      exact .inl ⟨rfl, rfl, .inl rfl⟩
    · cases cmd with
      | suspend =>
        obtain rfl : s' = c.shared := hcmd
        exact .inl ⟨rfl, rfl, .inl rfl⟩
      | inc =>
        obtain rfl : s' = { c.shared with activeStreams := c.shared.activeStreams + 1 } := hcmd
        exact .inl ⟨rfl, rfl, .inl rfl⟩
      | dec =>
        obtain rfl : s' = { c.shared with activeStreams := c.shared.activeStreams - 1 } := hcmd
        exact .inl ⟨rfl, rfl, .inl rfl⟩
  | env henv =>
    cases henv with
    | pool _ => exact .inl ⟨rfl, rfl, .inl rfl⟩
    | tick => exact .inl ⟨rfl, rfl, .inr rfl⟩
    | signal h => exact .inr (.inl ⟨h, rfl⟩)
    | markNotReady h => exact .inr (.inr (.inl ⟨h, rfl⟩))
    | drain h => exact .inr (.inr (.inr ⟨_, h, rfl⟩))

/-! ### What a drain has seen -/

/-- The step at which the signal arrives. -/
def IsSignal (rec : ServerRecord P ι) : Prop :=
  rec.pre.drain = .awaitSignal ∧ rec.post.drain = .signalled

/-- The signal arrived at the time `since`. -/
def SignalAt (t : List (ServerRecord P ι)) (since : ℕ) : Prop :=
  ∃ before sig after, t = before ++ sig :: after ∧ IsSignal sig ∧ sig.pre.time = since

/-- After the signal there was a moment without an open stream. -/
def Emptied (t : List (ServerRecord P ι)) : Prop :=
  ∃ before sig mid rest, t = before ++ sig :: (mid ++ rest) ∧ IsSignal sig ∧
    openStreams (before ++ sig :: mid) = ∅

omit [DecidableEq ι] in
/-- The signal stays in a longer run. -/
theorem SignalAt.snoc {since : ℕ} (h : SignalAt t since) (rec : ServerRecord P ι) :
    SignalAt (t ++ [rec]) since := by
  obtain ⟨before, sig, after, rfl, hsig, htime⟩ := h
  exact ⟨before, sig, after ++ [rec], by simp, hsig, htime⟩

/-- The moment without an open stream stays in a longer run. -/
theorem Emptied.snoc (h : Emptied t) (rec : ServerRecord P ι) : Emptied (t ++ [rec]) := by
  obtain ⟨before, sig, mid, rest, rfl, hsig, hempty⟩ := h
  exact ⟨before, sig, mid, rest ++ [rec], by simp, hsig, hempty⟩

/-- How a wait has ended. -/
def WaitEnded (deadlineMs : ℕ) (t : List (ServerRecord P ι)) (time : ℕ) : Bool → Prop
  | true => Emptied t
  | false => ∃ since, SignalAt t since ∧ since + deadlineMs ≤ time

/-- What the place of the task says about the steps so far. -/
def Progress (deadlineMs : ℕ) (t : List (ServerRecord P ι)) (s : ServerState P) : Prop :=
  match s.drain with
  | .awaitSignal => True
  | .signalled => ∃ since, SignalAt t since ∧ since ≤ s.time
  | .notReady => s.ready = false ∧ ∃ since, SignalAt t since ∧ since ≤ s.time
  | .polling deadline | .sleeping deadline _ =>
      s.ready = false ∧ ∃ since, SignalAt t since ∧ since + deadlineMs ≤ deadline
  | .reporting drained | .stopping drained _ | .stopped drained _ =>
      s.ready = false ∧ WaitEnded deadlineMs t s.time drained

/-- A wait that has ended stays ended as time goes on. -/
theorem WaitEnded.snoc {time time' : ℕ} {drained : Bool} (h : WaitEnded deadlineMs t time drained)
    (htime : time ≤ time') (rec : ServerRecord P ι) :
    WaitEnded deadlineMs (t ++ [rec]) time' drained := by
  cases drained with
  | true => exact Emptied.snoc h rec
  | false =>
    obtain ⟨since, hsig, hsince⟩ := h
    exact ⟨since, hsig.snoc rec, by omega⟩

/-- A step that leaves the task alone. -/
theorem Progress.frame {s s' : ServerState P} (h : Progress deadlineMs t s)
    (hdrain : s'.drain = s.drain) (hready : s'.ready = s.ready) (htime : s.time ≤ s'.time)
    (rec : ServerRecord P ι) : Progress deadlineMs (t ++ [rec]) s' := by
  -- Each place is kept by a longer run, and by a later time.
  unfold Progress at h ⊢
  rw [hdrain, hready]
  cases hd : s.drain with
  | awaitSignal => trivial
  | signalled =>
    rw [hd] at h
    obtain ⟨since, hsig, hle⟩ := h
    exact ⟨since, hsig.snoc rec, by omega⟩
  | notReady =>
    rw [hd] at h
    obtain ⟨hr, since, hsig, hle⟩ := h
    exact ⟨hr, since, hsig.snoc rec, by omega⟩
  | polling _ | sleeping _ _ =>
    rw [hd] at h
    obtain ⟨hr, since, hsig, hle⟩ := h
    exact ⟨hr, since, hsig.snoc rec, hle⟩
  | reporting _ | stopping _ _ | stopped _ _ =>
    rw [hd] at h
    exact ⟨h.1, h.2.snoc htime rec⟩

/-- A step of the task. The gauge is read at a moment without an open stream if it is zero. -/
theorem Progress.next {s : ServerState P} {d : DrainTask} (h : Progress deadlineMs t s)
    (hnext : s.drain.next deadlineMs s.time s.activeStreams = some d)
    (hopen : s.activeStreams ≤ 0 → openStreams t = ∅) (rec : ServerRecord P ι) :
    Progress deadlineMs (t ++ [rec]) { s with drain := d } := by
  unfold Progress at h
  cases hd : s.drain with
  | awaitSignal | signalled | stopped _ _ =>
    rw [hd] at hnext
    cases hnext
  | notReady =>
    rw [hd] at h hnext
    -- The deadline counts from now, which is not before the signal.
    obtain ⟨hr, since, hsig, hle⟩ := h
    obtain rfl : DrainTask.polling (s.time + deadlineMs) = d := Option.some.inj hnext
    exact ⟨hr, since, hsig.snoc rec, by omega⟩
  | polling deadline =>
    rw [hd] at h hnext
    obtain ⟨hr, since, hsig, hle⟩ := h
    simp only [DrainTask.next, Option.some.injEq] at hnext
    split at hnext
    · -- The gauge was read as zero, so no stream was open at this moment.
      rename_i hzero
      subst hnext
      obtain ⟨before, sig, after, rfl, hsig, -⟩ := hsig
      exact ⟨hr, before, sig, after, [rec], by simp, hsig, hopen hzero⟩
    · subst hnext
      exact ⟨hr, since, hsig.snoc rec, hle⟩
  | sleeping deadline wake =>
    rw [hd] at h hnext
    obtain ⟨hr, since, hsig, hle⟩ := h
    simp only [DrainTask.next] at hnext
    split at hnext
    · obtain rfl := Option.some.inj hnext
      exact ⟨hr, since, hsig.snoc rec, hle⟩
    · split at hnext
      · -- The deadline has passed: the task gives up waiting.
        rename_i hdeadline
        obtain rfl := Option.some.inj hnext
        exact ⟨hr, since, hsig.snoc rec, hle.trans hdeadline⟩
      · cases hnext
  | reporting drained =>
    rw [hd] at h hnext
    obtain rfl : DrainTask.stopping drained s.activeStreams = d := Option.some.inj hnext
    exact ⟨h.1, h.2.snoc le_rfl rec⟩
  | stopping drained finalActive =>
    rw [hd] at h hnext
    obtain rfl : DrainTask.stopped drained finalActive = d := Option.some.inj hnext
    exact ⟨h.1, h.2.snoc le_rfl rec⟩

/-- Every step keeps the invariant. -/
theorem Progress.step (h : Progress deadlineMs t c.shared)
    (hstep : Step (serverSemantics P limits deadlineMs) c rec c')
    (hopen : c.shared.activeStreams ≤ 0 → openStreams t = ∅) :
    Progress deadlineMs (t ++ [rec]) c'.shared := by
  rw [← hstep.shared.1] at h hopen
  rw [← hstep.shared.2]
  rcases drain_cases hstep with ⟨hdrain, hready, htime⟩ | ⟨hpre, hpost⟩ | ⟨hpre, hpost⟩ |
    ⟨d, hnext, hpost⟩
  · exact h.frame hdrain hready (by omega) rec
  · rw [hpost]
    exact ⟨rec.pre.time, ⟨t, rec, [], rfl, ⟨hpre, by rw [hpost]⟩, rfl⟩, le_rfl⟩
  · rw [hpost]
    unfold Progress at h
    rw [hpre] at h
    obtain ⟨since, hsig, hle⟩ := h
    exact ⟨rfl, since, hsig.snoc rec, hle⟩
  · rw [hpost]
    exact h.next hnext hopen rec

/-- A gauge at zero means that no stream is open. -/
theorem openStreams_empty
    (hrun : Run (serverSemantics P limits deadlineMs) (server gw rpc s) t c)
    (hstart : s.activeStreams = 0) (hzero : c.shared.activeStreams ≤ 0) : openStreams t = ∅ := by
  obtain ⟨hfin, hcard⟩ := ncard_openStreams hrun hstart
  exact (Set.ncard_eq_zero hfin).mp (by omega)

/-- Every run keeps the invariant. -/
theorem progress_run (hrun : Run (serverSemantics P limits deadlineMs) (server gw rpc s) t c)
    (hstart : s.activeStreams = 0) (hwait : s.drain = .awaitSignal) :
    Progress deadlineMs t c.shared := by
  induction hrun with
  | nil =>
    show Progress deadlineMs [] s
    unfold Progress
    rw [hwait]
    trivial
  | snoc hrun hstep ih => exact ih.step hstep (openStreams_empty hrun hstart)

/-- **When the servers are stopped.** Take any run of a process that starts without streams and
without a signal. From `mark_not_ready` on `/readyz` answers 503. If the servers have been told to
stop, a signal arrived before. A drain that is reported as complete has then seen a moment after the
signal at which no RPC held a stream guard, and one that is reported as forced ends no earlier than
the deadline after the signal. -/
theorem shutdown_sound (hrun : Run (serverSemantics P limits deadlineMs) (server gw rpc s) t c)
    (hstart : s.activeStreams = 0) (hwait : s.drain = .awaitSignal) :
    (c.shared.drain ≠ .awaitSignal → c.shared.drain ≠ .signalled →
      ∀ metrics, adminHandle .get "/readyz" metrics c.shared.ready = ⟨503, "not ready"⟩) ∧
    ∀ drained finalActive, c.shared.drain = .stopped drained finalActive →
      ∃ before sig after, t = before ++ sig :: after ∧ IsSignal sig ∧
        match drained with
        | true => ∃ mid rest, after = mid ++ rest ∧ openStreams (before ++ sig :: mid) = ∅
        | false => sig.pre.time + deadlineMs ≤ c.shared.time := by
  have hprogress := progress_run hrun hstart hwait
  unfold Progress at hprogress
  constructor
  · -- Past the first two places the flag is down.
    intro hne hne' metrics
    have hready : c.shared.ready = false := by
      cases hd : c.shared.drain with
      | awaitSignal => exact absurd hd hne
      | signalled => exact absurd hd hne'
      | _ =>
        rw [hd] at hprogress
        exact hprogress.1
    rw [hready]
    rfl
  · -- The place says how the wait has ended.
    intro drained finalActive hd
    rw [hd] at hprogress
    obtain ⟨-, hend⟩ := hprogress
    cases drained with
    | true =>
      obtain ⟨before, sig, mid, rest, rfl, hsig, hempty⟩ := hend
      exact ⟨before, sig, _, rfl, hsig, mid, rest, rfl, hempty⟩
    | false =>
      obtain ⟨since, ⟨before, sig, after, rfl, hsig, rfl⟩, hle⟩ := hend
      exact ⟨before, sig, after, rfl, hsig, hle⟩

/-! ### How long it takes -/

/-- The task waits for something at the time `now`. A timer may be late by `slack`. -/
def CanWait (slack now : ℕ) : DrainTask → Prop
  | .awaitSignal | .stopped _ _ => True
  | .sleeping deadline wake => now < min deadline wake + slack
  | _ => False

/-- The clock goes on only while the task waits. -/
def Timely (slack : ℕ) (t : List (ServerRecord P ι)) : Prop :=
  ∀ rec ∈ t, rec.post.time ≠ rec.pre.time → CanWait slack rec.pre.time rec.pre.drain

/-- Where the task can stand at which time, if the signal arrived at `since` and the gauge is zero
from `quiet` on. -/
def Within (slack deadlineMs since quiet : ℕ) (s : ServerState P) : Prop :=
  match s.drain with
  | .awaitSignal => False
  | .signalled | .notReady => s.time = since
  | .polling deadline =>
      deadline = since + deadlineMs ∧ s.time ≤ deadline + slack ∧
        s.time ≤ max since quiet + drainPoll + slack
  | .sleeping deadline wake =>
      deadline = since + deadlineMs ∧ s.time ≤ min deadline wake + slack ∧
        wake ≤ max since quiet + drainPoll
  | .reporting drained | .stopping drained _ =>
      s.time ≤ since + deadlineMs + slack ∧ s.time ≤ max since quiet + drainPoll + slack ∧
        (max since quiet + drainPoll + slack < since + deadlineMs → drained = true)
  | .stopped drained _ =>
      max since quiet + drainPoll + slack < since + deadlineMs → drained = true

variable {slack since quiet : ℕ}

/-- A step that leaves the task alone. -/
theorem Within.frame {s s' : ServerState P} (h : Within slack deadlineMs since quiet s)
    (hdrain : s'.drain = s.drain)
    (htime : s'.time = s.time ∨ s'.time = s.time + 1 ∧ CanWait slack s.time s.drain) :
    Within slack deadlineMs since quiet s' := by
  unfold Within at h ⊢
  rw [hdrain]
  rcases htime with htime | ⟨htime, hwait⟩
  · rw [htime]
    exact h
  · -- Time passes only while the task awaits the signal or sleeps, or when it is over.
    cases hd : s.drain with
    | awaitSignal =>
      rw [hd] at h
      exact h
    | sleeping deadline wake =>
      rw [hd] at h hwait
      have hlt : s.time < min deadline wake + slack := hwait
      exact ⟨h.1, by omega, h.2.2⟩
    | stopped drained finalActive =>
      rw [hd] at h
      exact h
    | _ =>
      rw [hd] at hwait
      exact hwait.elim

/-- A step of the task. -/
theorem Within.next {s : ServerState P} {d : DrainTask}
    (h : Within slack deadlineMs since quiet s)
    (hnext : s.drain.next deadlineMs s.time s.activeStreams = some d)
    (hquiet : quiet ≤ s.time → s.activeStreams ≤ 0) :
    Within slack deadlineMs since quiet { s with drain := d } := by
  unfold Within at h
  cases hd : s.drain with
  | awaitSignal | signalled | stopped _ _ =>
    rw [hd] at hnext
    cases hnext
  | notReady =>
    rw [hd] at h hnext
    obtain rfl : DrainTask.polling (s.time + deadlineMs) = d := Option.some.inj hnext
    have hnow : s.time = since := h
    exact ⟨by omega, show s.time ≤ s.time + deadlineMs + slack by omega,
      show s.time ≤ max since quiet + drainPoll + slack by omega⟩
  | polling deadline =>
    rw [hd] at h hnext
    obtain ⟨hdeadline, hle, hle'⟩ := h
    simp only [DrainTask.next, Option.some.injEq] at hnext
    split at hnext
    · subst hnext
      exact ⟨show s.time ≤ since + deadlineMs + slack by omega, hle', fun _ => rfl⟩
    · -- A stream is open, so the time is before `quiet`.
      rename_i hopen
      subst hnext
      have hbefore : s.time < quiet := Nat.lt_of_not_le fun hle => hopen (hquiet hle)
      exact ⟨hdeadline, show s.time ≤ min deadline (s.time + drainPoll) + slack by omega,
        show s.time + drainPoll ≤ max since quiet + drainPoll by omega⟩
  | sleeping deadline wake =>
    rw [hd] at h hnext
    obtain ⟨hdeadline, hle, hwake⟩ := h
    simp only [DrainTask.next] at hnext
    split at hnext
    · obtain rfl := Option.some.inj hnext
      exact ⟨hdeadline, show s.time ≤ deadline + slack by omega,
        show s.time ≤ max since quiet + drainPoll + slack by omega⟩
    · split at hnext
      · obtain rfl := Option.some.inj hnext
        refine ⟨show s.time ≤ since + deadlineMs + slack by omega,
          show s.time ≤ max since quiet + drainPoll + slack by omega, fun hearly => ?_⟩
        -- The loop would have looked before the deadline.
        omega
      · cases hnext
  | reporting drained =>
    rw [hd] at h hnext
    obtain rfl : DrainTask.stopping drained s.activeStreams = d := Option.some.inj hnext
    exact h
  | stopping drained finalActive =>
    rw [hd] at h hnext
    obtain rfl : DrainTask.stopped drained finalActive = d := Option.some.inj hnext
    exact h.2.2

/-- Every step keeps the bounds. -/
theorem Within.step (h : Within slack deadlineMs since quiet rec.pre)
    (hstep : Step (serverSemantics P limits deadlineMs) c rec c')
    (htimely : rec.post.time ≠ rec.pre.time → CanWait slack rec.pre.time rec.pre.drain)
    (hquiet : quiet ≤ rec.pre.time → rec.pre.activeStreams ≤ 0) :
    Within slack deadlineMs since quiet rec.post := by
  rcases drain_cases hstep with ⟨hdrain, -, htime⟩ | ⟨hpre, hpost⟩ | ⟨hpre, hpost⟩ |
    ⟨d, hnext, hpost⟩
  · refine h.frame hdrain (htime.imp_right fun hplus => ⟨hplus, htimely (by omega)⟩)
  · unfold Within at h
    rw [hpre] at h
    exact h.elim
  · unfold Within at h
    rw [hpre] at h
    rw [hpost]
    exact h
  · rw [hpost]
    exact h.next hnext hquiet

/-- After the signal the bounds hold for every step. -/
theorem within_run (quiet : ℕ)
    (hrun : Run (serverSemantics P limits deadlineMs) (server gw rpc s)
      (before ++ sig :: after) c)
    (hsig : IsSignal sig) (htimely : Timely slack after)
    (hquiet : ∀ rec ∈ after, quiet ≤ rec.pre.time → rec.pre.activeStreams ≤ 0) :
    Within slack deadlineMs sig.pre.time quiet c.shared := by
  obtain ⟨c₁, c₂, -, hstep, hrest⟩ := hrun.step_at
  -- Of the four kinds of steps only the signal itself fits.
  have hstart : Within slack deadlineMs sig.pre.time quiet c₂.shared := by
    rw [← hstep.shared.2]
    unfold Within
    rw [hsig.2]
    rcases drain_cases hstep with ⟨hdrain, -⟩ | ⟨-, hpost⟩ | ⟨hpre, -⟩ | ⟨d, hnext, -⟩
    · rw [hsig.1, hsig.2] at hdrain
      cases hdrain
    · rw [hpost]
    · rw [hsig.1] at hpre
      cases hpre
    · rw [hsig.1] at hnext
      cases hnext
  refine hrest.invariant (fun rec hrec hpre => ?_) hstart
  obtain ⟨d₁, d₂, hstep'⟩ := hrest.step_of_mem hrec
  exact hpre.step hstep' (htimely rec hrec) (hquiet rec hrec)

/-- The clock does not go back. -/
theorem time_le_step (hstep : Step (serverSemantics P limits deadlineMs) c rec c') :
    rec.pre.time ≤ rec.post.time := by
  rcases drain_cases hstep with ⟨-, -, htime⟩ | ⟨-, hpost⟩ | ⟨-, hpost⟩ | ⟨d, -, hpost⟩
  · omega
  all_goals rw [hpost]

/-- No step is later than the end of the run. -/
theorem time_le_of_mem (hrun : Run (serverSemantics P limits deadlineMs) c t c')
    (hrec : rec ∈ t) : rec.pre.time ≤ c'.shared.time := by
  obtain ⟨t₁, t₂, rfl⟩ := List.append_of_mem hrec
  obtain ⟨c₁, c₂, -, hstep, hrest⟩ := hrun.step_at
  refine hrest.invariant (P := fun u => rec.pre.time ≤ u.time) (fun rec' hrec' hle => ?_) ?_
  · obtain ⟨d₁, d₂, hstep'⟩ := hrest.step_of_mem hrec'
    exact hle.trans (time_le_step hstep')
  · rw [← hstep.shared.2]
    exact time_le_step hstep

/-- A time that is too late for any other place. -/
theorem Within.stopped {s : ServerState P} (h : Within slack deadlineMs since quiet s)
    (hlate : since + deadlineMs + slack < s.time ∨
      max since quiet + drainPoll + slack < s.time) :
    ∃ drained finalActive, s.drain = .stopped drained finalActive ∧
      (max since quiet + drainPoll + slack < since + deadlineMs → drained = true) := by
  unfold Within at h
  cases hd : s.drain with
  | stopped drained finalActive =>
    rw [hd] at h
    exact ⟨drained, finalActive, rfl, h⟩
  | awaitSignal =>
    rw [hd] at h
    exact h.elim
  | signalled | notReady =>
    rw [hd] at h
    have hnow : s.time = since := h
    omega
  | polling _ | sleeping _ _ | reporting _ | stopping _ _ =>
    rw [hd] at h
    dsimp only at h
    omega

/-- **The drain ends in time.** Take any run in which a signal arrives, and in which the clock goes
on only while the shutdown task waits, with timers that are late by at most `slack`. After the
deadline the servers have been told to stop. If no RPC holds a stream guard from the time `quiet`
on, they have been told to stop one look later, and the drain is reported as complete if that look
comes before the deadline. -/
theorem shutdown_prompt
    (hrun : Run (serverSemantics P limits deadlineMs) (server gw rpc s)
      (before ++ sig :: after) c)
    (hstart : s.activeStreams = 0) (hsig : IsSignal sig) (htimely : Timely slack after) :
    (sig.pre.time + deadlineMs + slack < c.shared.time →
      ∃ drained finalActive, c.shared.drain = .stopped drained finalActive) ∧
    ∀ quiet, sig.pre.time ≤ quiet →
      (∀ mid rec rest, after = mid ++ rec :: rest → quiet ≤ rec.pre.time →
        openStreams (before ++ sig :: mid) = ∅) →
      quiet + drainPoll + slack < c.shared.time →
      ∃ drained finalActive, c.shared.drain = .stopped drained finalActive ∧
        (quiet + drainPoll + slack < sig.pre.time + deadlineMs → drained = true) := by
  constructor
  · intro hlate
    -- Nothing is known of the streams, so they may have been open until now.
    have hwithin := within_run (c.shared.time + 1) hrun hsig htimely fun rec hrec hlater => by
      have hpast := time_le_of_mem hrun
        (List.mem_append_right before (List.mem_cons_of_mem sig hrec))
      omega
    obtain ⟨drained, finalActive, hstop, -⟩ := hwithin.stopped (.inl hlate)
    exact ⟨drained, finalActive, hstop⟩
  · intro quiet hsince hempty hlate
    have hwithin := within_run quiet hrun hsig htimely fun rec hrec hquiet => by
      obtain ⟨mid, rest, rfl⟩ := List.append_of_mem hrec
      have hnone := hempty mid rec rest rfl hquiet
      rw [← List.cons_append, ← List.append_assoc] at hrun
      obtain ⟨c₁, c₂, hprev, hstep, -⟩ := hrun.step_at
      rw [hstep.shared.1, (ncard_openStreams hprev hstart).2, hnone, Set.ncard_empty]
      rfl
    have hmax : max sig.pre.time quiet = quiet := max_eq_right hsince
    have hstop := hwithin.stopped (.inr (by rw [hmax]; exact hlate))
    rw [hmax] at hstop
    exact hstop

end

/-! ### Two plans at the time of a signal -/

/-- Some milliseconds pass. -/
theorem through_ticks {P : PoolId → PoolModel} {limits : LimiterConfig} {deadlineMs : ℕ}
    {ι α : Type} [DecidableEq ι] {Q : ServerRecord P ι → Prop} {s : ServerState P}
    {thread : ι → Prog (ServeSig MemorySig) α}
    {R : Config (ServeSig MemorySig) (ServerState P) ι α → Prop} (n : ℕ)
    (hQ : ∀ k < n, Q ⟨none, { s with time := s.time + k }, { s with time := s.time + k + 1 }⟩)
    (h : Through (serverSemantics P limits deadlineMs) Q
      ⟨{ s with time := s.time + n }, thread⟩ R) :
    Through (serverSemantics P limits deadlineMs) Q ⟨s, thread⟩ R := by
  induction n generalizing s with
  | zero => exact h
  | succ n ih =>
    refine .env .tick (hQ 0 (Nat.succ_pos n)) (ih (fun k hk => ?_) ?_)
    · have h := hQ (k + 1) (Nat.succ_lt_succ hk)
      rw [← Nat.add_assoc, Nat.add_right_comm] at h
      exact h
    · rw [← Nat.add_assoc, Nat.add_right_comm] at h
      exact h

namespace TwoPlans

/-- The process drains for half a second at most. -/
abbrev draining : Semantics (ServeSig MemorySig) (ServerState staticPools) :=
  serverSemantics staticPools .unlimited 500

/-- The two plans at their start. -/
abbrev arriving : Config (ServeSig MemorySig) (ServerState staticPools) Bool
    (Option (Except Status Response)) :=
  server (.inProcess (.single 0)) rpc start

/-- The signal arrives after ten milliseconds. -/
theorem signal_run {Q : ServerRecord staticPools Bool → Prop}
    {R : Config (ServeSig MemorySig) (ServerState staticPools) Bool
      (Option (Except Status Response)) → Prop}
    (h : Through draining (fun _ => True) arriving fun c =>
      c.shared.drain = .awaitSignal ∧ c.shared.time = 10 ∧
        Through draining Q ⟨{ c.shared with drain := .signalled }, c.thread⟩ R) :
    ∃ before sig after c, Run draining arriving (before ++ sig :: after) c ∧ IsSignal sig ∧
      sig.pre.time = 10 ∧ (∀ rec ∈ after, Q rec) ∧ R c := by
  obtain ⟨before, c₁, hbefore, -, hwait, htime, after, c, hafter, hQ, hR⟩ := h
  exact ⟨before, _, after, c,
    run_append_iff.mpr ⟨c₁, hbefore, Run.cons (.env (.signal hwait)) hafter⟩, ⟨hwait, rfl⟩, htime,
    hQ, hR⟩

/-- The clock goes on only while the task waits, with timers that are late by five milliseconds at
most, and no stream is open after the hundredth millisecond. -/
def Calm (rec : ServerRecord staticPools Bool) : Prop :=
  (rec.post.time ≠ rec.pre.time → CanWait 5 rec.pre.time rec.pre.drain) ∧
    (100 < rec.pre.time → rec.pre.activeStreams ≤ 0)

/-- The first plan is waiting when the signal arrives, and the second one begins after the first
look at the gauge. The clients of both go away, and the next look finds no stream. -/
theorem drained_run : ∃ before sig after c, Run draining arriving (before ++ sig :: after) c ∧
    IsSignal sig ∧ sig.pre.time = 10 ∧ (∀ rec ∈ after, Calm rec) ∧
      c.shared.drain = .stopped true 0 ∧ c.shared.time = 516 := by
  have hearly : ∀ {rec : ServerRecord staticPools Bool}, rec.post.time = rec.pre.time →
      rec.pre.time ≤ 100 → Calm rec :=
    fun htime hle => ⟨fun hne => absurd htime hne, fun hlt => absurd hlt (by omega)⟩
  have hempty : ∀ {rec : ServerRecord staticPools Bool}, rec.post.time = rec.pre.time →
      rec.pre.activeStreams = 0 → Calm rec :=
    fun htime hzero => ⟨fun hne => absurd htime hne, fun _ => hzero.le⟩
  -- The task sleeps until 210.
  have hsleep : ∀ {now n k : ℕ} {active : ℤ}, k < n → now + n ≤ 215 → now + n ≤ 101 ∨ active ≤ 0 →
      Calm ⟨none, ⟨start.process, active, false, .sleeping 510 210, now + k⟩,
        ⟨start.process, active, false, .sleeping 510 210, now + k + 1⟩⟩ := by
    intro now n k active hk hwake hor
    refine ⟨fun _ => show now + k < 215 by omega, fun hlate => hor.resolve_left ?_⟩
    have : 100 < now + k := hlate
    omega
  refine signal_run ?_
  refine .cmd false rfl () rfl trivial ?_
  refine .cmd false rfl "r1" ⟨_, rfl, rfl⟩ trivial ?_
  refine through_ticks 10 (fun _ _ => trivial) (.here ⟨rfl, rfl, ?_⟩)
  refine .env (.markNotReady rfl) (hearly rfl (by decide)) ?_
  refine .env (.drain rfl) (hearly rfl (by decide)) ?_
  refine .env (.drain rfl) (hearly rfl (by decide)) ?_
  show Through draining Calm ⟨⟨start.process, 1, false, .sleeping 510 210, 10⟩, _⟩ _
  refine through_ticks 40 (fun k hk => hsleep hk (by decide) (.inl (by decide))) ?_
  show Through draining Calm ⟨⟨start.process, 1, false, .sleeping 510 210, 50⟩, _⟩ _
  refine .cmd true rfl () rfl (hearly rfl (by decide)) ?_
  refine .cmd true rfl "r2" ⟨_, rfl, rfl⟩ (hearly rfl (by decide)) ?_
  refine through_ticks 50 (fun k hk => hsleep hk (by decide) (.inl (by decide))) ?_
  show Through draining Calm ⟨⟨start.process, 2, false, .sleeping 510 210, 100⟩, _⟩ _
  refine .cmd false rfl false rfl (hearly rfl (by decide)) ?_
  refine .cmd false rfl () rfl (hearly rfl (by decide)) ?_
  refine .cmd false rfl () ⟨_, rfl, rfl⟩ (hearly rfl (by decide)) ?_
  refine .cmd true rfl false rfl (hearly rfl (by decide)) ?_
  refine .cmd true rfl () rfl (hearly rfl (by decide)) ?_
  refine .cmd true rfl () ⟨_, rfl, rfl⟩ (hearly rfl (by decide)) ?_
  show Through draining Calm ⟨⟨start.process, 0, false, .sleeping 510 210, 100⟩, _⟩ _
  -- The timer is late by three milliseconds.
  refine through_ticks 113 (fun k hk => hsleep hk (by decide) (.inr le_rfl)) ?_
  show Through draining Calm ⟨⟨start.process, 0, false, .sleeping 510 210, 213⟩, _⟩ _
  refine .env (.drain rfl) (hempty rfl rfl) ?_
  refine .env (.drain rfl) (hempty rfl rfl) ?_
  refine .env (.drain rfl) (hempty rfl rfl) ?_
  refine .env (.drain rfl) (hempty rfl rfl) ?_
  refine through_ticks 303 (fun k hk => ⟨fun _ => trivial, fun _ => le_refl _⟩) ?_
  exact .here ⟨rfl, rfl⟩

/-- Both plans wait for the authenticator until the deadline. -/
theorem forced_run : Through draining (fun _ => True) arriving fun c =>
    c.shared.drain = .stopped false 2 := by
  refine .cmd false rfl () rfl trivial ?_
  refine .cmd false rfl "r1" ⟨_, rfl, rfl⟩ trivial ?_
  refine .cmd true rfl () rfl trivial ?_
  refine .cmd true rfl "r2" ⟨_, rfl, rfl⟩ trivial ?_
  refine through_ticks 10 (fun _ _ => trivial) ?_
  refine .env (.signal rfl) trivial ?_
  refine .env (.markNotReady rfl) trivial ?_
  refine .env (.drain rfl) trivial ?_
  refine .env (.drain rfl) trivial ?_
  refine through_ticks 200 (fun _ _ => trivial) ?_
  show Through draining _ ⟨⟨start.process, 2, false, .sleeping 510 210, 210⟩, _⟩ _
  refine .env (.drain rfl) trivial ?_
  refine .env (.drain rfl) trivial ?_
  refine through_ticks 200 (fun _ _ => trivial) ?_
  show Through draining _ ⟨⟨start.process, 2, false, .sleeping 510 410, 410⟩, _⟩ _
  refine .env (.drain rfl) trivial ?_
  refine .env (.drain rfl) trivial ?_
  -- The deadline comes before the next look.
  refine through_ticks 100 (fun _ _ => trivial) ?_
  show Through draining _ ⟨⟨start.process, 2, false, .sleeping 510 610, 510⟩, _⟩ _
  refine .env (.drain rfl) trivial ?_
  refine .env (.drain rfl) trivial ?_
  refine .env (.drain rfl) trivial ?_
  exact .here rfl

end TwoPlans

/-- A drain with two open streams is forced at the deadline, and `/readyz` answers 503 by then. -/
theorem shutdown_sound_forced : ∃ t c, Run TwoPlans.draining TwoPlans.arriving t c ∧
    c.shared.drain = .stopped false 2 ∧
    (∀ metrics, adminHandle .get "/readyz" metrics c.shared.ready = ⟨503, "not ready"⟩) ∧
    ∃ before sig after, t = before ++ sig :: after ∧ IsSignal sig ∧
      sig.pre.time + 500 ≤ c.shared.time := by
  obtain ⟨t, c, hrun, -, hstop⟩ := TwoPlans.forced_run
  obtain ⟨hready, hsound⟩ := shutdown_sound hrun rfl rfl
  refine ⟨t, c, hrun, hstop, hready ?_ ?_, hsound false 2 hstop⟩
  · rw [hstop]
    exact DrainTask.noConfusion
  · rw [hstop]
    exact DrainTask.noConfusion

/-- The servers are stopped after the deadline, and one look after the last stream has ended: the
streams of two plans, one of which began during the drain, end at the hundredth millisecond, and the
drain is reported as complete. -/
theorem shutdown_prompt_twoPlans : ∃ t c, Run TwoPlans.draining TwoPlans.arriving t c ∧
    (∃ drained finalActive, c.shared.drain = .stopped drained finalActive) ∧
    ∃ finalActive, c.shared.drain = .stopped true finalActive := by
  obtain ⟨before, sig, after, c, hrun, hsig, hsince, hcalm, -, htime⟩ := TwoPlans.drained_run
  have htimely : Timely 5 after := fun rec hrec => (hcalm rec hrec).1
  obtain ⟨hdeadline, hquiet⟩ := shutdown_prompt hrun rfl hsig htimely
  have hnone : ∀ mid rec rest, after = mid ++ rec :: rest → 101 ≤ rec.pre.time →
      openStreams (before ++ sig :: mid) = ∅ := by
    rintro mid rec rest rfl hlate
    rw [← List.cons_append, ← List.append_assoc] at hrun
    obtain ⟨c₁, c₂, hprev, hstep, -⟩ := hrun.step_at
    refine openStreams_empty hprev rfl ?_
    rw [← hstep.shared.1]
    exact (hcalm rec (by simp)).2 hlate
  obtain ⟨drained, finalActive, hstop, hdrained⟩ :=
    hquiet 101 (by omega) hnone (by rw [htime]; decide)
  rw [hdrained (by rw [hsince]; decide)] at hstop
  exact ⟨_, c, hrun, hdeadline (by omega), finalActive, hstop⟩

end SparkGateway.Proofs.Serving

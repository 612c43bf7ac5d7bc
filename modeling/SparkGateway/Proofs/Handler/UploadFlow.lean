import SparkGateway.Proofs.Handler.UploadEnd

/-!
# `SparkGateway.Proofs.Handler.UploadFlow`: an upload does not get stuck

`Proofs/Handler/Upload.lean` says that the channel of an upload keeps its order. This module says
that it keeps moving. The forwarding task waits when the channel is full, and the backend call waits
when it is empty. `upload_flow` is about every interleaving of the two:

* the gateway holds at most `channelCapacity + 1` messages of the client, so a slow backend slows
  the client down;
* the number of moves is bounded by the length of the stream (`work` is what is left to do);
* if nobody can move, then the backend has the whole stream and its end, or it has gone away and
  the task is gone too;
* when the backend has gone away, the task takes at most one more message from the client.

`Acts` says what a move does if it does anything, with all its guards.
-/

set_option autoImplicit false

namespace SparkGateway.Proofs.Handler

open SparkGateway.Spec
open Forwarder (channelCapacity)

/-! ### Moves that do something -/

/-- The states that one move leads to, if it is enabled. -/
inductive Acts (f : Forwarder) : ForwarderMove → Forwarder → Prop where
  | taken {m : AddArtifactsRequest} {ms : List AddArtifactsRequest} (hrunning : f.running = true)
      (hheld : f.held = none) (hinbound : f.inbound = m :: ms) :
      Acts f .read { f with inbound := ms, held := some m }
  | ended (hrunning : f.running = true) (hheld : f.held = none) (hinbound : f.inbound = []) :
      Acts f .read { f with running := false }
  | refused {m : AddArtifactsRequest} (hrunning : f.running = true) (hheld : f.held = some m)
      (hreceiving : f.receiving = false) : Acts f .send { f with running := false, held := none }
  | queued {m : AddArtifactsRequest} (hrunning : f.running = true) (hheld : f.held = some m)
      (hreceiving : f.receiving = true) (hroom : f.queue.length < channelCapacity) :
      Acts f .send { f with queue := f.queue ++ [m], held := none }
  | handed {m : AddArtifactsRequest} {ms : List AddArtifactsRequest}
      (hreceiving : f.receiving = true) (hqueue : f.queue = m :: ms) :
      Acts f .deliver { f with queue := ms, delivered := f.delivered ++ [m] }
  | closed (hopen : f.receiving = true ∨ f.queue ≠ []) :
      Acts f .closeReceiver { f with receiving := false, queue := [] }

/-- A move is enabled, or it changes nothing. -/
theorem acts_or_idle (f : Forwarder) (m : ForwarderMove) :
    f.move m = f ∨ Acts f m (f.move m) := by
  cases m with
  | read =>
    unfold Forwarder.move
    dsimp only
    split
    · exact .inr (.taken ‹_› ‹_› ‹_›)
    · exact .inr (.ended ‹_› ‹_› ‹_›)
    · exact .inl rfl
  | send =>
    unfold Forwarder.move
    dsimp only
    split
    · split
      · rename_i hreceiving
        exact .inr (.refused ‹_› ‹_› (by simpa using hreceiving))
      · rename_i hreceiving
        split
        · exact .inr (.queued ‹_› ‹_› (by simpa using hreceiving) ‹_›)
        · exact .inl rfl
    · exact .inl rfl
  | deliver =>
    unfold Forwarder.move
    dsimp only
    split
    · exact .inr (.handed ‹_› ‹_›)
    · exact .inl rfl
  | closeReceiver =>
    by_cases hopen : f.receiving = true ∨ f.queue ≠ []
    · exact .inr (.closed hopen)
    · -- A receiver that is gone cannot go again.
      obtain ⟨hgone, hqueue⟩ := not_or.mp hopen
      obtain ⟨inbound, ending, held, queue, running, receiving, delivered⟩ := f
      obtain rfl : receiving = false := Bool.eq_false_of_not_eq_true hgone
      obtain rfl : queue = [] := not_not.mp hqueue
      exact .inl rfl

/-! ### What is left to do -/

/-- A bound on the moves that are left: each message is read, queued and delivered, and then the
task ends and the receiver goes. -/
def work (f : Forwarder) : ℕ :=
  3 * f.inbound.length + 2 * f.held.toList.length + f.queue.length + f.running.toNat +
    f.receiving.toNat

/-- Every move that does something leaves less to do. -/
theorem Acts.work_lt {f f' : Forwarder} {m : ForwarderMove} (h : Acts f m f') :
    work f' < work f := by
  unfold work
  cases h with
  | taken _ hheld hinbound =>
    -- Each message is read, queued and handed over, and each of these moves costs one.
    simp only [hheld, hinbound, Option.toList_none, Option.toList_some, List.length_nil,
      List.length_cons]
    omega
  | ended hrunning =>
    simp only [hrunning, Bool.toNat_true, Bool.toNat_false]
    omega
  | refused hrunning hheld =>
    simp only [hrunning, hheld, Option.toList_none, Option.toList_some, List.length_nil,
      List.length_cons, Bool.toNat_true, Bool.toNat_false]
    omega
  | queued _ hheld =>
    simp only [hheld, Option.toList_none, Option.toList_some, List.length_nil, List.length_cons,
      List.length_append]
    omega
  | handed _ hqueue =>
    simp only [hqueue, List.length_cons]
    omega
  | closed hopen =>
    rcases hopen with hreceiving | hqueue
    · simp only [hreceiving, List.length_nil, Bool.toNat_true, Bool.toNat_false]
      omega
    · have hlen := List.length_pos_of_ne_nil hqueue
      simp only [List.length_nil, Bool.toNat_false]
      omega

/-- Every move of the interleaving does something. -/
def Busy : Forwarder → List ForwarderMove → Prop
  | _, [] => True
  | f, m :: moves => f.move m ≠ f ∧ Busy (f.move m) moves

/-- An interleaving is not longer than what was to do. -/
theorem Busy.length_le {moves : List ForwarderMove} {f : Forwarder} (h : Busy f moves) :
    moves.length ≤ work f := by
  induction moves generalizing f with
  | nil => exact Nat.zero_le _
  | cons m moves ih =>
    obtain ⟨hmoved, hrest⟩ := h
    have hless := ((acts_or_idle f m).resolve_left hmoved).work_lt
    have hlength := ih hrest
    rw [List.length_cons]
    omega

/-! ### The bounded channel -/

/-- An enabled move keeps the channel within its capacity. -/
theorem Acts.queue_le {f f' : Forwarder} {m : ForwarderMove} (h : Acts f m f')
    (hqueue : f.queue.length ≤ channelCapacity) : f'.queue.length ≤ channelCapacity := by
  cases h with
  | taken => exact hqueue
  | ended => exact hqueue
  | refused => exact hqueue
  | queued _ _ _ hroom =>
    rw [List.length_append, List.length_singleton]
    exact hroom
  | handed _ hcons =>
    rw [hcons, List.length_cons] at hqueue
    exact Nat.le_of_succ_le hqueue
  | closed => exact Nat.zero_le _

/-- A run keeps the channel within its capacity. -/
theorem queue_le_run (moves : List ForwarderMove) {f : Forwarder}
    (h : f.queue.length ≤ channelCapacity) : (f.run moves).queue.length ≤ channelCapacity := by
  induction moves generalizing f with
  | nil => exact h
  | cons m moves ih =>
    refine ih ?_
    rcases acts_or_idle f m with hsame | hacts
    · rwa [hsame]
    · exact hacts.queue_le h

/-! ### Nobody waits for ever -/

/-- Neither the task nor the backend call can move. -/
def Stuck (f : Forwarder) : Prop :=
  f.move .read = f ∧ f.move .send = f ∧ f.move .deliver = f

/-- A task that runs can read, send, or has a full channel before it. -/
theorem running_of_stuck {f : Forwarder} (h : Stuck f) (hrunning : f.running = true) :
    f.receiving = true ∧ f.queue ≠ [] := by
  obtain ⟨hread, hsend, -⟩ := h
  cases hheld : f.held with
  | none =>
    -- The task reads a message or the end of the stream.
    cases hinbound : f.inbound with
    | nil =>
      have hended := congrArg Forwarder.running hread
      simp [Forwarder.move, hrunning, hheld, hinbound] at hended
    | cons m ms =>
      have htaken := congrArg Forwarder.held hread
      simp [Forwarder.move, hrunning, hheld, hinbound] at htaken
  | some m =>
    have hkept := congrArg Forwarder.held hsend
    cases hreceiving : f.receiving with
    | false => simp [Forwarder.move, hrunning, hheld, hreceiving] at hkept
    | true =>
      refine ⟨rfl, fun hempty => ?_⟩
      simp [Forwarder.move, hrunning, hheld, hreceiving, hempty, channelCapacity] at hkept

/-- **Stuck is finished**: the stream has closed normally, or the backend and the task are gone. -/
theorem finished_of_stuck {f : Forwarder} (h : Stuck f) :
    f.running = false ∧ (f.receiving = true → f.queue = []) := by
  have hempty : f.receiving = true → f.queue = [] := by
    intro hreceiving
    cases hqueue : f.queue with
    | nil => rfl
    | cons m ms =>
      have hkept := congrArg Forwarder.queue h.2.2
      simp [Forwarder.move, hreceiving, hqueue] at hkept
  refine ⟨?_, hempty⟩
  cases hrunning : f.running with
  | false => rfl
  | true =>
    obtain ⟨hreceiving, hqueue⟩ := running_of_stuck h hrunning
    exact absurd (hempty hreceiving) hqueue

/-! ### After the backend -/

/-- The messages that the task may still read when nobody receives. -/
def readsLeft (f : Forwarder) : ℕ := if f.running && f.held.isNone then 1 else 0

/-- A task without a receiver reads one message at most. -/
theorem Acts.abandoned {f f' : Forwarder} {m : ForwarderMove} (h : Acts f m f')
    (hgone : f.receiving = false) : f'.receiving = false ∧
      f.inbound.length + readsLeft f' ≤ f'.inbound.length + readsLeft f := by
  cases h with
  | taken hrunning hheld hinbound =>
    refine ⟨hgone, ?_⟩
    simp [readsLeft, hrunning, hheld, hinbound]
  | ended hrunning hheld =>
    refine ⟨hgone, ?_⟩
    simp [readsLeft]
  | refused =>
    refine ⟨hgone, ?_⟩
    simp [readsLeft]
  | queued _ _ hreceiving => exact absurd (hgone.symm.trans hreceiving) Bool.false_ne_true
  | handed hreceiving => exact absurd (hgone.symm.trans hreceiving) Bool.false_ne_true
  | closed => exact ⟨rfl, le_refl _⟩

/-- A task without a receiver reads one more message at most in the whole run. -/
theorem abandoned_run (moves : List ForwarderMove) {f : Forwarder} (hgone : f.receiving = false) :
    f.inbound.length ≤ (f.run moves).inbound.length + readsLeft f := by
  induction moves generalizing f with
  | nil => exact Nat.le_add_right _ _
  | cons m moves ih =>
    show f.inbound.length ≤ ((f.move m).run moves).inbound.length + readsLeft f
    rcases acts_or_idle f m with hsame | hacts
    · rw [hsame]
      exact ih hgone
    · obtain ⟨hgone', hread⟩ := hacts.abandoned hgone
      have hrest := ih hgone'
      omega

/-- **An upload flows.** After any moves the task and the channel hold at most one message more
than the channel's capacity. The moves that do something are at most three for each message after
the first, and three more. When nothing can move any more the task has ended, and if the backend
still receives it has got every message. After the backend has gone, the task reads one more
message at most. -/
theorem upload_flow (first : AddArtifactsRequest) (rest : ClientStream)
    (moves : List ForwarderMove) :
    let f := (Forwarder.start first rest).run moves
    f.queue.length + f.held.toList.length ≤ channelCapacity + 1 ∧
    (Busy (Forwarder.start first rest) moves → moves.length ≤ 3 * rest.messages.length + 3) ∧
    (Stuck f → f.running = false ∧ (f.receiving = true → f.delivered = first :: rest.messages)) ∧
    (f.receiving = false → ∀ later, f.inbound.length ≤ (f.run later).inbound.length + 1) := by
  intro f
  refine ⟨?_, fun hbusy => ?_, fun hstuck => ?_, fun hgone later => ?_⟩
  · -- The channel has its capacity, and the task holds one message.
    have hone : 1 ≤ channelCapacity := by decide
    have hqueue : f.queue.length ≤ channelCapacity := queue_le_run moves hone
    have hheld : f.held.toList.length ≤ 1 := by
      cases f.held <;> simp
    omega
  · exact hbusy.length_le
  · -- Nothing is left between the client and a backend that receives.
    obtain ⟨hended, hempty⟩ := finished_of_stuck hstuck
    refine ⟨hended, fun hreceiving => ?_⟩
    exact delivered_of_closedNormally first rest moves ⟨hreceiving, hended, hempty hreceiving⟩
  · -- The message that the task is about to read is the last.
    have hread := abandoned_run later hgone
    have hone : readsLeft f ≤ 1 := by
      unfold readsLeft
      split <;> omega
    omega

/-- Two messages, the second one read while the first is on its way. -/
theorem upload_flow_two :
    let first : AddArtifactsRequest := ⟨"sess-1", none, []⟩
    let second : AddArtifactsRequest := ⟨"sess-1", none, [1]⟩
    let f := (Forwarder.start first ⟨[second], .done⟩).run [.read, .deliver, .send, .read, .deliver]
    f.delivered = [first, second] ∧ f.running = false := by
  intro first second f
  have hstuck : Stuck f := ⟨rfl, rfl, rfl⟩
  obtain ⟨hended, hdelivered⟩ := (upload_flow first ⟨[second], .done⟩ _).2.2.1 hstuck
  exact ⟨hdelivered rfl, hended⟩

end SparkGateway.Proofs.Handler

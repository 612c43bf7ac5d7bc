import SparkGateway.Lib.History
import SparkGateway.Lib.Schedule
import SparkGateway.Spec.Dial

/-!
# `SparkGateway.Proofs.Handler.Dialer`: one backend, its channels and nobody else's

The dialer looks an address up and inserts the new channel under two separate locks. Two calls that
both miss open two channels for one backend, and the later insertion stays in the cache.
`dialer_sound` is what holds nevertheless, for any number of calls in any interleaving:

* what a call returns is decided by its address alone, so an address that could be dialed once can
  always be dialed;
* calls for different addresses never get the same channel, also if their URIs are the same;
* a call that begins after another one for its address has returned a channel opens none.

`cached_opened` is the invariant: what the cache has for an address was opened by a call for this
address. An entry is replaced but never removed, and that is what the third part needs.
-/

set_option autoImplicit false

namespace SparkGateway.Proofs.Handler

open SparkGateway.Lib
open SparkGateway.Spec

/-! ### One call -/

section
variable (fromShared : String → Except String Unit) (addr : String)

/-- The accesses of a call for `addr` that has performed `es`. -/
def DialsFor (es : List (Event DialSig)) : DialCmd → Prop
  | .get a => a = addr
  | .connectLazy uri => uri = ensureScheme addr
  | .insert a ch => a = addr ∧ fromShared (ensureScheme addr) = .ok () ∧
      (⟨.connectLazy (ensureScheme addr), ch⟩ : Event DialSig) ∈ es

/-- The result of a call for `addr` that has performed `es`: a channel was read or inserted. -/
def ReturnsFrom (es : List (Event DialSig)) : Except DialError Channel → Prop
  | .ok ch => (⟨.get addr, some ch⟩ : Event DialSig) ∈ es ∨
      (⟨.insert addr ch, ()⟩ : Event DialSig) ∈ es
  | .error e => ∃ source, fromShared (ensureScheme addr) = .error source ∧ e = .badUri addr source

/-- A call of `channel` accesses the cache for its own address, and returns a channel it has read
or inserted there, or the error of its address. -/
theorem channel_obeys : (Dialer.channel fromShared addr).Obeys (fun _ => True)
    (DialsFor fromShared addr) (ReturnsFrom fromShared addr) [] := by
  refine ⟨rfl, fun (found : Option Channel) _ => ?_⟩
  cases found with
  | some ch => exact Or.inl List.mem_cons_self
  | none =>
    dsimp only
    cases hparse : fromShared (ensureScheme addr) with
    | error source => exact ⟨source, hparse, rfl⟩
    | ok _ =>
      refine ⟨rfl, fun (ch : Channel) _ => ⟨⟨rfl, hparse, ?_⟩, fun _ _ => Or.inr ?_⟩⟩
      · exact List.mem_append_right _ List.mem_cons_self
      · exact List.mem_append_right _ List.mem_cons_self

/-- A call that finds its address in the cache does nothing else. -/
theorem channel_hit : (Dialer.channel fromShared addr).Obeys
    (fun e : Event DialSig => e ≠ ⟨.get addr, none⟩) (fun _ (c : DialCmd) => c = .get addr)
    (fun _ _ => True) [] := by
  refine ⟨rfl, fun (found : Option Channel) hfound => ?_⟩
  cases found with
  | some ch => trivial
  | none => exact absurd rfl hfound

end

/-! ### One access -/

section
variable {a uri : String} {ch : Channel} {d d' : Dialer}

/-- A read returns the entry and changes nothing. -/
theorem get_access {found : Option Channel} (h : dialSemantics.cmd (.get a) d found d') :
    d.inner a = found ∧ d = d' := Prod.mk.inj h

/-- A new channel has a number that no earlier one has. -/
theorem connectLazy_access (h : dialSemantics.cmd (.connectLazy uri) d ch d') :
    (⟨d.opened, uri⟩ : Channel) = ch ∧ { d with opened := d.opened + 1 } = d' := Prod.mk.inj h

/-- An insertion replaces the entry of its address only. -/
theorem insert_access {r : Unit} (h : dialSemantics.cmd (.insert a ch) d r d') :
    { d with inner := Function.update d.inner a (some ch) } = d' := (Prod.mk.inj h).2

/-- An address that is in the cache is not removed. -/
theorem access_cached {cmd : DialCmd} {r : DialCmd.Reply cmd}
    (h : dialSemantics.cmd cmd d r d') (hcached : (d.inner a).isSome) : (d'.inner a).isSome := by
  cases cmd with
  | get _ =>
    obtain ⟨-, rfl⟩ := get_access h
    exact hcached
  | connectLazy _ =>
    obtain ⟨-, rfl⟩ := connectLazy_access h
    exact hcached
  | insert a' ch =>
    obtain rfl := insert_access h
    by_cases ha : a = a'
    · simp [ha]
    · simpa [ha] using hcached

/-- The counter does not go back. -/
theorem access_opened {cmd : DialCmd} {r : DialCmd.Reply cmd} (h : dialSemantics.cmd cmd d r d') :
    d.opened ≤ d'.opened := by
  cases cmd with
  | get _ =>
    obtain ⟨-, rfl⟩ := get_access h
    exact Nat.le_refl _
  | connectLazy _ =>
    obtain ⟨-, rfl⟩ := connectLazy_access h
    exact Nat.le_succ _
  | insert _ _ =>
    obtain rfl := insert_access h
    exact Nat.le_refl _

end

/-! ### Any number of calls -/

section
variable {ι : Type} [DecidableEq ι] {fromShared : String → Except String Unit} {addr : ι → String}
  {t : List (Record DialSig Dialer ι)} {c : Config DialSig Dialer ι (Except DialError Channel)}
  {i j : ι} {a : String} {ch : Channel}

/-- Calls of one dialer, from the empty cache. -/
abbrev dialerCalls (fromShared : String → Except String Unit) (addr : ι → String) :
    Config DialSig Dialer ι (Except DialError Channel) :=
  ⟨Dialer.new, fun i => Dialer.channel fromShared (addr i)⟩

/-- A call for `a` has opened the channel. -/
def OpenedFor (addr : ι → String) (t : List (Record DialSig Dialer ι)) (a : String)
    (ch : Channel) : Prop :=
  ∃ i, addr i = a ∧ (⟨.connectLazy (ensureScheme a), ch⟩ : Event DialSig) ∈ eventsOf i t

/-- What a call has opened stays opened. -/
theorem OpenedFor.mono {t' : List (Record DialSig Dialer ι)} (h : OpenedFor addr t a ch) :
    OpenedFor addr (t ++ t') a ch := by
  obtain ⟨i, hi, hopen⟩ := h
  exact ⟨i, hi, by rw [eventsOf_append]; exact List.mem_append_left _ hopen⟩

/-- **The cache** has channels of accepted addresses only, and what it has for an address was
opened by a call for this address. -/
theorem cached_opened (hrun : Run dialSemantics (dialerCalls fromShared addr) t c)
    (hcached : c.shared.inner a = some ch) :
    fromShared (ensureScheme a) = .ok () ∧ OpenedFor addr t a ch := by
  generalize hstart : dialerCalls fromShared addr = c₀ at hrun
  induction hrun with
  | nil =>
    subst hstart
    cases hcached
  | @snoc t c₁ rec c₂ hrun hstep ih =>
    have hwhole := hrun.snoc hstep
    cases hstep with
    | env henv => exact henv.elim
    | @cmd i cmd k r s' hth hcmd =>
      cases cmd with
      | get _ =>
        obtain ⟨-, rfl⟩ := get_access hcmd
        exact (ih hcached).imp_right OpenedFor.mono
      | connectLazy _ =>
        obtain ⟨-, rfl⟩ := connectLazy_access hcmd
        exact (ih hcached).imp_right OpenedFor.mono
      | insert a' ch' =>
        obtain rfl := insert_access hcmd
        by_cases ha : a = a'
        · -- The call has inserted what it has opened before.
          subst ha
          obtain rfl : ch' = ch := by simpa using hcached
          subst hstart
          obtain ⟨rfl, hparse, hopen⟩ := hwhole.issued rfl (channel_obeys fromShared (addr i))
            fun _ _ => trivial
          exact ⟨hparse, .mono ⟨i, rfl, hopen⟩⟩
        · have hold : c₁.shared.inner a = some ch := by simpa [ha] using hcached
          exact (ih hold).imp_right OpenedFor.mono

/-- What every access keeps holds after a run. -/
theorem dialer_invariant {c₀ : Config DialSig Dialer ι (Except DialError Channel)}
    {P : Dialer → Prop} (hrun : Run dialSemantics c₀ t c)
    (haccess : ∀ {cmd : DialCmd} {r d d'}, dialSemantics.cmd cmd d r d' → P d → P d')
    (h0 : P c₀.shared) : P c.shared := by
  refine hrun.invariant (fun rec hrec hpre => ?_) h0
  obtain ⟨c₁, c₂, hstep⟩ := hrun.step_of_mem hrec
  cases hstep with
  | cmd _ hcmd => exact haccess hcmd hpre
  | env henv => exact henv.elim

/-- An address stays in the cache. -/
theorem cached_run {c₀ : Config DialSig Dialer ι (Except DialError Channel)}
    (hrun : Run dialSemantics c₀ t c) (hcached : (c₀.shared.inner a).isSome) :
    (c.shared.inner a).isSome :=
  dialer_invariant (P := fun d => (d.inner a).isSome) hrun access_cached hcached

/-- The channels that were opened are numbered. -/
theorem opened_numbered (hrun : Run dialSemantics (dialerCalls fromShared addr) t c)
    {uri : String} (hopen : (⟨.connectLazy uri, ch⟩ : Event DialSig) ∈ eventsOf i t) :
    ch.id < c.shared.opened ∧ ch.uri = uri := by
  obtain ⟨before, rec, after, c₁, c₂, rfl, hact, -, hstep, hafter⟩ := hrun.event_at hopen
  obtain ⟨rfl, hpost⟩ := connectLazy_access (hstep.cmd_of hact)
  refine ⟨?_, rfl⟩
  refine dialer_invariant (P := fun d => rec.pre.opened < d.opened) hafter
    (fun haccess hlt => Nat.lt_of_lt_of_le hlt (access_opened haccess)) ?_
  rw [← hstep.shared.2, ← hpost]
  exact Nat.lt_succ_self _

/-- No two calls open the same channel. -/
theorem opened_once (hrun : Run dialSemantics (dialerCalls fromShared addr) t c)
    {uri uri' : String} (hi : (⟨.connectLazy uri, ch⟩ : Event DialSig) ∈ eventsOf i t)
    (hj : (⟨.connectLazy uri', ch⟩ : Event DialSig) ∈ eventsOf j t) : i = j := by
  generalize hstart : dialerCalls fromShared addr = c₀ at hrun
  induction hrun with
  | nil => cases hi
  | @snoc t c₁ rec c₂ hrun hstep ih =>
    subst hstart
    -- A channel that is opened now has a number that no earlier one has.
    have hfresh : ∀ {l : ι} {u : String}, (⟨.connectLazy u, ch⟩ : Event DialSig) ∈ eventsOf l t →
        ∀ {l' u'}, rec.actor ≠ some (l', ⟨.connectLazy u', ch⟩) := by
      intro l u hold l' u' hact
      have hlt := (opened_numbered hrun hold).1
      obtain ⟨rfl, -⟩ := connectLazy_access (hstep.cmd_of hact)
      rw [hstep.shared.1] at hlt
      exact Nat.lt_irrefl _ hlt
    rw [eventsOf_append] at hi hj
    rcases List.mem_append.mp hi with hi | hi <;> rcases List.mem_append.mp hj with hj | hj
    · exact ih hi hj
    · obtain ⟨_, hrec, hact⟩ := mem_eventsOf.mp hj
      exact absurd (List.mem_singleton.mp hrec ▸ hact) (hfresh hi)
    · obtain ⟨_, hrec, hact⟩ := mem_eventsOf.mp hi
      exact absurd (List.mem_singleton.mp hrec ▸ hact) (hfresh hj)
    · obtain ⟨_, hrec, hact⟩ := mem_eventsOf.mp hi
      obtain ⟨_, hrec', hact'⟩ := mem_eventsOf.mp hj
      rw [List.mem_singleton.mp hrec] at hact
      rw [List.mem_singleton.mp hrec', hact] at hact'
      cases hact'
      rfl

/-- A channel that a call returns is in the cache then, and a call for the same address has opened
it. -/
theorem returned_opened (hrun : Run dialSemantics (dialerCalls fromShared addr) t c)
    (hret : c.thread i = .ret (.ok ch)) :
    fromShared (ensureScheme (addr i)) = .ok () ∧ OpenedFor addr t (addr i) ch ∧
      (c.shared.inner (addr i)).isSome := by
  rcases hrun.returned hret (channel_obeys fromShared (addr i)) fun _ _ => trivial with
    hget | hins
  · -- It was read: the cache had it from a call for this address.
    obtain ⟨before, rec, after, c₁, c₂, rfl, hact, hbefore, hstep, hafter⟩ := hrun.event_at hget
    obtain ⟨hfound, hsame⟩ := get_access (hstep.cmd_of hact)
    rw [hstep.shared.1] at hfound hsame
    obtain ⟨hparse, hopen⟩ := cached_opened hbefore hfound
    refine ⟨hparse, hopen.mono, cached_run hafter ?_⟩
    rw [← hstep.shared.2, ← hsame, hfound]
    rfl
  · -- It was inserted, so this call has opened it.
    obtain ⟨before, rec, after, c₁, c₂, rfl, hact, -, hstep, hafter⟩ := hrun.event_at hins
    have hpost := insert_access (hstep.cmd_of hact)
    obtain ⟨-, hparse, hopen⟩ := hrun.issued hact (channel_obeys fromShared (addr i))
      fun _ _ => trivial
    refine ⟨hparse, .mono ⟨i, rfl, hopen⟩, cached_run hafter ?_⟩
    rw [← hstep.shared.2, ← hpost]
    simp

/-- **A call for a cached address** only reads the cache. -/
theorem hit_only_reads {c₀ : Config DialSig Dialer ι (Except DialError Channel)}
    (hrun : Run dialSemantics c₀ t c) (hi : c₀.thread i = Dialer.channel fromShared a)
    (hcached : (c₀.shared.inner a).isSome) :
    ∀ e ∈ eventsOf i t, (e.1 : DialCmd) = .get a := by
  -- The address is in the cache whenever it is looked up.
  have hhit : ∀ e ∈ eventsOf i t, e ≠ ⟨.get a, none⟩ := by
    rintro _ hmem rfl
    obtain ⟨before, rec, after, c₁, c₂, rfl, hact, hbefore, hstep, -⟩ := hrun.event_at hmem
    obtain ⟨hnone, -⟩ := get_access (hstep.cmd_of hact)
    have hfound := cached_run hbefore hcached
    rw [← hstep.shared.1, hnone] at hfound
    cases hfound
  intro e he
  obtain ⟨-, -, hget⟩ := hrun.issued_of_mem (hi ▸ channel_hit fromShared a) hhit he
  exact hget

/-- **The dialer is sound** under any interleaving of calls. -/
theorem dialer_sound (fromShared : String → Except String Unit) (addr : ι → String)
    (hrun : Run dialSemantics (dialerCalls fromShared addr) t c) :
    (∀ i result, c.thread i = .ret result →
      Dialer.reply result = (fromShared (ensureScheme (addr i))).mapError
        (fun source => (DialError.badUri (addr i) source).message) ∧
      ∀ ch, result = .ok ch → ch.uri = ensureScheme (addr i)) ∧
    (∀ i j ch, c.thread i = .ret (.ok ch) → c.thread j = .ret (.ok ch) → addr i = addr j) ∧
    (∀ before after c₁ i j ch, t = before ++ after →
      Run dialSemantics (dialerCalls fromShared addr) before c₁ → Run dialSemantics c₁ after c →
      c₁.thread j = .ret (.ok ch) → addr i = addr j → eventsOf i before = [] →
      ∀ e ∈ eventsOf i t, (e.1 : DialCmd) = .get (addr i)) := by
  refine ⟨fun i result hret => ?_, fun i j ch hi hj => ?_, ?_⟩
  · cases result with
    | error e =>
      obtain ⟨source, hparse, rfl⟩ := hrun.returned hret (channel_obeys fromShared (addr i))
        fun _ _ => trivial
      rw [hparse]
      exact ⟨rfl, fun _ h => nomatch h⟩
    | ok ch =>
      obtain ⟨hparse, ⟨j, -, hopen⟩, -⟩ := returned_opened hrun hret
      rw [hparse]
      refine ⟨rfl, fun ch' h => ?_⟩
      obtain rfl := Except.ok.inj h
      exact (opened_numbered hrun hopen).2
  · obtain ⟨-, ⟨i', hi', hopen⟩, -⟩ := returned_opened hrun hi
    obtain ⟨-, ⟨j', hj', hopen'⟩, -⟩ := returned_opened hrun hj
    rw [← hi', ← hj', opened_once hrun hopen hopen']
  · rintro before after c₁ i j ch rfl hbefore hafter hret haddr hnone
    -- The call has not begun when its address is in the cache.
    have hthread : c₁.thread i = Dialer.channel fromShared (addr i) := by
      have hpath := hbefore.after i
      rw [hnone] at hpath
      generalize c₁.thread i = p at hpath
      cases hpath
      rfl
    have hcached := (returned_opened hbefore hret).2.2
    rw [← haddr] at hcached
    rw [eventsOf_append, hnone, List.nil_append]
    exact hit_only_reads hafter hthread hcached

end

namespace DialRace

/-- Two calls for a backend miss at the same time, and a third one (`none`) comes later. -/
def addr (_ : Option Bool) : String := "spark-1:15002"

/-- Every address parses. -/
def accept (_ : String) : Except String Unit := .ok ()

/-- Two calls for one address that both find the cache empty. -/
def race := schedule (fun _ => Dialer.apply)
  [some false, some true, some false, some false, some true, some true] (dialerCalls accept addr)

/-- A third call, after the race. -/
def later := schedule (fun _ => Dialer.apply) [none] race.2

/-- The race is a run of the dialer. -/
theorem race_run : Run dialSemantics (dialerCalls accept addr) race.1 race.2 :=
  schedule_run (fun _ _ _ => rfl) _ _

/-- The third call continues the run. -/
theorem later_run : Run dialSemantics race.2 later.1 later.2 :=
  schedule_run (fun _ _ _ => rfl) _ _

end DialRace

/-- The two calls return different channels for the backend, and the third call opens none. -/
theorem dialer_sound_race :
    DialRace.later.2.thread (some false) = .ret (.ok ⟨0, ensureScheme "spark-1:15002"⟩) ∧
    DialRace.later.2.thread (some true) = .ret (.ok ⟨1, ensureScheme "spark-1:15002"⟩) ∧
    ∀ e ∈ eventsOf none (DialRace.race.1 ++ DialRace.later.1),
      (e.1 : DialCmd) = .get "spark-1:15002" :=
  ⟨rfl, rfl, (dialer_sound DialRace.accept DialRace.addr
    (run_append_iff.mpr ⟨_, DialRace.race_run, DialRace.later_run⟩)).2.2 DialRace.race.1
    DialRace.later.1 DialRace.race.2 none (some false) ⟨0, ensureScheme "spark-1:15002"⟩ rfl
    DialRace.race_run DialRace.later_run rfl rfl rfl⟩

end SparkGateway.Proofs.Handler

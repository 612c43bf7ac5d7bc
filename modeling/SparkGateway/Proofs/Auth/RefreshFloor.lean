import Mathlib.Data.List.Chain
import SparkGateway.Lib.Mutex
import SparkGateway.Lib.Schedule
import SparkGateway.Spec.Oidc

/-!
# `SparkGateway.Proofs.Auth.RefreshFloor`: how often the JWKS is fetched

`key_for` fetches the JWKS under `refresh_lock`, and only if the last refresh is at least the
floor ago. So at most one fetch is in flight, and after a fetch that succeeded the next one
starts at least the floor later. A fetch that fails, or is abandoned by a caller that is dropped, is
different. `last_refreshed` is written only with new keys, so it stays old, and the next caller in
the queue for the lock fetches again at once. `refreshFloor_iff` says so for every run: the floor is
kept exactly if it is kept after the fetches that failed or were abandoned, and so always if this
happened to none but the last one.

The proof follows the lock (`Lib/Mutex.lean`). `Invariant` is what holds in every state, and
`keyFor_guarded` is the discipline of one call. `new_first` is the state in which `new` leaves
the authenticator.
-/

set_option autoImplicit false

namespace SparkGateway.Proofs.Auth

open Lib Spec

/-- The second request is sent at least `floor` after the first. -/
def Apart (floor : ℕ) (f g : JwksFetch) : Prop := f.start + floor ≤ g.start

/-- Only the clock has moved. -/
def Waits (s s' : OidcState) : Prop := ∃ d, s' = s.wait d

/-! ### The requests so far -/

section
variable (parsers : KeyParsers) (auth : OidcAuthenticator)

/-- The requests are those of `init` and then `last`. All of `init` are over, and after each that
succeeded the next one was sent at least the floor later. -/
structure Requests (s : OidcState) (init : List JwksFetch) (last : JwksFetch) : Prop where
  fetches : s.fetches = init ++ [last]
  ended : ∀ f ∈ init, f.inFlight = false
  paced : (init ++ [last]).IsChain fun f g =>
    f.succeeded parsers auth.jwksUrl = true → Apart auth.refreshFloor f g
  clock : s.lastRefreshed ≤ s.now

/-- The last request is over, and a success is in the cache. -/
structure Settled (s : OidcState) (last : JwksFetch) : Prop where
  ended : last.inFlight = false
  cached : last.succeeded parsers auth.jwksUrl = true → last.start ≤ s.lastRefreshed

/-- What holds in every state: the requests are paced, and while the lock is free the last one is
settled. -/
def Invariant (s : OidcState) : Prop :=
  ∃ init last, Requests parsers auth s init last ∧ (s.locked = false → Settled parsers auth s last)

/-- A call that holds or does not hold `refresh_lock`. It never returns with the lock. -/
abbrev Careful : Prog OidcSig (Option DecodingKey) → Bool → OidcState → Prop :=
  Guarded oidcSemantics OidcState.locked Waits (Invariant parsers auth) fun _ _ => False

end

section
variable {parsers : KeyParsers} {auth : OidcAuthenticator} {s : OidcState} {init : List JwksFetch}
  {last : JwksFetch}

/-- Time leaves the requests as they are. -/
theorem Requests.wait (h : Requests parsers auth s init last) (d : ℕ) :
    Requests parsers auth (s.wait d) init last :=
  { h with clock := Nat.le_add_right_of_le h.clock }

/-- Time leaves the lock alone, and an invariant that does not depend on the clock. -/
theorem relies_waits {locked : OidcState → Bool} {P : OidcState → Prop}
    (hlocked : ∀ s d, locked (s.wait d) = locked s) (hinv : ∀ s d, P s → P (s.wait d)) :
    Relies oidcSemantics locked Waits P where
  refl _ := ⟨0, rfl⟩
  trans := by
    rintro a b c ⟨d, rfl⟩ ⟨d', rfl⟩
    exact ⟨d + d', by simp [OidcState.wait, Nat.add_assoc]⟩
  env _ _ h := h
  taken := by
    rintro s s' ⟨d, rfl⟩
    exact hlocked s d
  inv := by
    rintro s s' ⟨d, rfl⟩ h
    exact hinv s d h

/-- While one program has the state for itself, only time passes. -/
theorem relies_alone : Relies oidcSemantics (fun _ => true) Waits fun _ => True :=
  relies_waits (fun _ _ => rfl) fun _ _ _ => trivial

/-- Time leaves the invariant and the lock alone. -/
theorem relies : Relies oidcSemantics OidcState.locked Waits (Invariant parsers auth) := by
  refine relies_waits (fun _ _ => rfl) ?_
  rintro s d ⟨init, last, h, hsettled⟩
  exact ⟨init, last, h.wait d, fun hfree => ⟨(hsettled hfree).ended, (hsettled hfree).cached⟩⟩

/-! ### The commands under the lock -/

/-- The guard is dropped in a state with a settled last request. -/
theorem careful_unlock {k : Unit → Prog OidcSig (Option DecodingKey)}
    (h : Requests parsers auth s init last) (hsettled : Settled parsers auth s last)
    (hk : ∀ s, Careful parsers auth (k ()) false s) :
    Careful parsers auth (.step .unlock k) true s := by
  rintro s₁ ⟨d, rfl⟩ r s' rfl
  refine ⟨⟨init, last, ?_, fun _ => ⟨hsettled.ended, hsettled.cached⟩⟩, hk _⟩
  exact { h.wait d with }

/-- A request that is sent once the floor has passed is the last one from then on. -/
theorem Requests.send (h : Requests parsers auth s init last)
    (hsettled : Settled parsers auth s last)
    (hfloor : s.lastRefreshed + auth.refreshFloor ≤ s.now) :
    Requests parsers auth { s with fetches := s.fetches ++ [⟨s.now, none⟩] } (init ++ [last])
      ⟨s.now, none⟩ where
  fetches := by rw [h.fetches]
  ended f hf := by
    rcases List.mem_append.mp hf with hf | hf
    · exact h.ended f hf
    · rw [List.mem_singleton.mp hf]
      exact hsettled.ended
  paced := by
    rw [List.isChain_append]
    refine ⟨h.paced, .singleton _, ?_⟩
    -- Only the new request has to be compared, with the last one before it.
    intro f hf g hg hok
    obtain rfl : last = f := by simpa using hf
    obtain rfl : (⟨s.now, none⟩ : JwksFetch) = g := by simpa using hg
    show last.start + auth.refreshFloor ≤ s.now
    have := hsettled.cached hok
    omega
  clock := h.clock

/-- Changing the entry after a list changes the last one. -/
theorem modify_length_snoc {α : Type} (l : List α) (a : α) (f : α → α) :
    (l ++ [a]).modify l.length f = l ++ [f a] := by
  induction l with
  | nil => rfl
  | cons b l ih => simpa using ih

/-- The reply to the last request. -/
theorem Requests.receive (h : Requests parsers auth s init last) (reply : JwksReply) :
    Requests parsers auth
      { s with fetches := s.fetches.modify init.length fun f => { f with reply := some reply } }
      init { last with reply := some reply } where
  fetches := by
    show s.fetches.modify init.length _ = _
    rw [h.fetches, modify_length_snoc]
  ended := h.ended
  paced := by
    -- Only the start of the later request counts.
    have hpaced := h.paced
    rw [List.isChain_append] at hpaced ⊢
    refine ⟨hpaced.1, .singleton _, ?_⟩
    intro f hf g hg hok
    obtain rfl : ({ last with reply := some reply } : JwksFetch) = g := by simpa using hg
    exact hpaced.2.2 f hf last rfl hok
  clock := h.clock

/-- Writing the cache leaves the requests as they are. -/
theorem Requests.refresh (h : Requests parsers auth s init last) (keys : Keys) :
    Requests parsers auth { s with keys := keys, lastRefreshed := s.now } init last :=
  { h with clock := Nat.le_refl _ }

/-- While the lock is taken, the requests are all that the invariant asks for. -/
theorem Requests.invariant (h : Requests parsers auth s init last) (hlocked : s.locked = true) :
    Invariant parsers auth s :=
  ⟨init, last, h, fun hfree => absurd (hlocked.symm.trans hfree) Bool.noConfusion⟩

/-- `key_for` from the reply on: keys are written to the cache before the lock is dropped, and
after a failure the lock is dropped at once. -/
def received (parsers : KeyParsers) (auth : OidcAuthenticator) (kid : String) (reply : JwksReply) :
    Prog OidcSig (Option DecodingKey) :=
  match reply.keys parsers auth.jwksUrl with
  | .ok newKeys => .step (.refresh newKeys) fun _ => .step .unlock fun _ => .step (.cached kid) .ret
  | .error _ => .step .unlock fun _ => .ret none

/-- The reception of a reply keeps the invariant, whatever the reply is. -/
theorem careful_receive (kid : String) (h : Requests parsers auth s init last)
    (hlocked : s.locked = true) (hstart : last.start ≤ s.now) :
    Careful parsers auth (.step (.receive init.length) (received parsers auth kid)) true s := by
  rintro s₁ ⟨d, rfl⟩ (reply : JwksReply) s' rfl
  have h' := (h.wait d).receive reply
  refine ⟨h'.invariant hlocked, ?_⟩
  show Careful parsers auth _ s.locked _
  rw [hlocked]
  unfold received
  cases hkeys : reply.keys parsers auth.jwksUrl with
  | error e =>
    -- A failed fetch does not touch the cache, and need not have.
    refine careful_unlock h' ⟨rfl, ?_⟩ fun _ => trivial
    intro hok
    simp [JwksFetch.succeeded, hkeys, Except.isOk, Except.toBool] at hok
  | ok newKeys =>
    rintro s₂ ⟨d', rfl⟩ r s' rfl
    -- The cache is stamped with the time at which it is written, which is after the request.
    have h'' := (h'.wait d').refresh newKeys
    refine ⟨h''.invariant hlocked, ?_⟩
    show Careful parsers auth _ s.locked _
    rw [hlocked]
    refine careful_unlock h'' ⟨rfl, fun _ => ?_⟩ ?_
    · show last.start ≤ s.now + d + d'
      omega
    · -- The last read of the cache is outside of the lock.
      rintro - s r s' - ⟨-, rfl⟩
      exact .inl ⟨⟨0, rfl⟩, trivial⟩

/-- The check of the floor and the fetch after it. -/
theorem careful_elapsed (kid : String) (h : Requests parsers auth s init last)
    (hsettled : Settled parsers auth s last) (hlocked : s.locked = true) :
    Careful parsers auth
      (.step .elapsed fun elapsed : ℕ =>
        if elapsed < auth.refreshFloor then .step .unlock fun _ => .ret none
        else .step (.send auth.jwksUrl) fun request =>
          .step (.receive request) (received parsers auth kid)) true s := by
  rintro s₁ ⟨d, rfl⟩ elapsed s' ⟨rfl, rfl⟩
  have h' := h.wait d
  have hsettled' : Settled parsers auth (s.wait d) last := ⟨hsettled.ended, hsettled.cached⟩
  refine ⟨h'.invariant hlocked, ?_⟩
  show Careful parsers auth _ s.locked _
  rw [hlocked]
  beta_reduce
  split
  · exact careful_unlock h' hsettled' fun _ => trivial
  · rename_i hfloor
    -- The request goes out at some time after the check.
    rintro s₂ ⟨d', rfl⟩ request s' ⟨rfl, rfl⟩
    have h'' := (h'.wait d').send ⟨hsettled.ended, hsettled.cached⟩ (by
      show s.lastRefreshed + auth.refreshFloor ≤ s.now + d + d'
      have hfloor : ¬ s.now + d - s.lastRefreshed < auth.refreshFloor := hfloor
      have hclock := h.clock
      omega)
    refine ⟨h''.invariant hlocked, ?_⟩
    show Careful parsers auth _ s.locked _
    rw [hlocked]
    have hlength : ((s.wait d).wait d').fetches.length = (init ++ [last]).length :=
      congrArg List.length h.fetches
    rw [hlength]
    exact careful_receive kid h'' hlocked (Nat.le_refl _)

/-- **The discipline of one call.** From any state, a call of `key_for` keeps the requests paced,
leaves the last one settled when it gives the lock up, and never returns with the lock. -/
theorem keyFor_guarded (parsers : KeyParsers) (auth : OidcAuthenticator) (kid : String)
    (s : OidcState) : Careful parsers auth (auth.keyFor parsers kid) false s := by
  rintro s (_ | key) s' - ⟨-, rfl⟩
  · refine .inl ⟨⟨0, rfl⟩, ?_⟩
    rintro s r s' ⟨init, last, h, hsettled⟩ ⟨hfree, rfl⟩
    refine .inr ⟨hfree, rfl, Requests.invariant { h with } rfl, ?_⟩
    -- With the lock, the last request stays settled until the next one is sent.
    have hlast := hsettled hfree
    rintro s₁ ⟨d, rfl⟩ (_ | key) s' ⟨-, rfl⟩
    · refine ⟨Requests.invariant { h.wait d with } rfl, ?_⟩
      exact careful_elapsed kid { h.wait d with } ⟨hlast.ended, hlast.cached⟩ rfl
    · refine ⟨Requests.invariant { h.wait d with } rfl, ?_⟩
      exact careful_unlock { h.wait d with } ⟨hlast.ended, hlast.cached⟩ fun _ => trivial
  · exact .inl ⟨⟨0, rfl⟩, trivial⟩

/-! ### The first fetch -/

/-- The state in which `new` leaves an authenticator: its own fetch is over, and the cache has
been written since. -/
structure Started (s : OidcState) (first : JwksFetch) : Prop where
  fetches : s.fetches = [first]
  ended : first.inFlight = false
  cached : first.start ≤ s.lastRefreshed
  clock : s.lastRefreshed ≤ s.now
  free : s.locked = false

/-- Nothing has been fetched, and nobody has the lock. -/
structure Fresh (s : OidcState) : Prop where
  fetches : s.fetches = []
  free : s.locked = false

/-- `new` has returned an error, or has left the first fetch behind. -/
def Returned (a : Except OidcError OidcAuthenticator) (s : OidcState) : Prop :=
  ∀ auth, a = .ok auth → ∃ first, Started s first

/-- `new` has the state for itself, as if it held a lock all the time. -/
abbrev Alone (p : Prog OidcSig (Except OidcError OidcAuthenticator)) (s : OidcState) : Prop :=
  Guarded oidcSemantics (fun _ => true) Waits (fun _ => True) Returned p true s

/-- An error makes no promise about the state. -/
theorem alone_error (e : OidcError) (s : OidcState) : Alone (.ret (.error e)) s := by
  intro s' _ auth hauth
  cases hauth

/-- `new` from the fetch on. -/
def newFrom (parsers : KeyParsers) (auth : OidcAuthenticator) :
    Prog OidcSig (Except OidcError OidcAuthenticator) := do
  match ← fetchJwks parsers auth.jwksUrl with
  | .error e => pure (.error e)
  | .ok keys =>
    let _ ← (OidcCmd.refresh keys).call
    pure (.ok auth)

/-- From the fetch on, `new` leaves one fetch behind, and the cache written since. -/
theorem alone_newFrom (parsers : KeyParsers) (auth : OidcAuthenticator) (hs : Fresh s) :
    Alone (newFrom parsers auth) s := by
  rintro s₁ ⟨d, rfl⟩ request s' ⟨rfl, rfl⟩
  refine ⟨trivial, ?_⟩
  rintro s₂ ⟨d', rfl⟩ (reply : JwksReply) s' rfl
  refine ⟨trivial, ?_⟩
  show Alone (.ret (reply.keys parsers auth.jwksUrl) >>= _) _
  cases reply.keys parsers auth.jwksUrl with
  | error e => exact alone_error e _
  | ok keys =>
    rintro s₃ ⟨d'', rfl⟩ r s' rfl
    refine ⟨trivial, ?_⟩
    rintro s' ⟨d₃, rfl⟩ auth' hauth'
    -- The request was sent at the first of these times, and the cache was written after the
    -- reply.
    refine ⟨⟨s.now + d, some reply⟩, ?_, rfl, ?_, ?_, hs.free⟩
    · show (s.fetches ++ [_]).modify s.fetches.length _ = _
      rw [modify_length_snoc, hs.fetches]
      rfl
    · show s.now + d ≤ s.now + d + d' + d''
      omega
    · exact Nat.le_add_right _ _

/-- `OidcAuthenticator::new` leaves one fetch behind, and the cache written since. -/
theorem alone_new (parsers : KeyParsers) (cfg : OidcConfig) (hs : Fresh s) :
    Alone (OidcAuthenticator.new parsers cfg) s := by
  unfold OidcAuthenticator.new
  split
  · exact alone_error _ s
  · split
    · exact alone_error _ s
    · rename_i algorithms _
      unfold OidcAuthenticator.jwksSource
      split
      · exact alone_newFrom parsers ⟨_, _, algorithms⟩ hs
      · -- The discovery document is another request, not one for the keys.
        rintro s₁ ⟨d, rfl⟩ (doc : Except String (Option String)) s' rfl
        refine ⟨trivial, ?_⟩
        rcases doc with source | _ | uri
        · exact alone_error _ _
        · exact alone_error _ _
        · exact alone_newFrom parsers ⟨uri, _, algorithms⟩ ⟨hs.fetches, hs.free⟩
      · exact alone_error _ s

/-- What `new` leaves behind when it has returned an authenticator. -/
theorem new_started {cfg : OidcConfig} {t : List (Record OidcSig OidcState Unit)}
    {c : Config OidcSig OidcState Unit (Except OidcError OidcAuthenticator)} (hs : Fresh s)
    (hrun : Run oidcSemantics ⟨s, fun _ => OidcAuthenticator.new parsers cfg⟩ t c)
    (hauth : c.thread () = .ret (.ok auth)) : ∃ first, Started c.shared first := by
  exact hrun.alone relies_alone (alone_new parsers cfg hs) hauth auth rfl

/-! ### The floor -/

/-- The first fetch is settled, so the invariant holds from the start. -/
theorem Started.invariant {first : JwksFetch} (h : Started s first) : Invariant parsers auth s :=
  ⟨[], first, ⟨h.fetches, by simp, .singleton _, h.clock⟩, fun _ => ⟨h.ended, fun _ => h.cached⟩⟩

/-- The invariant in every state that some calls reach, however they interleave. -/
theorem keyFor_invariant {ι : Type} [DecidableEq ι] {kid : ι → String} {first : JwksFetch}
    {t : List (Record OidcSig OidcState ι)} {c : Config OidcSig OidcState ι (Option DecodingKey)}
    (hs : Started s first)
    (hrun : Run oidcSemantics ⟨s, fun i => auth.keyFor parsers (kid i)⟩ t c) :
    Invariant parsers auth c.shared := by
  have hstart : Guarding oidcSemantics OidcState.locked Waits (Invariant parsers auth)
      (fun _ _ => False) ⟨s, fun i => auth.keyFor parsers (kid i)⟩ none :=
    ⟨hs.invariant, hs.free, fun i => keyFor_guarded parsers auth (kid i) s⟩
  obtain ⟨holder, h⟩ := hrun.guarding relies hstart
  exact h.inv

/-- At most the last request is in flight. -/
theorem Requests.inFlight_le_one (h : Requests parsers auth s init last) :
    s.fetches.countP JwksFetch.inFlight ≤ 1 := by
  have hover : init.countP JwksFetch.inFlight = 0 := by
    rw [List.countP_eq_zero]
    intro f hf
    rw [h.ended f hf]
    exact Bool.false_ne_true
  rw [h.fetches, List.countP_append, hover, Nat.zero_add]
  exact List.countP_le_length

/-- A request that is over and did not fail has succeeded. -/
theorem succeeded_of_not_failed {url : String} {f : JwksFetch} (hover : f.inFlight = false)
    (hf : ¬ f.failed parsers url = true) : f.succeeded parsers url = true := by
  unfold JwksFetch.inFlight at hover
  unfold JwksFetch.failed at hf
  unfold JwksFetch.succeeded
  cases hreply : f.reply with
  | none => simp [hreply] at hover
  | some reply => simpa [hreply] using hf

/-- Of two requests in a row, the first is over. -/
theorem Requests.ended_of_next (h : Requests parsers auth s init last) {f g : JwksFetch}
    {l l' : List JwksFetch} (hl : s.fetches = l ++ f :: g :: l') : f.inFlight = false := by
  have hinit : init = l ++ f :: (g :: l').dropLast := by
    have hdrop := congrArg List.dropLast (h.fetches.symm.trans hl)
    simpa using hdrop
  exact h.ended f (by simp [hinit])

/-- The floor is kept after each request that succeeded, so only those that failed matter. -/
theorem Requests.apart_iff (h : Requests parsers auth s init last) :
    s.fetches.IsChain (Apart auth.refreshFloor) ↔
      s.fetches.IsChain fun f g =>
        f.failed parsers auth.jwksUrl = true → Apart auth.refreshFloor f g := by
  constructor
  · exact fun hchain => hchain.imp fun f g hfg _ => hfg
  · intro hchain
    have hpaced := h.paced
    rw [← h.fetches] at hpaced
    rw [List.isChain_iff_forall_rel_of_append_cons_cons] at hchain hpaced ⊢
    intro f g l l' hl
    by_cases hfailed : f.failed parsers auth.jwksUrl = true
    · exact hchain hl hfailed
    · exact hpaced hl (succeeded_of_not_failed (h.ended_of_next hl) hfailed)

end

/-- **The refresh floor.** Take the authenticator that a run of `new` has returned, any number of
calls of `key_for` with any `kid`s, any interleaving of their steps and any replies. At every
time at most one JWKS request is in flight. Two requests in a row, the one of `new` included, are
sent at least the floor apart exactly if this is so where the first of the two has failed or was
abandoned. So it is so if this happened to no request but the last one. -/
theorem refreshFloor_iff {ι : Type} [DecidableEq ι] (parsers : KeyParsers) (cfg : OidcConfig)
    (auth : OidcAuthenticator) (kid : ι → String) {s : OidcState}
    {t₀ : List (Record OidcSig OidcState Unit)}
    {c₀ : Config OidcSig OidcState Unit (Except OidcError OidcAuthenticator)}
    {t : List (Record OidcSig OidcState ι)} {c : Config OidcSig OidcState ι (Option DecodingKey)}
    (hs : Fresh s) (hnew : Run oidcSemantics ⟨s, fun _ => OidcAuthenticator.new parsers cfg⟩ t₀ c₀)
    (hauth : c₀.thread () = .ret (.ok auth))
    (hrun : Run oidcSemantics ⟨c₀.shared, fun i => auth.keyFor parsers (kid i)⟩ t c) :
    c.shared.fetches.countP JwksFetch.inFlight ≤ 1 ∧
      (c.shared.fetches.IsChain (Apart auth.refreshFloor) ↔
        c.shared.fetches.IsChain fun f g =>
          f.failed parsers auth.jwksUrl = true → Apart auth.refreshFloor f g) ∧
      ((∀ f ∈ c.shared.fetches.dropLast, ¬ f.failed parsers auth.jwksUrl = true) →
        c.shared.fetches.IsChain (Apart auth.refreshFloor)) := by
  obtain ⟨first, hfirst⟩ := new_started hs hnew hauth
  obtain ⟨init, last, h, -⟩ := keyFor_invariant hfirst hrun
  refine ⟨h.inFlight_le_one, h.apart_iff, fun hsucceeded => h.apart_iff.mpr ?_⟩
  -- Two neighbours of the chain: the first of them has not failed, so nothing is asked of it.
  rw [List.isChain_iff_forall_rel_of_append_cons_cons]
  intro f g l l' hl hfailed
  refine absurd hfailed (hsucceeded f ?_)
  rw [hl]
  simp

/-! ### An outage of the identity provider -/

namespace Outage

/-- No key can be used. -/
def parsers : KeyParsers := ⟨fun _ _ => .error "not a key", fun _ _ => .error "not a key"⟩

/-- A provider with one JWKS document, and a floor of a minute. -/
def cfg : OidcConfig := ⟨some "idp/jwks", none, ["RS256"], 60⟩

/-- The state before the startup. -/
def start : OidcState := ⟨0, fun _ => none, 0, false, []⟩

/-- The authenticator of this configuration. -/
def auth : OidcAuthenticator := ⟨"idp/jwks", fromSecs 60, [.rs256]⟩

/-- Nothing has been fetched before the startup. -/
theorem fresh_start : Fresh start := ⟨rfl, rfl⟩

/-- The state a minute after the start, with an empty key set. -/
def minuteLater : OidcState := ⟨fromSecs 60, fun _ => none, 0, false, [⟨0, some (.jwks [])⟩]⟩

/-- With this configuration `new` fetches at once. -/
theorem new_eq : OidcAuthenticator.new parsers cfg = newFrom parsers auth := by
  have halg : cfg.algorithms.mapM parseAlgorithm = .ok [.rs256] := by decide +kernel
  unfold OidcAuthenticator.new
  rw [halg]
  rfl

/-- `new` gets an empty document, and then a minute passes. -/
theorem new_reaches :
    Reaches oidcSemantics ⟨start, fun _ : Unit => OidcAuthenticator.new parsers cfg⟩ fun c =>
      c.thread () = .ret (.ok auth) ∧ c.shared = minuteLater := by
  rw [new_eq]
  refine .cmd () rfl (0 : ℕ) ⟨rfl, rfl⟩ ?_
  refine .cmd () rfl (JwksReply.jwks []) rfl ?_
  refine .cmd () rfl () rfl ?_
  refine .env ⟨fromSecs 60, rfl⟩ ?_
  exact .here ⟨rfl, rfl⟩

/-- One call a minute later gets an empty document again. -/
theorem refreshed_reaches :
    Reaches oidcSemantics ⟨minuteLater, fun _ : Bool => auth.keyFor parsers "ghost"⟩
      fun c => c.shared.fetches = [⟨0, some (.jwks [])⟩, ⟨fromSecs 60, some (.jwks [])⟩] := by
  refine .cmd false rfl none ⟨rfl, rfl⟩ ?_
  refine .cmd false rfl () ⟨rfl, rfl⟩ ?_
  refine .cmd false rfl none ⟨rfl, rfl⟩ ?_
  refine .cmd false rfl (fromSecs 60) ⟨rfl, rfl⟩ ?_
  refine .cmd false rfl (1 : ℕ) ⟨rfl, rfl⟩ ?_
  refine .cmd false rfl (JwksReply.jwks []) rfl ?_
  exact .here rfl

/-- Two calls a minute later. The request of the first one fails, and the second one sends
another request at once. -/
theorem failed_reaches :
    Reaches oidcSemantics ⟨minuteLater, fun _ : Bool => auth.keyFor parsers "ghost"⟩
      fun c => c.shared.fetches = [⟨0, some (.jwks [])⟩,
        ⟨fromSecs 60, some (.sendFailed "connection refused")⟩, ⟨fromSecs 60, none⟩] := by
  refine .cmd false rfl none ⟨rfl, rfl⟩ ?_
  refine .cmd false rfl () ⟨rfl, rfl⟩ ?_
  refine .cmd false rfl none ⟨rfl, rfl⟩ ?_
  refine .cmd false rfl (fromSecs 60) ⟨rfl, rfl⟩ ?_
  refine .cmd false rfl (1 : ℕ) ⟨rfl, rfl⟩ ?_
  refine .cmd false rfl (JwksReply.sendFailed "connection refused") rfl ?_
  refine .cmd false rfl () rfl ?_
  -- `last_refreshed` is still that of `new`.
  refine .cmd true rfl none ⟨rfl, rfl⟩ ?_
  refine .cmd true rfl () ⟨rfl, rfl⟩ ?_
  refine .cmd true rfl none ⟨rfl, rfl⟩ ?_
  refine .cmd true rfl (fromSecs 60) ⟨rfl, rfl⟩ ?_
  refine .cmd true rfl (2 : ℕ) ⟨rfl, rfl⟩ ?_
  exact .here rfl

end Outage

/-- The floor of a minute is kept in a run in which the second fetch succeeds. -/
theorem refreshFloor_kept_after_success :
    ∃ t c, Run oidcSemantics
        ⟨Outage.minuteLater, fun _ : Bool => Outage.auth.keyFor Outage.parsers "ghost"⟩ t c ∧
      c.shared.fetches = [⟨0, some (.jwks [])⟩, ⟨fromSecs 60, some (.jwks [])⟩] ∧
      c.shared.fetches.IsChain (Apart Outage.auth.refreshFloor) := by
  obtain ⟨t₀, c₀, hnew, hauth, hlater⟩ := Outage.new_reaches
  obtain ⟨t, c, hrun, hfetches⟩ := Outage.refreshed_reaches
  refine ⟨t, c, hrun, hfetches, ?_⟩
  rw [← hlater] at hrun
  have h := refreshFloor_iff Outage.parsers Outage.cfg Outage.auth (fun _ => "ghost")
    Outage.fresh_start hnew hauth hrun
  refine h.2.2 fun f hf => ?_
  rw [hfetches] at hf
  obtain rfl : f = ⟨0, some (.jwks [])⟩ := by simpa using hf
  exact Bool.false_ne_true

/-- A minute after `new`, two callers with an unknown `kid` send a request each at the same time,
because the first request failed. The floor is a minute. -/
theorem failedFetch_repeated_at_once :
    ∃ t₀ c₀ t c, Run oidcSemantics
        ⟨Outage.start, fun _ : Unit => OidcAuthenticator.new Outage.parsers Outage.cfg⟩ t₀ c₀ ∧
      c₀.thread () = .ret (.ok Outage.auth) ∧
      Run oidcSemantics
        ⟨c₀.shared, fun _ : Bool => Outage.auth.keyFor Outage.parsers "ghost"⟩ t c ∧
      c.shared.fetches = [⟨0, some (.jwks [])⟩,
        ⟨fromSecs 60, some (.sendFailed "connection refused")⟩, ⟨fromSecs 60, none⟩] ∧
      ¬ c.shared.fetches.IsChain (Apart Outage.auth.refreshFloor) := by
  obtain ⟨t₀, c₀, hnew, hauth, hlater⟩ := Outage.new_reaches
  obtain ⟨t, c, hrun, hfetches⟩ := Outage.failed_reaches
  rw [← hlater] at hrun
  refine ⟨t₀, c₀, t, c, hnew, hauth, hrun, hfetches, ?_⟩
  rw [hfetches]
  simp [Apart, Outage.auth, fromSecs]

end SparkGateway.Proofs.Auth

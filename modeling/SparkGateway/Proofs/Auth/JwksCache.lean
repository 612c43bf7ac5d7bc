import SparkGateway.Proofs.Auth.RefreshFloor

/-!
# `SparkGateway.Proofs.Auth.JwksCache`: what is in the key cache

Calls of `key_for` read the cache at any time, also while another one fetches the JWKS.
`table_eq_some_iff` says what the keys of a document are: the key of a `kid` is that of its last
entry which can be used. `InForce` says which document the cache holds. It is the last one that the
identity provider has served, or the one before while a call has received a document and still holds
the lock. So keys of different documents are never mixed, and an old document never replaces a newer
one. `inForce_of_run` proves this for every interleaving, by the discipline of `refresh_lock`
(`Lib/Mutex.lean`).
-/

set_option autoImplicit false

namespace SparkGateway.Proofs.Auth

open Lib Spec

/-! ### The keys of a document -/

/-- The entry of a document makes this key under the `kid`. -/
inductive Makes (parsers : KeyParsers) (kid : String) (k : JwksKey) : DecodingKey → Prop where
  | rsa {n e : String} {key : DecodingKey} (hkid : k.kid = some kid) (hne : kid ≠ "")
      (hkty : k.kty = "RSA") (hn : k.n = some n) (he : k.e = some e)
      (hkey : parsers.fromRsaComponents n e = .ok key) : Makes parsers kid k key
  | ec {crv x y : String} {key : DecodingKey} (hkid : k.kid = some kid) (hne : kid ≠ "")
      (hkty : k.kty = "EC") (hcrv : k.crv = some crv) (hx : k.x = some x) (hy : k.y = some y)
      (hkey : parsers.fromEcComponents x y = .ok key) : Makes parsers kid k key

/-- The last entry of the document that makes a key under the `kid` makes this one. -/
def Listed (parsers : KeyParsers) (doc : List JwksKey) (kid : String) (key : DecodingKey) : Prop :=
  ∃ before k after, doc = before ++ k :: after ∧ Makes parsers kid k key ∧
    ∀ k' ∈ after, ∀ key', ¬ Makes parsers kid k' key'

section
variable {parsers : KeyParsers} {out out' : Keys} {k : JwksKey} {kid : String} {key : DecodingKey}

/-- A key is made from an entry with its own kid, which is not empty. -/
theorem makes_kid (h : Makes parsers kid k key) : k.kid = some kid ∧ kid ≠ "" := by
  cases h with
  | rsa hkid hne => exact ⟨hkid, hne⟩
  | ec hkid hne => exact ⟨hkid, hne⟩

/-- A key that could be decoded is inserted. -/
theorem insert_ok {decoded : Except String DecodingKey} (h : out.insert kid decoded = .ok out') :
    ∃ key, decoded = .ok key ∧ out' = Function.update out kid (some key) := by
  cases decoded with
  | error source => cases h
  | ok key => exact ⟨key, rfl, (Except.ok.inj h).symm⟩

/-- What one entry of a document does: it makes a key and replaces that of its `kid`, or it is
skipped. -/
theorem add_cases (h : Keys.add parsers out k = .ok out') :
    (∃ kid key, Makes parsers kid k key ∧ out' = Function.update out kid (some key)) ∨
      (∀ kid key, ¬ Makes parsers kid k key) ∧ out' = out := by
  unfold Keys.add at h
  dsimp only at h
  split at h
  · -- An entry without a kid is skipped.
    rename_i hempty
    refine .inr ⟨fun kid key hmakes => ?_, (Except.ok.inj h).symm⟩
    obtain ⟨hkid, hne⟩ := makes_kid hmakes
    simp [hkid, hne] at hempty
  · rename_i hempty
    -- From here on the entry has a kid, and its type decides.
    obtain ⟨kid, hkid, hne⟩ : ∃ kid, k.kid = some kid ∧ kid ≠ "" := by
      cases hkid : k.kid with
      | none => simp [hkid] at hempty
      | some kid => exact ⟨kid, rfl, by simpa [hkid] using hempty⟩
    rw [hkid, Option.getD_some] at h
    split at h
    · rename_i hkty
      split at h
      · rename_i n e hn he
        obtain ⟨key, hkey, rfl⟩ := insert_ok h
        exact .inl ⟨kid, key, .rsa hkid hne hkty hn he hkey, rfl⟩
      · -- An RSA entry that lacks a component is skipped.
        rename_i hmissing
        refine .inr ⟨fun kid' key hmakes => ?_, (Except.ok.inj h).symm⟩
        cases hmakes with
        | rsa _ _ _ hn he => exact hmissing _ _ hn he
        | ec _ _ hkty' => exact absurd (hkty.symm.trans hkty') (by decide)
    · rename_i hkty
      split at h
      · rename_i crv x y hcrv hx hy
        obtain ⟨key, hkey, rfl⟩ := insert_ok h
        exact .inl ⟨kid, key, .ec hkid hne hkty hcrv hx hy hkey, rfl⟩
      · -- An EC entry that lacks one is skipped too.
        rename_i hmissing
        refine .inr ⟨fun kid' key hmakes => ?_, (Except.ok.inj h).symm⟩
        cases hmakes with
        | rsa _ _ hkty' => exact absurd (hkty.symm.trans hkty') (by decide)
        | ec _ _ _ hcrv hx hy => exact hmissing _ _ _ hcrv hx hy
    · rename_i hrsa hec
      -- Other types make no key.
      refine .inr ⟨fun kid' key hmakes => ?_, (Except.ok.inj h).symm⟩
      cases hmakes with
      | rsa _ _ hkty => exact hrsa hkty
      | ec _ _ hkty => exact hec hkty

/-- An entry makes at most one key. -/
theorem makes_unique {kid' : String} {key' : DecodingKey} (h : Makes parsers kid k key)
    (h' : Makes parsers kid' k key') : kid = kid' ∧ key = key' := by
  refine ⟨Option.some.inj ((makes_kid h).1.symm.trans (makes_kid h').1), ?_⟩
  cases h with
  | rsa _ _ hkty hn he hkey =>
    cases h' with
    | rsa _ _ _ hn' he' hkey' =>
      cases hn.symm.trans hn'
      cases he.symm.trans he'
      exact Except.ok.inj (hkey.symm.trans hkey')
    | ec _ _ hkty' => exact absurd (hkty.symm.trans hkty') (by decide)
  | ec _ _ hkty _ hx hy hkey =>
    cases h' with
    | rsa _ _ hkty' => exact absurd (hkty.symm.trans hkty') (by decide)
    | ec _ _ _ _ hx' hy' hkey' =>
      cases hx.symm.trans hx'
      cases hy.symm.trans hy'
      exact Except.ok.inj (hkey.symm.trans hkey')

/-- Where an entry stands in a document with one more entry. -/
theorem listed_snoc {doc : List JwksKey} : Listed parsers (doc ++ [k]) kid key ↔
    Makes parsers kid k key ∨
      (∀ key', ¬ Makes parsers kid k key') ∧ Listed parsers doc kid key := by
  constructor
  · rintro ⟨before, k', after, hdoc, hmakes, hafter⟩
    -- The entry that makes the key is the last one, or an earlier one that the last does not
    -- replace.
    rcases List.eq_nil_or_concat after with rfl | ⟨after', last, rfl⟩
    · obtain ⟨-, hlast⟩ := List.append_inj' hdoc rfl
      obtain rfl := List.singleton_inj.mp hlast
      exact .inl hmakes
    · rw [List.concat_eq_append, ← List.cons_append, ← List.append_assoc] at hdoc
      obtain ⟨rfl, hlast⟩ := List.append_inj' hdoc rfl
      obtain rfl := List.singleton_inj.mp hlast
      exact .inr ⟨hafter k (by simp), before, k', after', rfl, hmakes,
        fun k'' hk'' => hafter k'' (by simp [hk''])⟩
  · rintro (hmakes | ⟨hskip, before, k', after, rfl, hmakes, hafter⟩)
    · exact ⟨doc, k, [], rfl, hmakes, fun k' hk' => nomatch hk'⟩
    · refine ⟨before, k', after ++ [k], by simp, hmakes, fun k'' hk'' => ?_⟩
      rcases List.mem_append.mp hk'' with hk'' | hk''
      · exact hafter k'' hk''
      · rw [List.mem_singleton.mp hk'']
        exact hskip

end

/-- **The keys of a document.** The table that `fetch_jwks` makes of a document has a key under a
`kid` exactly if the last entry of the document that makes a key under this `kid` makes that one. -/
theorem table_eq_some_iff {parsers : KeyParsers} (doc : List JwksKey) {out : Keys}
    (h : doc.foldlM (Keys.add parsers) (fun _ => none) = .ok out) (kid : String)
    (key : DecodingKey) : out kid = some key ↔ Listed parsers doc kid key := by
  -- The last entry decides, so the induction takes entries off the end.
  induction doc using List.reverseRecOn generalizing out with
  | nil =>
    obtain rfl := Except.ok.inj h
    constructor
    · exact fun hnone => nomatch hnone
    · rintro ⟨before, k, after, hdoc, -⟩
      simp at hdoc
  | append_singleton doc k ih =>
    rw [List.foldlM_append] at h
    cases hdoc : doc.foldlM (Keys.add parsers) (fun _ => none) with
    | error e => simp [hdoc, bind, Except.bind] at h
    | ok mid =>
      rw [hdoc] at h
      change (Keys.add parsers mid k >>= pure) = .ok out at h
      rw [bind_pure] at h
      rw [listed_snoc, ← ih hdoc]
      rcases add_cases h with ⟨kid', key', hmakes, rfl⟩ | ⟨hskip, rfl⟩
      · by_cases hkid : kid = kid'
        · subst hkid
          rw [Function.update_self, Option.some.injEq]
          constructor
          · rintro rfl
            exact .inl hmakes
          · rintro (hmakes' | ⟨hskip, -⟩)
            · exact (makes_unique hmakes hmakes').2
            · exact absurd hmakes (hskip key')
        · have hother : ∀ key', ¬ Makes parsers kid k key' :=
            fun key' h => hkid (makes_unique h hmakes).1
          rw [Function.update_of_ne hkid]
          simp [hother]
      · simp [hskip]

/-! ### The document in the cache -/

section
variable (parsers : KeyParsers) (url : String)

/-- The last request that got keys. -/
def lastSuccess (fetches : List JwksFetch) : Option JwksFetch :=
  (fetches.filter fun f => f.succeeded parsers url).getLast?

/-- The cache has the keys of `doc`, and that is the last document of these requests. -/
structure Holds (s : OidcState) (fetches : List JwksFetch) (doc : List JwksKey) : Prop where
  last : ∃ f, lastSuccess parsers url fetches = some f ∧ f.reply = some (.jwks doc)
  table : (JwksReply.jwks doc).keys parsers url = .ok s.keys

/-- The cache has the keys of the last document, or of the one before while the lock is taken. -/
def InForce (s : OidcState) (doc : List JwksKey) : Prop :=
  Holds parsers url s s.fetches doc ∨ s.locked = true ∧ Holds parsers url s s.fetches.dropLast doc

/-- A call that holds or does not hold `refresh_lock`. It never returns with the lock. -/
abbrev Tending {α : Type} : Prog OidcSig α → Bool → OidcState → Prop :=
  Guarded oidcSemantics OidcState.locked Waits (fun s => ∃ doc, InForce parsers url s doc)
    fun _ _ => False

end

section
variable {parsers : KeyParsers} {url : String} {s : OidcState} {fetches : List JwksFetch}
  {doc : List JwksKey} {α : Type}

/-- The last successful fetch, after one more fetch. -/
theorem lastSuccess_snoc (f : JwksFetch) : lastSuccess parsers url (fetches ++ [f])
    = if f.succeeded parsers url then some f else lastSuccess parsers url fetches := by
  unfold lastSuccess
  rw [List.filter_append]
  cases hf : f.succeeded parsers url <;> simp [hf]

/-- Only a document gives keys. -/
theorem jwks_of_keys {reply : JwksReply} {keys : Keys} (h : reply.keys parsers url = .ok keys) :
    ∃ doc, reply = .jwks doc := by
  cases reply with
  | jwks doc => exact ⟨doc, rfl⟩
  | sendFailed source => cases h
  | badBody source => cases h
  | abandoned => cases h

/-- A fetch whose document has keys is a successful one. -/
theorem succeeded_of_keys {reply : JwksReply} {keys : Keys} {start : ℕ}
    (h : reply.keys parsers url = .ok keys) :
    JwksFetch.succeeded parsers url ⟨start, some reply⟩ = true := by
  simp [JwksFetch.succeeded, h, Except.isOk, Except.toBool]

/-- Time leaves the invariant and the lock alone. -/
theorem relies_inForce : Relies oidcSemantics OidcState.locked Waits
    fun s => ∃ doc, InForce parsers url s doc := by
  refine relies_waits (fun _ _ => rfl) ?_
  rintro s d ⟨doc, h | ⟨hlocked, h⟩⟩
  · exact ⟨doc, .inl ⟨h.last, h.table⟩⟩
  · exact ⟨doc, .inr ⟨hlocked, h.last, h.table⟩⟩

/-- The guard is dropped while the cache has the last document. -/
theorem tending_unlock {k : Unit → Prog OidcSig α} (doc : List JwksKey)
    (h : Holds parsers url s s.fetches doc) (hk : ∀ s, Tending parsers url (k ()) false s) :
    Tending parsers url (.step .unlock k) true s := by
  rintro s₁ ⟨d, rfl⟩ r s' rfl
  exact ⟨⟨doc, .inl ⟨h.last, h.table⟩⟩, hk _⟩

end

section
variable {parsers : KeyParsers} {auth : OidcAuthenticator} {s : OidcState}
  {fetches : List JwksFetch} {doc : List JwksKey} {start : ℕ}

/-- A document that was received is written before the lock is dropped. After a failure the cache
still has the last one. -/
theorem tending_received (kid : String) {reply : JwksReply}
    (hfetches : s.fetches = fetches ++ [⟨start, some reply⟩])
    (h : Holds parsers auth.jwksUrl s fetches doc) (hlocked : s.locked = true) :
    Tending parsers auth.jwksUrl (received parsers auth kid reply) true s := by
  unfold received
  cases hkeys : reply.keys parsers auth.jwksUrl with
  | error e =>
    -- The cache still has the document from before the failed fetch.
    refine tending_unlock doc ⟨?_, h.table⟩ fun _ => trivial
    have hfailed : JwksFetch.succeeded parsers auth.jwksUrl ⟨start, some reply⟩ = false := by
      simp [JwksFetch.succeeded, hkeys, Except.isOk, Except.toBool]
    rw [hfetches, lastSuccess_snoc, hfailed]
    exact h.last
  | ok newKeys =>
    obtain ⟨doc', rfl⟩ := jwks_of_keys hkeys
    -- The new document is the last one that was fetched.
    have hlast : ∃ f, lastSuccess parsers auth.jwksUrl s.fetches = some f ∧
        f.reply = some (.jwks doc') := by
      refine ⟨⟨start, some (.jwks doc')⟩, ?_, rfl⟩
      rw [hfetches, lastSuccess_snoc, if_pos (succeeded_of_keys hkeys)]
    rintro s₁ ⟨d, rfl⟩ r s' rfl
    refine ⟨⟨doc', .inl ⟨hlast, hkeys⟩⟩, ?_⟩
    show Tending parsers auth.jwksUrl _ s.locked _
    rw [hlocked]
    refine tending_unlock doc' ⟨hlast, hkeys⟩ ?_
    rintro - s r s' - ⟨-, rfl⟩
    exact .inl ⟨⟨0, rfl⟩, trivial⟩

/-- The request of a call with the lock. -/
theorem tending_fetch (kid : String) (doc : List JwksKey)
    (h : Holds parsers auth.jwksUrl s s.fetches doc) (hlocked : s.locked = true) :
    Tending parsers auth.jwksUrl (.step (.send auth.jwksUrl) fun request =>
      .step (.receive request) (received parsers auth kid)) true s := by
  rintro s₁ ⟨d, rfl⟩ request s' ⟨rfl, rfl⟩
  -- A request without a reply is not the last success.
  have hsent : Holds parsers auth.jwksUrl (s.wait d) (s.fetches ++ [⟨(s.wait d).now, none⟩]) doc :=
    ⟨by rw [lastSuccess_snoc]; exact h.last, h.table⟩
  refine ⟨⟨doc, .inl ⟨hsent.last, hsent.table⟩⟩, ?_⟩
  show Tending parsers auth.jwksUrl _ s.locked _
  rw [hlocked]
  rintro s₂ ⟨d', rfl⟩ (reply : JwksReply) s' rfl
  have hfetches : (s.fetches ++ [(⟨(s.wait d).now, none⟩ : JwksFetch)]).modify s.fetches.length
      (fun f => { f with reply := some reply }) = s.fetches ++ [⟨(s.wait d).now, some reply⟩] :=
    modify_length_snoc _ _ _
  have hbefore := congrArg List.dropLast hfetches
  rw [List.dropLast_concat] at hbefore
  refine ⟨⟨doc, .inr ⟨hlocked, ?_, h.table⟩⟩, ?_⟩
  · obtain ⟨f, hlast, hreply⟩ := h.last
    exact ⟨f, (congrArg (lastSuccess parsers auth.jwksUrl) hbefore).trans hlast, hreply⟩
  · show Tending parsers auth.jwksUrl _ s.locked _
    rw [hlocked]
    exact tending_received kid hfetches ⟨h.last, h.table⟩ hlocked

/-- **The discipline of one call.** From any state, a call of `key_for` leaves the cache with the
last document that was fetched when it gives the lock up, and never returns with the lock. -/
theorem keyFor_tending (parsers : KeyParsers) (auth : OidcAuthenticator) (kid : String)
    (s : OidcState) : Tending parsers auth.jwksUrl (auth.keyFor parsers kid) false s := by
  rintro s (_ | key) s' - ⟨-, rfl⟩
  · refine .inl ⟨⟨0, rfl⟩, ?_⟩
    rintro s r s' ⟨doc, hinForce⟩ ⟨hfree, rfl⟩
    -- The lock was free, so the cache has the last document.
    have h : Holds parsers auth.jwksUrl s s.fetches doc := by
      rcases hinForce with h | ⟨hlocked, -⟩
      · exact h
      · rw [hfree] at hlocked
        cases hlocked
    refine .inr ⟨hfree, rfl, ⟨doc, .inl ⟨h.last, h.table⟩⟩, ?_⟩
    rintro s₁ ⟨d, rfl⟩ (_ | key) s' ⟨-, rfl⟩
    · refine ⟨⟨doc, .inl ⟨h.last, h.table⟩⟩, ?_⟩
      rintro s₂ ⟨d', rfl⟩ (elapsed : ℕ) s' ⟨-, rfl⟩
      refine ⟨⟨doc, .inl ⟨h.last, h.table⟩⟩, ?_⟩
      show Tending parsers auth.jwksUrl (if elapsed < auth.refreshFloor then _ else _) true _
      split
      · exact tending_unlock doc ⟨h.last, h.table⟩ fun _ => trivial
      · exact tending_fetch kid doc ⟨h.last, h.table⟩ rfl
    · refine ⟨⟨doc, .inl ⟨h.last, h.table⟩⟩, ?_⟩
      exact tending_unlock doc ⟨h.last, h.table⟩ fun _ => trivial
  · exact .inl ⟨⟨0, rfl⟩, trivial⟩

end

/-- **The document in force**, in every state that some calls reach, however they interleave. -/
theorem inForce_of_run {ι α : Type} [DecidableEq ι] {parsers : KeyParsers} {url : String}
    {s : OidcState} {doc : List JwksKey} {p : ι → Prog OidcSig α}
    {t : List (Record OidcSig OidcState ι)} {c : Config OidcSig OidcState ι α}
    (hs : Holds parsers url s s.fetches doc) (hfree : s.locked = false)
    (hp : ∀ i s, Tending parsers url (p i) false s)
    (hrun : Run oidcSemantics ⟨s, p⟩ t c) : ∃ doc', InForce parsers url c.shared doc' := by
  have hstart : Guarding oidcSemantics OidcState.locked Waits
      (fun s => ∃ doc, InForce parsers url s doc) (fun _ _ => False) ⟨s, p⟩ none :=
    ⟨⟨doc, .inl hs⟩, hfree, fun i => hp i s⟩
  obtain ⟨holder, h⟩ := hrun.guarding relies_inForce hstart
  exact h.inv

end SparkGateway.Proofs.Auth

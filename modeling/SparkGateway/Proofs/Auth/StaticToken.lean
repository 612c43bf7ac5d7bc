import Mathlib.Data.List.Induction
import Mathlib.Data.List.Nodup
import SparkGateway.Proofs.Auth.BearerToken

/-!
# `SparkGateway.Proofs.Auth.StaticToken`: exactly the configured tokens are accepted

The table of a `StaticTokenAuthenticator` has one row for each entry (`new_rows`), with different
tokens. So the scan of `lookup`, which keeps the last match, finds the only row of a token,
whatever the order in which the map iterates (`lookup_eq_some_iff`). With the grammar of the
header this says which requests are accepted and as whom (`staticToken_accepts`).
-/

set_option autoImplicit false

namespace SparkGateway.Proofs.Auth

open SparkGateway.Lib
open SparkGateway.Spec
open SparkGateway.Spec.StaticTokenAuthenticator (insertAll lookup)

/-! ### The table -/

/-- The row of an entry. -/
def rowOf (e : TokenEntry) : String × IdentityTemplate := (e.token, e.template)

/-- The loop puts a row for each entry in front of the table. -/
theorem insertAll_rows {table table' : TokenTable} {entries : List TokenEntry}
    (h : insertAll table entries = .ok table') :
    table'.rows = (entries.map rowOf).reverse ++ table.rows := by
  induction entries generalizing table with
  | nil =>
    obtain rfl := Except.ok.inj h
    rfl
  | cons e entries ih =>
    unfold insertAll at h
    split at h
    · cases h
    · rw [ih h]
      simp [TokenTable.insert, rowOf]

/-- The loop succeeds on entries with different tokens, none of which is in the table yet. -/
theorem insertAll_ok_iff (table : TokenTable) (entries : List TokenEntry) :
    (∃ table', insertAll table entries = .ok table') ↔
      (entries.map TokenEntry.token).Nodup ∧
        ∀ e ∈ entries, e.token ∉ table.rows.map Prod.fst := by
  constructor
  · rintro ⟨table', h⟩
    -- The rows of the result have different tokens.
    have hnodup := table'.nodup
    rw [insertAll_rows h, List.map_append, List.map_reverse, List.map_map, List.nodup_append,
      List.nodup_reverse] at hnodup
    refine ⟨hnodup.1, ?_⟩
    intro e he hin
    exact hnodup.2.2 e.token (List.mem_reverse.mpr (List.mem_map_of_mem he)) e.token hin rfl
  · rintro ⟨hnodup, hnew⟩
    induction entries generalizing table with
    | nil => exact ⟨table, rfl⟩
    | cons e entries ih =>
      obtain ⟨hhead, hnodup⟩ := List.nodup_cons.mp hnodup
      have hfree : ¬ table.containsKey e.token := by
        simpa [TokenTable.containsKey] using hnew e List.mem_cons_self
      unfold insertAll
      rw [dif_neg hfree]
      refine ih _ hnodup ?_
      intro e' he' hin
      rcases List.mem_cons.mp hin with hsame | hin
      · have hsame : e'.token = e.token := hsame
        exact hhead (hsame ▸ List.mem_map_of_mem he')
      · exact hnew e' (List.mem_cons_of_mem _ he') hin

/-- `new` succeeds exactly on a list that is not empty and has no token twice. -/
theorem new_ok_iff (entries : List TokenEntry) :
    (∃ auth, StaticTokenAuthenticator.new entries = .ok auth) ↔
      entries ≠ [] ∧ (entries.map TokenEntry.token).Nodup := by
  have hloop : (∃ table, insertAll TokenTable.empty entries = .ok table) ↔
      (entries.map TokenEntry.token).Nodup := by
    rw [insertAll_ok_iff]
    exact and_iff_left fun e _ hin => nomatch hin
  unfold StaticTokenAuthenticator.new
  cases entries with
  | nil => simp
  | cons e entries =>
    rw [← hloop]
    cases insertAll TokenTable.empty (e :: entries) with
    | error err => simp [Except.map]
    | ok table => simp [Except.map]

/-- The table has the rows of the entries. -/
theorem new_rows {entries : List TokenEntry} {auth : StaticTokenAuthenticator}
    (h : StaticTokenAuthenticator.new entries = .ok auth) :
    auth.inner.rows.Perm (entries.map rowOf) := by
  unfold StaticTokenAuthenticator.new at h
  split at h
  · cases h
  · cases htable : insertAll TokenTable.empty entries with
    | error err =>
      rw [htable] at h
      cases h
    | ok table =>
      rw [htable] at h
      obtain rfl := Except.ok.inj h
      show table.rows.Perm _
      rw [insertAll_rows htable]
      simp [TokenTable.empty]

/-! ### The lookup -/

/-- The scan that keeps the last match finds the only row of the token. -/
theorem lookup_eq_some_iff {order : List (String × IdentityTemplate)}
    (hnodup : (order.map Prod.fst).Nodup) (presented : String) (tmpl : IdentityTemplate) :
    lookup order presented = some tmpl ↔ (presented, tmpl) ∈ order := by
  induction order using List.reverseRecOn with
  | nil => simp [lookup]
  | append_singleton order row ih =>
    obtain ⟨stored, other⟩ := row
    rw [List.map_append, List.nodup_append] at hnodup
    have hscan : lookup (order ++ [(stored, other)]) presented =
        if stored = presented then some other else lookup order presented := by
      unfold lookup
      rw [List.foldl_append]
      simp only [List.foldl_cons, List.foldl_nil, ← ByteArray.ext_iff, String.toByteArray_inj]
    rw [hscan, List.mem_append, List.mem_singleton, Prod.mk.injEq]
    split
    · -- The rows before have other tokens.
      rename_i hsame
      subst hsame
      have hbefore : (stored, tmpl) ∉ order := fun hin =>
        hnodup.2.2 stored (List.mem_map_of_mem hin) stored List.mem_cons_self rfl
      rw [Option.some.injEq]
      constructor
      · exact fun h => .inr ⟨rfl, h.symm⟩
      · rintro (hin | ⟨-, h⟩)
        · exact absurd hin hbefore
        · exact h.symm
    · -- The last row is another token's, so the rows before decide.
      rename_i hother
      rw [ih hnodup.1]
      exact (or_iff_left fun h => hother h.1.symm).symm

/-! ### One call -/

section
variable {auth : StaticTokenAuthenticator} {iteration : auth.inner.Iteration}
  {metadata : MetadataMap} {token : String}

/-- Without a token the request is refused as missing one. -/
theorem authenticate_of_none (h : bearerToken metadata = .ok none) :
    auth.authenticate iteration metadata = .error (.refused missingToken) := by
  unfold StaticTokenAuthenticator.authenticate
  rw [requireToken_of_none h]
  rfl

/-- A token of the table gets its identity. -/
theorem authenticate_of_hit (h : bearerToken metadata = .ok (some token)) {tmpl : IdentityTemplate}
    (hlookup : lookup iteration.1 token = some tmpl) :
    auth.authenticate iteration metadata = .ok ⟨tmpl.userId, tmpl.tenant, tmpl.groups⟩ := by
  unfold StaticTokenAuthenticator.authenticate
  rw [requireToken_of_some h]
  simp only [bind, Except.bind, hlookup]
  rfl

/-- A token that is not in the table is refused. -/
theorem authenticate_of_miss (h : bearerToken metadata = .ok (some token))
    (hlookup : lookup iteration.1 token = none) :
    auth.authenticate iteration metadata =
      .error (.refused (Status.unauthenticated "invalid token")) := by
  unfold StaticTokenAuthenticator.authenticate
  rw [requireToken_of_some h]
  simp only [bind, Except.bind, hlookup]
  rfl

/-- The static table never panics. -/
theorem authenticate_not_panicked (auth : StaticTokenAuthenticator)
    (iteration : auth.inner.Iteration) (metadata : MetadataMap) :
    auth.authenticate iteration metadata ≠ .error .panicked := by
  obtain ⟨token?, htoken⟩ := bearerToken_ok metadata
  cases token? with
  | none =>
    rw [authenticate_of_none htoken]
    simp
  | some token =>
    cases hlookup : lookup iteration.1 token with
    | none =>
      rw [authenticate_of_miss htoken hlookup]
      simp
    | some tmpl =>
      rw [authenticate_of_hit htoken hlookup]
      simp

end

section
variable {entries : List TokenEntry} {auth : StaticTokenAuthenticator}
  (hnew : StaticTokenAuthenticator.new entries = .ok auth) (iteration : auth.inner.Iteration)
include hnew

/-- A lookup finds the template of the entry with the token. -/
theorem lookup_entry_iff (presented : String) (tmpl : IdentityTemplate) :
    lookup iteration.1 presented = some tmpl ↔
      ∃ e ∈ entries, e.token = presented ∧ e.template = tmpl := by
  have hnodup : (iteration.1.map Prod.fst).Nodup :=
    (iteration.2.map Prod.fst).nodup_iff.mpr auth.inner.nodup
  rw [lookup_eq_some_iff hnodup, (iteration.2.trans (new_rows hnew)).mem_iff, List.mem_map]
  simp only [rowOf, Prod.mk.injEq]

/-- The entry of a token is the only one. -/
theorem entry_unique {e e' : TokenEntry} (he : e ∈ entries) (he' : e' ∈ entries)
    (hsame : e'.token = e.token) : e' = e :=
  List.inj_on_of_nodup_map ((new_ok_iff entries).mp ⟨auth, hnew⟩).2 he' he hsame

/-- What is accepted: a credential that is the token of an entry. -/
theorem authenticate_ok_iff (metadata : MetadataMap) (id : Identity) :
    auth.authenticate iteration metadata = .ok id ↔
      ∃ e ∈ entries, bearerToken metadata = .ok (some e.token) ∧
        id = ⟨e.userId, e.tenant, e.groups⟩ := by
  obtain ⟨token?, htoken⟩ := bearerToken_ok metadata
  cases token? with
  | none =>
    rw [authenticate_of_none htoken, htoken]
    -- Without a token no entry can match.
    refine iff_of_false (fun h => nomatch h) ?_
    rintro ⟨e, -, h, -⟩
    cases h
  | some token =>
    cases hlookup : lookup iteration.1 token with
    | none =>
      rw [authenticate_of_miss htoken hlookup, htoken]
      refine iff_of_false (fun h => nomatch h) ?_
      rintro ⟨e, he, h, -⟩
      obtain rfl := Option.some.inj (Except.ok.inj h)
      -- If an entry had the token, the lookup would have found it.
      have hhit := (lookup_entry_iff hnew iteration e.token e.template).mpr ⟨e, he, rfl, rfl⟩
      cases hlookup.symm.trans hhit
    | some tmpl =>
      rw [authenticate_of_hit htoken hlookup, htoken]
      obtain ⟨e, he, rfl, rfl⟩ := (lookup_entry_iff hnew iteration token tmpl).mp hlookup
      constructor
      · intro h
        exact ⟨e, he, rfl, (Except.ok.inj h).symm⟩
      · rintro ⟨e', he', h, rfl⟩
        -- Two entries with one token are one entry.
        obtain rfl := entry_unique hnew he he' (Option.some.inj (Except.ok.inj h)).symm
        rfl

end

/-- The order of the entries and of the map's iteration does not matter. -/
theorem authenticate_perm {entries entries' : List TokenEntry} (hperm : entries'.Perm entries)
    {auth auth' : StaticTokenAuthenticator}
    (hnew : StaticTokenAuthenticator.new entries = .ok auth)
    (hnew' : StaticTokenAuthenticator.new entries' = .ok auth')
    (iteration : auth.inner.Iteration) (iteration' : auth'.inner.Iteration)
    (metadata : MetadataMap) :
    auth'.authenticate iteration' metadata = auth.authenticate iteration metadata := by
  have hlookup : ∀ token, lookup iteration'.1 token = lookup iteration.1 token := by
    intro token
    refine Option.ext fun tmpl => ?_
    rw [lookup_entry_iff hnew' iteration', lookup_entry_iff hnew iteration]
    simp only [hperm.mem_iff]
  unfold StaticTokenAuthenticator.authenticate
  simp only [hlookup]

/-- **Static tokens.** `new` succeeds exactly on a non-empty list of entries with different
tokens. The authenticator then never panics. It accepts a header value that `to_str` accepts if
and only if it has the form of a bearer header with the token of an entry; that entry is the only
one, and the identity is the one of the entry. Other orders of the entries and of the map's
iteration give the same result. -/
theorem staticToken_accepts (entries : List TokenEntry) :
    ((∃ auth, StaticTokenAuthenticator.new entries = .ok auth) ↔
      entries ≠ [] ∧ (entries.map TokenEntry.token).Nodup) ∧
    ∀ auth, StaticTokenAuthenticator.new entries = .ok auth →
      ∀ (iteration : auth.inner.Iteration) (metadata : MetadataMap),
        auth.authenticate iteration metadata ≠ .error .panicked ∧
        (∀ raw, (metadata "authorization").bind MetadataValue.toStr = some raw →
          ∀ id, auth.authenticate iteration metadata = .ok id ↔
            ∃ e ∈ entries, BearerForm raw e.token ∧
              (∀ e' ∈ entries, BearerForm raw e'.token → e' = e) ∧
              id = ⟨e.userId, e.tenant, e.groups⟩) ∧
        ∀ entries', entries'.Perm entries →
          ∃ auth', StaticTokenAuthenticator.new entries' = .ok auth' ∧
            ∀ iteration' : auth'.inner.Iteration,
              auth'.authenticate iteration' metadata = auth.authenticate iteration metadata := by
  refine ⟨new_ok_iff entries, ?_⟩
  intro auth hnew iteration metadata
  refine ⟨authenticate_not_panicked auth iteration metadata, ?_, ?_⟩
  · intro raw hraw id
    obtain ⟨v, -, hv⟩ := Option.bind_eq_some_iff.mp hraw
    have hform := bearerToken_eq_some_iff (toStr_printable hv) hraw
    simp only [authenticate_ok_iff hnew iteration, hform]
    constructor
    · rintro ⟨e, he, htoken, hid⟩
      refine ⟨e, he, htoken, ?_, hid⟩
      -- The header has one token.
      intro e' he' htoken'
      have hsame := ((hform e'.token).mpr htoken').symm.trans ((hform e.token).mpr htoken)
      exact entry_unique hnew he he' (Option.some.inj (Except.ok.inj hsame))
    · rintro ⟨e, he, htoken, -, hid⟩
      exact ⟨e, he, htoken, hid⟩
  · intro entries' hperm
    obtain ⟨hne, hnodup⟩ := (new_ok_iff entries).mp ⟨auth, hnew⟩
    obtain ⟨auth', hnew'⟩ := (new_ok_iff entries').mpr
      ⟨fun hnil => hne (List.nil_perm.mp (hnil ▸ hperm)),
        (hperm.map TokenEntry.token).nodup_iff.mpr hnodup⟩
    exact ⟨auth', hnew', fun iteration' =>
      authenticate_perm hperm hnew hnew' iteration iteration' metadata⟩

/-- The tokens of alice and bob. -/
def twoTokens : List TokenEntry := [⟨"t-1", "alice", none, ["dev"]⟩, ⟨"t-2", "bob", none, []⟩]

/-- The bytes of a header. -/
def headerBytes (text : String) : MetadataValue := text.toList.map fun c => c.toNat.toUInt8

/-- Alice's token is accepted with blanks around it and the scheme in lower case. -/
theorem staticToken_accepts_alice :
    let metadata : MetadataMap := fun _ => some (headerBytes "  bearer \tt-1 ")
    ∃ auth, StaticTokenAuthenticator.new twoTokens = .ok auth ∧
      ∃ iteration : auth.inner.Iteration,
        auth.authenticate iteration metadata = .ok ⟨"alice", none, ["dev"]⟩ ∧
        ∃ e ∈ twoTokens, BearerForm "  bearer \tt-1 " e.token ∧ e.userId = "alice" := by
  intro metadata
  let auth : StaticTokenAuthenticator :=
    ⟨⟨[("t-2", ⟨"bob", none, []⟩), ("t-1", ⟨"alice", none, ["dev"]⟩)], by decide⟩⟩
  have hnew : StaticTokenAuthenticator.new twoTokens = .ok auth := rfl
  let iteration : auth.inner.Iteration := ⟨auth.inner.rows, List.Perm.refl _⟩
  have hraw : (metadata "authorization").bind MetadataValue.toStr = some "  bearer \tt-1 " := by
    decide +kernel
  have hok : auth.authenticate iteration metadata = .ok ⟨"alice", none, ["dev"]⟩ := by
    decide +kernel
  refine ⟨auth, hnew, iteration, hok, ?_⟩
  obtain ⟨-, haccepts, -⟩ := (staticToken_accepts twoTokens).2 auth hnew iteration metadata
  obtain ⟨e, he, hform, -, hid⟩ := (haccepts _ hraw _).mp hok
  exact ⟨e, he, hform, (congrArg Identity.userId hid).symm⟩

end SparkGateway.Proofs.Auth

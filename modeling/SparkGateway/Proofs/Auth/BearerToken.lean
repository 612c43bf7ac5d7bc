import SparkGateway.Spec.Auth

/-!
# `SparkGateway.Proofs.Auth.BearerToken`: the form of a bearer header

`BearerForm raw tok` is the grammar of the header: blanks, `Bearer` in any case, a space, blanks,
the token, blanks. A header value that `to_str` accepts has visible ASCII, space and tab only
(`Printable`). There every character is one byte, and Rust's whitespace is space and tab, so the
code's trims and slices are those of a list of characters (`bearerToken_eq`), and it finds a
token exactly in the headers of this form (`bearerToken_eq_some_iff`).
-/

set_option autoImplicit false

namespace SparkGateway.Proofs.Auth

open SparkGateway.Lib
open SparkGateway.Spec

/-! ### Printable text -/

/-- Visible ASCII, space or tab. -/
def Printable (c : Char) : Prop := (32 ≤ c.toNat ∧ c.toNat < 127) ∨ c.toNat = 9

/-- Space or tab. -/
def Blank (c : Char) : Prop := c = ' ' ∨ c = '\t'

/-- What `to_str` accepts is printable. -/
theorem toStr_printable {v : MetadataValue} {raw : String} (h : v.toStr = some raw) :
    ∀ c ∈ raw.toList, Printable c := by
  unfold MetadataValue.toStr at h
  split at h
  · rename_i hall
    obtain rfl := Option.some.inj h
    intro c hc
    rw [String.toList_ofList] at hc
    obtain ⟨b, hb, rfl⟩ := List.mem_map.mp hc
    have hb := List.all_eq_true.mp hall b hb
    -- Bytes below 256 are valid code points, so the character has the byte's number.
    have hvalid : b.toNat.isValidChar := .inl (Nat.lt_trans b.toNat_lt (by decide))
    have htoNat : (Char.ofNat b.toNat).toNat = b.toNat := by
      rw [Char.ofNat, dif_pos hvalid]
      rfl
    unfold Printable
    rw [htoNat]
    simp only [Bool.or_eq_true, Bool.and_eq_true, decide_eq_true_eq, beq_iff_eq,
      UInt8.le_iff_toNat_le, UInt8.lt_iff_toNat_lt, ← UInt8.toNat_inj] at hb
    exact hb
  · cases h

/-- Of the printable characters only the blanks are whitespace. -/
theorem isWhitespace_iff {c : Char} (h : Printable c) : isWhitespace c = true ↔ Blank c := by
  unfold Printable at h
  unfold Blank isWhitespace
  rw [← Char.toNat_inj, ← Char.toNat_inj]
  have hspace : ' '.toNat = 32 := rfl
  have htab : '\t'.toNat = 9 := rfl
  simp only [Bool.or_eq_true, Bool.and_eq_true, decide_eq_true_eq, beq_iff_eq]
  omega

/-- A printable character takes one byte. -/
theorem utf8Size_of_printable {c : Char} (h : Printable c) : c.utf8Size = 1 := by
  have hle : c.toNat ≤ 127 := by
    unfold Printable at h
    omega
  exact Char.utf8Size_eq_one_iff.mpr hle

/-- No other character becomes a space in lower case. -/
theorem eq_space_of_toLower {c : Char} (h : c.toLower = ' ') : c = ' ' := by
  unfold Char.toLower at h
  split at h
  · rename_i hupper
    have hlow : 65 ≤ c.toNat := hupper.1
    have hhigh : c.toNat ≤ 90 := hupper.2
    have hval : (c.val + 32).toNat = 32 := congrArg Char.toNat h
    rw [UInt32.toNat_add] at hval
    have h32 : (32 : UInt32).toNat = 32 := rfl
    have hc : c.val.toNat = c.toNat := rfl
    omega
  · exact h

/-- A `b` of either case is not a blank. -/
theorem not_blank_of_toLower {c : Char} (h : c.toLower = 'b') : ¬ Blank c := by
  rintro (rfl | rfl)
  · cases h
  · cases h

/-- Text of one-byte characters is cut at every position. -/
theorem splitBytes_eq {cs : List Char} (hcs : ∀ c ∈ cs, c.utf8Size = 1) (n : ℕ) :
    splitBytes n cs = if n ≤ cs.length then some (cs.take n, cs.drop n) else none := by
  induction cs generalizing n with
  | nil =>
    cases n with
    | zero => rfl
    | succ n => rfl
  | cons c cs ih =>
    cases n with
    | zero => rfl
    | succ n =>
      have hc := hcs c List.mem_cons_self
      have hrest := ih (fun d hd => hcs d (List.mem_cons_of_mem _ hd)) n
      simp only [splitBytes, hc, Nat.le_add_left, if_true, Nat.add_sub_cancel, hrest,
        List.length_cons, Nat.add_le_add_iff_right, List.take_succ_cons, List.drop_succ_cons]
      split <;> rfl

/-! ### The grammar -/

/-- Blanks, `Bearer` in any case, a space, blanks, the token, blanks. The token is not empty and
neither starts nor ends with a blank. -/
def BearerForm (raw tok : String) : Prop :=
  ∃ pre scheme gap post : List Char,
    raw.toList = pre ++ (scheme ++ ' ' :: (gap ++ tok.toList)) ++ post ∧
      scheme.map Char.toLower = "bearer".toList ∧ tok.toList ≠ [] ∧
      (∀ c ∈ pre, Blank c) ∧ (∀ c ∈ gap, Blank c) ∧ (∀ c ∈ post, Blank c) ∧
      (∀ c ∈ tok.toList.head?, ¬ Blank c) ∧ ∀ c ∈ tok.toList.getLast?, ¬ Blank c

/-- `bearer_token` from the text of the header on, over characters. -/
def bearerChars (raw : List Char) : Option (List Char) :=
  let trimmed := trim isWhitespace raw
  if 7 ≤ trimmed.length ∧ (trimmed.take 7).map Char.toLower = "bearer ".toList then
    some (trim isWhitespace (trimmed.drop 7))
  else none

/-- The first seven characters are `Bearer` and a space. -/
theorem scheme_of_take {l : List Char} (hlen : 7 ≤ l.length)
    (h : (l.take 7).map Char.toLower = "bearer ".toList) :
    ∃ scheme, l = scheme ++ ' ' :: l.drop 7 ∧ scheme.map Char.toLower = "bearer".toList := by
  have hsix : l.take 7 = l.take 6 ++ [l[6]] := List.take_succ_eq_append_getElem hlen
  rw [hsix, List.map_append] at h
  have hbearer : "bearer ".toList = "bearer".toList ++ [' '] := rfl
  rw [hbearer] at h
  obtain ⟨hscheme, hspace⟩ := List.append_inj' h rfl
  have hspace : l[6] = ' ' := eq_space_of_toLower (List.cons.inj hspace).1
  refine ⟨l.take 6, ?_, hscheme⟩
  rw [← List.singleton_append, ← List.append_assoc, ← hspace, ← hsix, List.take_append_drop]

section
variable {raw : String} (hraw : ∀ c ∈ raw.toList, Printable c)
include hraw

/-- The characters of the header that were trimmed are blanks. -/
theorem blank_of_whitespace {cs : List Char} (hsub : cs ⊆ raw.toList)
    (h : ∀ c ∈ cs, isWhitespace c = true) : ∀ c ∈ cs, Blank c :=
  fun c hc => (isWhitespace_iff (hraw c (hsub hc))).mp (h c hc)

/-- The blanks of the header are trimmed. -/
theorem whitespace_of_blank {cs : List Char} (hsub : cs ⊆ raw.toList) (h : ∀ c ∈ cs, Blank c) :
    ∀ c ∈ cs, isWhitespace c = true :=
  fun c hc => (isWhitespace_iff (hraw c (hsub hc))).mpr (h c hc)

/-- Within the header, what has no whitespace at its ends has no blank there. -/
theorem bare_iff {cs : List Char} (hsub : cs ⊆ raw.toList) :
    Bare isWhitespace cs ↔
      (∀ c ∈ cs.head?, ¬ Blank c) ∧ ∀ c ∈ cs.getLast?, ¬ Blank c := by
  have hchar : ∀ c ∈ cs, isWhitespace c = false ↔ ¬ Blank c := by
    intro c hc
    rw [← isWhitespace_iff (hraw c (hsub hc)), Bool.not_eq_true]
  unfold Bare
  refine and_congr (forall₂_congr ?_) (forall₂_congr ?_)
  · exact fun c hc => hchar c (List.mem_of_mem_head? hc)
  · exact fun c hc => hchar c (List.mem_of_getLast? hc)

/-- A header with a token has the form. -/
theorem bearerForm_of_chars {tok : String} (h : bearerChars raw.toList = some tok.toList) :
    BearerForm raw tok := by
  unfold bearerChars at h
  simp only at h
  split at h
  · rename_i hscheme
    have htok := Option.some.inj h
    obtain ⟨pre, post, hraw', hpre, hpost⟩ := exists_trim (p := isWhitespace) raw.toList
    have hbare := bare_trim (p := isWhitespace) raw.toList
    generalize trim isWhitespace raw.toList = trimmed at hscheme htok hraw' hbare
    obtain ⟨scheme, htrimmed, hlower⟩ := scheme_of_take hscheme.1 hscheme.2
    obtain ⟨gap, post', hrest, hgap, hpost'⟩ := exists_trim (p := isWhitespace) (trimmed.drop 7)
    have hbare' := bare_trim (p := isWhitespace) (trimmed.drop 7)
    rw [htok] at hrest hbare'
    have hall : raw.toList = pre ++ (scheme ++ ' ' :: (gap ++ tok.toList)) ++ (post' ++ post) := by
      rw [hraw', htrimmed, hrest]
      simp
    have hmem : ∀ cs : List Char, cs ⊆ pre ∨ cs ⊆ gap ∨ cs ⊆ tok.toList ∨ cs ⊆ post' ++ post →
        cs ⊆ raw.toList := by
      rintro cs hcs c hc
      rw [hall]
      simp only [List.mem_append, List.mem_cons]
      rcases hcs with hcs | hcs | hcs | hcs
      · exact .inl (.inl (hcs hc))
      · exact .inl (.inr (.inr (.inr (.inl (hcs hc)))))
      · exact .inl (.inr (.inr (.inr (.inr (hcs hc)))))
      · exact .inr (List.mem_append.mp (hcs hc))
    have hne : tok.toList ≠ [] := by
      -- The trimmed text does not end with the space of the scheme.
      rw [htrimmed] at hbare
      rw [← htok]
      exact trim_ne_nil_of_bare hbare rfl
    obtain ⟨hhead, hlast⟩ := (bare_iff hraw (hmem tok.toList (by simp))).mp hbare'
    refine ⟨pre, scheme, gap, post' ++ post, hall, hlower, hne, ?_, ?_, ?_, hhead, hlast⟩
    · exact blank_of_whitespace hraw (hmem pre (by simp)) hpre
    · exact blank_of_whitespace hraw (hmem gap (by simp)) hgap
    · refine blank_of_whitespace hraw (hmem (post' ++ post) (by simp)) ?_
      exact fun c hc => (List.mem_append.mp hc).elim (hpost' c) (hpost c)
  · cases h

/-- A header of the form has its token. -/
theorem chars_of_bearerForm {tok : String} (h : BearerForm raw tok) :
    bearerChars raw.toList = some tok.toList := by
  obtain ⟨pre, scheme, gap, post, hall, hlower, hne, hpre, hgap, hpost, hhead, hlast⟩ := h
  have hlength : scheme.length = 6 := by
    have hlength := congrArg List.length hlower
    rwa [List.length_map] at hlength
  have hsub : ∀ c, c ∈ pre ∨ c ∈ scheme ++ ' ' :: (gap ++ tok.toList) ∨ c ∈ post →
      c ∈ raw.toList := by
    intro c hc
    rw [hall, List.mem_append, List.mem_append, or_assoc]
    exact hc
  have htok : Bare isWhitespace tok.toList :=
    (bare_iff hraw (fun c hc => hsub c (.inr (.inl (by simp [hc]))))).mpr ⟨hhead, hlast⟩
  -- Between the blanks stands a text that starts with `b` and ends as the token does.
  have hbare : Bare isWhitespace (scheme ++ ' ' :: (gap ++ tok.toList)) := by
    have hb : Bare isWhitespace (scheme ++ ' ' :: gap ++ tok.toList) := by
      refine bare_append ?_ hne ?_ htok.2
      · exact List.ne_nil_of_length_eq_add_one hlength
      · intro c hc
        cases scheme with
        | nil => cases hc
        | cons b scheme =>
          obtain rfl : b = c := Option.some.inj hc
          have hblank := not_blank_of_toLower (List.cons.inj hlower).1
          rwa [← isWhitespace_iff (hraw b (hsub b (by simp))), Bool.not_eq_true] at hblank
    rwa [List.append_assoc, List.cons_append] at hb
  have htrim : trim isWhitespace raw.toList = scheme ++ ' ' :: (gap ++ tok.toList) := by
    rw [hall]
    refine trim_append ?_ hbare ?_
    · exact whitespace_of_blank hraw (fun c hc => hsub c (.inl hc)) hpre
    · exact whitespace_of_blank hraw (fun c hc => hsub c (.inr (.inr hc))) hpost
  have hsplit :
      scheme ++ ' ' :: (gap ++ tok.toList) = (scheme ++ [' ']) ++ (gap ++ tok.toList) := by
    simp
  have hseven : (scheme ++ [' ']).length = 7 := by
    rw [List.length_append, hlength]
    rfl
  have htoken : trim isWhitespace (gap ++ tok.toList) = tok.toList := by
    rw [← List.append_nil (gap ++ tok.toList)]
    refine trim_append ?_ htok (fun c hc => nomatch hc)
    exact whitespace_of_blank hraw (fun c hc => hsub c (.inr (.inl (by simp [hc])))) hgap
  unfold bearerChars
  simp only [htrim, hsplit, List.take_left' hseven, List.drop_left' hseven, htoken]
  rw [if_pos]
  refine ⟨?_, ?_⟩
  · rw [List.length_append, hseven]
    exact Nat.le_add_right _ _
  · rw [List.map_append, hlower]
    rfl

/-- On printable text the code's trims and slices are those of a list of characters. -/
theorem bearerToken_eq {metadata : MetadataMap}
    (h : (metadata "authorization").bind MetadataValue.toStr = some raw) :
    bearerToken metadata = .ok ((bearerChars raw.toList).map String.ofList) := by
  have hone : ∀ c ∈ trim isWhitespace raw.toList, c.utf8Size = 1 := by
    intro c hc
    obtain ⟨pre, post, hall, -⟩ := exists_trim (p := isWhitespace) raw.toList
    refine utf8Size_of_printable (hraw c ?_)
    rw [hall]
    simp [hc]
  have hbearer : "Bearer ".toList.map Char.toLower = "bearer ".toList := by decide
  unfold bearerToken bearerChars getTo indexFrom trimText eqIgnoreAsciiCase
  simp only [h, String.toList_ofList, splitBytes_eq hone, hbearer]
  by_cases hlen : 7 ≤ (trim isWhitespace raw.toList).length
  · simp only [hlen, if_true, true_and, Option.map_some, String.toList_ofList, beq_iff_eq]
    split
    · simp only [Except.map, String.toList_ofList, Option.map_some]
    · simp only [Option.map_none]
  · simp [hlen]

/-- **The grammar.** The code finds a token exactly in the headers of the form. -/
theorem bearerToken_eq_some_iff {metadata : MetadataMap}
    (h : (metadata "authorization").bind MetadataValue.toStr = some raw) (tok : String) :
    bearerToken metadata = .ok (some tok) ↔ BearerForm raw tok := by
  rw [bearerToken_eq hraw h, Except.ok.injEq, Option.map_eq_some_iff]
  constructor
  · rintro ⟨cs, hcs, rfl⟩
    rw [← String.toList_ofList (l := cs)] at hcs
    exact bearerForm_of_chars hraw hcs
  · intro hform
    exact ⟨tok.toList, chars_of_bearerForm hraw hform, String.ofList_toList⟩

end

/-- The slice is never taken off a character boundary: the one before it was at the same
position. -/
theorem bearerToken_ok (metadata : MetadataMap) : ∃ token, bearerToken metadata = .ok token := by
  unfold bearerToken
  split
  · exact ⟨none, rfl⟩
  · rename_i raw _
    simp only
    unfold getTo indexFrom
    cases splitBytes 7 (trimText raw).toList with
    | none => exact ⟨none, rfl⟩
    | some parts =>
      simp only [Option.map_some]
      split
      · exact ⟨_, rfl⟩
      · exact ⟨none, rfl⟩

/-- The status of a request without a credential. -/
def missingToken : Status :=
  Status.unauthenticated "missing or malformed Authorization: Bearer header"

/-- A request without a token is refused as such. -/
theorem requireToken_of_none {metadata : MetadataMap} (h : bearerToken metadata = .ok none) :
    requireToken metadata = .error (.refused missingToken) := by
  unfold requireToken
  rw [h]
  rfl

/-- A token that was found is handed on. -/
theorem requireToken_of_some {metadata : MetadataMap} {token : String}
    (h : bearerToken metadata = .ok (some token)) : requireToken metadata = .ok token := by
  unfold requireToken
  rw [h]
  rfl

end SparkGateway.Proofs.Auth

import Mathlib.Data.List.DropRight

/-!
# `SparkGateway.Lib.Trim`: dropping from both ends of a list

`trim p` drops what satisfies `p` from both ends. What is left is `Bare`: it neither starts nor
ends with such an element (`bare_trim`), and it stood between two blocks of such elements
(`exists_trim`). Conversely, a bare list between two such blocks is what is left (`trim_append`).
-/

set_option autoImplicit false

namespace SparkGateway.Lib

variable {α : Type} (p : α → Bool)

/-- Drop what satisfies `p` from both ends. -/
def trim (l : List α) : List α := (l.dropWhile p).rdropWhile p

/-- The list neither starts nor ends with an element that satisfies `p`. -/
def Bare (l : List α) : Prop :=
  (∀ a ∈ l.head?, p a = false) ∧ ∀ a ∈ l.getLast?, p a = false

variable {p}

/-- What is trimmed has no such element left at either end. -/
theorem bare_trim (l : List α) : Bare p (trim p l) := by
  unfold trim
  constructor
  · intro a ha
    -- Dropping at the end keeps the first element, if any is left.
    obtain ⟨post, hpost⟩ := List.rdropWhile_prefix p (l.dropWhile p)
    have hne : l.dropWhile p ≠ [] := by
      intro hnil
      rw [hnil, List.rdropWhile_nil] at ha
      cases ha
    have hhead : (l.dropWhile p).head? = some a := by
      rw [← hpost, List.head?_append, ha]
      rfl
    have hfalse := List.head_dropWhile_not p hne
    rw [List.head?_eq_some_head hne] at hhead
    rwa [Option.some.inj hhead] at hfalse
  · intro a ha
    have hne : (l.dropWhile p).rdropWhile p ≠ [] := by
      intro hnil
      rw [hnil] at ha
      cases ha
    have hlast := List.rdropWhile_last_not p (l.dropWhile p) hne
    rw [List.getLast?_eq_some_getLast hne] at ha
    rw [Option.some.inj ha] at hlast
    simpa using hlast

/-- What is dropped satisfies `p`. -/
theorem exists_trim (l : List α) :
    ∃ pre post, l = pre ++ trim p l ++ post ∧ (∀ a ∈ pre, p a = true) ∧
      ∀ a ∈ post, p a = true := by
  refine ⟨l.takeWhile p, (l.dropWhile p).rtakeWhile p, ?_, ?_, ?_⟩
  · unfold trim
    rw [List.append_assoc, List.rdropWhile_append_rtakeWhile, List.takeWhile_append_dropWhile]
  · exact fun a ha => List.mem_takeWhile_imp ha
  · exact fun a ha => List.mem_rtakeWhile_imp ha

/-- A bare list between two blocks is what trimming leaves. -/
theorem trim_append {pre mid post : List α} (hpre : ∀ a ∈ pre, p a = true) (hmid : Bare p mid)
    (hpost : ∀ a ∈ post, p a = true) : trim p (pre ++ mid ++ post) = mid := by
  have hself : mid.rdropWhile p = mid := by
    rw [List.rdropWhile_eq_self_iff]
    intro hne
    rw [hmid.2 _ (List.getLast?_eq_some_getLast hne)]
    exact Bool.false_ne_true
  have hright : (mid ++ post).rdropWhile p = mid := by
    unfold List.rdropWhile at hself ⊢
    rw [List.reverse_append, List.dropWhile_append_of_pos (by simpa using hpost), hself]
  unfold trim
  rw [List.append_assoc, List.dropWhile_append_of_pos hpre]
  cases mid with
  | nil =>
    rw [List.nil_append, List.dropWhile_eq_nil_iff.mpr hpost, List.rdropWhile_nil]
  | cons b mid =>
    rw [List.cons_append, List.dropWhile_cons_of_neg (by simp [hmid.1 b rfl])]
    exact hright

/-- A bare list is not empty after an element that would be dropped: more than such elements
follow it. -/
theorem trim_ne_nil_of_bare {pre rest : List α} {a : α} (hbare : Bare p (pre ++ a :: rest))
    (ha : p a = true) : trim p rest ≠ [] := by
  intro hnil
  obtain ⟨left, right, hrest, hleft, hright⟩ := exists_trim (p := p) rest
  rw [hnil, List.append_nil] at hrest
  have hall : ∀ b ∈ a :: rest, p b = true := by
    intro b hb
    rcases List.mem_cons.mp hb with rfl | hb
    · exact ha
    · rw [hrest] at hb
      exact (List.mem_append.mp hb).elim (hleft b) (hright b)
  have hlast : (pre ++ a :: rest).getLast? = some ((a :: rest).getLast (by simp)) := by
    rw [List.getLast?_append, List.getLast?_eq_some_getLast (by simp)]
    rfl
  have hfalse := hbare.2 _ hlast
  rw [hall _ (List.getLast_mem _)] at hfalse
  cases hfalse

/-- What a list starts and ends with decides whether it is bare. -/
theorem bare_append {pre mid post : List α} (hpre : pre ≠ []) (hpost : post ≠ [])
    (hhead : ∀ a ∈ pre.head?, p a = false) (hlast : ∀ a ∈ post.getLast?, p a = false) :
    Bare p (pre ++ mid ++ post) := by
  constructor
  · intro a ha
    refine hhead a ?_
    rw [List.append_assoc, List.head?_append, List.head?_eq_some_head hpre] at ha
    rwa [List.head?_eq_some_head hpre]
  · intro a ha
    refine hlast a ?_
    rw [List.getLast?_append, List.getLast?_eq_some_getLast hpost] at ha
    rwa [List.getLast?_eq_some_getLast hpost]

end SparkGateway.Lib

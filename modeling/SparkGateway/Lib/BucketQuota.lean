import SparkGateway.Lib.BucketTable

/-!
# `SparkGateway.Lib.BucketQuota`: how much a bucket of a table gives out

`Metered d since now given T` is the potential argument for one slot `d` of a table: of the tokens
that the slot gave out from the time `since` on, `given` are counted, and what it still has fits
under the capacity and the refill since then. Each operation on the table keeps it:

* `Metered.later`: time passes;
* `Metered.takeAt_self`: a token that is taken from the slot is counted;
* `Metered.takeAt_uncounted`: a take from the slot need not be counted;
* `Metered.congr`: whatever leaves the entry of the slot alone, such as a take from another slot;
* `Metered.charge`: a call that asks for several slots in order is counted if it gets them all,
  and it fits under the quota of the slot at its own time (`Metered.charge_given_le`).

`Metered.given_le` is the quota: burst plus rate times time. Only the operations on the slot itself
have to come in order of time.
-/

set_option autoImplicit false

namespace SparkGateway.Lib.TokenBucket

variable {τ κ K : Type} [Field K] [LinearOrder K] [IsStrictOrderedRing K]

/-- What the slot gave out since the time `since`, as counted, and what it has at the time `now`
are covered by its capacity and its refill. -/
structure Metered (d : Slot κ K) (since now : K) (given : ℕ) (T : Table κ K) : Prop where
  fresh : ∀ l, T d.key = some l → l.last ≤ now
  nonneg : 0 ≤ balance now d T
  covered : given ≠ 0 →
    since ≤ now ∧ (given : K) + balance now d T ≤ d.cap + (now - since) * d.rate

section
variable {d : Slot κ K} {since now now' : K} {given : ℕ} {T : Table κ K}

omit [IsStrictOrderedRing K] in
/-- A full table, at any time. -/
theorem metered_empty (hcap : 0 ≤ d.cap) (since now : K) :
    Metered d since now 0 (fun _ => none) :=
  ⟨fun _ h => (nomatch h), hcap, fun h => absurd rfl h⟩

/-- Fewer tokens counted. -/
theorem Metered.anti (h : Metered d since now given T) {fewer : ℕ} (hle : fewer ≤ given) :
    Metered d since now fewer T := by
  refine ⟨h.fresh, h.nonneg, fun hne => ?_⟩
  obtain ⟨hsince, hcovered⟩ := h.covered (by omega)
  have hcast : (fewer : K) ≤ given := Nat.cast_le.mpr hle
  exact ⟨hsince, by linarith⟩

/-- Time passes. -/
theorem Metered.later (h : Metered d since now given T) (hrate : 0 ≤ d.rate)
    (hle : now ≤ now') : Metered d since now' given T := by
  have hbalance : balance now' d T = refill d.cap d.rate (now' - now) (balance now d T) := by
    unfold balance
    cases hl : T d.key with
    | none => exact (refill_cap (sub_nonneg.mpr hle) hrate).symm
    | some l => exact levelAt_later (h.fresh l hl) hrate hle
  have hgain : balance now' d T ≤ balance now d T + (now' - now) * d.rate :=
    hbalance ▸ refill_le _ _ _ _
  have hrefill : 0 ≤ (now' - now) * d.rate := mul_nonneg (sub_nonneg.mpr hle) hrate
  refine ⟨fun l hl => le_trans (h.fresh l hl) hle, ?_, fun hne => ?_⟩
  · have hcap : 0 ≤ d.cap := le_trans h.nonneg (balance_le_cap now d T)
    rw [hbalance]
    exact le_min hcap (add_nonneg h.nonneg hrefill)
  · obtain ⟨hsince, hcovered⟩ := h.covered hne
    exact ⟨le_trans hsince hle, by linarith⟩

/-- **The quota.** A bucket gives at most its capacity and what it refills during the window. -/
theorem Metered.given_le (h : Metered d since now given T) (hrate : 0 ≤ d.rate) {til : K}
    (hnow : now ≤ til) (hle : since ≤ til) : (given : K) ≤ d.cap + (til - since) * d.rate := by
  rcases Nat.eq_zero_or_pos given with rfl | hpos
  · have hcap : 0 ≤ d.cap := le_trans h.nonneg (balance_le_cap now d T)
    have hrefill : 0 ≤ (til - since) * d.rate := mul_nonneg (sub_nonneg.mpr hle) hrate
    rw [Nat.cast_zero]
    exact add_nonneg hcap hrefill
  · obtain ⟨-, hcovered⟩ := h.covered hpos.ne'
    have hrefill : 0 ≤ (til - now) * d.rate := mul_nonneg (sub_nonneg.mpr hnow) hrate
    have hnonneg := h.nonneg
    linarith

end

/-- Taking adds nothing. -/
theorem take_snd_le (tokens : K) : (take tokens).2 ≤ tokens := by
  rcases lt_or_ge tokens 1 with hlt | hle
  · rw [take_of_lt hlt]
  · rw [take_of_le hle]
    exact sub_le_self _ zero_le_one

section
variable [DecidableEq κ] {d : Slot κ K} {since now : K} {given : ℕ} {T : Table κ K}

omit [IsStrictOrderedRing K] in
/-- A take leaves its own time behind. -/
theorem last_takeAt_self {l : Level K} (hl : (takeAt now d T).2 d.key = some l) : l.last = now := by
  simp only [takeAt, Function.update_self, Option.some.injEq] at hl
  rw [← hl]

/-- A token taken from the slot is counted. -/
theorem Metered.takeAt_self (h : Metered d since now given T) (hsince : since ≤ now)
    (hrate : 0 ≤ d.rate) :
    Metered d since now (given + if (takeAt now d T).1 then 1 else 0) (takeAt now d T).2 := by
  have hbalance := balance_takeAt_now now d T
  have htake : (take (balance now d T)).2 + cost (takeAt now d T).1 = balance now d T :=
    take_balance _
  have hcount : ((if (takeAt now d T).1 then 1 else 0 : ℕ) : K) = cost (takeAt now d T).1 := by
    unfold cost
    split <;> simp
  refine ⟨fun l hl => (last_takeAt_self hl).le, ?_, fun _ => ⟨hsince, ?_⟩⟩
  · rw [hbalance]
    exact take_snd_nonneg h.nonneg
  · rw [hbalance, Nat.cast_add, hcount]
    rcases Nat.eq_zero_or_pos given with rfl | hpos
    · -- Nothing was counted yet, and the slot holds no more than its capacity.
      have hcap := balance_le_cap now d T
      have hrefill : 0 ≤ (now - since) * d.rate := mul_nonneg (sub_nonneg.mpr hsince) hrate
      rw [Nat.cast_zero]
      linarith
    · obtain ⟨-, hcovered⟩ := h.covered hpos.ne'
      linarith

/-- A take from the slot that is not counted. -/
theorem Metered.takeAt_uncounted (h : Metered d since now given T) :
    Metered d since now given (takeAt now d T).2 := by
  have hbalance := balance_takeAt_now now d T
  have hless := take_snd_le (balance now d T)
  refine ⟨fun l hl => (last_takeAt_self hl).le, ?_, fun hne => ?_⟩
  · rw [hbalance]
    exact take_snd_nonneg h.nonneg
  · obtain ⟨hsince, hcovered⟩ := h.covered hne
    rw [hbalance]
    exact ⟨hsince, by linarith⟩

omit [IsStrictOrderedRing K] [DecidableEq κ] in
/-- Only the entry of the slot matters. -/
theorem Metered.congr (h : Metered d since now given T) {T' : Table κ K}
    (hsame : T' d.key = T d.key) : Metered d since now given T' := by
  have hbalance := balance_congr hsame now
  refine ⟨fun l hl => h.fresh l (hsame ▸ hl), ?_, fun hne => ?_⟩
  · rw [hbalance]
    exact h.nonneg
  · rw [hbalance]
    exact h.covered hne

omit [IsStrictOrderedRing K] in
/-- A take from another slot. -/
theorem Metered.takeAt_other (h : Metered d since now given T) {e : Slot κ K}
    (hkey : e.key ≠ d.key) (time : K) : Metered d since now given (takeAt time e T).2 :=
  h.congr (Function.update_of_ne (Ne.symm hkey) _ _)

/-- A take that is not counted, from the slot or from another one. -/
theorem Metered.takeAt_any (h : Metered d since now given T) {e : Slot κ K}
    (hown : e.key = d.key → e = d) : Metered d since now given (takeAt now e T).2 := by
  by_cases hself : e.key = d.key
  · rw [hown hself]
    exact h.takeAt_uncounted
  · exact h.takeAt_other hself now

/-- A call that gets all its tokens is counted, once for each time that it asks for the slot, if
the window is open by then. -/
theorem Metered.charge {as : List (Ask τ κ K)} (h : Metered d since now given T)
    (hrate : 0 ≤ d.rate) {counted : Bool}
    (hcounted : counted = true → ∀ a ∈ as, a.slot.key = d.key → since ≤ a.now)
    (htimes : (as.map (·.now)).Pairwise (· ≤ ·)) (hnow : ∀ a ∈ as, now ≤ a.now) {last : K}
    (hlast : now ≤ last) (has : ∀ a ∈ as, a.now ≤ last)
    (hkey : ∀ a ∈ as, a.slot.key = d.key → a.slot = d) :
    Metered d since last
      (given + if counted = true ∧ (charge as T).1 = none then
        as.countP (fun a => a.slot.key = d.key) else 0)
      (TokenBucket.charge as T).2 := by
  -- The induction is on the slots that are still to be asked, with the tokens counted so far.
  induction as generalizing now given T with
  | nil => simpa [TokenBucket.charge] using h.later hrate hlast
  | cons a as ih =>
    have hbefore := h.later hrate (hnow a List.mem_cons_self)
    have hown := hkey a List.mem_cons_self
    have huncounted := hbefore.takeAt_any hown
    rw [TokenBucket.charge]
    cases htaken : (TokenBucket.takeAt a.now a.slot T).1 with
    | false =>
      -- The call ends here, and is not counted.
      simpa using huncounted.later hrate (has a List.mem_cons_self)
    | true =>
      obtain ⟨hfirst, hrest⟩ := List.pairwise_cons.mp htimes
      have htake : Metered d since a.now
          (given + if counted = true ∧ a.slot.key = d.key then 1 else 0)
          (TokenBucket.takeAt a.now a.slot T).2 := by
        split
        · rename_i hself
          have hslot := hown hself.2
          rw [hslot] at htaken ⊢
          have hopen := hcounted hself.1 a List.mem_cons_self hself.2
          simpa [htaken] using hbefore.takeAt_self hopen hrate
        · exact huncounted
      have hcharge := ih htake (fun hc b hb => hcounted hc b (List.mem_cons_of_mem a hb)) hrest
        (fun b hb => hfirst b.now (List.mem_map_of_mem hb)) (has a List.mem_cons_self)
        (fun b hb => has b (List.mem_cons_of_mem a hb))
        (fun b hb => hkey b (List.mem_cons_of_mem a hb))
      rw [if_pos rfl]
      refine hcharge.anti ?_
      by_cases hall : counted = true ∧
          (TokenBucket.charge as (TokenBucket.takeAt a.now a.slot T).2).1 = none
      · rw [if_pos hall, if_pos hall, List.countP_cons]
        simp only [hall.1, true_and, decide_eq_true_eq]
        omega
      · rw [if_neg hall, if_neg hall]
        omega

/-- A call that gets all its tokens fits under the quota at the time when it asks for the slot,
whatever it asks for afterwards. -/
theorem Metered.charge_given_le {as : List (Ask τ κ K)} (h : Metered d since now given T)
    (hrate : 0 ≤ d.rate) (htimes : (as.map (·.now)).Pairwise (· ≤ ·))
    (hnow : ∀ a ∈ as, now ≤ a.now) (hkey : ∀ a ∈ as, a.slot.key = d.key → a.slot = d)
    (hall : (TokenBucket.charge as T).1 = none) {a : Ask τ κ K} (ha : a ∈ as)
    (hself : a.slot.key = d.key) (hsince : since ≤ a.now) :
    ((given + 1 : ℕ) : K) ≤ d.cap + (a.now - since) * d.rate := by
  induction as generalizing now T with
  | nil => cases ha
  | cons b as ih =>
    -- The earlier asks of the list have at most taken from the bucket, so it is still metered.
    have hbefore := h.later hrate (hnow b List.mem_cons_self)
    rw [TokenBucket.charge] at hall
    cases htaken : (TokenBucket.takeAt b.now b.slot T).1 with
    | false => simp [htaken] at hall
    | true =>
      rw [htaken, if_pos rfl] at hall
      rcases List.mem_cons.mp ha with rfl | hrest
      · -- The ask itself takes the token that is counted.
        have hslot := hkey a List.mem_cons_self hself
        rw [hslot] at htaken
        have htake := hbefore.takeAt_self hsince hrate
        rw [htaken, if_pos rfl] at htake
        exact htake.given_le hrate (le_refl a.now) hsince
      · obtain ⟨hfirst, hsorted⟩ := List.pairwise_cons.mp htimes
        exact ih (hbefore.takeAt_any (hkey b List.mem_cons_self)) hsorted
          (fun a' ha' => hfirst a'.now (List.mem_map_of_mem ha'))
          (fun a' ha' => hkey a' (List.mem_cons_of_mem b ha')) hall hrest

end

end SparkGateway.Lib.TokenBucket

import Mathlib.Algebra.BigOperators.Group.List.Basic
import Mathlib.Algebra.Order.Field.Basic
import Mathlib.Tactic.Linarith
import Mathlib.Tactic.Ring

/-!
# `SparkGateway.Lib.TokenBucket`: the arithmetic of a token bucket

A bucket of capacity `cap` holds a number of tokens, refills at `rate` tokens per unit of
time up to `cap`, and gives out one token at a time. `refill` and `take` are the two
operations, over any linearly ordered field. `drain` is a sequence of refill-and-take
rounds, each after some elapsed time.

The facts that every limiter built on a bucket uses:

* `refill_refill`: refilling in two parts is refilling once, so a look at the bucket that
  takes nothing changes nothing later;
* `drain_balance`: what a sequence of rounds gives out, plus what it leaves, is at most
  what it found plus what was refilled. This is the potential argument behind every bound
  of the form "burst plus rate times time".
-/

set_option autoImplicit false

namespace SparkGateway.Lib.TokenBucket

section
variable {K : Type} [Field K] [LinearOrder K]

/-- The tokens after `elapsed` units of refilling, capped. -/
def refill (cap rate elapsed tokens : K) : K := min cap (tokens + elapsed * rate)

/-- Take one token if there is one. -/
def take (tokens : K) : Bool × K := if 1 ≤ tokens then (true, tokens - 1) else (false, tokens)

/-- One token for `true`. -/
def cost (b : Bool) : K := if b then 1 else 0

/-- Refill-and-take rounds, one for each elapsed time: what each round answered, and the
tokens left. -/
def drain (cap rate : K) : List K → K → List Bool × K
  | [], tokens => ([], tokens)
  | e :: es, tokens =>
      let r := take (refill cap rate e tokens)
      let rest := drain cap rate es r.2
      (r.1 :: rest.1, rest.2)

/-- How many rounds answered `true`. -/
def admissions (bs : List Bool) : ℕ := bs.count true

/-- A refill stops at the capacity. -/
theorem refill_le_cap (cap rate elapsed tokens : K) : refill cap rate elapsed tokens ≤ cap :=
  min_le_left _ _

/-- A refill adds at most what the rate allows for the elapsed time. -/
theorem refill_le (cap rate elapsed tokens : K) :
    refill cap rate elapsed tokens ≤ tokens + elapsed * rate := min_le_right _ _

/-- A bucket within its capacity is not changed by a refill of no time. -/
theorem refill_zero {cap rate tokens : K} (h : tokens ≤ cap) :
    refill cap rate 0 tokens = tokens := by
  rw [refill, zero_mul, add_zero, min_eq_right h]

/-- Less than one token admits nothing and takes nothing. -/
theorem take_of_lt {tokens : K} (h : tokens < 1) : take tokens = (false, tokens) := by
  rw [take, if_neg (not_le.mpr h)]

/-- One token admits and is taken. -/
theorem take_of_le {tokens : K} (h : 1 ≤ tokens) : take tokens = (true, tokens - 1) := by
  rw [take, if_pos h]

/-- The token given out and the tokens left are the tokens found. -/
theorem take_balance (tokens : K) : (take tokens).2 + cost (take tokens).1 = tokens := by
  unfold take cost
  split <;> simp

end

section
variable {K : Type} [Field K] [LinearOrder K] [IsStrictOrderedRing K]

/-- A full bucket stays full. -/
theorem refill_cap {cap rate elapsed : K} (he : 0 ≤ elapsed) (hr : 0 ≤ rate) :
    refill cap rate elapsed cap = cap := by
  rw [refill, min_eq_left]
  have := mul_nonneg he hr
  linarith

/-- Refilling in two parts is refilling once. The cap in between does no harm, because what
it cuts off the later part would cut off too. -/
theorem refill_refill {cap rate e₁ e₂ tokens : K} (h₂ : 0 ≤ e₂) (hr : 0 ≤ rate) :
    refill cap rate e₂ (refill cap rate e₁ tokens) = refill cap rate (e₁ + e₂) tokens := by
  have hpos : 0 ≤ e₂ * rate := mul_nonneg h₂ hr
  unfold refill
  rcases le_total cap (tokens + e₁ * rate) with h | h
  · rw [min_eq_left h, min_eq_left (by linarith), min_eq_left (by linarith)]
  · rw [min_eq_right h, add_mul, add_assoc]

/-- Taking leaves no debt. -/
theorem take_snd_nonneg {tokens : K} (h : 0 ≤ tokens) : 0 ≤ (take tokens).2 := by
  rcases lt_or_ge tokens 1 with hlt | hle
  · rw [take_of_lt hlt]
    exact h
  · rw [take_of_le hle]
    exact sub_nonneg.mpr hle

/-- No round fills the bucket beyond its capacity. -/
theorem drain_le_cap {cap rate : K} {es : List K} {tokens : K} (h : tokens ≤ cap) :
    (drain cap rate es tokens).2 ≤ cap := by
  induction es generalizing tokens with
  | nil => exact h
  | cons e es ih =>
    have hrefill := refill_le_cap cap rate e tokens
    refine ih ?_
    unfold take
    split
    · exact le_trans (sub_le_self _ zero_le_one) hrefill
    · exact hrefill

/-- No round leaves the bucket in debt. -/
theorem drain_nonneg {cap rate : K} (hcap : 0 ≤ cap) (hrate : 0 ≤ rate) {es : List K}
    (hes : ∀ e ∈ es, 0 ≤ e) {tokens : K} (h : 0 ≤ tokens) :
    0 ≤ (drain cap rate es tokens).2 := by
  induction es generalizing tokens with
  | nil => exact h
  | cons e es ih =>
    have hrefill : 0 ≤ refill cap rate e tokens :=
      le_min hcap (add_nonneg h (mul_nonneg (hes e (by simp)) hrate))
    exact ih (fun e' he' => hes e' (by simp [he'])) (take_snd_nonneg hrefill)

/-- The potential of the bucket: tokens given out plus tokens left never exceed the tokens
found plus the tokens refilled. -/
theorem drain_balance (cap rate : K) (es : List K) (tokens : K) :
    (admissions (drain cap rate es tokens).1 : K) + (drain cap rate es tokens).2
      ≤ tokens + es.sum * rate := by
  induction es generalizing tokens with
  | nil => simp [drain, admissions]
  | cons e es ih =>
    -- One round: refilling adds at most `e * rate`, and taking moves a token to the answer.
    have hrest := ih (take (refill cap rate e tokens)).2
    have htake := take_balance (refill cap rate e tokens)
    have hrefill := refill_le cap rate e tokens
    have hcount : ∀ (b : Bool) (bs : List Bool),
        (admissions (b :: bs) : K) = cost b + admissions bs := by
      intro b bs
      cases b <;> simp [admissions, cost, add_comm]
    simp only [drain, hcount, List.sum_cons, add_mul]
    linarith

end

end SparkGateway.Lib.TokenBucket

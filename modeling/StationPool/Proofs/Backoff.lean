import Mathlib.Algebra.Order.Group.Nat
import StationPool.Backoff

/-!
# The wait against the rule

The rule asks for `base * 2^(k-1)`, at most the cap. The wait is the same with the power held to a
word of 32 bits (`nanos_delay`): a product that is no duration is beyond every cap, so of the two
places where the arithmetic saturates only the power shows. It shows from attempt 33 on, where the
cap is beyond `2^32 - 1` times the base (`delay_exact_iff`): there the wait stops growing before it
reaches its cap.
-/

namespace StationPool.Backoff

variable {b : Backoff} {attempt : Nat}

/-! ## The factor -/

/-- The doublings of an attempt are one less than its number, and none for the first. -/
theorem doublings_eq (attempt : Nat) : doublings attempt = attempt - 1 := by
  unfold doublings
  rcases Nat.le_total attempt 1 with first | later
  · rw [show Nat.max attempt 1 = 1 from Nat.max_eq_right first]
    omega
  · rw [show Nat.max attempt 1 = attempt from Nat.max_eq_left later]

/-- Up to the thirty-second attempt the factor is the power of two. -/
theorem factor_of_few (few : attempt ≤ 32) : factor attempt = 2 ^ (attempt - 1) := by
  rw [factor, doublings_eq, if_pos (by omega)]
  rfl

/-- Behind it the factor stays at its limit. -/
theorem factor_of_many (many : 32 < attempt) : factor attempt = factorLimit := by
  rw [factor, doublings_eq, if_neg (by omega)]

theorem factorLimit_lt_pow (many : 32 < attempt) : factorLimit < 2 ^ (attempt - 1) :=
  calc factorLimit < 2 ^ 32 := by decide
    _ ≤ 2 ^ (attempt - 1) := Nat.pow_le_pow_right (by decide) (by omega)

/-- The factor is the power of two, as far as its word holds it. -/
theorem factor_eq_min (attempt : Nat) : factor attempt = min (2 ^ (attempt - 1)) factorLimit := by
  rcases Nat.lt_or_ge 32 attempt with many | few
  · rw [factor_of_many many, Nat.min_eq_right (factorLimit_lt_pow many).le]
  · have fits : 2 ^ (attempt - 1) ≤ 2 ^ 31 := Nat.pow_le_pow_right (by decide) (by omega)
    rw [factor_of_few few, Nat.min_eq_left (fits.trans (by decide))]

/-- The factor is the power of two or less. -/
theorem factor_le_pow (attempt : Nat) : factor attempt ≤ 2 ^ (attempt - 1) :=
  factor_eq_min attempt ▸ Nat.min_le_left _ _

/-! ## The wait -/

/-- The wait in unbounded arithmetic: where the product is no duration it is beyond the cap. -/
theorem nanos_delay (b : Backoff) (attempt : Nat) :
    (b.delay attempt).nanos = min (b.base.nanos * factor attempt) b.max.nanos := by
  unfold delay Duration.scale?
  by_cases fits : b.base.nanos * factor attempt < Duration.limit
  · rw [Duration.ofNanos?_eq_some fits]
    exact Duration.nanos_min _ _
  · rw [Duration.ofNanos?, dif_neg fits]
    exact (Nat.min_eq_right (b.max.inRange.le.trans (Nat.le_of_not_lt fits))).symm

/-- The exact delay is the base, doubled with every attempt, up to the maximum. -/
theorem exactNanos_eq (b : Backoff) (attempt : Nat) :
    b.exactNanos attempt = min (b.base.nanos * 2 ^ (attempt - 1)) b.max.nanos := by
  rw [← doublings_eq]
  rfl

/-- The wait is never longer than the rule asks for. -/
theorem nanos_delay_le_exactNanos (b : Backoff) (attempt : Nat) :
    (b.delay attempt).nanos ≤ b.exactNanos attempt := by
  rw [nanos_delay, exactNanos_eq]
  exact inf_le_inf_right _ (Nat.mul_le_mul_left _ (factor_le_pow attempt))

/-- The wait does not get shorter from one attempt to the next. -/
theorem delay_le_delay_succ (b : Backoff) (attempt : Nat) :
    b.delay attempt ≤ b.delay (attempt + 1) := by
  have more : 2 ^ (attempt - 1) ≤ 2 ^ (attempt + 1 - 1) :=
    Nat.pow_le_pow_right (by decide) (by omega)
  rw [Duration.le_def, nanos_delay, nanos_delay, factor_eq_min, factor_eq_min]
  exact inf_le_inf_right _ (Nat.mul_le_mul_left _ (inf_le_inf_right _ more))

/-- Past 32 attempts the wait is what the rule asks for only if nothing doubles or the cap is
reached with the largest factor. -/
theorem delay_exact_iff_of_many (many : 32 < attempt) :
    (b.delay attempt).nanos = b.exactNanos attempt ↔
      b.base.nanos = 0 ∨ b.max.nanos ≤ b.base.nanos * factorLimit := by
  rw [nanos_delay, exactNanos_eq, factor_of_many many]
  rcases Nat.eq_zero_or_pos b.base.nanos with none_ | some_
  · simp only [none_, Nat.zero_mul, true_or]
  · have short : b.base.nanos * factorLimit < b.base.nanos * 2 ^ (attempt - 1) :=
      Nat.mul_lt_mul_of_pos_left (factorLimit_lt_pow many) some_
    -- the products are atoms from here on
    generalize b.base.nanos * factorLimit = held, b.base.nanos * 2 ^ (attempt - 1) = full at short ⊢
    omega

/-- For every base and every cap, the wait is what the rule asks for in unbounded arithmetic exactly
for the first 32 attempts, for a base of no time, and where the cap is within `2^32 - 1` times the
base. It is never longer than the cap, never longer than the rule asks for and never shorter than
the one before; and attempt 0 counts as the first. -/
theorem delay_exact_iff (b : Backoff) (attempt : Nat) :
    ((b.delay attempt).nanos = b.exactNanos attempt ↔
      attempt ≤ 32 ∨ b.base.nanos = 0 ∨ b.max.nanos ≤ b.base.nanos * factorLimit) ∧
    b.delay attempt ≤ b.max ∧
    (b.delay attempt).nanos ≤ b.exactNanos attempt ∧
    b.delay attempt ≤ b.delay (attempt + 1) ∧
    b.delay 0 = b.delay 1 := by
  refine ⟨?exact, ?capped, nanos_delay_le_exactNanos b attempt, delay_le_delay_succ b attempt, rfl⟩
  case exact =>
    rcases Nat.lt_or_ge 32 attempt with many | few
    · rw [delay_exact_iff_of_many many]
      exact (or_iff_right (Nat.not_le.mpr many)).symm
    · rw [nanos_delay, exactNanos_eq, factor_of_few few]
      exact iff_of_true rfl (.inl few)
  case capped =>
    rw [Duration.le_def, nanos_delay]
    exact Nat.min_le_right _ _

/-- With a base of a millisecond and a cap of sixty days, the wait stops growing at less than fifty
days: from attempt 34 on the rule asks for the cap. -/
theorem delay_stops_below_cap :
    ¬ ∀ (b : Backoff) (attempt : Nat), 1 ≤ attempt → attempt ≤ 4294967295 →
      (b.delay attempt).nanos = b.exactNanos attempt := by
  intro exact_
  have differs : ((⟨.ofMillis 1, .ofSecs 5184000⟩ : Backoff).delay 34).nanos ≠
      (⟨.ofMillis 1, .ofSecs 5184000⟩ : Backoff).exactNanos 34 := by
    decide +kernel
  exact differs (exact_ ⟨.ofMillis 1, .ofSecs 5184000⟩ 34 (by decide) (by decide))

end StationPool.Backoff

import ImageBuild.Backoff
import ImageBuild.Proofs.Binary64.Power

/-! The waits between attempts, where their bounds are whole seconds and their factor is a whole number. -/

namespace ImageBuild

namespace Duration

open Binary64

/-- Whole seconds of 53 bits are exact in floating point. -/
theorem toBinary64_denotes {d : Duration} {s : Nat} (whole : d.nanos = s * nanosPerSecond)
    (small : s < precision) : d.toBinary64.Denotes s := by
  -- Nothing is left below a second, so that zero is added.
  have seconds : d.seconds = s := by simp [Duration.seconds, whole]
  have rest : d.subsecond = 0 := by simp [Duration.subsecond, whole]
  have zero : (Binary64.round false 0 nanosPerSecond).Denotes 0 := ⟨0, 0, 0, rfl, rfl⟩
  rw [toBinary64, seconds, rest, (ofNat_denotes small).add zero]
  exact ofNat_denotes small

/-- A whole number is a length of time of so many seconds. -/
theorem ofBinary64?_of_denotes {x : Binary64} {s : Nat} (whole : x.Denotes s)
    (small : s < precision) :
    ∃ d, ofBinary64? x = some d ∧ d.nanos = s * nanosPerSecond := by
  have ⟨m, p, q, shape, _⟩ := whole
  subst shape
  obtain ⟨den, positive, fraction⟩ := whole.descale_eq
  have fits : s * nanosPerSecond < Nat.pow 2 64 * nanosPerSecond :=
    Nat.mul_lt_mul_of_pos_right (Nat.lt_of_lt_of_le small (by decide)) (by decide)
  -- The denominator is taken out again after the seconds have been turned into nanoseconds.
  have exact : nearest (s * den * nanosPerSecond) den = s * nanosPerSecond := by
    rw [Nat.mul_right_comm]
    exact nearest_mul_self _ positive
  refine ⟨⟨s * nanosPerSecond, fits⟩, ?_, rfl⟩
  simp only [ofBinary64?, fraction, exact, ofNanos?_of_lt fits]

end Duration

/-- A number of seconds that is no less than a lower bound, but stops at an upper one. -/
def bounded (low high n : Nat) : Nat := min (max n low) high

/-- The documented wait in whole seconds, which is multiplied by a factor for every attempt. -/
def waitCurve (low high factor attempt : Nat) : Nat := bounded low high (low * factor ^ attempt)

theorem le_bounded {low high : Nat} (ordered : low ≤ high) (n : Nat) : low ≤ bounded low high n :=
  Nat.le_min.2 ⟨Nat.le_max_right n low, ordered⟩

theorem bounded_le (low high n : Nat) : bounded low high n ≤ high := Nat.min_le_right _ _

theorem bounded_mono {low high m n : Nat} (more : m ≤ n) :
    bounded low high m ≤ bounded low high n := by
  -- Minimum and maximum with fixed bounds are monotone.
  unfold bounded
  omega

theorem bounded_of_le {low high n : Nat} (reached : high ≤ n) : bounded low high n = high :=
  Nat.min_eq_right (Nat.le_trans reached (Nat.le_max_left n low))

namespace Backoff

open Binary64

/-- The exponent of the factor. -/
def exponent (attempt : UInt32) : Nat := Nat.min attempt.toNat maxExponent

/-- The wait before the bounds is the lower one times the power of the factor. -/
theorem uncapped_eq (b : Backoff) (attempt : UInt32) :
    b.uncapped attempt = b.min.toBinary64.mul (b.factor.pow (exponent attempt)) := rfl

/-- The power of the factor is out of range. -/
def Overflows (b : Backoff) (attempt : UInt32) : Prop :=
  b.factor.pow (exponent attempt) = .infinity false

/-- Bounds in whole seconds and a whole factor, all of 53 bits. -/
structure Whole (b : Backoff) (low high factor : Nat) : Prop where
  min_eq : b.min.nanos = low * nanosPerSecond
  max_eq : b.max.nanos = high * nanosPerSecond
  factor_eq : b.factor.Denotes factor
  low_lt : low < precision
  high_lt : high < precision
  factor_lt : factor < precision

variable {b : Backoff} {low high factor : Nat} {attempt : UInt32}

/-- A wait that is not finite is the longest. -/
theorem wait_of_not_finite (beyond : (b.uncapped attempt).isFinite = false) :
    b.wait attempt = b.max := by
  simp [wait, beyond]

/-- A whole wait is kept within the bounds. -/
theorem Whole.wait_of_denotes (whole : b.Whole low high factor) (ordered : low ≤ high) {n : Nat}
    (value : (b.uncapped attempt).Denotes n) :
    (b.wait attempt).nanos = bounded low high n * nanosPerSecond := by
  have longest := Duration.toBinary64_denotes whole.max_eq whole.high_lt
  have shortest := Duration.toBinary64_denotes whole.min_eq whole.low_lt
  -- The comparison with the maximum is exact when both sides denote whole numbers.
  simp only [wait, value.isFinite_eq, value.ge_eq longest, Bool.not_true, Bool.false_or,
    decide_eq_true_eq]
  split
  case isTrue reached => rw [whole.max_eq, bounded_of_le reached]
  -- Below the maximum the wait is the larger of product and minimum, a whole number of seconds.
  case isFalse below =>
    have highest := whole.high_lt
    obtain ⟨d, read, nanos⟩ :=
      Duration.ofBinary64?_of_denotes (value.maximum shortest) (by omega)
    rw [read, Option.getD_some, nanos, bounded, Nat.min_eq_left (by omega)]

/-- From a positive lower bound the waits follow the curve, also where the power is out of range. -/
theorem Whole.wait_of_pos (whole : b.Whole low high factor) (ordered : low ≤ high)
    (positive : 0 < low) (grows : 0 < factor) :
    (b.wait attempt).nanos = waitCurve low high factor (exponent attempt) * nanosPerSecond := by
  have shortest : b.min.toBinary64.Approximates low 0 :=
    (Duration.toBinary64_denotes whole.min_eq whole.low_lt).approximates positive whole.low_lt
  have product : (b.uncapped attempt).Approximates (low * factor ^ exponent attempt)
      (0 + exponent attempt + 1) :=
    shortest.mul (whole.factor_eq.pow_approximates grows whole.factor_lt (exponent attempt))
  -- Up to 53 bits the product is exact, as every factor of it is.
  rcases Nat.lt_or_ge (low * factor ^ exponent attempt) precision with small | large
  · exact whole.wait_of_denotes ordered (product.denotes small)
  -- What has more than 53 bits is above the upper bound, and so is all that approximates it.
  have highest := whole.high_lt
  rw [waitCurve, bounded_of_le (by omega)]
  rcases product.finite_or_infinity with ⟨v, value, -, near⟩ | ⟨v, infinite, -⟩
  · have above := near.large large
    rw [whole.wait_of_denotes ordered value, bounded_of_le (by omega)]
  · rw [wait_of_not_finite (by rw [infinite]; rfl), whole.max_eq]

/-- Where the power is out of range, the wait is the longest. -/
theorem Whole.wait_of_overflows (whole : b.Whole low high factor) (beyond : b.Overflows attempt) :
    b.wait attempt = b.max := by
  -- An infinite power makes the product infinite, or no number when the minimum is zero; neither is finite.
  have shortest := Duration.toBinary64_denotes whole.min_eq whole.low_lt
  refine wait_of_not_finite ?_
  rw [uncapped_eq, show b.factor.pow (exponent attempt) = .infinity false from beyond]
  exact shortest.mul_infinity_not_finite

/-- Where the power is in range, the waits follow the curve. -/
theorem Whole.wait_of_not_overflows (whole : b.Whole low high factor) (ordered : low ≤ high)
    (grows : 0 < factor) (within : ¬ b.Overflows attempt) :
    (b.wait attempt).nanos = waitCurve low high factor (exponent attempt) * nanosPerSecond := by
  rcases Nat.eq_zero_or_pos low with rfl | positive
  -- Zero times a power in range is zero, whatever the power has become by rounding.
  · have shortest := Duration.toBinary64_denotes whole.min_eq whole.low_lt
    have power := whole.factor_eq.pow_approximates grows whole.factor_lt (exponent attempt)
    rcases power.finite_or_infinity with ⟨v, value, -⟩ | ⟨-, infinite, -⟩
    · have zero : (b.uncapped attempt).Denotes 0 := by
        rw [uncapped_eq, shortest.mul value, Nat.zero_mul]
        exact ofNat_denotes precision_pos
      rw [whole.wait_of_denotes ordered zero, waitCurve, Nat.zero_mul]
    · exact absurd infinite within
  · exact whole.wait_of_pos ordered positive grows

/-- So many multiplications by more than one leave 53 bits behind. -/
theorem precision_le_mul_pow {k : Nat} (positive : 0 < low) (above : 2 ≤ factor) (many : 53 ≤ k) :
    precision ≤ low * factor ^ k := by
  -- A factor of at least two reaches the precision after 53 doublings.
  calc precision ≤ 2 ^ k := Nat.pow_le_pow_right (by decide) many
    _ ≤ factor ^ k := Nat.pow_le_pow_left above k
    _ ≤ low * factor ^ k := Nat.le_mul_of_pos_left _ positive

/-- An exponent that is cut changes nothing, since the curve has reached its upper bound by then. -/
theorem Whole.waitCurve_exponent (whole : b.Whole low high factor) (grows : 0 < factor) :
    waitCurve low high factor (exponent attempt) = waitCurve low high factor attempt.toNat := by
  -- The exponent is cut at a value where the curve no longer depends on it.
  rcases Nat.le_total attempt.toNat maxExponent with kept | cut
  · rw [exponent, show Nat.min attempt.toNat maxExponent = attempt.toNat from Nat.min_eq_left kept]
  have greatest : exponent attempt = maxExponent := Nat.min_eq_right cut
  -- One and zero stay what they are, and anything else has long become too large.
  rcases Nat.eq_or_lt_of_le grows with rfl | above
  · simp only [waitCurve, Nat.one_pow]
  rcases Nat.eq_zero_or_pos low with rfl | positive
  · simp only [waitCurve, Nat.zero_mul]
  have highest := whole.high_lt
  have many : 53 ≤ exponent attempt := by rw [greatest]; decide
  have more : 53 ≤ attempt.toNat := by rw [greatest] at many; omega
  have reached := precision_le_mul_pow positive above many
  have reached' := precision_le_mul_pow positive above more
  rw [waitCurve, bounded_of_le (by omega), waitCurve, bounded_of_le (by omega)]

/-- The wait follows the curve, unless zero is multiplied by a power out of range. -/
theorem Whole.wait_cases (whole : b.Whole low high factor) (ordered : low ≤ high)
    (grows : 0 < factor) (attempt : UInt32) :
    (low ≠ 0 ∨ ¬ b.Overflows attempt) ∧
        (b.wait attempt).nanos = waitCurve low high factor attempt.toNat * nanosPerSecond ∨
      low = 0 ∧ b.Overflows attempt ∧ (b.wait attempt).nanos = high * nanosPerSecond := by
  rw [← whole.waitCurve_exponent grows]
  -- Only the overflow with a minimum of zero leaves the curve.
  by_cases beyond : b.Overflows attempt
  case neg => exact .inl ⟨.inr beyond, whole.wait_of_not_overflows ordered grows beyond⟩
  case pos =>
    rcases Nat.eq_zero_or_pos low with zero | positive
    · exact .inr ⟨zero, beyond, by rw [whole.wait_of_overflows beyond, whole.max_eq]⟩
    · exact .inl ⟨.inl (by omega), whole.wait_of_pos ordered positive grows⟩

/-- Only the undefined product leaves the curve, unless the upper bound is zero too. -/
theorem Whole.wait_eq_iff (whole : b.Whole low high factor) (ordered : low ≤ high)
    (grows : 0 < factor) :
    (b.wait attempt).nanos = waitCurve low high factor attempt.toNat * nanosPerSecond ↔
      low ≠ 0 ∨ high = 0 ∨ ¬ b.Overflows attempt := by
  rcases whole.wait_cases ordered grows attempt with
    ⟨defined, follows⟩ | ⟨rfl, beyond, longest⟩
  · exact ⟨fun _ => defined.imp_right .inr, fun _ => follows⟩
  -- There the curve stays at zero, while the wait is the longest one.
  · have zero : waitCurve 0 high factor attempt.toNat = 0 := by simp [waitCurve, bounded]
    rw [longest, zero]
    simp [beyond]

/-- No wait is out of bounds. -/
theorem Whole.wait_bounds (whole : b.Whole low high factor) (ordered : low ≤ high)
    (grows : 0 < factor) (attempt : UInt32) :
    b.min ≤ b.wait attempt ∧ b.wait attempt ≤ b.max := by
  show b.min.nanos ≤ (b.wait attempt).nanos ∧ (b.wait attempt).nanos ≤ b.max.nanos
  rw [whole.min_eq, whole.max_eq]
  -- On the curve and off it the wait is cut to the same bounds.
  rcases whole.wait_cases ordered grows attempt with ⟨-, follows⟩ | ⟨-, -, longest⟩
  · rw [follows]
    exact ⟨Nat.mul_le_mul_right _ (le_bounded ordered _), Nat.mul_le_mul_right _ (bounded_le _ _ _)⟩
  · rw [longest]
    exact ⟨Nat.mul_le_mul_right _ ordered, Nat.le_refl _⟩

/-- Settings are accepted only with bounds in order and a factor that is positive. -/
theorem Whole.of_accepted {c : EngineConfig} (accepted : c.fault? = none)
    (whole : (ofConfig c.recovery).Whole low high factor) : low ≤ high ∧ 0 < factor := by
  have below : c.recovery.factor.lt .one = decide (factor < 1) := whole.factor_eq.lt_eq one_denotes
  have minWait : c.recovery.minWait.nanos = low * nanosPerSecond := whole.min_eq
  have maxWait : c.recovery.maxWait.nanos = high * nanosPerSecond := whole.max_eq
  -- Settings that are accepted have passed all the three checks.
  simp only [EngineConfig.fault?, below] at accepted
  split at accepted
  · cases accepted
  split at accepted
  · cases accepted
  split at accepted
  · cases accepted
  rename_i grows ordered
  have inOrder : ¬ c.recovery.maxWait.nanos < c.recovery.minWait.nanos := ordered
  have ordered' : low * nanosPerSecond ≤ high * nanosPerSecond := by omega
  exact ⟨Nat.le_of_mul_le_mul_right ordered' (by decide), by simpa [Nat.pos_iff_ne_zero] using grows⟩

/-- Once the power is out of range, it is so for every later attempt. -/
theorem Whole.overflows_of_le (whole : b.Whole low high factor) (grows : 0 < factor)
    {later : UInt32} (order : attempt ≤ later) (beyond : b.Overflows attempt) :
    b.Overflows later := by
  -- A later attempt has no smaller exponent, and an infinite power stays infinite under a larger one.
  have counts : attempt.toNat ≤ later.toNat := UInt32.le_iff_toNat_le.1 order
  have exponents : exponent attempt ≤ exponent later :=
    Nat.le_min.2 ⟨Nat.le_trans (Nat.min_le_left _ _) counts, Nat.min_le_right _ _⟩
  exact whole.factor_eq.pow_eq_infinity_of_le grows whole.factor_lt exponents beyond

/-- A power in the lower half of the range does not overflow. -/
theorem Whole.not_overflows (whole : b.Whole low high factor) (grows : 0 < factor)
    (within : 2 * factor ^ attempt.toNat ≤ limit) : ¬ b.Overflows attempt := by
  have fewer : factor ^ exponent attempt ≤ factor ^ attempt.toNat :=
    Nat.pow_le_pow_right grows (Nat.min_le_left _ _)
  have finite : (b.factor.pow (exponent attempt)).isFinite = true :=
    whole.factor_eq.pow_isFinite grows whole.factor_lt (by omega)
  -- A finite power is not infinity.
  intro beyond
  rw [show b.factor.pow (exponent attempt) = .infinity false from beyond] at finite
  exact Bool.noConfusion finite

/-- A power beyond the double of the range overflows. -/
theorem Whole.overflows (whole : b.Whole low high factor)
    (beyond : 2 * limit ≤ factor ^ attempt.toNat) : b.Overflows attempt := by
  -- Either the power itself is out of range, or the exponent is cut where any factor above one has overflowed.
  rcases Nat.le_total attempt.toNat maxExponent with kept | cut
  · have exact : exponent attempt = attempt.toNat := Nat.min_eq_left kept
    rw [← exact] at beyond
    exact whole.factor_eq.pow_eq_infinity whole.factor_lt beyond
  · have greatest : exponent attempt = maxExponent := Nat.min_eq_right cut
    have many : 2048 ≤ exponent attempt := by rw [greatest]; decide
    have above : 2 ≤ factor := two_le_of_limit_le beyond
    exact whole.factor_eq.pow_eq_infinity_of_many above whole.factor_lt many

/-- A later attempt waits no less. -/
theorem Whole.wait_mono (whole : b.Whole low high factor) (ordered : low ≤ high)
    (grows : 0 < factor) {later : UInt32} (order : attempt ≤ later) :
    b.wait attempt ≤ b.wait later := by
  have counts : attempt.toNat ≤ later.toNat := UInt32.le_iff_toNat_le.1 order
  have upper : (b.wait attempt).nanos ≤ high * nanosPerSecond := by
    rw [← whole.max_eq]
    exact (whole.wait_bounds ordered grows attempt).2
  show (b.wait attempt).nanos ≤ (b.wait later).nanos
  -- The longest wait is above every other, so only a later wait on the curve is of interest.
  rcases whole.wait_cases ordered grows later with ⟨defined, follows⟩ | ⟨-, -, longest⟩
  case inr => rwa [longest]
  case inl =>
    rcases whole.wait_cases ordered grows attempt with ⟨-, follows'⟩ | ⟨zero, beyond, -⟩
    · rw [follows, follows']
      have powers : factor ^ attempt.toNat ≤ factor ^ later.toNat := Nat.pow_le_pow_right grows counts
      exact Nat.mul_le_mul_right _ (bounded_mono (Nat.mul_le_mul_left low powers))
    -- Once the power is out of range it stays so, and the later wait would be the longest too.
    · exact absurd (whole.overflows_of_le grows order beyond) (defined.resolve_left (not_not.2 zero))

/--
The waits of settings that are accepted, in whole seconds of 53 bits, are the documented ones.

They are so except where the lower bound is zero and the power is out of range, so that their product is undefined.
The longest wait stands there, which is not the documented one unless it is zero too.
Still all waits are within the bounds and never become shorter.
-/
theorem wait_follows_curve_iff {c : EngineConfig} (accepted : c.fault? = none)
    (whole : (ofConfig c.recovery).Whole low high factor) (attempt : UInt32) :
    (((ofConfig c.recovery).wait attempt).nanos =
        waitCurve low high factor attempt.toNat * nanosPerSecond ↔
      low ≠ 0 ∨ high = 0 ∨ ¬ (ofConfig c.recovery).Overflows attempt) ∧
    ((ofConfig c.recovery).Overflows attempt →
      (ofConfig c.recovery).wait attempt = c.recovery.maxWait) ∧
    (2 * factor ^ attempt.toNat ≤ limit → ¬ (ofConfig c.recovery).Overflows attempt) ∧
    (2 * limit ≤ factor ^ attempt.toNat → (ofConfig c.recovery).Overflows attempt) ∧
    c.recovery.minWait ≤ (ofConfig c.recovery).wait attempt ∧
    (ofConfig c.recovery).wait attempt ≤ c.recovery.maxWait ∧
    ∀ later, attempt ≤ later →
      (ofConfig c.recovery).wait attempt ≤ (ofConfig c.recovery).wait later := by
  -- That the settings are accepted gives the order of the bounds and a factor of at least one.
  obtain ⟨ordered, grows⟩ := whole.of_accepted accepted
  obtain ⟨shortest, longest⟩ := whole.wait_bounds ordered grows attempt
  exact ⟨whole.wait_eq_iff ordered grows, whole.wait_of_overflows, whole.not_overflows grows,
    whole.overflows, shortest, longest, fun _ order => whole.wait_mono ordered grows order⟩

/-- By default the wait doubles from 5 seconds on, so that it is 40 seconds after the third attempt. -/
theorem wait_follows_curve_iff_standard :
    EngineConfig.standard.fault? = none ∧
      (ofConfig EngineConfig.standard.recovery).Whole 5 60 2 ∧
      ((ofConfig EngineConfig.standard.recovery).wait 3).nanos = 40 * nanosPerSecond := by
  -- The third attempt of the standard settings is well below the overflow.
  have accepted : EngineConfig.standard.fault? = none := by decide
  have whole : (ofConfig EngineConfig.standard.recovery).Whole 5 60 2 :=
    ⟨rfl, rfl, ofNat_denotes (n := 2) (by decide), by decide, by decide, by decide⟩
  exact ⟨accepted, whole, (wait_follows_curve_iff accepted whole 3).1.2 (.inl (by decide))⟩

/-- Settings without a least wait. -/
def impatient : EngineConfig :=
  { EngineConfig.standard with recovery := { RecoveryConfig.standard with minWait := .zero } }

/-- Where nothing is multiplied by a power out of range, the wait is a minute. -/
theorem wait_of_nothing_is_longest :
    impatient.fault? = none ∧ (ofConfig impatient.recovery).Whole 0 60 2 ∧
      ((ofConfig impatient.recovery).wait 2048).nanos ≠ waitCurve 0 60 2 2048 * nanosPerSecond := by
  -- Doubling 1024 times exceeds the range of the numbers.
  have whole : (ofConfig impatient.recovery).Whole 0 60 2 :=
    ⟨rfl, rfl, ofNat_denotes (n := 2) (by decide), by decide, by decide, by decide⟩
  have beyond : (ofConfig impatient.recovery).Overflows 2048 :=
    whole.factor_eq.pow_eq_infinity_of_many (by decide) whole.factor_lt (by decide)
  have count : (2048 : UInt32).toNat = 2048 := rfl
  refine ⟨by decide, whole, fun follows => ?_⟩
  rw [← count, whole.wait_eq_iff (by decide) (by decide)] at follows
  simp [beyond] at follows

end Backoff

end ImageBuild

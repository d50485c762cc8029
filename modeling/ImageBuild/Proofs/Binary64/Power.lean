import ImageBuild.Proofs.Binary64.Whole

/-!
Powers of whole numbers in floating point.

Every multiplication rounds, so that the error of a power grows with the number of its factors.
-/

namespace ImageBuild.Binary64

/--
One whole number approximates another, after so many roundings.

Each rounding moves it by half of its last bit at most, and not at all while it has 53 bits.
-/
structure Near (value exact roundings : Nat) : Prop where
  positive : 0 < exact
  same : exact < precision → value = exact
  large : precision ≤ exact → precision ≤ value
  upper : value * precision ^ roundings ≤ exact * (precision + 1) ^ roundings
  lower : exact * (precision - 1) ^ roundings ≤ value * precision ^ roundings

theorem Near.refl {n : Nat} (positive : 0 < n) : Near n n 0 :=
  ⟨positive, fun _ => rfl, id, Nat.le_refl _, Nat.le_refl _⟩

variable {v w a b i j : Nat}

theorem Near.value_pos (near : Near v a i) : 0 < v := by
  have positive := near.positive
  -- A small product is exact, and a large one stays above the precision.
  rcases Nat.lt_or_ge a precision with small | large
  · rwa [near.same small]
  · exact Nat.lt_of_lt_of_le precision_pos (near.large large)

/-- A product of 53 bits is exact, and one of more bits is not rounded to so few. -/
theorem Near.rounded_mul (left : Near v a i) (right : Near w b j) :
    (a * b < precision → rounded (v * w) = a * b) ∧
      (precision ≤ a * b → precision ≤ rounded (v * w)) := by
  have positive := left.positive
  have positive' := right.positive
  refine ⟨fun small => ?_, fun large => ?_⟩
  -- The factors of a product of 53 bits have no more themselves, and are exact.
  · have small₁ : a < precision := Nat.lt_of_le_of_lt (Nat.le_mul_of_pos_right a positive') small
    have small₂ : b < precision := Nat.lt_of_le_of_lt (Nat.le_mul_of_pos_left b positive) small
    rw [left.same small₁, right.same small₂, rounded_eq (log2_le_of_lt small)]
  -- A power of two is not rounded away, so that the product need only reach it before.
  · have product : precision ≤ v * w := by
      rcases Nat.lt_or_ge a precision with small | large₁
      · rcases Nat.lt_or_ge b precision with small' | large₂
        · rwa [left.same small, right.same small']
        · exact Nat.le_trans (right.large large₂) (Nat.le_mul_of_pos_left w left.value_pos)
      · exact Nat.le_trans (left.large large₁) (Nat.le_mul_of_pos_right v right.value_pos)
    exact two_pow_le_rounded product

/-- The errors of two factors add up in the product, and its own rounding comes on top. -/
theorem Near.mul (left : Near v a i) (right : Near w b j) :
    Near (rounded (v * w)) (a * b) (i + j + 1) := by
  -- The product of two near numbers is rounded once more, which adds one to the count of errors.
  obtain ⟨high, low⟩ := rounded_bounds (v * w)
  obtain ⟨same, large⟩ := left.rounded_mul right
  refine ⟨Nat.mul_pos left.positive right.positive, same, large, ?upper, ?lower⟩
  case upper =>
    -- Each factor contributes its own powers, and the rounding the last one.
    calc rounded (v * w) * precision ^ (i + j + 1)
        = rounded (v * w) * precision * (precision ^ i * precision ^ j) := by ring
      _ ≤ v * w * (precision + 1) * (precision ^ i * precision ^ j) := Nat.mul_le_mul_right _ high
      _ = (v * precision ^ i) * (w * precision ^ j) * (precision + 1) := by ring
      _ ≤ (a * (precision + 1) ^ i) * (b * (precision + 1) ^ j) * (precision + 1) :=
          Nat.mul_le_mul_right _ (Nat.mul_le_mul left.upper right.upper)
      _ = a * b * (precision + 1) ^ (i + j + 1) := by ring
  case lower =>
    calc a * b * (precision - 1) ^ (i + j + 1)
        = (a * (precision - 1) ^ i) * (b * (precision - 1) ^ j) * (precision - 1) := by ring
      _ ≤ (v * precision ^ i) * (w * precision ^ j) * (precision - 1) :=
          Nat.mul_le_mul_right _ (Nat.mul_le_mul left.lower right.lower)
      _ = v * w * (precision - 1) * (precision ^ i * precision ^ j) := by ring
      _ ≤ rounded (v * w) * precision * (precision ^ i * precision ^ j) := Nat.mul_le_mul_right _ low
      _ = rounded (v * w) * precision ^ (i + j + 1) := by ring

/-- Growing by one part in `n`, and this `k` times, is no more than growing once by `k` parts in `n - k`. -/
theorem succ_pow_mul_sub_le (n k : Nat) : (n + 1) ^ k * (n - k) ≤ n ^ k * n := by
  -- Each step trades one factor of n + 1 for one unit less in the difference.
  induction k with
  | zero => simp
  | succ k ih =>
    have step : (n + 1) * (n - (k + 1)) ≤ (n - k) * n := by
      -- Where the difference has run out, the left side is zero.
      rcases Nat.lt_or_ge k n with more | few
      · obtain ⟨d, rfl⟩ := Nat.exists_eq_add_of_le more
        have left : k + 1 + d - k = d + 1 := by omega
        rw [left, Nat.add_sub_cancel_left]
        exact Nat.le.intro (show (k + 1 + d + 1) * d + (k + 1) = (d + 1) * (k + 1 + d) by ring)
      · simp [Nat.sub_eq_zero_of_le (Nat.le_succ_of_le few)]
    calc (n + 1) ^ (k + 1) * (n - (k + 1)) = (n + 1) ^ k * ((n + 1) * (n - (k + 1))) := by
          rw [Nat.pow_succ, Nat.mul_assoc]
      _ ≤ (n + 1) ^ k * ((n - k) * n) := Nat.mul_le_mul_left _ step
      _ = (n + 1) ^ k * (n - k) * n := by rw [Nat.mul_assoc]
      _ ≤ n ^ k * n * n := Nat.mul_le_mul_right _ ih
      _ = n ^ (k + 1) * n := by rw [Nat.pow_succ]

/-- Shrinking by one part in `n`, and this `k` times, loses no more than `k` parts. -/
theorem sub_mul_pow_le (n k : Nat) : (n - k) * n ^ k ≤ (n - 1) ^ k * n := by
  -- The mirror image for rounding down, with n - 1 for n + 1.
  induction k with
  | zero => simp
  | succ k ih =>
    have step : (n - (k + 1)) * n ≤ (n - 1) * (n - k) := by
      rcases Nat.lt_or_ge k n with more | few
      · obtain ⟨d, rfl⟩ := Nat.exists_eq_add_of_le more
        have left : k + 1 + d - k = d + 1 := by omega
        have first : k + 1 + d - 1 = k + d := by omega
        rw [left, first, Nat.add_sub_cancel_left]
        exact Nat.le.intro (show d * (k + 1 + d) + k = (k + d) * (d + 1) by ring)
      -- Nothing is left of the difference, nor of the left side.
      · simp [Nat.sub_eq_zero_of_le (Nat.le_succ_of_le few)]
    calc (n - (k + 1)) * n ^ (k + 1) = (n - (k + 1)) * n * n ^ k := by ring
      _ ≤ (n - 1) * (n - k) * n ^ k := Nat.mul_le_mul_right _ step
      _ = (n - 1) * ((n - k) * n ^ k) := Nat.mul_assoc _ _ _
      _ ≤ (n - 1) * ((n - 1) ^ k * n) := Nat.mul_le_mul_left _ ih
      _ = (n - 1) ^ (k + 1) * n := by ring

/-- The relative error is at most linear in the number of roundings. -/
theorem Near.upper_linear (near : Near v a i) : v * (precision - i) ≤ a * precision := by
  have positive : 0 < precision ^ i := Nat.pow_pos precision_pos
  -- The compound error is bounded by a linear one, after cancelling the powers of the precision.
  refine Nat.le_of_mul_le_mul_right ?_ positive
  calc v * (precision - i) * precision ^ i = v * precision ^ i * (precision - i) := by ring
    _ ≤ a * (precision + 1) ^ i * (precision - i) := Nat.mul_le_mul_right _ near.upper
    _ = a * ((precision + 1) ^ i * (precision - i)) := Nat.mul_assoc _ _ _
    _ ≤ a * (precision ^ i * precision) := Nat.mul_le_mul_left _ (succ_pow_mul_sub_le _ _)
    _ = a * precision * precision ^ i := by ring

theorem Near.lower_linear (near : Near v a i) : a * (precision - i) ≤ v * precision := by
  have positive : 0 < precision ^ i := Nat.pow_pos precision_pos
  -- The same for the error downwards.
  refine Nat.le_of_mul_le_mul_right ?_ positive
  calc a * (precision - i) * precision ^ i = a * ((precision - i) * precision ^ i) :=
        Nat.mul_assoc _ _ _
    _ ≤ a * ((precision - 1) ^ i * precision) := Nat.mul_le_mul_left _ (sub_mul_pow_le _ _)
    _ = a * (precision - 1) ^ i * precision := by ring
    _ ≤ v * precision ^ i * precision := Nat.mul_le_mul_right _ near.lower
    _ = v * precision * precision ^ i := by ring

/-- The number stands for a whole one that approximates another, after so many roundings. -/
def Approximates (x : Binary64) (exact roundings : Nat) : Prop :=
  ∃ v, x.Reads v ∧ Near v exact roundings

variable {x y : Binary64}

theorem Denotes.approximates (whole : x.Denotes a) (positive : 0 < a) (small : a < precision) :
    x.Approximates a 0 :=
  ⟨a, .inl ⟨Nat.lt_of_lt_of_le small (two_pow_le_limit (by decide)), whole⟩, .refl positive⟩

theorem Approximates.mul (left : x.Approximates a i) (right : y.Approximates b j) :
    (x.mul y).Approximates (a * b) (i + j + 1) := by
  -- The product reads as the rounded product of what the factors read as.
  obtain ⟨v, reads, near⟩ := left
  obtain ⟨w, reads', near'⟩ := right
  exact ⟨_, reads.mul reads' near.value_pos near'.value_pos, near.mul near'⟩

/-- The squares that make up a power are multiplied into what there is, with an error for each factor. -/
theorem Approximates.powFrom {n : Nat} (product : x.Approximates a i) (base : y.Approximates b j) :
    (powFrom x y n).Approximates (a * b ^ n) (i + n * (j + 1)) := by
  -- Each step halves the exponent, so that product, base and their errors stay open.
  induction n using Nat.strong_induction_on generalizing x y a b i j with
  | _ n ih =>
    rw [Binary64.powFrom]
    have halves : 2 * (n / 2) + n % 2 = n := Nat.div_add_mod n 2
    -- What is multiplied in for the lowest bit of the exponent, and the rest of it for the squares.
    have next : (if n % 2 = 1 then x.mul y else x).Approximates (a * b ^ (n % 2))
        (i + n % 2 * (j + 1)) := by
      rcases Nat.mod_two_eq_zero_or_one n with even | odd
      · simpa [even] using product
      · simpa [odd, Nat.add_assoc] using product.mul base
    -- With one bit left there is no further square to take.
    by_cases last : n < 2
    case pos =>
      have bit : n % 2 = n := Nat.mod_eq_of_lt last
      simpa only [last, if_true, bit] using next
    case neg =>
      have rest := ih (n / 2) (by omega) next (base.mul base)
      have power : a * b ^ (n % 2) * (b * b) ^ (n / 2) = a * b ^ n := by
        rw [← Nat.pow_two, ← Nat.pow_mul, Nat.mul_assoc, ← Nat.pow_add, Nat.add_comm, halves]
      have errors : i + n % 2 * (j + 1) + n / 2 * (j + j + 1 + 1) = i + n * (j + 1) := by
        calc _ = i + (2 * (n / 2) + n % 2) * (j + 1) := by ring
          _ = _ := by rw [halves]
      simpa only [last, if_false, power, errors] using rest

theorem one_denotes : one.Denotes 1 := ⟨2 ^ 52, 0, 52, rfl, rfl⟩

/-- A power of a whole number of 53 bits is off by one rounding for each factor. -/
theorem Denotes.pow_approximates (whole : x.Denotes b) (positive : 0 < b) (small : b < precision)
    (n : Nat) : (x.pow n).Approximates (b ^ n) n := by
  -- The product starts from one, which is exact.
  have power := (one_denotes.approximates Nat.one_pos (by decide)).powFrom (n := n)
    (whole.approximates positive small)
  simpa [pow] using power

/-- What approximates a number of 53 bits is it. -/
theorem Approximates.denotes (near : x.Approximates a i) (small : a < precision) : x.Denotes a := by
  -- Below the precision nothing has been rounded.
  obtain ⟨v, reads, near⟩ := near
  obtain rfl := near.same small
  exact reads.denotes (Nat.lt_of_lt_of_le small (two_pow_le_limit (by decide)))

/-- What approximates a number is infinite just if the approximation is out of range. -/
theorem Approximates.finite_or_infinity (near : x.Approximates a i) :
    (∃ v, x.Denotes v ∧ v < limit ∧ Near v a i) ∨
      (∃ v, x = .infinity false ∧ limit ≤ v ∧ Near v a i) := by
  -- Whether it is finite depends on the side of the limit its reading is on.
  obtain ⟨v, ⟨within, whole⟩ | ⟨beyond, infinite⟩, near⟩ := near
  · exact .inl ⟨v, whole, within, near⟩
  · exact .inr ⟨v, infinite, beyond, near⟩

/-- So few roundings do not leave the range from half of it. -/
theorem Near.lt_limit (near : Near v a i) (few : 2 * i < precision) (within : 2 * a ≤ limit) :
    v < limit := by
  by_contra beyond
  have positive := near.value_pos
  -- Otherwise the roundings would have doubled the number, for which they are too few.
  have doubled : v * (2 * (precision - i)) ≤ v * precision := by
    calc v * (2 * (precision - i)) = 2 * (v * (precision - i)) := by ring
      _ ≤ 2 * (a * precision) := Nat.mul_le_mul_left _ near.upper_linear
      _ = 2 * a * precision := by ring
      _ ≤ v * precision := Nat.mul_le_mul_right _ (by omega)
  have cut := Nat.le_of_mul_le_mul_left doubled positive
  omega

/-- So few roundings do not fall back into the range from the double of it. -/
theorem Near.limit_le (near : Near v a i) (few : 2 * i ≤ precision) (beyond : 2 * limit ≤ a) :
    limit ≤ v := by
  -- Half of the precision is left at least, so twice the limit is enough.
  refine Nat.le_of_mul_le_mul_right ?_ precision_pos
  calc limit * precision ≤ limit * (2 * (precision - i)) := Nat.mul_le_mul_left _ (by omega)
    _ = 2 * limit * (precision - i) := by ring
    _ ≤ a * (precision - i) := Nat.mul_le_mul_right _ beyond
    _ ≤ v * precision := near.lower_linear

/-- A number that at least doubles with each rounding grows by half of the doublings all the same. -/
theorem Near.two_pow_half_le (near : Near v a i) (doubles : 2 ^ i ≤ a) : 2 ^ (i / 2) ≤ v := by
  have halves : 2 * (i / 2) + i % 2 = i := Nat.div_add_mod i 2
  -- Of two doublings at least one is left after both roundings, and nothing is lost of a last one alone.
  have square : 2 * precision ^ 2 ≤ (2 * (precision - 1)) ^ 2 := by decide
  have single : precision ≤ 2 * (precision - 1) := by decide
  refine Nat.le_of_mul_le_mul_right ?_ (Nat.pow_pos (n := i) precision_pos)
  calc 2 ^ (i / 2) * precision ^ i
      = (2 * precision ^ 2) ^ (i / 2) * precision ^ (i % 2) := by
        rw [Nat.mul_pow, ← Nat.pow_mul, Nat.mul_assoc, ← Nat.pow_add, halves]
    _ ≤ ((2 * (precision - 1)) ^ 2) ^ (i / 2) * (2 * (precision - 1)) ^ (i % 2) :=
        Nat.mul_le_mul (Nat.pow_le_pow_left square _) (Nat.pow_le_pow_left single _)
    _ = 2 ^ i * (precision - 1) ^ i := by
        rw [← Nat.pow_mul, ← Nat.pow_add, halves, Nat.mul_pow]
    _ ≤ a * (precision - 1) ^ i := Nat.mul_le_mul_right _ doubles
    _ ≤ v * precision ^ i := near.lower

/-- Doubling what is out of range makes up for roundings, as long as they are few. -/
theorem Near.limit_le_double {k : Nat} (near : Near v a i) (next : Near w b k)
    (few : 8 * i ≤ precision) (few' : 8 * k ≤ precision) (double : 2 * a ≤ b)
    (beyond : limit ≤ v) : limit ≤ w := by
  refine Nat.le_trans beyond (Nat.le_of_mul_le_mul_right ?_ (Nat.mul_pos precision_pos precision_pos))
  -- At least seven parts in eight are left of either number, and the double of 49 parts in 64 is the whole.
  have kept : precision * precision ≤ 2 * ((precision - i) * (precision - k)) := by
    have squares : 7 * precision * (7 * precision) ≤ 8 * (precision - i) * (8 * (precision - k)) :=
      Nat.mul_le_mul (by omega) (by omega)
    have left : 7 * precision * (7 * precision) = 49 * (precision * precision) := by ring
    have right : 8 * (precision - i) * (8 * (precision - k)) =
        64 * ((precision - i) * (precision - k)) := by ring
    omega
  -- What one doubling gains is more than the errors of both numbers take.
  calc v * (precision * precision) ≤ v * (2 * ((precision - i) * (precision - k))) :=
        Nat.mul_le_mul_left _ kept
    _ = 2 * (v * (precision - i)) * (precision - k) := by ring
    _ ≤ 2 * (a * precision) * (precision - k) :=
        Nat.mul_le_mul_right _ (Nat.mul_le_mul_left _ near.upper_linear)
    _ = 2 * a * (precision - k) * precision := by ring
    _ ≤ b * (precision - k) * precision := Nat.mul_le_mul_right _ (Nat.mul_le_mul_right _ double)
    _ ≤ w * precision * precision := Nat.mul_le_mul_right _ next.lower_linear
    _ = w * (precision * precision) := Nat.mul_assoc _ _ _

theorem Denotes.ne_infinity (whole : x.Denotes v) : x ≠ .infinity false := by
  -- What denotes a number is a finite one.
  obtain ⟨m, p, q, rfl, -⟩ := whole
  exact Binary64.noConfusion

variable {n : Nat}

/-- Powers of so many factors are out of range, whatever the factor is above one. -/
theorem Denotes.pow_eq_infinity_of_many (whole : x.Denotes b) (above : 2 ≤ b)
    (small : b < precision) (many : 2048 ≤ n) : x.pow n = .infinity false := by
  rcases (whole.pow_approximates (by omega) small n).finite_or_infinity with
    ⟨v, -, within, near⟩ | ⟨_, infinite, -⟩
  -- Half of the doublings survive the rounding, and 1024 of them pass the limit.
  · have grown : 2 ^ (n / 2) ≤ v := near.two_pow_half_le (Nat.pow_le_pow_left above n)
    have beyond : limit ≤ 2 ^ (n / 2) := limit_le_two_pow (by omega)
    omega
  · exact infinite

/-- Once a power is out of range, so is the next. -/
theorem Denotes.pow_succ_eq_infinity (whole : x.Denotes b) (positive : 0 < b)
    (small : b < precision) (infinite : x.pow n = .infinity false) :
    x.pow (n + 1) = .infinity false := by
  have power := whole.pow_approximates positive small n
  -- The powers of one stay in range, and any other factor is two at least.
  rcases Nat.eq_or_lt_of_le positive with rfl | above
  · have one : (x.pow n).Denotes (1 ^ n) := power.denotes (by rw [Nat.one_pow]; decide)
    exact absurd infinite one.ne_infinity
  -- For large exponents the count of doublings decides; otherwise the errors stay small enough to compare.
  by_cases many : 2048 ≤ n + 1
  · exact whole.pow_eq_infinity_of_many above small many
  obtain ⟨v, whole', -⟩ | ⟨v, -, beyond, near⟩ := power.finite_or_infinity
  · exact absurd infinite whole'.ne_infinity
  obtain ⟨w, -, within, near'⟩ | ⟨-, infinite', -⟩ :=
    (whole.pow_approximates positive small (n + 1)).finite_or_infinity
  · have double : 2 * b ^ n ≤ b ^ (n + 1) := by
      rw [Nat.pow_succ']
      exact Nat.mul_le_mul_right _ above
    have few : 8 * (n + 1) ≤ precision := Nat.le_trans (by omega : 8 * (n + 1) ≤ 2 ^ 14) (by decide)
    have reached := near.limit_le_double near' (by omega) few double beyond
    omega
  · exact infinite'

/-- The powers of a number are out of range from some exponent on. -/
theorem Denotes.pow_eq_infinity_of_le {k : Nat} (whole : x.Denotes b) (positive : 0 < b)
    (small : b < precision) (later : n ≤ k) (infinite : x.pow n = .infinity false) :
    x.pow k = .infinity false := by
  -- The induction is on the exponents from the first to the second.
  induction later with
  | refl => exact infinite
  | step _ ih => exact whole.pow_succ_eq_infinity positive small ih

/-- A power in the lower half of the range is finite. -/
theorem Denotes.pow_isFinite (whole : x.Denotes b) (positive : 0 < b) (small : b < precision)
    (within : 2 * b ^ n ≤ limit) : (x.pow n).isFinite = true := by
  have power := whole.pow_approximates positive small n
  rcases Nat.eq_or_lt_of_le positive with rfl | above
  · have one : (x.pow n).Denotes (1 ^ n) := power.denotes (by rw [Nat.one_pow]; decide)
    exact one.isFinite_eq
  -- A factor of two or more would pass the limit with 1024 factors already.
  have few : n < 1024 := by
    by_contra many
    have grown : 2 ^ n ≤ b ^ n := Nat.pow_le_pow_left above n
    have beyond : limit ≤ 2 ^ n := limit_le_two_pow (by omega)
    have positive := limit_pos
    omega
  rcases power.finite_or_infinity with ⟨v, whole', -⟩ | ⟨v, -, beyond, near⟩
  · exact whole'.isFinite_eq
  -- An infinite reading would be as large as the limit, and the near number is below.
  · have bound : 2 * n < precision := Nat.lt_of_lt_of_le (by omega : 2 * n < 2 ^ 11) (by decide)
    have below := near.lt_limit bound within
    omega

/-- Only powers of what is above one are out of range. -/
theorem two_le_of_limit_le (beyond : 2 * limit ≤ b ^ n) : 2 ≤ b := by
  -- The powers of zero and one never get that far.
  by_contra below
  have power : b ^ n ≤ 1 ^ n := Nat.pow_le_pow_left (by omega) n
  have positive := limit_pos
  rw [Nat.one_pow] at power
  omega

/-- A power beyond the double of the range is infinite. -/
theorem Denotes.pow_eq_infinity (whole : x.Denotes b) (small : b < precision)
    (beyond : 2 * limit ≤ b ^ n) : x.pow n = .infinity false := by
  have above := two_le_of_limit_le beyond
  -- Few factors bring few errors, so a power beyond twice the limit is read as infinite.
  by_cases many : 2048 ≤ n
  · exact whole.pow_eq_infinity_of_many above small many
  rcases (whole.pow_approximates (by omega) small n).finite_or_infinity with
    ⟨v, -, within, near⟩ | ⟨_, infinite, -⟩
  · have few : 2 * n ≤ precision := Nat.le_trans (by omega : 2 * n ≤ 2 ^ 12) (by decide)
    have reached := near.limit_le few beyond
    omega
  · exact infinite

end ImageBuild.Binary64

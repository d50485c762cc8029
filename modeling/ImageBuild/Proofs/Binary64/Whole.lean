import ImageBuild.Proofs.Binary64.Rounding

/-! Whole numbers in floating point: what stands for one, and how they are added, multiplied and compared. -/

namespace ImageBuild.Binary64

/-- The first whole number beyond the range. -/
def limit : Nat := 2 ^ 1024

theorem limit_le_two_pow {k : Nat} (beyond : 1024 ≤ k) : limit ≤ 2 ^ k := by
  -- The limit is a power of two itself, so the exponents decide.
  unfold limit
  gcongr
  decide

theorem two_pow_le_limit {k : Nat} (within : k ≤ 1024) : 2 ^ k ≤ limit := by
  -- As before, only the exponents are compared.
  unfold limit
  gcongr
  decide

theorem limit_pos : 0 < limit := two_pow_le_limit (Nat.zero_le 1024)

/-- The number is a whole one: its significand at the scale that is the ratio of two powers of two. -/
def Denotes (x : Binary64) (n : Nat) : Prop :=
  ∃ (m p q : Nat), x = .finite false m (p - q) ∧ m * 2 ^ p = n * 2 ^ q

/-- The number is a whole one if this is in the range, and infinite if it is beyond. -/
def Reads (x : Binary64) (n : Nat) : Prop :=
  n < limit ∧ x.Denotes n ∨ limit ≤ n ∧ x = .infinity false

/-- A significand of 53 bits stands for itself times a power of two, if that is in the range. -/
theorem reads_of_significand {m : Nat} (normal : 2 ^ 52 ≤ m) (bits : m < 2 ^ 53) (e : Nat) :
    Reads (if maxExponent < (e : Int) then .infinity false else .finite false m e) (m * 2 ^ e) := by
  have low : 2 ^ (52 + e) ≤ m * 2 ^ e := by
    rw [Nat.pow_add]
    exact Nat.mul_le_mul_right _ normal
  have high : m * 2 ^ e < 2 ^ (53 + e) := by
    rw [Nat.pow_add]
    exact Nat.mul_lt_mul_of_pos_right bits (Nat.two_pow_pos e)
  -- The powers of two around the number are on one side of the limit, since it is one too.
  split
  case isTrue beyond =>
    have reached : limit ≤ 2 ^ (52 + e) :=
      limit_le_two_pow (by simp only [maxExponent] at beyond; omega)
    exact .inr ⟨Nat.le_trans reached low, rfl⟩
  case isFalse within =>
    have below : 2 ^ (53 + e) ≤ limit :=
      two_pow_le_limit (by simp only [maxExponent] at within; omega)
    exact .inl ⟨Nat.lt_of_lt_of_le high below, m, e, 0, by simp, by simp⟩

/-- A positive whole number leads with its highest power of two. -/
theorem leading_one {n : Nat} (nonzero : n ≠ 0) : leading n 1 = n.log2 := by
  -- Without a denominator the power that is tried first is reached at once.
  have reached : 2 ^ n.log2 ≤ n := Nat.log2_self_le nonzero
  simp [leading, descale, Nat.log2_def 1, reached]

/-- A whole number of 53 bits is kept, in a significand that is filled up with zeros. -/
theorem ofNat_of_le {n : Nat} (nonzero : n ≠ 0) (few : n.log2 ≤ 52) :
    ofNat n = .finite false (n * 2 ^ (52 - n.log2)) (n.log2 - 52) := by
  -- Shifted up to 53 bits the number is in the range of the significands.
  have filled : n * 2 ^ (52 - n.log2) < 2 ^ 53 := by
    calc n * 2 ^ (52 - n.log2) < 2 ^ (n.log2 + 1) * 2 ^ (52 - n.log2) :=
          Nat.mul_lt_mul_of_pos_right Nat.lt_log2_self (Nat.two_pow_pos _)
      _ = 2 ^ 53 := by rw [← Nat.pow_add, show n.log2 + 1 + (52 - n.log2) = 53 by omega]
  have exponent : max ((n.log2 : Int) - 52) minExponent = n.log2 - 52 := by
    simp only [minExponent]; omega
  -- The exponent is not positive, so that the number is expanded and there is nothing to round.
  have whole : descale n 1 (n.log2 - 52) = (n * 2 ^ (52 - n.log2), 1) := by
    rw [show (n.log2 : Int) - 52 = -(52 - n.log2 : Nat) by omega]
    simp +contextual [descale]
  have exact : nearest (n * 2 ^ (52 - n.log2)) 1 = n * 2 ^ (52 - n.log2) := by
    simpa using nearest_mul_self (n * 2 ^ (52 - n.log2)) Nat.one_pos
  have within : ¬ maxExponent < (n.log2 : Int) - 52 := by simp only [maxExponent]; omega
  simp only [ofNat, round, nonzero, if_false, leading_one nonzero, exponent, whole, exact,
    Nat.pow_eq, filled.ne, within]

/-- A whole number of more bits is rounded to 53 of them, or is out of range. -/
theorem ofNat_reads_of_le {n : Nat} (nonzero : n ≠ 0) (many : 52 ≤ n.log2) :
    Reads (ofNat n) (rounded n) := by
  -- The leading 53 bits are kept, and the rest of them is rounded off.
  obtain ⟨normal, bits⟩ := two_pow_le_nearest nonzero many
  have exponent : max ((n.log2 : Int) - 52) minExponent = (n.log2 - 52 : Nat) := by
    simp only [minExponent]; omega
  have whole : descale n 1 (n.log2 - 52 : Nat) = (n, 2 ^ (n.log2 - 52)) := by simp [descale]
  simp only [ofNat, round, nonzero, if_false, leading_one nonzero, exponent, whole, Nat.pow_eq]
  split
  -- Rounding up has reached the next power of two, which takes one bit less and a greater exponent.
  case isTrue full =>
    have next := reads_of_significand (m := 2 ^ 52) Nat.le.refl (by decide) (n.log2 - 52 + 1)
    rw [show 2 ^ 52 * 2 ^ (n.log2 - 52 + 1) = rounded n by rw [rounded, full]; omega] at next
    exact next
  case isFalse less => exact reads_of_significand normal (by omega) (n.log2 - 52)

/-- A whole number is rounded once it is put in floating point. -/
theorem ofNat_reads (n : Nat) : Reads (ofNat n) (rounded n) := by
  -- Zero has no leading bit, and is put in floating point by itself.
  by_cases zero : n = 0
  · rw [zero, rounded_eq (by simp)]
    exact .inl ⟨limit_pos, 0, 0, 0, by simp [ofNat, round], by simp⟩
  rcases Nat.le_total n.log2 52 with few | many
  case inl =>
    have below : n < limit :=
      Nat.lt_of_lt_of_le Nat.lt_log2_self (two_pow_le_limit (by omega : n.log2 + 1 ≤ 1024))
    rw [rounded_eq few]
    refine .inl ⟨below, n * 2 ^ (52 - n.log2), n.log2, 52, ofNat_of_le zero few, ?_⟩
    rw [Nat.mul_assoc, ← Nat.pow_add, Nat.sub_add_cancel few]
  case inr => exact ofNat_reads_of_le zero many

/-- Only the ratio of the two powers of two counts. -/
theorem mul_two_pow_congr {m n p q r t : Nat} (same : m * 2 ^ p = n * 2 ^ q)
    (ratio : p + t = r + q) : m * 2 ^ r = n * 2 ^ t := by
  -- Both sides are expanded by one power of two, which is cancelled at the end.
  have expanded : m * 2 ^ r * 2 ^ q = n * 2 ^ t * 2 ^ q := by
    calc m * 2 ^ r * 2 ^ q = m * 2 ^ (r + q) := by rw [Nat.pow_add, Nat.mul_assoc]
      _ = m * 2 ^ p * 2 ^ t := by rw [← ratio, Nat.pow_add, Nat.mul_assoc]
      _ = n * 2 ^ t * 2 ^ q := by rw [same, Nat.mul_right_comm]
  exact Nat.mul_right_cancel (Nat.two_pow_pos q) expanded

/-- What is a whole number once it is scaled is rounded like it. -/
theorem scaled_eq_ofNat {m n p q : Nat} {e : Int} (same : m * 2 ^ p = n * 2 ^ q)
    (ratio : e = p - q) : scaled false m e = ofNat n := by
  by_cases up : 0 ≤ e
  · have value : m * 2 ^ e.toNat = n * 2 ^ 0 := mul_two_pow_congr same (by omega)
    simp only [scaled, up, if_true, Nat.pow_eq, value, ofNat, Nat.pow_zero, Nat.mul_one]
  · have value : m * 2 ^ 0 = n * 2 ^ (-e).toNat := mul_two_pow_congr same (by omega)
    rw [Nat.pow_zero, Nat.mul_one] at value
    -- A negative exponent makes a denominator, by which the significand can be divided.
    have reduced := round_mul_two_pow false n Nat.one_ne_zero (-e).toNat
    rw [Nat.one_mul] at reduced
    simp only [scaled, up, if_false, Nat.pow_eq, value, ofNat, reduced]

variable {x y : Binary64} {v w : Nat}

/-- The product of whole numbers is rounded once. -/
theorem Denotes.mul (left : x.Denotes v) (right : y.Denotes w) : x.mul y = ofNat (v * w) := by
  obtain ⟨m, p, q, rfl, same⟩ := left
  obtain ⟨k, r, t, rfl, same'⟩ := right
  -- Exponents are added, so that the ratios of the powers of two are multiplied.
  refine scaled_eq_ofNat (p := p + r) (q := q + t) ?_ (by push_cast; omega)
  calc m * k * 2 ^ (p + r) = m * 2 ^ p * (k * 2 ^ r) := by rw [Nat.pow_add]; ring
    _ = v * w * 2 ^ (q + t) := by rw [same, same', Nat.pow_add]; ring

/-- A whole number is a whole number of units of any power of two below its own. -/
theorem Denotes.units_eq {m n : Nat} {e low : Int} (whole : Denotes (.finite false m e) n)
    (below : low ≤ e) :
    ∃ k : Nat, units false m e low = k ∧ k * 2 ^ low.toNat = n * 2 ^ (-low).toNat := by
  obtain ⟨_, p, q, shape, same⟩ := whole
  obtain ⟨-, rfl, rfl⟩ := Binary64.finite.inj shape
  -- Above the lower exponent the number is a whole count of units.
  refine ⟨m * 2 ^ ((p : Int) - q - low).toNat, by simp [units], ?_⟩
  rw [Nat.mul_assoc, ← Nat.pow_add]
  exact mul_two_pow_congr same (by omega)

/-- A whole number is a fraction that divides without a rest. -/
theorem Denotes.descale_eq {m n : Nat} {e : Int} (whole : Denotes (.finite false m e) n) :
    ∃ den, 0 < den ∧ descale m 1 (-e) = (n * den, den) := by
  obtain ⟨_, p, q, shape, same⟩ := whole
  obtain ⟨-, rfl, rfl⟩ := Binary64.finite.inj shape
  -- The sign of the exponent says whether the denominator is more than one.
  by_cases down : 0 ≤ -((p : Int) - q)
  · have value : m * 2 ^ 0 = n * 2 ^ (-((p : Int) - q)).toNat := mul_two_pow_congr same (by omega)
    rw [Nat.pow_zero, Nat.mul_one] at value
    refine ⟨2 ^ (-((p : Int) - q)).toNat, Nat.two_pow_pos _, ?_⟩
    simp only [descale, down, if_true, Nat.one_mul, Nat.pow_eq, value]
  · have value : m * 2 ^ (- -((p : Int) - q)).toNat = n * 2 ^ 0 := mul_two_pow_congr same (by omega)
    refine ⟨1, Nat.one_pos, ?_⟩
    simp only [descale, down, if_false, Nat.pow_eq, value, Nat.pow_zero]

/-- Two whole numbers are measured in the lower of their units. -/
theorem Denotes.common (left : x.Denotes v) (right : y.Denotes w) :
    ∃ (m k a b : Nat) (e f : Int), x = .finite false m e ∧ y = .finite false k f ∧
      units false m e (min e f) = a ∧ units false k f (min e f) = b ∧
      a * 2 ^ (min e f).toNat = v * 2 ^ (-min e f).toNat ∧
      b * 2 ^ (min e f).toNat = w * 2 ^ (-min e f).toNat := by
  have ⟨m, p, q, shape₁, _⟩ := left
  have ⟨k, r, t, shape₂, _⟩ := right
  subst shape₁ shape₂
  -- The lower of the two exponents serves as unit for both.
  obtain ⟨a, units₁, same₁⟩ := left.units_eq (Int.min_le_left _ ((r : Int) - t))
  obtain ⟨b, units₂, same₂⟩ := right.units_eq (Int.min_le_right ((p : Int) - q) _)
  exact ⟨m, k, a, b, _, _, rfl, rfl, units₁, units₂, same₁, same₂⟩

/-- The sum of whole numbers is rounded once. -/
theorem Denotes.add (left : x.Denotes v) (right : y.Denotes w) : x.add y = ofNat (v + w) := by
  obtain ⟨m, k, a, b, e, f, rfl, rfl, units₁, units₂, same₁, same₂⟩ := left.common right
  -- Counted in the common unit the sum is one of natural numbers, so there is no sign.
  have sum : (a : Int) + b = (a + b : Nat) := rfl
  have positive : ¬ ((a + b : Nat) : Int) < 0 := Int.not_lt.2 (Int.natCast_nonneg _)
  simp only [Binary64.add, units₁, units₂, sum, positive, decide_false, Bool.and_self, ite_self,
    Int.natAbs_natCast]
  exact scaled_eq_ofNat (by rw [Nat.add_mul, same₁, same₂, Nat.add_mul]) (by omega)

/-- Whole numbers compare as such. -/
theorem Denotes.compare?_eq (left : x.Denotes v) (right : y.Denotes w) :
    x.compare? y = some (compare v w) := by
  obtain ⟨m, k, a, b, e, f, rfl, rfl, units₁, units₂, same₁, same₂⟩ := left.common right
  -- The units are as many as the numbers, but for one ratio of powers of two, which keeps the order.
  have lower : 0 < 2 ^ (min e f).toNat := Nat.two_pow_pos _
  have upper : 0 < 2 ^ (-min e f).toNat := Nat.two_pow_pos _
  have less : a < b ↔ v < w := by
    rw [← Nat.mul_lt_mul_right lower, same₁, same₂, Nat.mul_lt_mul_right upper]
  have equal : a = b ↔ v = w := by
    rw [← Nat.mul_left_inj lower.ne', same₁, same₂, Nat.mul_left_inj upper.ne']
  simp only [compare?, units₁, units₂, compare, compareOfLessAndEq, Int.ofNat_lt, Int.natCast_inj,
    less, equal]

theorem Denotes.isFinite_eq (whole : x.Denotes v) : x.isFinite = true := by
  -- A number that denotes something is written as a finite one.
  obtain ⟨m, p, q, rfl, -⟩ := whole
  rfl

theorem Denotes.lt_eq (left : x.Denotes v) (right : y.Denotes w) : x.lt y = decide (v < w) := by
  -- Both sides are decided by the comparison of the natural numbers.
  rw [Bool.eq_iff_iff]
  simp [lt, left.compare?_eq right, Nat.compare_eq_lt]

theorem Denotes.ge_eq (left : x.Denotes v) (right : y.Denotes w) : x.ge y = decide (w ≤ v) := by
  rw [ge, left.compare?_eq right]
  -- The comparison answers less, equal or greater, as the natural numbers do.
  rcases Nat.lt_trichotomy v w with less | rfl | more
  · simp [Nat.compare_eq_lt.2 less, less]
  · simp
  · simp [Nat.compare_eq_gt.2 more, more.le]

theorem Denotes.maximum (left : x.Denotes v) (right : y.Denotes w) :
    (x.maximum y).Denotes (max v w) := by
  rw [Binary64.maximum, left.compare?_eq right]
  -- The greater side is the one returned; on equality it is the left one.
  rcases Nat.lt_trichotomy v w with less | rfl | more
  · simpa [Nat.compare_eq_lt.2 less, less.le] using right
  · simpa using left
  · simpa [Nat.compare_eq_gt.2 more, more.le] using left

/-- What is in the range is the whole number itself. -/
theorem Reads.denotes (reads : x.Reads v) (within : v < limit) : x.Denotes v := by
  -- A reading below the limit cannot be an infinite one.
  rcases reads with ⟨-, whole⟩ | ⟨beyond, -⟩
  · exact whole
  · omega

/-- A whole number of 53 bits is in floating point what it is. -/
theorem ofNat_denotes {n : Nat} (small : n < precision) : (ofNat n).Denotes n := by
  -- Rounding changes nothing below the precision.
  have exact := ofNat_reads n
  rw [rounded_eq (log2_le_of_lt small)] at exact
  exact exact.denotes (Nat.lt_of_lt_of_le small (two_pow_le_limit (by decide)))

/-- A number beyond the range is not rounded back into it. -/
theorem limit_le_rounded {n : Nat} (beyond : limit ≤ n) : limit ≤ rounded n := by
  -- The limit is a power of two, and rounding never falls below one of those.
  unfold limit at *
  exact two_pow_le_rounded beyond

/-- A positive whole number times infinity is infinite. -/
theorem Denotes.mul_infinity (whole : x.Denotes v) (positive : 0 < v) :
    x.mul (.infinity false) = .infinity false ∧ (infinity false).mul x = .infinity false := by
  obtain ⟨m, p, q, rfl, same⟩ := whole
  -- Only zero times infinity is undefined.
  have nonzero : m ≠ 0 := by
    rintro rfl
    have product := Nat.mul_pos positive (Nat.two_pow_pos q)
    omega
  simp [Binary64.mul, nonzero]

/-- No whole number times infinity is finite, as zero times infinity is undefined. -/
theorem Denotes.mul_infinity_not_finite (whole : x.Denotes v) :
    (x.mul (.infinity false)).isFinite = false := by
  -- Zero times infinity is no number, any other product is infinite.
  obtain ⟨m, p, q, rfl, -⟩ := whole
  by_cases zero : m = 0 <;> simp [Binary64.mul, zero, isFinite]

/-- The product of positive whole numbers is rounded once, and infinite if it is out of range. -/
theorem Reads.mul (left : x.Reads v) (right : y.Reads w) (positive : 0 < v) (positive' : 0 < w) :
    (x.mul y).Reads (rounded (v * w)) := by
  -- A factor out of range takes the product there, since the other one is positive.
  rcases left with ⟨-, whole⟩ | ⟨beyond, rfl⟩ <;> rcases right with ⟨-, whole'⟩ | ⟨beyond', rfl⟩
  case inl.inl =>
    rw [whole.mul whole']
    exact ofNat_reads (v * w)
  case inl.inr =>
    have product : limit ≤ v * w := Nat.le_trans beyond' (Nat.le_mul_of_pos_left w positive)
    exact .inr ⟨limit_le_rounded product, (whole.mul_infinity positive).1⟩
  case inr.inl =>
    have product : limit ≤ v * w := Nat.le_trans beyond (Nat.le_mul_of_pos_right v positive')
    exact .inr ⟨limit_le_rounded product, (whole'.mul_infinity positive').2⟩
  case inr.inr =>
    have product : limit ≤ v * w := Nat.le_trans beyond (Nat.le_mul_of_pos_right v positive')
    exact .inr ⟨limit_le_rounded product, rfl⟩

end ImageBuild.Binary64

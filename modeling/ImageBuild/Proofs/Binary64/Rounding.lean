import ImageBuild.Binary64
import Mathlib.Tactic.Ring

/-! Rounding to nearest: how far it moves a number, and what it leaves as it is. -/

namespace ImageBuild.Binary64

/-- What is rounded is moved by half a unit at most. -/
theorem nearest_bounds (num : Nat) {den : Nat} (positive : 0 < den) :
    2 * (nearest num den * den) ≤ 2 * num + den ∧ 2 * num ≤ 2 * (nearest num den * den) + den := by
  have division : den * (num / den) + num % den = num := Nat.div_add_mod num den
  have below : num % den < den := Nat.mod_lt num positive
  rw [Nat.mul_comm] at division
  -- Rounding down leaves the rest behind, and rounding up adds what the rest lacks of a unit.
  simp only [nearest]
  split
  case isTrue down => omega
  case isFalse up =>
    rw [Nat.add_mul, Nat.one_mul]
    omega

/-- The nearest number is one of the two around the fraction. -/
theorem nearest_within (num den : Nat) :
    num / den ≤ nearest num den ∧ nearest num den ≤ num / den + 1 := by
  -- Rounding adds one to the quotient or nothing.
  simp only [nearest]
  split <;> omega

/-- Rounding looks at the fraction alone, not at how it is expanded. -/
theorem nearest_mul_right (num den : Nat) {c : Nat} (positive : 0 < c) :
    nearest (num * c) (den * c) = nearest num den := by
  -- The rest is expanded like the denominator, so that it is as near to half of it.
  have less : 2 * (num % den * c) < den * c ↔ 2 * (num % den) < den := by
    rw [← Nat.mul_assoc, Nat.mul_lt_mul_right positive]
  have same : 2 * (num % den * c) = den * c ↔ 2 * (num % den) = den := by
    rw [← Nat.mul_assoc, Nat.mul_left_inj (by omega)]
  simp only [nearest, Nat.mul_div_mul_right _ _ positive, Nat.mul_mod_mul_right, less, same]

/-- A whole number of units is not rounded. -/
theorem nearest_mul_self (n : Nat) {den : Nat} (positive : 0 < den) : nearest (n * den) den = n := by
  simp [nearest, positive, Nat.mul_div_cancel n positive]

theorem log2_mul_two_pow {n : Nat} (nonzero : n ≠ 0) (k : Nat) :
    (n * 2 ^ k).log2 = n.log2 + k := by
  have power : 0 < 2 ^ k := Nat.two_pow_pos k
  -- The powers of two on both sides of the number move by as many places.
  rw [Nat.log2_eq_iff (Nat.mul_ne_zero nonzero power.ne')]
  refine ⟨?_, ?_⟩
  · rw [Nat.pow_add]
    exact Nat.mul_le_mul_right _ (Nat.log2_self_le nonzero)
  · rw [Nat.add_right_comm, Nat.pow_add]
    exact Nat.mul_lt_mul_of_pos_right Nat.lt_log2_self power

/-- Dividing by a power of two expands with the fraction. -/
theorem descale_mul (num den c : Nat) (e : Int) :
    descale (num * c) (den * c) e = ((descale num den e).1 * c, (descale num den e).2 * c) := by
  -- The scale goes to the numerator or to the denominator, and the common factor moves along.
  unfold descale
  split <;> simp only [Nat.mul_right_comm]

/-- The nearest number does not depend on how the fraction is expanded by a power of two. -/
theorem round_mul_two_pow (negative : Bool) (num : Nat) {den : Nat} (nonzero : den ≠ 0) (k : Nat) :
    round negative (num * 2 ^ k) (den * 2 ^ k) = round negative num den := by
  have power : 0 < 2 ^ k := Nat.two_pow_pos k
  by_cases zero : num = 0
  · subst zero
    simp [round]
  -- The highest power of two is told by the logarithms, which move by the same number.
  have leads : leading (num * 2 ^ k) (den * 2 ^ k) = leading num den := by
    have shift : ((num * 2 ^ k).log2 : Int) - (den * 2 ^ k).log2 = num.log2 - den.log2 := by
      rw [log2_mul_two_pow zero, log2_mul_two_pow nonzero]
      omega
    simp only [leading, shift, descale_mul, Nat.mul_le_mul_right_iff power]
  simp only [round, leads, descale_mul, nearest_mul_right _ _ power, Nat.mul_eq_zero, zero,
    power.ne', or_false, if_false]

/-- A whole number rounded to 53 bits, as a multiple of the last of them. -/
def rounded (n : Nat) : Nat := nearest n (2 ^ (n.log2 - 52)) * 2 ^ (n.log2 - 52)

/-- The first whole number of more than 53 bits. -/
def precision : Nat := 2 ^ 53

theorem precision_pos : 0 < precision := Nat.two_pow_pos 53

theorem log2_le_of_lt {n : Nat} (small : n < precision) : n.log2 ≤ 52 := by
  -- A number below the precision has at most 53 bits.
  by_cases zero : n = 0
  · simp [zero]
  · exact Nat.lt_succ_iff.1 ((Nat.log2_lt (k := 53) zero).2 small)

/-- A whole number of 53 bits is exact. -/
theorem rounded_eq {n : Nat} (small : n.log2 ≤ 52) : rounded n = n := by
  -- The last bit that is kept is that of the units, below which there is nothing.
  have exact : nearest (n * 1) 1 = n := nearest_mul_self n Nat.one_pos
  simpa [rounded, Nat.sub_eq_zero_of_le small] using exact

/-- The first bit of a number is 52 places before the last one that is kept. -/
theorem two_pow_mul_unit_le {n : Nat} (nonzero : n ≠ 0) (cut : 52 ≤ n.log2) :
    2 ^ 52 * 2 ^ (n.log2 - 52) ≤ n := by
  -- The two powers join to the leading power of the number.
  rw [← Nat.pow_add, Nat.add_sub_cancel' cut]
  exact Nat.log2_self_le nonzero

/-- Of a number 53 bits are kept, unless it is rounded up to the next power of two. -/
theorem two_pow_le_nearest {n : Nat} (nonzero : n ≠ 0) (cut : 52 ≤ n.log2) :
    2 ^ 52 ≤ nearest n (2 ^ (n.log2 - 52)) ∧ nearest n (2 ^ (n.log2 - 52)) ≤ 2 ^ 53 := by
  have unit : 0 < 2 ^ (n.log2 - 52) := Nat.two_pow_pos _
  have low := two_pow_mul_unit_le nonzero cut
  have high : n < 2 ^ 53 * 2 ^ (n.log2 - 52) := by
    rw [← Nat.pow_add, show 53 + (n.log2 - 52) = n.log2 + 1 by omega]
    exact Nat.lt_log2_self
  -- The quotient has 53 bits, and rounding adds one to it at most.
  have within := nearest_within n (2 ^ (n.log2 - 52))
  have quotient := (Nat.le_div_iff_mul_le unit).2 low
  have below := (Nat.div_lt_iff_lt_mul unit).2 high
  omega

/-- Rounding does not fall below a power of two. -/
theorem two_pow_le_rounded {n k : Nat} (reached : 2 ^ k ≤ n) : 2 ^ k ≤ rounded n := by
  have nonzero : n ≠ 0 := by have := Nat.two_pow_pos k; omega
  have leads : k ≤ n.log2 := (Nat.le_log2 nonzero).2 reached
  by_cases small : n.log2 ≤ 52
  · rwa [rounded_eq small]
  -- The highest power of two in the number is a multiple of the last bit, which rounding keeps.
  calc 2 ^ k ≤ 2 ^ n.log2 := Nat.pow_le_pow_right (by decide) leads
    _ = 2 ^ 52 * 2 ^ (n.log2 - 52) := by rw [← Nat.pow_add, Nat.add_sub_cancel' (by omega)]
    _ ≤ rounded n := Nat.mul_le_mul_right _ (two_pow_le_nearest nonzero (by omega)).1

/-- Rounding moves a number by no more than one part in `precision`. -/
theorem rounded_bounds (n : Nat) :
    rounded n * precision ≤ n * (precision + 1) ∧
      n * (precision - 1) ≤ rounded n * precision := by
  simp only [precision]
  by_cases small : n.log2 ≤ 52
  · rw [rounded_eq small]
    omega
  have nonzero : n ≠ 0 := by rintro rfl; simp at small
  -- Half a unit is the last of 53 bits, counted from the first one of the number.
  have low := two_pow_mul_unit_le nonzero (by omega)
  have half := nearest_bounds n (Nat.two_pow_pos (n.log2 - 52))
  simp only [rounded]
  omega

end ImageBuild.Binary64

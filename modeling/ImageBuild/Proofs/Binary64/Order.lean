import ImageBuild.Binary64
import Mathlib.Algebra.Field.Rat
import Mathlib.Algebra.Order.Field.Power
import Mathlib.Algebra.Order.Ring.Rat
import Mathlib.Order.WithBot

/-! Floating-point numbers compare as the rational numbers that they stand for, with the two infinities around them. -/

namespace ImageBuild.Binary64

/-- What a finite number stands for. -/
def rational (negative : Bool) (m : Nat) (e : Int) : ℚ := (if negative then -(m : ℚ) else m) * 2 ^ e

/-- What a number stands for; an undefined one stands for nothing. -/
def value? : Binary64 → Option (WithBot (WithTop ℚ))
  | .nan => none
  | .infinity negative => some (if negative then ⊥ else ⊤)
  | .finite negative m e => some ↑(rational negative m e : WithTop ℚ)

/-- So many units of a power of two are the number. -/
theorem units_mul (negative : Bool) (m : Nat) {e low : Int} (above : low ≤ e) :
    (units negative m e low : ℚ) * 2 ^ low = rational negative m e := by
  -- The two powers of two that are split off make the exponent again.
  have scale : (2 : ℚ) ^ (e - low).toNat * 2 ^ low = 2 ^ e := by
    rw [← zpow_natCast, ← zpow_add₀ (by norm_num)]
    congr 1
    omega
  cases negative <;> simp [units, rational, mul_assoc, scale]

/-- Finite numbers compare in units of which both are whole multiples. -/
theorem compare_units (s t : Bool) (m n : Nat) {e f low : Int} (left : low ≤ e) (right : low ≤ f) :
    compare (units s m e low) (units t n f low) = cmp (rational s m e) (rational t n f) := by
  -- Counting in larger units keeps the order, whatever the unit is.
  have scales : StrictMono fun k : Int => (k : ℚ) * 2 ^ low := by
    intro j k less
    have cast : (j : ℚ) < k := Int.cast_lt.mpr less
    exact mul_lt_mul_of_pos_right cast (zpow_pos (by norm_num) low)
  rw [← units_mul s m left, ← units_mul t n right, ← cmp_eq_compare]
  exact (scales.cmp_map_eq _ _).symm

/-- Numbers compare as what they stand for. -/
theorem compare?_eq (a b : Binary64) : a.compare? b = Option.map₂ cmp a.value? b.value? := by
  -- An infinity of either sign is compared by its place in the extended order alone.
  cases a with
  | nan => rfl
  | infinity s =>
    cases b with
    | nan => rfl
    | infinity t => cases s <;> cases t <;> rfl
    | finite t n f => cases s <;> rfl
  | finite s m e =>
    cases b with
    | nan => rfl
    | infinity t => cases t <;> rfl
    | finite t n f =>
      have inner : StrictMono fun q : ℚ => ((q : WithTop ℚ) : WithBot (WithTop ℚ)) :=
        WithBot.coe_strictMono.comp WithTop.coe_strictMono
      -- What is common to both exponents is the lower one.
      rw [compare?, compare_units s t m n (min_le_left e f) (min_le_right e f)]
      exact congrArg some (inner.cmp_map_eq _ _).symm

/-- A number is below another just if both are defined, and what it stands for is below. -/
theorem lt_iff {a b : Binary64} :
    a.lt b = true ↔ ∃ v ∈ a.value?, ∃ w ∈ b.value?, v < w := by
  -- The comparison says less only for two numbers, and then says what their values do.
  rw [lt, beq_iff_eq, compare?_eq, Option.map₂_eq_some_iff]
  constructor
  · rintro ⟨v, w, left, right, below⟩
    exact ⟨v, left, w, right, (cmp_eq_lt_iff v w).mp below⟩
  · rintro ⟨v, left, w, right, below⟩
    exact ⟨v, w, left, right, (cmp_eq_lt_iff v w).mpr below⟩

/-- Only an undefined number stands for nothing. -/
theorem value?_eq_none_iff {a : Binary64} : a.value? = none ↔ a = .nan := by
  cases a <;> simp [value?]

/-- One stands for one. -/
theorem value?_one : one.value? = some 1 := by
  -- One is written with all its 53 bits.
  have exact : rational false (Nat.pow 2 52) (-52) = 1 := by norm_num [rational]
  rw [one, value?, exact]
  rfl

end ImageBuild.Binary64

import ImageBuild.Binary64
import ImageBuild.Text.Blank
import ImageBuild.Text.Digits
import Mathlib.Tactic.Ring

/-! The decimal digits that numbers are written in. -/

namespace ImageBuild.Text

/-- The codes of the digits are those from 48 on. -/
theorem toNat_of_isDigit {c : Char} (digit : c.isDigit = true) : 48 ≤ c.toNat ∧ c.toNat ≤ 57 := by
  simpa [Char.isDigit, UInt32.le_iff_toNat_le] using digit

/-- No character after the space is a blank, up to the first of the wider ones and but for two. -/
theorem isBlank_of_lt {c : Char} (after : 0x20 < c.toNat) (before : c.toNat < 0x1680)
    (nextLine : c.toNat ≠ 0x85) (fixedSpace : c.toNat ≠ 0xA0) : isBlank c = false := by
  -- The blanks of this range are the two that are excluded.
  simp only [isBlank, Bool.or_eq_false_iff, Bool.and_eq_false_iff, decide_eq_false_iff_not]
  and_intros <;> omega

theorem isBlank_of_isDigit {c : Char} (digit : c.isDigit = true) : isBlank c = false := by
  -- Digits lie between the blank and all other blanks.
  have range := toNat_of_isDigit digit
  exact isBlank_of_lt (by omega) (by omega) (by omega) (by omega)

/-- A number is written in digits. -/
theorem isDigit_of_mem_toDigits {n : Nat} {c : Char} (member : c ∈ Nat.toDigits 10 n) :
    c.isDigit = true :=
  Nat.isDigit_of_mem_toDigits (by decide) (by decide) member

/-- A number is written in one digit at least. -/
theorem exists_toDigits_eq_cons (n : Nat) : ∃ c rest, Nat.toDigits 10 n = c :: rest :=
  List.exists_cons_of_length_pos Nat.length_toDigits_pos

theorem toList_toString (n : Nat) : (toString n).toList = Nat.toDigits 10 n := by
  rw [Nat.toString_eq_ofList_toDigits, String.toList_ofList]

/-- The value of digits is that of the number whose digits they are. -/
theorem digitsValue_eq_ofDigitChars (digits : List Char) :
    digitsValue digits = Nat.ofDigitChars 10 digits 0 := by
  unfold digitsValue
  -- The digits are taken one by one, so that the value may start from that of the digits before.
  generalize 0 = n
  induction digits generalizing n with
  | nil => rfl
  | cons c rest ih =>
    rw [List.foldl_cons, ih, Nat.ofDigitChars_cons, Nat.mul_comm n 10]
    rfl

/-- A number only grows by the digits that follow. -/
theorem le_ofDigitChars (digits : List Char) (n : Nat) : n ≤ Nat.ofDigitChars 10 digits n := by
  -- Every digit multiplies what is there by ten.
  have grows : Nat.ofDigitChars 10 digits n = 10 ^ digits.length * n + Nat.ofDigitChars 10 digits 0 :=
    Nat.ofDigitChars_eq_ofDigitChars_zero
  have part : n ≤ 10 ^ digits.length * n := Nat.le_mul_of_pos_left n (Nat.pow_pos (by decide))
  omega

/-- So many digits count up to a power of ten. -/
theorem ofDigitChars_lt {digits : List Char} (all : ∀ c ∈ digits, c.isDigit = true) (n : Nat) :
    Nat.ofDigitChars 10 digits n < (n + 1) * 10 ^ digits.length := by
  induction digits generalizing n with
  | nil => simp
  | cons c rest ih =>
    have digit := toNat_of_isDigit (all c List.mem_cons_self)
    have below := ih (fun d member => all d (List.mem_cons_of_mem _ member))
      (10 * n + (c.toNat - '0'.toNat))
    -- A digit is at most nine, so that ten times the next number is not reached.
    have next : (10 * n + (c.toNat - '0'.toNat) + 1) * 10 ^ rest.length ≤
        (10 * (n + 1)) * 10 ^ rest.length := by
      refine Nat.mul_le_mul_right _ ?_
      have zero : '0'.toNat = 48 := rfl
      omega
    rw [Nat.ofDigitChars_cons, List.length_cons, Nat.pow_succ]
    calc _ < _ := below
      _ ≤ _ := next
      _ = _ := by ring

/-- A number of two digits or more does not begin with a zero. -/
theorem toDigits_ne_zero_cons (n : Nat) (c : Char) (rest : List Char) :
    Nat.toDigits 10 n ≠ '0' :: c :: rest := by
  intro digits
  have all : ∀ d ∈ c :: rest, d.isDigit = true := fun d member =>
    isDigit_of_mem_toDigits (digits ▸ List.mem_cons_of_mem _ member)
  have value : Nat.ofDigitChars 10 (Nat.toDigits 10 n) 0 = n := Nat.ofDigitChars_ten_toDigits
  rw [digits, Nat.ofDigitChars_cons] at value
  -- The digits after the zero are the value, and so few digits that they do not need it.
  have below : n < 10 ^ (c :: rest).length := by
    have bound := ofDigitChars_lt all 0
    rw [Nat.zero_add, Nat.one_mul] at bound
    exact value ▸ bound
  have length := (Nat.length_toDigits_le_iff (by decide) (by simp)).mpr below
  rw [digits] at length
  simp at length

end ImageBuild.Text

/-! Binary floating-point numbers of 64 bits, rounded to nearest with ties to even. -/

namespace ImageBuild

/-- A number of 53 significant bits, with a sign also on zero, or one of the special values. -/
inductive Binary64
  | nan
  | infinity (negative : Bool)
  | finite (negative : Bool) (significand : Nat) (exponent : Int)
  deriving DecidableEq, Inhabited

namespace Binary64

/-- The natural number nearest to a fraction; halfway between two, the even one. -/
def nearest (num den : Nat) : Nat :=
  let q := num / den
  let r := num % den
  if 2 * r < den ∨ (2 * r = den ∧ q % 2 = 0) then q else q + 1

/-- A fraction divided by a power of two. -/
def descale (num den : Nat) (e : Int) : Nat × Nat :=
  if 0 ≤ e then (num, den * Nat.pow 2 e.toNat) else (num * Nat.pow 2 (-e).toNat, den)

/-- The exponent of the highest power of two that a positive fraction reaches. -/
def leading (num den : Nat) : Int :=
  let d : Int := (num.log2 : Int) - (den.log2 : Int)
  let (n, k) := descale num den d
  if k ≤ n then d else d - 1

/-- The least exponent of a number. -/
def minExponent : Int := -1074

/-- The greatest exponent of a number. -/
def maxExponent : Int := 971

/-- The number nearest to a fraction. -/
def round (negative : Bool) (num den : Nat) : Binary64 :=
  if num = 0 then .finite negative 0 0
  else
    let e := max (leading num den - 52) minExponent
    let (n, k) := descale num den e
    let m := nearest n k
    -- Rounding up may reach the next power of two.
    let (m, e) := if m = Nat.pow 2 53 then (Nat.pow 2 52, e + 1) else (m, e)
    if maxExponent < e then .infinity negative else .finite negative m e

/-- The number nearest to a natural number times a power of two. -/
def scaled (negative : Bool) (m : Nat) (e : Int) : Binary64 :=
  if 0 ≤ e then round negative (m * Nat.pow 2 e.toNat) 1 else round negative m (Nat.pow 2 (-e).toNat)

/-- The number nearest to a natural number. -/
def ofNat (n : Nat) : Binary64 := round false n 1

/-- The number nearest to a decimal, whose digits stand before a power of ten. -/
def ofDecimal (negative : Bool) (digits : Nat) (exponent : Int) : Binary64 :=
  let magnitude := ((Nat.toDigits 10 digits).length : Int) + exponent
  -- Far outside the range the answer is known without the power of ten.
  if digits = 0 ∨ magnitude < -330 then .finite negative 0 0
  else if 310 < magnitude then .infinity negative
  else if 0 ≤ exponent then round negative (digits * Nat.pow 10 exponent.toNat) 1
  else round negative digits (Nat.pow 10 (-exponent).toNat)

/-- Zero. -/
def zero : Binary64 := .finite false 0 0

/-- One. -/
def one : Binary64 := .finite false (Nat.pow 2 52) (-52)

/-- Whether the number is neither infinite nor undefined. -/
def isFinite : Binary64 → Bool
  | .finite .. => true
  | _ => false

/-- A finite number as a whole multiple of a power of two not above its own. -/
def units (negative : Bool) (m : Nat) (e low : Int) : Int :=
  let n : Int := m * Nat.pow 2 (e - low).toNat
  if negative then -n else n

/-- The sum of two numbers. -/
def add : Binary64 → Binary64 → Binary64
  | .nan, _ | _, .nan => .nan
  | .infinity s, .infinity t => if s = t then .infinity s else .nan
  | .infinity s, _ | _, .infinity s => .infinity s
  | .finite s m e, .finite t n f =>
    let low := min e f
    let sum := units s m e low + units t n f low
    -- A sum of zero is negative only if both zeros are.
    let negative := if sum = 0 then s && t else sum < 0
    scaled negative sum.natAbs low

/-- The product of two numbers. -/
def mul : Binary64 → Binary64 → Binary64
  | .nan, _ | _, .nan => .nan
  | .infinity s, .infinity t => .infinity (s != t)
  | .infinity s, .finite t n _ | .finite t n _, .infinity s =>
    if n = 0 then .nan else .infinity (s != t)
  | .finite s m e, .finite t n f => scaled (s != t) (m * n) (e + f)

/-- A product with the power of a number, which is squared as long as exponent bits are left. -/
def powFrom (product base : Binary64) (n : Nat) : Binary64 :=
  let product := if n % 2 = 1 then product.mul base else product
  if n < 2 then product else powFrom product (base.mul base) (n / 2)
termination_by n
decreasing_by omega

/-- A power of a number, rounded after every multiplication. -/
def pow (base : Binary64) (n : Nat) : Binary64 := powFrom one base n

/-- How two numbers compare, unless one is undefined. -/
def compare? : Binary64 → Binary64 → Option Ordering
  | .nan, _ | _, .nan => none
  | .infinity s, .infinity t => some (compare t s)
  | .infinity s, .finite .. => some (if s then .lt else .gt)
  | .finite .., .infinity s => some (if s then .gt else .lt)
  | .finite s m e, .finite t n f =>
    let low := min e f
    some (compare (units s m e low) (units t n f low))

/-- Whether a number is below another. -/
def lt (a b : Binary64) : Bool := a.compare? b == some .lt

/-- Whether a number is another or above it. -/
def ge (a b : Binary64) : Bool := a.compare? b == some .gt || a.compare? b == some .eq

/-- The greater of two numbers, where an undefined one does not count. -/
def maximum (a b : Binary64) : Binary64 :=
  match a.compare? b with
  | some .lt => b
  | some _ => a
  | none => if a = .nan then b else a

end Binary64

end ImageBuild

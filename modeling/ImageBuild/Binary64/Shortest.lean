import ImageBuild.Binary64

/-! The fewest decimal digits that read back as a number, and the texts made of them. -/

namespace ImageBuild.Binary64

/-- Decimal digits before a power of ten. -/
structure Decimal where
  digits : Nat
  exponent : Int

/-- A positive number with the bounds of what is rounded to it, as numerators over one denominator. -/
structure Neighbourhood where
  low : Nat
  value : Nat
  high : Nat
  den : Nat
  closed : Bool

/-- The surroundings of a positive number; they belong to it when its last bit is zero. -/
def neighbourhood (m : Nat) (e : Int) : Neighbourhood :=
  -- Below a power of two the numbers lie twice as close.
  let below := if m = Nat.pow 2 52 ∧ minExponent < e then 1 else 2
  let (unit, den) := if 0 ≤ e then (Nat.pow 2 e.toNat, 4) else (1, 4 * Nat.pow 2 (-e).toNat)
  { low := (4 * m - below) * unit
    value := 4 * m * unit
    high := (4 * m + 2) * unit
    den := den
    closed := m % 2 = 0 }

/-- Whether a fraction is rounded to the number. -/
def Neighbourhood.holds (h : Neighbourhood) (num den : Nat) : Bool :=
  let n := num * h.den
  if h.closed then h.low * den ≤ n && n ≤ h.high * den else h.low * den < n && n < h.high * den

/-- A multiple of a power of ten as a fraction. -/
def Decimal.fraction (d : Decimal) : Nat × Nat :=
  if 0 ≤ d.exponent then (d.digits * Nat.pow 10 d.exponent.toNat, 1)
  else (d.digits, Nat.pow 10 (-d.exponent).toNat)

/-- Of the two multiples of a power of ten around the number the nearest that reads back as it. -/
def Neighbourhood.onGrid? (h : Neighbourhood) (exponent : Int) : Option Decimal :=
  let (num, den) :=
    if 0 ≤ exponent then (h.value, h.den * Nat.pow 10 exponent.toNat)
    else (h.value * Nat.pow 10 (-exponent).toNat, h.den)
  let reads (digits : Nat) : Bool :=
    let (n, k) := Decimal.fraction ⟨digits, exponent⟩
    h.holds n k
  let q := num / den
  -- Of the neighbours on the grid the nearer one is preferred if both read back.
  let best := nearest num den
  let other := if best = q then q + 1 else q
  if reads best then some ⟨best, exponent⟩
  else if reads other then some ⟨other, exponent⟩
  else none

/-- The first grid with a hit, beginning with one digit. -/
def Neighbourhood.search (h : Neighbourhood) (magnitude : Int) : Nat → Decimal
  | 0 => ⟨0, 0⟩
  | left + 1 =>
    let exponent := magnitude - (17 - left : Nat)
    match h.onGrid? exponent with
    | some d => d
    | none => h.search magnitude left

/-- A decimal without the zeros at the end of its digits. -/
def Decimal.strip (fuel : Nat) (d : Decimal) : Decimal :=
  match fuel with
  | 0 => d
  | fuel + 1 =>
    if d.digits % 10 = 0 ∧ d.digits ≠ 0 then Decimal.strip fuel ⟨d.digits / 10, d.exponent + 1⟩
    else d

/-- The fewest digits that read back as a number, and of those the nearest. -/
def shortest (m : Nat) (e : Int) : Decimal :=
  if m = 0 then ⟨0, 0⟩
  else
    let h := neighbourhood m e
    -- Every number is above 10 ^ -324, so the quotient has digits enough to be counted.
    let magnitude : Int := (Nat.toDigits 10 (h.value * Nat.pow 10 400 / h.den)).length - 400
    (h.search magnitude 17).strip 20

/-- The digits of a decimal with a point after some of them, and zeros where digits are missing. -/
def positional (digits : List Char) (point : Int) : List Char × List Char :=
  if point ≤ 0 then (['0'], List.replicate (-point).toNat '0' ++ digits)
  else
    let whole := digits.take point.toNat
    (whole ++ List.replicate (point.toNat - whole.length) '0', digits.drop point.toNat)

/-- The text of a finite number: positional from 0.00001 up to 10 ^ 16, else with an exponent. -/
def finiteText (negative : Bool) (m : Nat) (e : Int) : String :=
  let sign := if negative then "-" else ""
  let d := shortest m e
  let digits := Nat.toDigits 10 d.digits
  let point := (digits.length : Int) + d.exponent
  if m = 0 then sign ++ "0.0"
  else if -5 < point ∧ point ≤ 16 then
    let (whole, part) := positional digits point
    sign ++ String.ofList (whole ++ '.' :: (if part.isEmpty then ['0'] else part))
  else
    let head := digits.take 1
    let tail := digits.drop 1
    let tail := if tail.isEmpty then [] else '.' :: tail
    sign ++ String.ofList (head ++ tail) ++ "e" ++ toString (point - 1)

/-- The text of a number without any exponent, and without a point where it is whole. -/
def plainText : Binary64 → String
  | .nan => "NaN"
  | .infinity negative => if negative then "-inf" else "inf"
  | .finite negative m e =>
    let sign := if negative then "-" else ""
    let d := shortest m e
    let digits := Nat.toDigits 10 d.digits
    let (whole, part) := positional digits ((digits.length : Int) + d.exponent)
    sign ++ String.ofList (if part.isEmpty then whole else whole ++ '.' :: part)

end ImageBuild.Binary64

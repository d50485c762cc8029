import ImageBuild.Binary64
import ImageBuild.Json.Reader
import ImageBuild.Text.Digits

/-! What plain scalars denote: null, truth values, integers, numbers with a point, or else their text. -/

namespace ImageBuild.Yaml

/-- Whether a text stands for nothing. -/
def isNull (s : String) : Bool := ["null", "Null", "NULL", "~"].contains s

/-- The truth value of a text. -/
def truth? (s : String) : Option Bool :=
  if ["true", "True", "TRUE"].contains s then some true
  else if ["false", "False", "FALSE"].contains s then some false
  else none

/-- The value of a letter or digit as a digit of a base. -/
def digitIn? (base : Nat) (c : Char) : Option Nat :=
  (Json.Reader.hexValue? c).filter (· < base)

/-- The number of digits of a base, of which there is at least one. -/
def natural? (base : Nat) (digits : List Char) : Option Nat :=
  if digits.isEmpty then none
  else digits.foldlM (fun n c => (digitIn? base c).map (n * base + ·)) 0

/-- Whether a text has digits only but begins with a needless zero, after a sign at most. -/
def isZeroPadded (cs : List Char) : Bool :=
  let cs := match cs with
    | '-' :: rest | '+' :: rest => rest
    | _ => cs
  match cs with
  | '0' :: c :: rest => (c :: rest).all Char.isDigit
  | _ => false

/-- The base that a text names by its first two characters, and the digits after them. -/
def based? : List Char → Option (Nat × List Char)
  | '0' :: 'x' :: rest => some (16, rest)
  | '0' :: 'o' :: rest => some (8, rest)
  | '0' :: 'b' :: rest => some (2, rest)
  | _ => none

/-- The natural number of a text, with a plus sign at most. -/
def unsigned? (cs : List Char) : Option Nat :=
  let unsigned := match cs with
    | '+' :: rest => rest
    | _ => cs
  match (based? unsigned).bind (fun b => natural? b.1 b.2) with
  | some n => some n
  | none => if isZeroPadded cs then none else natural? 10 unsigned

/-- The absolute value of the negative number of a text. -/
def negative? : List Char → Option Nat
  | '-' :: rest =>
    match (based? rest).bind (fun b => natural? b.1 b.2) with
    | some n => some n
    | none => if isZeroPadded rest then none else natural? 10 rest
  | _ => none

/-- A natural number of 64 bits. -/
def uint64? (s : String) : Option Nat := (unsigned? s.toList).filter (· < Nat.pow 2 64)

/-- The digits before and after a point and the power of ten of a decimal number. -/
def decimal? (cs : List Char) : Option (Nat × Int) := do
  let whole := cs.takeWhile Char.isDigit
  let cs := cs.drop whole.length
  let (part, cs) := match cs with
    | '.' :: rest => (rest.takeWhile Char.isDigit, rest.dropWhile Char.isDigit)
    | _ => ([], cs)
  -- A point alone is no number, but digits may be missing on one side of it.
  if whole.isEmpty ∧ part.isEmpty then none
  else
    let (power, cs) ← Json.Reader.power? cs
    if cs.isEmpty then
      some (Text.digitsValue (whole ++ part), power.getD 0 - (part.length : Int))
    else none

/-- The finite number of a text with a minus sign at most. -/
def finite? (cs : List Char) : Option Binary64 := do
  let (negative, digits) := match cs with
    | '-' :: rest => (true, rest)
    | _ => (false, cs)
  let (n, power) ← decimal? digits
  let x := Binary64.ofDecimal negative n power
  -- A number that is too large to be finite is a text.
  if x.isFinite then some x else none

/-- The floating-point number of a text. -/
def float? (s : String) : Option Binary64 :=
  let cs := s.toList
  let unsigned := match cs with
    | '+' :: rest => rest
    | _ => cs
  if cs.head? = some '+' ∧ (unsigned.head? = some '+' ∨ unsigned.head? = some '-') then none
  else if [".inf", ".Inf", ".INF"].contains (String.ofList unsigned) then some (.infinity false)
  else if ["-.inf", "-.Inf", "-.INF"].contains s then some (.infinity true)
  else if [".nan", ".NaN", ".NAN"].contains s then some .nan
  else finite? unsigned

/-- The kinds of values of plain scalars; a wide integer needs more than 64 bits, but no more than 128. -/
inductive Kind
  | null
  | bool
  | int
  | wideInt
  | float
  | text
  deriving DecidableEq

/-- The kind of an integer, if a text is one. -/
def intKind? (s : String) : Option Kind :=
  match unsigned? s.toList, negative? s.toList with
  | some n, _ => if n < Nat.pow 2 64 then some .int else if n < Nat.pow 2 128 then some .wideInt else none
  | none, some n => if n ≤ Nat.pow 2 63 then some .int else if n ≤ Nat.pow 2 127 then some .wideInt else none
  | none, none => none

/-- The kind of a plain scalar. -/
def kind (s : String) : Kind :=
  if s.isEmpty || isNull s then .null
  else if (truth? s).isSome then .bool
  else match intKind? s with
    | some k => k
    | none => if !isZeroPadded s.toList && (float? s).isSome then .float else .text

end ImageBuild.Yaml

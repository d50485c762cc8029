import ImageBuild.Binary64

/-! The values of JSON documents. -/

namespace ImageBuild

/-- A number as it is written: digits before a power of ten, and whether they form an integer. -/
structure Json.Number where
  negative : Bool
  digits : Nat
  exponent : Int
  integral : Bool
  deriving DecidableEq, Inhabited

/-- A value of a document. An object keeps its members in order, also those of one name.
A value that is well written but denotes none (a number out of range, half of a character) is unreadable. -/
inductive Json
  | null
  | bool (b : Bool)
  | number (n : Json.Number)
  | string (s : String)
  | array (items : List Json)
  | object (members : List (String × Json))
  | unreadable
  deriving Inhabited

namespace Json

namespace Number

/-- A natural number. -/
def ofNat (n : Nat) : Number := ⟨false, n, 0, true⟩

/-- An integer. -/
def ofInt (n : Int) : Number := ⟨n < 0, n.natAbs, 0, true⟩

/-- The integer of 64 bits, with or without sign, that is written; a negative zero is none. -/
def toInt? (n : Number) : Option Int :=
  if ¬n.integral then none
  else if n.negative then
    -- A negative zero keeps its sign only as a floating-point number.
    if n.digits = 0 ∨ Nat.pow 2 63 < n.digits then none else some (-n.digits)
  else if n.digits < Nat.pow 2 64 then some n.digits
  else none

/-- The floating-point number nearest to the written one. -/
def toBinary64 (n : Number) : Binary64 := Binary64.ofDecimal n.negative n.digits n.exponent

/-- Whether the number is one of the values that a number can have. -/
def inRange (n : Number) : Bool := n.toInt?.isSome || n.toBinary64.isFinite

end Number

/-- A natural number. -/
def ofNat (n : Nat) : Json := .number (.ofNat n)

/-- An integer. -/
def ofInt (n : Int) : Json := .number (.ofInt n)

/-- A list of texts. -/
def ofStrings (texts : List String) : Json := .array (texts.map .string)

mutual

/-- Whether a value can be read as a whole, with no more than some values around each other. -/
def fits (depth : Nat) : Json → Bool
  | .unreadable => false
  | .array items => 0 < depth && allFit (depth - 1) items
  | .object members => 0 < depth && membersFit (depth - 1) members
  | _ => true

/-- Whether all items can be read within a depth. -/
def allFit (depth : Nat) : List Json → Bool
  | [] => true
  | item :: rest => fits depth item && allFit depth rest

/-- Whether all members can be read within a depth. -/
def membersFit (depth : Nat) : List (String × Json) → Bool
  | [] => true
  | (_, value) :: rest => fits depth value && membersFit depth rest

end

end Json

end ImageBuild

/-! Texts as bytes, and bytes as texts. -/

namespace ImageBuild

/-- The contents of a file or of a value of any kind. -/
abbrev Bytes := List UInt8

namespace Text

/-- The UTF-8 bytes of a text. -/
def toBytes (s : String) : Bytes := s.toByteArray.data.toList

/-- The text that the bytes encode, if they are UTF-8. -/
def ofBytes? (bytes : Bytes) : Option String := String.fromUTF8? ⟨bytes.toArray⟩

/-- A character that has begun: the bytes still to come, the bounds of the next one, the value so far. -/
structure Begun where
  missing : Nat
  low : Nat
  high : Nat
  value : Nat

/-- The character that a byte begins, if it is the first of several. -/
def Begun.ofLead? (b : Nat) : Option Begun :=
  if 0xC2 ≤ b ∧ b ≤ 0xDF then some ⟨1, 0x80, 0xBF, b - 0xC0⟩
  -- The bounds of the second byte shut out forms that are too long, surrogates and numbers beyond
  -- the last code point.
  else if b = 0xE0 then some ⟨2, 0xA0, 0xBF, 0⟩
  else if b = 0xED then some ⟨2, 0x80, 0x9F, 0xD⟩
  else if 0xE1 ≤ b ∧ b ≤ 0xEF then some ⟨2, 0x80, 0xBF, b - 0xE0⟩
  else if b = 0xF0 then some ⟨3, 0x90, 0xBF, 0⟩
  else if 0xF1 ≤ b ∧ b ≤ 0xF3 then some ⟨3, 0x80, 0xBF, b - 0xF0⟩
  else if b = 0xF4 then some ⟨3, 0x80, 0x8F, 4⟩
  else none

/-- The mark that stands for bytes which encode nothing. -/
def replacement : Char := Char.ofNat 0xFFFD

/-- A byte outside any begun character: what it shows, and the character it begins. -/
def readLead (b : Nat) : List Char × Option Begun :=
  if b < 0x80 then ([Char.ofNat b], none)
  else match Begun.ofLead? b with
    | some begun => ([], some begun)
    | none => ([replacement], none)

/-- One byte after a possibly begun character: what it shows, and the character begun after it. -/
def readByte (begun : Option Begun) (b : Nat) : List Char × Option Begun :=
  match begun with
  | none => readLead b
  | some g =>
    if g.low ≤ b ∧ b ≤ g.high then
      let value := g.value * 64 + (b - 0x80)
      if g.missing ≤ 1 then ([Char.ofNat value], none)
      else ([], some ⟨g.missing - 1, 0x80, 0xBF, value⟩)
    else
      -- A byte that cannot go on with the character may begin another one.
      let (shown, next) := readLead b
      (replacement :: shown, next)

/-- The characters that bytes show after a possibly begun one. -/
def shownFrom (begun : Option Begun) : Bytes → List Char
  | [] => if begun.isSome then [replacement] else []
  | b :: rest =>
    let (shown, next) := readByte begun b.toNat
    shown ++ shownFrom next rest

/-- The text that bytes show, with a mark for each longest part that encodes no character. -/
def shownBytes (bytes : Bytes) : String := String.ofList (shownFrom none bytes)

end Text

end ImageBuild

import ImageBuild.Json.Basic
import ImageBuild.Text.Digits

/-! Reading JSON text. Half of a character or a number out of range makes a value unreadable, and
everything else that the grammar does not allow makes the text wrong. -/

namespace ImageBuild.Json

namespace Reader

open Text (digitValue digitsValue)

/-- Whether a character may stand between the parts of a value; other blanks may not. -/
def isGap (c : Char) : Bool := c = ' ' || c = '\n' || c = '\t' || c = '\r'

/-- The text from the next part of a value on. -/
def skipGap (cs : List Char) : List Char := cs.dropWhile isGap

/-- The value of a hexadecimal digit. -/
def hexValue? (c : Char) : Option Nat :=
  if c.isDigit then some (digitValue c)
  else if 'a' ≤ c ∧ c ≤ 'f' then some (c.toNat - 87)
  else if 'A' ≤ c ∧ c ≤ 'F' then some (c.toNat - 55)
  else none

/-- A part of a string: a character, or a 16-bit unit that was written with its number. -/
inductive Piece
  | char (c : Char)
  | unit (n : Nat)
  deriving DecidableEq

/-- The character of an escape that is one letter. -/
def shortEscape? : Char → Option Char
  | '"' => some '"'
  | '\\' => some '\\'
  | '/' => some '/'
  | 'b' => some '\x08'
  | 'f' => some '\x0c'
  | 'n' => some '\n'
  | 'r' => some '\r'
  | 't' => some '\t'
  | _ => none

/-- The pieces of a string up to its closing quote, and what follows it. -/
def pieces? : List Char → Option (List Piece × List Char)
  | [] => none
  | '"' :: rest => some ([], rest)
  | '\\' :: 'u' :: a :: b :: c :: d :: rest => do
    let n := ((← hexValue? a) * 16 + (← hexValue? b)) * 256 + (← hexValue? c) * 16 + (← hexValue? d)
    let (pieces, rest) ← pieces? rest
    some (.unit n :: pieces, rest)
  | '\\' :: e :: rest => do
    let c ← shortEscape? e
    let (pieces, rest) ← pieces? rest
    some (.char c :: pieces, rest)
  | c :: rest =>
    if c.toNat < 0x20 ∨ c = '\\' then none
    else do
      let (pieces, rest) ← pieces? rest
      some (.char c :: pieces, rest)

/-- The characters of the pieces of a string; two units of a pair make one, and half a pair none. -/
def characters? : List Piece → Option (List Char)
  | [] => some []
  | .char c :: rest => (characters? rest).map (c :: ·)
  | .unit high :: .unit low :: rest =>
    -- The high half of a pair needs a low half right after it.
    if 0xD800 ≤ high ∧ high < 0xDC00 then
      if 0xDC00 ≤ low ∧ low < 0xE000 then
        let c := Char.ofNat (0x10000 + (high - 0xD800) * 0x400 + (low - 0xDC00))
        (characters? rest).map (c :: ·)
      else none
    else if 0xDC00 ≤ high ∧ high < 0xE000 then none
    else (characters? (.unit low :: rest)).map (Char.ofNat high :: ·)
  | .unit n :: rest =>
    if 0xD800 ≤ n ∧ n < 0xE000 then none else (characters? rest).map (Char.ofNat n :: ·)

/-- The digits of an integer without needless zeros, and what follows them. -/
def wholeDigits? (cs : List Char) : Option (List Char × List Char) :=
  let digits := cs.takeWhile Char.isDigit
  match digits with
  | [] => none
  -- A zero before other digits is not allowed.
  | '0' :: _ :: _ => none
  | _ => some (digits, cs.drop digits.length)

/-- The digits after the point, if there is one. -/
def partDigits? (cs : List Char) : Option (Option (List Char) × List Char) :=
  match cs with
  | '.' :: rest =>
    let digits := rest.takeWhile Char.isDigit
    if digits.isEmpty then none else some (some digits, rest.drop digits.length)
  | _ => some (none, cs)

/-- The power of ten after the digits, if there is one. -/
def power? (cs : List Char) : Option (Option Int × List Char) :=
  match cs with
  | e :: rest =>
    if e ≠ 'e' ∧ e ≠ 'E' then some (none, cs)
    else
      let (negative, rest) := match rest with
        | '-' :: rest => (true, rest)
        | '+' :: rest => (false, rest)
        | _ => (false, rest)
      let digits := rest.takeWhile Char.isDigit
      let n : Int := digitsValue digits
      if digits.isEmpty then none
      else some (some (if negative then -n else n), rest.drop digits.length)
  | [] => some (none, cs)

/-- A number at the start of a text, and what follows it. -/
def number? (cs : List Char) : Option (Number × List Char) := do
  let (negative, cs) := match cs with
    | '-' :: rest => (true, rest)
    | _ => (false, cs)
  let (whole, cs) ← wholeDigits? cs
  let (part, cs) ← partDigits? cs
  let (power, cs) ← power? cs
  let digits := whole ++ part.getD []
  let exponent := power.getD 0 - ((part.getD []).length : Int)
  some (⟨negative, digitsValue digits, exponent, part.isNone && power.isNone⟩, cs)

/-- What follows a given text at the start of another. -/
def after? : List Char → List Char → Option (List Char)
  | [], cs => some cs
  | c :: word, d :: cs => if c = d then after? word cs else none
  | _ :: _, [] => none

mutual

/-- A value at the start of a text, and what follows it. The fuel bounds the characters read. -/
def value? : Nat → List Char → Option (Json × List Char)
  | 0, _ => none
  | fuel + 1, cs =>
    match skipGap cs with
    | [] => none
    | 'n' :: rest => (after? "ull".toList rest).map (.null, ·)
    | 't' :: rest => (after? "rue".toList rest).map (.bool true, ·)
    | 'f' :: rest => (after? "alse".toList rest).map (.bool false, ·)
    | '"' :: rest => do
      let (pieces, rest) ← pieces? rest
      match characters? pieces with
      | some text => some (.string (String.ofList text), rest)
      | none => some (.unreadable, rest)
    | '[' :: rest =>
      match skipGap rest with
      | ']' :: rest => some (.array [], rest)
      | rest => (items? fuel rest).map (fun r => (.array r.1, r.2))
    | '\x7b' :: rest =>
      match skipGap rest with
      | '\x7d' :: rest => some (.object [], rest)
      | rest => do
        let (members, rest) ← members? fuel rest
        -- An unreadable name spoils the object, but not the text around it.
        match members.mapM (fun m => m.1.map (·, m.2)) with
        | some members => some (.object members, rest)
        | none => some (.unreadable, rest)
    | c :: rest => do
      let (n, rest) ← number? (c :: rest)
      -- A number beyond all bounds is well written, and yet denotes nothing.
      some (if n.inRange then .number n else .unreadable, rest)

/-- The items of an array up to its end. -/
def items? : Nat → List Char → Option (List Json × List Char)
  | 0, _ => none
  | fuel + 1, cs => do
    let (item, rest) ← value? fuel cs
    match skipGap rest with
    | ',' :: rest => (items? fuel rest).map (fun r => (item :: r.1, r.2))
    | ']' :: rest => some ([item], rest)
    | _ => none

/-- The members of an object up to its end; a name may be unreadable. -/
def members? : Nat → List Char → Option (List (Option String × Json) × List Char)
  | 0, _ => none
  | fuel + 1, cs =>
    match skipGap cs with
    | '"' :: rest => do
      let (pieces, rest) ← pieces? rest
      let name := (characters? pieces).map String.ofList
      match skipGap rest with
      | ':' :: rest =>
        let (value, rest) ← value? fuel rest
        match skipGap rest with
        | ',' :: rest => (members? fuel rest).map (fun r => ((name, value) :: r.1, r.2))
        | '\x7d' :: rest => some ([(name, value)], rest)
        | _ => none
      | _ => none
    | _ => none

end

end Reader

/-- The value that a text denotes. -/
def read? (text : String) : Option Json := do
  let cs := text.toList
  let (value, rest) ← Reader.value? (2 * cs.length + 2) cs
  if (Reader.skipGap rest).isEmpty then some value else none

end ImageBuild.Json

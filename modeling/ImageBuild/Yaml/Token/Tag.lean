import ImageBuild.Text.Digits
import ImageBuild.Text.Utf8
import ImageBuild.Yaml.Token.Basic

/-! Tags, anchors and directives in a YAML text. -/

namespace ImageBuild.Yaml

open Json.Reader (hexValue?)

/-- Whether a character may stand in a tag; some only in a tag between angle brackets. -/
def isTagChar (bracketed : Bool) (c : Char) : Bool :=
  isNameChar c || ";/?:@&=+$.%!~*'()".toList.contains c || (bracketed && ",[]".toList.contains c)

/-- The bytes of the escapes at the start of a text, no more than some. -/
def escapedBytes? : Nat → List Char → Option (List UInt8)
  | 0, _ => some []
  | n + 1, '%' :: a :: b :: rest => do
    let byte := (← hexValue? a) * 16 + (← hexValue? b)
    let more ← escapedBytes? n rest
    some (byte.toUInt8 :: more)
  | _, _ => none

/-- The bytes of the character that a byte begins. -/
def encodedWidth (b : UInt8) : Nat :=
  if b < 0x80 then 1
  else if b &&& 0xE0 = 0xC0 then 2
  else if b &&& 0xF0 = 0xE0 then 3
  else if b &&& 0xF8 = 0xF0 then 4
  else 0

/-- The character of the escapes at the start of a text, and the number of characters they take. -/
def tagEscape? (cs : List Char) : Option (List Char × Nat) := do
  let first ← escapedBytes? 1 cs
  let width := encodedWidth (first.headD 0)
  let bytes ← escapedBytes? width cs
  let text ← Text.ofBytes? bytes
  if width = 0 then none else some (text.toList, 3 * width)

/-- The rest of a tag, and the place after it. -/
def tagRest? (bracketed : Bool) : Nat → Cursor → Option (List Char × Cursor)
  | 0, c => some ([], c)
  | fuel + 1, c =>
    match c.rest with
    | '%' :: _ => do
      let (text, taken) ← tagEscape? c.rest
      let (more, last) ← tagRest? bracketed fuel (c.skip taken)
      some (text ++ more, last)
    | d :: _ =>
      if isTagChar bracketed d then
        (tagRest? bracketed fuel (c.skip 1)).map (fun r => (d :: r.1, r.2))
      else some ([], c)
    | [] => some ([], c)

/-- The rest of a tag that may not be empty. -/
def someTagRest? (bracketed : Bool) (c : Cursor) : Option (List Char × Cursor) :=
  match tagRest? bracketed c.rest.length c with
  | some ([], _) => none
  | r => r

/-- The handle at the start of a tag: an exclamation mark, or a name between two of them, or what
stands before a missing second one. -/
def tagHandle? (c : Cursor) : Option (List Char × Cursor) :=
  match c.rest with
  | '!' :: _ =>
    let (name, after) := (c.skip 1).takeWhile isNameChar
    if after.rest.head? = some '!' then some ('!' :: name ++ ['!'], after.skip 1)
    else some ('!' :: name, after)
  | _ => none

/-- Whether a handle has a mark at both of its ends. -/
def isNamedHandle (handle : List Char) : Bool := 2 ≤ handle.length && handle.getLast? = some '!'

/-- A tag: its handle, the rest of it, and the place after it. -/
def tag? (inFlow : Bool) (c : Cursor) : Option (Token × Cursor) := do
  let (handle, rest, after) ←
    match c.rest with
    -- Between angle brackets the tag is given in full.
    | '!' :: '<' :: _ => do
      let (rest, after) ← someTagRest? true (c.skip 2)
      if after.rest.head? = some '>' then some ([], rest, after.skip 1) else none
    | _ => do
      let (handle, after) ← tagHandle? c
      if isNamedHandle handle then
        let (rest, after) ← someTagRest? false after
        some (handle, rest, after)
      else
        let (rest, after) ← tagRest? false after.rest.length after
        -- What looked like a handle without its second mark is the start of the tag.
        let rest := handle.drop 1 ++ rest
        some (if rest.isEmpty then ([], ['!'], after) else (['!'], rest, after))
  -- A tag is set apart from what it belongs to.
  if atGap after.rest ∨ (inFlow ∧ after.rest.head? = some ',') then
    some (.tag (String.ofList handle) (String.ofList rest), after)
  else none

/-- The name of an anchor or alias after its mark, and the place after it. -/
def anchorName? (c : Cursor) : Option (String × Cursor) :=
  let (name, after) := (c.skip 1).takeWhile isNameChar
  let ended := atGap after.rest || match after.rest with
    | d :: _ => "?:,]\x7d%@`".toList.contains d
    | [] => true
  if name.isEmpty ∨ ¬ended then none else some (String.ofList name, after)

/-- A number of a version, of at most nine digits. -/
def versionNumber? (c : Cursor) : Option (Nat × Cursor) :=
  let (digits, after) := c.takeWhile Char.isDigit
  if digits.isEmpty ∨ 9 < digits.length then none
  else some (Text.digitsValue digits, after)

/-- The value of a directive with a version. -/
def versionDirective? (c : Cursor) : Option (Token × Cursor) := do
  let (major, c) ← versionNumber? (c.skipWhile isSpace)
  if c.rest.head? ≠ some '.' then none
  else
    let (minor, c) ← versionNumber? (c.skip 1)
    some (.versionDirective major minor, c)

/-- The value of a directive with a handle of tags. -/
def tagDirective? (c : Cursor) : Option (Token × Cursor) := do
  let (handle, c) ← tagHandle? (c.skipWhile isSpace)
  if ¬(handle = ['!'] ∨ isNamedHandle handle) ∨ ¬c.rest.head?.any isSpace then none
  else
    let (stem, c) ← someTagRest? true (c.skipWhile isSpace)
    if atGap c.rest then some (.tagDirective (String.ofList handle) (String.ofList stem), c) else none

/-- A directive, which takes a whole line. -/
def directive? (c : Cursor) : Option (Token × Cursor) := do
  let (name, after) := (c.skip 1).takeWhile isNameChar
  if name.isEmpty ∨ ¬atGap after.rest then none
  else
    let (token, after) ←
      if name = "YAML".toList then versionDirective? after
      else if name = "TAG".toList then tagDirective? after
      else none
    let after := after.skipWhile isSpace
    let after :=
      if after.rest.head? = some '#' then after.skipWhile (fun d => !isBreak d) else after
    -- Nothing else may stand on the line.
    if atLineEnd after.rest then some (token, after.takeBreak.2) else none

end ImageBuild.Yaml

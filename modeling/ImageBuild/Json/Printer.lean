import ImageBuild.Json.Basic
import ImageBuild.Binary64.Shortest

/-! JSON text: on one line, or with one member or item a line. -/

namespace ImageBuild.Json

/-- A digit of a control character's number. -/
def hexDigit (n : Nat) : Char := (Nat.toDigits 16 n).headD '0'

/-- A character as it stands in a string. -/
def escape (c : Char) : List Char :=
  match c with
  | '"' => ['\\', '"']
  | '\\' => ['\\', '\\']
  | '\x08' => ['\\', 'b']
  | '\x0c' => ['\\', 'f']
  | '\n' => ['\\', 'n']
  | '\r' => ['\\', 'r']
  | '\t' => ['\\', 't']
  | c =>
    -- Other control characters have no letter, so they are written by number.
    if c.toNat < 0x20 then
      ['\\', 'u', '0', '0', hexDigit (c.toNat / 16), hexDigit (c.toNat % 16)]
    else [c]

/-- A string with its quotes. -/
def quote (s : String) : List Char := '"' :: s.toList.flatMap escape ++ ['"']

/-- The text of a number: an integer as it is, any other in the shortest form that reads back. -/
def Number.text (n : Number) : String :=
  if n.integral then (if n.negative then "-" else "") ++ toString n.digits
  else match n.toBinary64 with
    | .finite negative m e => Binary64.finiteText negative m e
    | _ => "null"

mutual

/-- A value on one line. -/
def compactChars : Json → List Char
  | .null | .unreadable => "null".toList
  | .bool b => (if b then "true" else "false").toList
  | .number n => n.text.toList
  | .string s => quote s
  | .array items => '[' :: compactItems items
  | .object members => '\x7b' :: compactMembers members

/-- The items of an array on one line, with its end. -/
def compactItems : List Json → List Char
  | [] => [']']
  | [item] => compactChars item ++ [']']
  | item :: next :: rest => compactChars item ++ ',' :: compactItems (next :: rest)

/-- The members of an object on one line, with its end. -/
def compactMembers : List (String × Json) → List Char
  | [] => ['\x7d']
  | [(name, value)] => quote name ++ ':' :: compactChars value ++ ['\x7d']
  | (name, value) :: next :: rest =>
    quote name ++ ':' :: compactChars value ++ ',' :: compactMembers (next :: rest)

end

/-- The start of a line, two blanks deeper for every value around it. -/
def newline (depth : Nat) : List Char := '\n' :: List.replicate (2 * depth) ' '

mutual

/-- A value with a line for each of its parts, inside some other values. -/
def prettyChars (depth : Nat) : Json → List Char
  | .null | .unreadable => "null".toList
  | .bool b => (if b then "true" else "false").toList
  | .number n => n.text.toList
  | .string s => quote s
  | .array [] => "[]".toList
  | .array (item :: rest) =>
    '[' :: newline (depth + 1) ++ prettyChars (depth + 1) item ++ prettyItems depth rest
  | .object [] => ['\x7b', '\x7d']
  | .object ((name, value) :: rest) =>
    '\x7b' :: newline (depth + 1) ++ quote name ++ ':' :: ' ' :: prettyChars (depth + 1) value
      ++ prettyMembers depth rest

/-- The items of an array after the first one, with its end. -/
def prettyItems (depth : Nat) : List Json → List Char
  | [] => newline depth ++ [']']
  | item :: rest =>
    ',' :: newline (depth + 1) ++ prettyChars (depth + 1) item ++ prettyItems depth rest

/-- The members of an object after the first one, with its end. -/
def prettyMembers (depth : Nat) : List (String × Json) → List Char
  | [] => newline depth ++ ['\x7d']
  | (name, value) :: rest =>
    ',' :: newline (depth + 1) ++ quote name ++ ':' :: ' ' :: prettyChars (depth + 1) value
      ++ prettyMembers depth rest

end

/-- The text of a value on one line. -/
def compact (j : Json) : String := String.ofList (compactChars j)

/-- The text of a value with a line for each of its parts. -/
def pretty (j : Json) : String := String.ofList (prettyChars 0 j)

end ImageBuild.Json

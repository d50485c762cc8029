import ImageBuild.Json.Reader

/-! A place in a YAML text: what follows it, and its column and line. -/

namespace ImageBuild.Yaml

/-- Whether a character ends a line. -/
def isBreak (c : Char) : Bool :=
  c = '\n' || c = '\r' || c = '\u0085' || c = '\u2028' || c = '\u2029'

/-- Whether a character is a blank within a line. -/
def isSpace (c : Char) : Bool := c = ' ' || c = '\t'

/-- Whether a text ends, or begins with a blank or with the end of a line. -/
def atGap : List Char → Bool
  | [] => true
  | c :: _ => isSpace c || isBreak c

/-- Whether a text ends or begins with the end of a line. -/
def atLineEnd : List Char → Bool
  | [] => true
  | c :: _ => isBreak c

/-- Whether a character may stand in a name. -/
def isNameChar (c : Char) : Bool := c.isAlpha || c.isDigit || c = '_' || c = '-'

/-- A place in a text. -/
structure Cursor where
  rest : List Char
  index : Nat
  line : Nat
  column : Nat

namespace Cursor

/-- The start of a text. -/
def start (text : List Char) : Cursor := ⟨text, 0, 0, 0⟩

/-- The place after some characters of the line. -/
def skip (c : Cursor) (n : Nat) : Cursor := ⟨c.rest.drop n, c.index + n, c.line, c.column + n⟩

/-- The place after the end of a line, and what stands for it in a scalar. -/
def takeBreak (c : Cursor) : List Char × Cursor :=
  match c.rest with
  -- A carriage return and the line feed after it end one line.
  | '\r' :: '\n' :: rest => (['\n'], ⟨rest, c.index + 2, c.line + 1, 0⟩)
  | b :: rest =>
    -- Separators of lines and paragraphs stay what they are, and every other end becomes a line feed.
    (if b = '\u2028' || b = '\u2029' then [b] else if isBreak b then ['\n'] else [],
      if isBreak b then ⟨rest, c.index + 1, c.line + 1, 0⟩ else c)
  | [] => ([], c)

/-- The characters that pass a test, and the place after them. -/
def takeWhile (c : Cursor) (test : Char → Bool) : List Char × Cursor :=
  let taken := c.rest.takeWhile test
  (taken, c.skip taken.length)

/-- The place after the characters that pass a test. -/
def skipWhile (c : Cursor) (test : Char → Bool) : Cursor := (c.takeWhile test).2

/-- Whether a mark that divides documents stands here. -/
def atDocumentMark (c : Cursor) : Bool :=
  c.column = 0 && match c.rest with
    | '-' :: '-' :: '-' :: rest | '.' :: '.' :: '.' :: rest => atGap rest
    | _ => false

end Cursor

end ImageBuild.Yaml

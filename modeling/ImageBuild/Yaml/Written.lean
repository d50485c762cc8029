import ImageBuild.Yaml.Scalar
import ImageBuild.Yaml.Cursor

/-! Texts as scalars of a block: plain where nothing else could be read from that, else in quotes, and
texts of several lines as lines. -/

namespace ImageBuild.Yaml.Written

/-- Whether a character is written as it is. -/
def isPrintable (c : Char) : Bool :=
  let n := c.toNat
  n = 10 || (0x20 ≤ n && n ≤ 0x7E) || (0xA0 ≤ n && n ≤ 0xFFFD && n ≠ 0xFEFF) || 0x10000 ≤ n

/-- What stands in the way of a form of a text. -/
structure Analysis where
  indicator : Bool
  special : Bool
  lineBreak : Bool
  leadingGap : Bool
  trailingSpace : Bool
  trailingBreak : Bool
  spaceBeforeBreak : Bool
  spaceAfterBreak : Bool

/-- Whether a text begins with a mark that a plain scalar may not begin with. -/
def startsWithMark : List Char → Bool
  | [] => false
  | c :: rest =>
    "#,[]\x7b\x7d&*!|>'\"%@`".toList.contains c || ("?:-".toList.contains c && atGap rest)

/-- Whether a mark stands inside a text that a plain scalar would end before. -/
def holdsMark : List Char → Bool
  | a :: b :: rest =>
    (b = ':' && atGap rest) || (b = '#' && atGap [a]) || holdsMark (b :: rest)
  | _ => false

/-- Whether a text begins like a mark between documents. -/
def startsLikeDocument : List Char → Bool
  | '-' :: '-' :: '-' :: _ | '.' :: '.' :: '.' :: _ => true
  | _ => false

/-- Whether two neighbours in a text pass a test. -/
def hasNeighbours (test : Char → Char → Bool) : List Char → Bool
  | a :: b :: rest => test a b || hasNeighbours test (b :: rest)
  | _ => false

/-- What stands in the way of the forms of a text. -/
def analysis (cs : List Char) : Analysis where
  indicator := startsWithMark cs || holdsMark cs || startsLikeDocument cs
  special := !cs.all isPrintable
  lineBreak := cs.any isBreak
  leadingGap := cs.head?.any (fun c => c = ' ' || isBreak c)
  trailingSpace := cs.getLast? = some ' '
  trailingBreak := cs.getLast?.any isBreak
  spaceBeforeBreak := hasNeighbours (fun a b => a = ' ' && isBreak b) cs
  spaceAfterBreak := hasNeighbours (fun a b => isBreak a && b = ' ') cs

namespace Analysis

/-- Whether a text can be plain. -/
def allowsPlain (a : Analysis) : Bool :=
  !(a.indicator || a.special || a.lineBreak || a.leadingGap || a.trailingSpace || a.trailingBreak
    || a.spaceBeforeBreak || a.spaceAfterBreak)

/-- Whether a text can stand in single quotes. -/
def allowsSingle (a : Analysis) : Bool := !(a.special || a.spaceBeforeBreak || a.spaceAfterBreak)

/-- Whether a text can be written as lines. -/
def allowsLines (a : Analysis) : Bool := !(a.special || a.spaceBeforeBreak || a.trailingSpace)

end Analysis

/-- The blanks before a line inside an entry. -/
def indentation : List Char := [' ', ' ']

/-- The characters of a text in lines, each behind the blanks of an entry; empty lines have none. -/
def lines (fresh : Bool) : List Char → List Char
  | [] => []
  | c :: rest =>
    if isBreak c then c :: lines true rest
    else (if fresh then indentation else []) ++ c :: lines false rest

/-- A text in single quotes. A quote is written twice, and an ordinary line end too. -/
def singleQuoted (cs : List Char) : List Char :=
  let rec go (inBreaks : Bool) : List Char → List Char
    | [] => if inBreaks then indentation else []
    | c :: rest =>
      -- The first line feed would be folded into a blank, so it is written twice.
      if isBreak c then (if !inBreaks && c = '\n' then ['\n', '\n'] else [c]) ++ go true rest
      else (if inBreaks then indentation else []) ++ (if c = '\'' then [c, c] else [c]) ++ go false rest
  '\'' :: go false cs ++ ['\'']

/-- A number in hexadecimal capitals of a width. -/
def hex (width n : Nat) : List Char :=
  let digits := (Nat.toDigits 16 n).map Char.toUpper
  List.replicate (width - digits.length) '0' ++ digits

/-- A character between double quotes. -/
def escape (c : Char) : List Char :=
  match c with
  | '\x00' => ['\\', '0']
  | '\x07' => ['\\', 'a']
  | '\x08' => ['\\', 'b']
  | '\t' => ['\\', 't']
  | '\n' => ['\\', 'n']
  | '\x0b' => ['\\', 'v']
  | '\x0c' => ['\\', 'f']
  | '\r' => ['\\', 'r']
  | '\x1b' => ['\\', 'e']
  | '"' => ['\\', '"']
  | '\\' => ['\\', '\\']
  | '\u0085' => ['\\', 'N']
  | '\u2028' => ['\\', 'L']
  | '\u2029' => ['\\', 'P']
  | c =>
    if isPrintable c then [c]
    else if c.toNat ≤ 0xFF then '\\' :: 'x' :: hex 2 c.toNat
    else if c.toNat ≤ 0xFFFF then '\\' :: 'u' :: hex 4 c.toNat
    else '\\' :: 'U' :: hex 8 c.toNat

/-- A text in double quotes. -/
def doubleQuoted (cs : List Char) : List Char := '"' :: cs.flatMap escape ++ ['"']

/-- The sign for the line ends at the end of a text in lines. -/
def chompMark (cs : List Char) : List Char :=
  match cs.reverse with
  | [b] => if isBreak b then ['+'] else ['-']
  | b :: a :: _ => if ¬isBreak b then ['-'] else if isBreak a then ['+'] else []
  | [] => ['-']

/-- A text in lines; where it begins with a gap the indentation is given. -/
def literal (cs : List Char) : List Char :=
  let hint := if (analysis cs).leadingGap then ['2'] else []
  '|' :: hint ++ chompMark cs ++ '\n' :: lines true cs

/-- A text of one line, which has to be quoted if something else would be read. -/
def oneLine (s : String) : List Char :=
  let cs := s.toList
  let a := analysis cs
  -- Without quotes a text has to be read back as a text.
  if kind s = .text ∧ ¬isZeroPadded cs ∧ a.allowsPlain then cs
  else if a.allowsSingle then singleQuoted cs
  else doubleQuoted cs

/-- A text as the value of an entry. -/
def text (s : String) : String :=
  let cs := s.toList
  String.ofList <|
    -- A text of several lines is easiest to read as lines.
    if cs.contains '\n' then (if (analysis cs).allowsLines then literal cs else doubleQuoted cs)
    else oneLine s

end ImageBuild.Yaml.Written

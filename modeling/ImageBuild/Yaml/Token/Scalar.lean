import ImageBuild.Text.Digits
import ImageBuild.Yaml.Token.Basic

/-! Scalars in a YAML text. Lines are folded: one line end between words is a blank, and of more
the first does not count. -/

namespace ImageBuild.Yaml.Scalar

/-- What stands between two words: blanks of one line, or line ends. -/
inductive Gap
  | blanks (text : List Char)
  | breaks (first rest : List Char)

/-- What a gap contributes to the text of a scalar. -/
def Gap.folded : Gap → List Char
  | blanks text => text
  | breaks first rest =>
    -- One line feed joins two words by a blank; of several the first is left out.
    if first = ['\n'] then (if rest.isEmpty then [' '] else rest) else first ++ rest

/-- Whether a gap goes beyond a line. -/
def Gap.isBroken : Gap → Bool
  | blanks _ => false
  | breaks .. => true

/-- The gap at a place. Tabs that stand for indentation are refused below a column. -/
def gap? (tabsFrom : Int) : Nat → Gap → Cursor → Option (Gap × Cursor)
  | 0, gap, c => some (gap, c)
  | fuel + 1, gap, c =>
    match c.rest with
    | [] => some (gap, c)
    | b :: _ =>
      if isSpace b then
        match gap with
        | .blanks text => gap? tabsFrom fuel (.blanks (text ++ [b])) (c.skip 1)
        | .breaks .. =>
          -- Blanks at the start of a line are indentation, which tabs must not be part of.
          if b = '\t' ∧ (c.column : Int) < tabsFrom then none else gap? tabsFrom fuel gap (c.skip 1)
      else if isBreak b then
        let (mark, next) := c.takeBreak
        match gap with
        | .blanks _ => gap? tabsFrom fuel (.breaks mark []) next
        | .breaks first rest => gap? tabsFrom fuel (.breaks first (rest ++ mark)) next
      else some (gap, c)

/-- Whether a character ends a plain scalar before it, given what follows. -/
def endsPlain (inFlow : Bool) (c : Char) (rest : List Char) : Bool :=
  (c = ':' && atGap rest) || (inFlow && [',', '[', ']', '\x7b', '\x7d'].contains c)

/-- Whether a colon stands before a mark that cannot follow it inside brackets. -/
def isStrayColon (inFlow : Bool) (c : Char) (rest : List Char) : Bool :=
  inFlow && c = ':' && match rest with
    | d :: _ => [',', '?', '[', ']', '\x7b', '\x7d'].contains d
    | [] => false

/-- The characters of a word of a plain scalar, and the place after them. -/
def word? (inFlow : Bool) : List Char → Option (List Char)
  | [] => some []
  | c :: rest =>
    if atGap (c :: rest) then some []
    else if isStrayColon inFlow c rest then none
    else if endsPlain inFlow c rest then some []
    else (word? inFlow rest).map (c :: ·)

/-- A plain scalar from a word on: its text, the place after it, and whether a line ended before that. -/
def plainFrom? (inFlow : Bool) (indent : Int) :
    Nat → List Char → Bool → Cursor → Option (List Char × Cursor × Bool)
  | 0, _, _, _ => none
  | fuel + 1, before, broken, c =>
    if c.atDocumentMark ∨ c.rest.head? = some '#' then some ([], c, broken)
    else do
      let word ← word? inFlow c.rest
      let after := c.skip word.length
      -- The gap before a word belongs to the scalar only if there is one.
      let text := if word.isEmpty then [] else before ++ word
      -- A line end before this word lies inside the scalar, and no longer before what follows it.
      let broken := if word.isEmpty then broken else false
      match after.rest with
      | [] => some (text, after, broken)
      | b :: _ =>
        if ¬(isSpace b ∨ isBreak b) then some (text, after, broken)
        else do
          let start := if broken then Gap.breaks [] [] else .blanks []
          let (gap, next) ← gap? indent after.rest.length start after
          let broken := gap.isBroken
          -- A line that is indented less ends the scalar.
          if ¬inFlow ∧ (next.column : Int) < indent then some (text, next, broken)
          else do
            let (more, last, broken) ← plainFrom? inFlow indent fuel gap.folded broken next
            some (text ++ more, last, broken)

/-- A plain scalar: its text, the place after it, and whether a line ended before that. -/
def plain? (inFlow : Bool) (indent : Int) (c : Cursor) : Option (List Char × Cursor × Bool) :=
  plainFrom? inFlow (indent + 1) (c.rest.length + 1) [] false c

/-- The number of hexadecimal digits, as many as are given. -/
def hexNumber? (digits : List Char) : Option Nat :=
  digits.foldlM (fun n d => (Json.Reader.hexValue? d).map (n * 16 + ·)) 0

/-- The character of an escape that is one letter. -/
def letterEscape? : Char → Option Char
  | '0' => some '\x00'
  | 'a' => some '\x07'
  | 'b' => some '\x08'
  | 't' | '\t' => some '\t'
  | 'n' => some '\n'
  | 'v' => some '\x0b'
  | 'f' => some '\x0c'
  | 'r' => some '\r'
  | 'e' => some '\x1b'
  | ' ' => some ' '
  | '"' => some '"'
  | '/' => some '/'
  | '\\' => some '\\'
  | 'N' => some '\u0085'
  | '_' => some '\u00a0'
  | 'L' => some '\u2028'
  | 'P' => some '\u2029'
  | _ => none

/-- The digits of an escape that is a number. -/
def escapeWidth? : Char → Option Nat
  | 'x' => some 2
  | 'u' => some 4
  | 'U' => some 8
  | _ => none

/-- The character of the escape after a backslash, and the number of characters that it takes. -/
def escape? : List Char → Option (Char × Nat)
  | [] => none
  | e :: rest =>
    match escapeWidth? e with
    | none => (letterEscape? e).map (·, 1)
    | some width => do
      let digits := rest.take width
      if digits.length < width then none
      else
        let n ← hexNumber? digits
        -- Numbers of surrogates and beyond the last code point denote no character.
        if (0xD800 ≤ n ∧ n ≤ 0xDFFF) ∨ 0x10FFFF < n then none
        else some (Char.ofNat n, width + 1)

/-- A part of a quoted scalar without gaps: its text, the place after it, and whether it ends with an
escaped line end. -/
def quotedWord? (single : Bool) : Nat → Cursor → Option (List Char × Cursor × Bool)
  | 0, _ => none
  | fuel + 1, c =>
    match c.rest with
    | [] => some ([], c, false)
    | q :: rest =>
      if atGap c.rest then some ([], c, false)
      else if single then
        if q ≠ '\'' then (quotedWord? single fuel (c.skip 1)).map (fun r => (q :: r.1, r.2))
        else if rest.head? = some '\'' then
          (quotedWord? single fuel (c.skip 2)).map (fun r => (q :: r.1, r.2))
        else some ([], c, false)
      else if q = '"' then some ([], c, false)
      else if q ≠ '\\' then (quotedWord? single fuel (c.skip 1)).map (fun r => (q :: r.1, r.2))
      -- A backslash before the line end takes it away.
      else if rest.head?.any isBreak then some ([], (c.skip 1).takeBreak.2, true)
      else do
        let (e, taken) ← escape? rest
        let (text, next, broken) ← quotedWord? single fuel (c.skip (taken + 1))
        some (e :: text, next, broken)

/-- A quoted scalar after its first quote: its text and the place after its last one. -/
def quotedFrom? (single : Bool) : Nat → Cursor → Option (List Char × Cursor)
  | 0, _ => none
  | fuel + 1, c =>
    -- A mark between documents cannot stand inside quotes.
    if c.atDocumentMark then none
    else do
      let (word, after, escaped) ← quotedWord? single (c.rest.length + 1) c
      match after.rest with
      | [] => none
      | q :: _ =>
        if q = (if single then '\'' else '"') then some (word, after.skip 1)
        else do
          -- An escaped line end joins its lines without a blank.
          let start := if escaped then Gap.breaks [] [] else .blanks []
          let (gap, next) ← gap? 0 after.rest.length start after
          let (text, last) ← quotedFrom? single fuel next
          some (word ++ gap.folded ++ text, last)

/-- A quoted scalar: its text and the place after it. -/
def quoted? (single : Bool) (c : Cursor) : Option (List Char × Cursor) :=
  quotedFrom? single (c.rest.length + 1) (c.skip 1)

/-- What happens to the line ends after a block scalar. -/
inductive Chomp
  | strip
  | clip
  | keep
  deriving DecidableEq

/-- The sign for the line ends at the end, if there is one. -/
def chomp? (c : Cursor) : Option (Chomp × Cursor) :=
  match c.rest with
  | '+' :: _ => some (.keep, c.skip 1)
  | '-' :: _ => some (.strip, c.skip 1)
  | _ => none

/-- The digit for the indentation, zero where there is none. -/
def increment? (c : Cursor) : Option (Nat × Cursor) :=
  match c.rest with
  | d :: _ =>
    if d = '0' then none
    else if d.isDigit then some (Text.digitValue d, c.skip 1)
    else some (0, c)
  | [] => some (0, c)

/-- The head of a block scalar after its first mark, in either order of its two parts. -/
def blockHead? (c : Cursor) : Option (Chomp × Nat × Cursor) := do
  match chomp? c with
  | some (chomp, c) =>
    let (n, c) ← increment? c
    some (chomp, n, c)
  | none =>
    let (n, after) ← increment? c
    match (if n = 0 then none else chomp? after) with
    | some (chomp, c) => some (chomp, n, c)
    | none => some (.clip, n, after)

/-- The line ends before a line of a block scalar, the place after its indentation, and the greatest
column met. An indentation of zero is not known yet. -/
def blockBreaks? (indent : Nat) : Nat → Nat → Cursor → Option (List Char × Cursor × Nat)
  | 0, most, c => some ([], c, most)
  | fuel + 1, most, c =>
    let spaces := (c.rest.takeWhile (· = ' ')).length
    -- Without a known indentation all blanks count, so that the longest line of them can give it.
    let c := c.skip (if indent = 0 then spaces else min spaces (indent - c.column))
    let most := max most c.column
    match c.rest with
    | b :: _ =>
      if b = '\t' ∧ (indent = 0 ∨ c.column < indent) then none
      else if isBreak b then do
        let (mark, next) := c.takeBreak
        let (marks, last, most) ← blockBreaks? indent fuel most next
        some (mark ++ marks, last, most)
      else some ([], c, most)
    | [] => some ([], c, most)

/-- The lines of a block scalar: the text so far ends before the line ends that are pending. -/
def blockLines? (literal : Bool) (indent : Nat) :
    Nat → List Char → Bool → List Char → List Char → Cursor
      → Option (List Char × List Char × List Char × Cursor)
  | 0, _, _, _, _, _ => none
  | fuel + 1, text, blankBefore, first, rest, c =>
    if c.column ≠ indent ∨ c.rest.isEmpty then some (text, first, rest, c)
    else
      let blank := c.rest.head?.any isSpace
      let joined :=
        -- A line end between two lines of words is folded; lines that begin with a blank keep theirs.
        if ¬literal ∧ first = ['\n'] ∧ ¬blankBefore ∧ ¬blank then
          (if rest.isEmpty then [' '] else rest)
        else first ++ rest
      let (line, after) := c.takeWhile (fun d => !isBreak d)
      let (mark, next) := after.takeBreak
      do
        let (marks, last, _) ← blockBreaks? indent (next.rest.length + 1) 0 next
        blockLines? literal indent fuel (text ++ joined ++ line) blank mark marks last

/-- A block scalar inside an indentation: its text and the place after it. -/
def block? (literal : Bool) (parent : Int) (c : Cursor) : Option (List Char × Cursor) := do
  let (chomp, increment, c) ← blockHead? (c.skip 1)
  let c := c.skipWhile isSpace
  let c := if c.rest.head? = some '#' then c.skipWhile (fun d => !isBreak d) else c
  if ¬atLineEnd c.rest then none
  else
    let c := c.takeBreak.2
    -- An indentation that is given counts from that of the block around.
    let known := if increment = 0 then 0 else (max parent 0).toNat + increment
    let (breaks, c, most) ← blockBreaks? known (c.rest.length + 1) 0 c
    let indent := if known = 0 then max (max most (parent + 1).toNat) 1 else known
    let (text, first, rest, c) ←
      blockLines? literal indent (c.rest.length + 1) [] false [] breaks c
    let tail := match chomp with
      | .strip => []
      | .clip => first
      | .keep => first ++ rest
    some (text ++ tail, c)

end ImageBuild.Yaml.Scalar

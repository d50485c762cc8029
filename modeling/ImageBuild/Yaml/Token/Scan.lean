import ImageBuild.Yaml.Token.Scalar
import ImageBuild.Yaml.Token.Tag

/-! The tokens of a text. A key is known only by the colon after it, so its token is put in its place
when the colon is met, and indentation is turned into tokens for the starts and ends of blocks. -/

namespace ImageBuild.Yaml

/-- A place where a key may have begun: the number of tokens before it, and whether it has to be one. -/
structure KeyStart where
  number : Nat
  required : Bool
  index : Nat
  line : Nat
  column : Nat

/-- The state of a scan: tokens from the last to the first, the possible keys of the open brackets from
the inside out, and the columns of the open blocks. -/
structure Scan where
  cursor : Cursor
  emitted : List Token
  key : Option KeyStart
  outerKeys : List (Option KeyStart)
  indent : Int
  outerIndents : List Int
  keyAllowed : Bool

namespace Scan

/-- The start of a text. -/
def start (text : List Char) : Scan := ⟨.start text, [], none, [], -1, [], true⟩

/-- Whether the place lies inside brackets. -/
def inFlow (s : Scan) : Bool := !s.outerKeys.isEmpty

/-- The scan with one more token. -/
def emit (s : Scan) (t : Token) : Scan := { s with emitted := t :: s.emitted }

/-- The scan with a token in the place after the given number of them. -/
def emitAt (s : Scan) (number : Nat) (t : Token) : Scan :=
  let newer := s.emitted.length - number
  { s with emitted := s.emitted.take newer ++ t :: s.emitted.drop newer }

/-- The scan at another place. -/
def moveTo (s : Scan) (c : Cursor) : Scan := { s with cursor := c }

/-- The scan with a key allowed here or not. -/
def allowKey (s : Scan) (allowed : Bool) : Scan := { s with keyAllowed := allowed }

/-- The place at the next token, past blanks, comments and line ends. -/
def skipGaps : Nat → Scan → Scan
  | 0, s => s
  | fuel + 1, s =>
    let c := s.cursor
    -- A byte order mark at the very start is skipped, but takes up a column.
    let c := if c.index = 0 ∧ c.rest.head? = some '\ufeff' then c.skip 1 else c
    -- Where a key may begin, a tab would be indentation, and is left for the next token to refuse.
    let tabs := s.inFlow || !s.keyAllowed
    let c := c.skipWhile (fun d => d = ' ' || (tabs && d = '\t'))
    let c := if c.rest.head? = some '#' then c.skipWhile (fun d => !isBreak d) else c
    if c.rest.head?.any isBreak then
      -- Outside brackets every line may begin with a key.
      let s := s.moveTo c.takeBreak.2
      skipGaps fuel (if s.inFlow then s else s.allowKey true)
    else s.moveTo c

/-- A possible key, unless it is too far away; one that is required may not be. -/
def fresh? (c : Cursor) : Option KeyStart → Option (Option KeyStart)
  | none => some none
  | some k =>
    -- A key stands on one line before its colon and is short, so that nobody has to look far ahead for it.
    if k.line < c.line ∨ k.index + 1024 < c.index then (if k.required then none else some none)
    else some (some k)

/-- The scan without the possible keys that are too far away. -/
def dropStale? (s : Scan) : Option Scan := do
  let key ← fresh? s.cursor s.key
  let outer ← s.outerKeys.mapM (fresh? s.cursor)
  some { s with key := key, outerKeys := outer }

/-- The scan with the blocks closed that begin right of a column. -/
def unroll (s : Scan) (column : Int) : Scan :=
  if s.inFlow then s
  else
    -- Each block that is indented deeper than the column ends before it.
    let open_ := s.indent :: s.outerIndents
    let closed := open_.takeWhile (fun i => column < i)
    match open_.drop closed.length with
    | [] => s
    | indent :: outer =>
      { s with
        emitted := List.replicate closed.length Token.blockEnd ++ s.emitted
        indent := indent
        outerIndents := outer }

/-- The scan with a block open at a column, whose token is put after the given number of them. -/
def roll (s : Scan) (column : Nat) (number : Nat) (t : Token) : Scan :=
  if s.inFlow ∨ (column : Int) ≤ s.indent then s
  else { s.emitAt number t with indent := column, outerIndents := s.indent :: s.outerIndents }

/-- The scan without the innermost possible key, which may not be required. -/
def forgetKey? (s : Scan) : Option Scan :=
  if s.key.any (·.required) then none else some { s with key := none }

/-- The scan with a key possible here, where it is allowed. -/
def noteKey? (s : Scan) : Option Scan :=
  if s.keyAllowed then do
    let c := s.cursor
    -- At the indentation of an open block nothing but a key can follow.
    let required := !s.inFlow && s.indent == (c.column : Int)
    let s ← s.forgetKey?
    some { s with key := some ⟨s.emitted.length, required, c.index, c.line, c.column⟩ }
  else some s

/-- The token of a mark of some characters. -/
def mark (s : Scan) (t : Token) (width : Nat) : Scan := (s.emit t).moveTo (s.cursor.skip width)

/-- A mark between documents. -/
def documentMark? (s : Scan) (t : Token) : Option Scan := do
  let s ← (s.unroll (-1)).forgetKey?
  some ((s.allowKey false).mark t 3)

/-- A bracket that opens a collection. -/
def openFlow? (s : Scan) (t : Token) : Option Scan := do
  let s ← s.noteKey?
  -- The bracket may begin a key itself, while inside it other keys may begin.
  let s := { s with key := none, outerKeys := s.key :: s.outerKeys }
  some ((s.allowKey true).mark t 1)

/-- A bracket that closes a collection. -/
def closeFlow? (s : Scan) (t : Token) : Option Scan := do
  let s ← s.forgetKey?
  let s := match s.outerKeys with
    | key :: outer => { s with key := key, outerKeys := outer }
    | [] => s
  some ((s.allowKey false).mark t 1)

/-- The mark of an entry of a block sequence. -/
def blockEntry? (s : Scan) : Option Scan := do
  if ¬s.inFlow ∧ ¬s.keyAllowed then none
  else
    let s := s.roll s.cursor.column s.emitted.length .blockSequenceStart
    let s ← s.forgetKey?
    some ((s.allowKey true).mark .blockEntry 1)

/-- The mark of a key. -/
def keyMark? (s : Scan) : Option Scan := do
  if ¬s.inFlow ∧ ¬s.keyAllowed then none
  else
    let s := s.roll s.cursor.column s.emitted.length .blockMappingStart
    let s ← s.forgetKey?
    some ((s.allowKey (!s.inFlow)).mark .key 1)

/-- The mark of a value: what stands before it on the line may turn out to be its key. -/
def valueMark? (s : Scan) : Option Scan :=
  match s.key with
  | some k =>
    -- What was read as a value turns out to be a key, and may open a block where it began.
    let s := (s.emitAt k.number .key).roll k.column k.number .blockMappingStart
    some (({ s with key := none }.allowKey false).mark .value 1)
  | none =>
    if ¬s.inFlow ∧ ¬s.keyAllowed then none
    else
      let s := s.roll s.cursor.column s.emitted.length .blockMappingStart
      some ((s.allowKey (!s.inFlow)).mark .value 1)

/-- An anchor or an alias. -/
def anchor? (s : Scan) (token : String → Token) : Option Scan := do
  let s ← s.noteKey?
  let (name, c) ← anchorName? s.cursor
  some (((s.allowKey false).emit (token name)).moveTo c)

/-- A tag before a value. -/
def tagMark? (s : Scan) : Option Scan := do
  let s ← s.noteKey?
  let (token, c) ← tag? s.inFlow s.cursor
  some (((s.allowKey false).emit token).moveTo c)

/-- A scalar in quotes. -/
def quoted? (s : Scan) (single : Bool) : Option Scan := do
  let s ← s.noteKey?
  let (text, c) ← Scalar.quoted? single s.cursor
  let style := if single then Style.singleQuoted else .doubleQuoted
  some (((s.allowKey false).emit (.scalar (String.ofList text) style)).moveTo c)

/-- A scalar of whole lines. -/
def block? (s : Scan) (literal : Bool) : Option Scan := do
  let s ← s.forgetKey?
  let (text, c) ← Scalar.block? literal s.indent s.cursor
  let style := if literal then Style.literal else .folded
  some (((s.allowKey true).emit (.scalar (String.ofList text) style)).moveTo c)

/-- A scalar without marks. -/
def plain? (s : Scan) : Option Scan := do
  let s ← s.noteKey?
  let (text, c, broken) ← Scalar.plain? s.inFlow s.indent s.cursor
  some (((s.allowKey broken).emit (.scalar (String.ofList text) .plain)).moveTo c)

/-- Whether a plain scalar may begin here. -/
def startsPlain (inFlow : Bool) (c : Char) (rest : List Char) : Bool :=
  let gap := atGap rest
  let space := rest.head?.any isSpace
  -- A mark of the language begins no plain scalar, unless what follows shows that it means nothing here.
  !(atGap [c] || "-?:,[]\x7b\x7d#&*!|>'\"%@`".toList.contains c)
    || (c = '-' && !space) || (!inFlow && (c = '?' || c = ':') && !gap)

/-- The token at a place that is not the end of the text. -/
def next? (s : Scan) (c : Char) (rest : List Char) : Option Scan :=
  let gap := atGap rest
  if s.cursor.column = 0 ∧ c = '%' then do
    let s ← (s.unroll (-1)).forgetKey?
    let (token, after) ← directive? s.cursor
    some (((s.allowKey false).emit token).moveTo after)
  else if s.cursor.atDocumentMark then
    s.documentMark? (if c = '-' then .documentStart else .documentEnd)
  else match c with
    | '[' => s.openFlow? .flowSequenceStart
    | '\x7b' => s.openFlow? .flowMappingStart
    | ']' => s.closeFlow? .flowSequenceEnd
    | '\x7d' => s.closeFlow? .flowMappingEnd
    | ',' => do
      let s ← s.forgetKey?
      some ((s.allowKey true).mark .flowEntry 1)
    | '*' => s.anchor? .alias
    | '&' => s.anchor? .anchor
    | '!' => s.tagMark?
    | '\'' => s.quoted? true
    | '"' => s.quoted? false
    | c =>
      if c = '-' ∧ gap then s.blockEntry?
      else if c = '?' ∧ (s.inFlow ∨ gap) then s.keyMark?
      else if c = ':' ∧ (s.inFlow ∨ gap) then s.valueMark?
      else if (c = '|' ∨ c = '>') ∧ ¬s.inFlow then s.block? (c = '|')
      else if startsPlain s.inFlow c rest then s.plain?
      else none

/-- The tokens up to the end of the text. -/
def run? : Nat → Scan → Option (List Token)
  | 0, _ => none
  | fuel + 1, s => do
    -- Before each token the keys that are out of reach are forgotten, and the blocks that end here closed.
    let s ← (s.skipGaps (s.cursor.rest.length + 1)).dropStale?
    let s := s.unroll s.cursor.column
    match s.cursor.rest with
    | c :: rest =>
      let s ← s.next? c rest
      run? fuel s
    | [] =>
      let s ← (s.unroll (-1)).forgetKey?
      some s.emitted.reverse

end Scan

/-- Whether a character may stand in a text at all. -/
def isAllowed (c : Char) : Bool :=
  let n := c.toNat
  n = 9 || n = 10 || n = 13 || (0x20 ≤ n && n ≤ 0x7E) || n = 0x85 || (0xA0 ≤ n && n ≤ 0xFFFD)
    || 0x10000 ≤ n

/-- The tokens of a text. -/
def tokens? (text : String) : Option (List Token) :=
  let cs := text.toList
  if cs.all isAllowed then (Scan.start cs).run? (cs.length + 2) else none

end ImageBuild.Yaml

/-! Blanks, and texts without the blanks at their ends. -/

namespace ImageBuild.Text

/-- Whether a character separates words or lines (the property White_Space). -/
def isBlank (c : Char) : Bool :=
  let n := c.toNat
  (9 ≤ n && n ≤ 13) || n = 0x20 || n = 0x85 || n = 0xA0 || n = 0x1680
    || (0x2000 ≤ n && n ≤ 0x200A) || n = 0x2028 || n = 0x2029 || n = 0x202F
    || n = 0x205F || n = 0x3000

/-- Characters without the blanks at their start. -/
def skipBlanks (cs : List Char) : List Char := cs.dropWhile isBlank

/-- A list without the members at its end that pass a test. -/
def dropEndWhile {α : Type} (drop : α → Bool) (l : List α) : List α :=
  (l.reverse.dropWhile drop).reverse

/-- A text without the blanks at its end. -/
def trimEnd (s : String) : String := String.ofList (dropEndWhile isBlank s.toList)

/-- A text without the blanks at its two ends. -/
def trim (s : String) : String :=
  String.ofList (dropEndWhile isBlank (skipBlanks s.toList))

/-- A text without the copies of a character at its start. -/
def trimStartChar (c : Char) (s : String) : String := String.ofList (s.toList.dropWhile (· == c))

/-- A text without the copies of a character at its end. -/
def trimEndChar (c : Char) (s : String) : String := String.ofList (dropEndWhile (· == c) s.toList)

end ImageBuild.Text

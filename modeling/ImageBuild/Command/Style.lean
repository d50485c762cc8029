/-! Texts in color. -/

namespace ImageBuild.Command

/-- How a text stands out on a terminal. -/
inductive Style
  | bold
  | dimmed
  | red
  | green
  | yellow
  | blue
  | cyan
  deriving DecidableEq

/-- The number of a style. -/
def Style.code : Style → String
  | bold => "1"
  | dimmed => "2"
  | red => "31"
  | green => "32"
  | yellow => "33"
  | blue => "34"
  | cyan => "36"

/-- The sequence that ends all styles. -/
def endOfStyle : List Char := ['\x1b', '[', '0', 'm']

/-- A text in which another sequence follows each end of all styles. -/
def resume (start : List Char) : List Char → List Char
  | '\x1b' :: '[' :: '0' :: 'm' :: rest => endOfStyle ++ start ++ resume start rest
  | c :: rest => c :: resume start rest
  | [] => []

/-- A text in a style, where styles are shown. -/
def styled (shown : Bool) (style : Style) (text : String) : String :=
  if shown then
    let start := '\x1b' :: '[' :: style.code.toList ++ ['m']
    String.ofList (start ++ resume start text.toList ++ endOfStyle)
  else text

/-- Whether styles are shown on what is no terminal, by the setting that forces them. -/
def isForced (setting : Option String) : Bool := setting.any (· ≠ "0")

end ImageBuild.Command

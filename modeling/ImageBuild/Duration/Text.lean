import ImageBuild.Duration
import ImageBuild.Text.Blank
import ImageBuild.Text.Digits

/-! Lengths of time as a sum of amounts with units, such as 1h 30m. -/

namespace ImageBuild.Duration

open Text (digitValue)

/-- The units of an amount of time. -/
inductive TimeUnit
  | nanosecond
  | microsecond
  | millisecond
  | second
  | minute
  | hour
  | day
  | week
  | month
  | year
  deriving DecidableEq

namespace TimeUnit

/-- The names under which a unit is read. -/
def names : TimeUnit → List String
  | nanosecond => ["nanos", "nsec", "ns"]
  | microsecond => ["usec", "us", "µs"]
  | millisecond => ["millis", "msec", "ms"]
  | second => ["seconds", "second", "secs", "sec", "s"]
  | minute => ["minutes", "minute", "min", "mins", "m"]
  | hour => ["hours", "hour", "hr", "hrs", "h"]
  | day => ["days", "day", "d"]
  | week => ["weeks", "week", "wk", "wks", "w"]
  | month => ["months", "month", "M"]
  | year => ["years", "year", "yr", "yrs", "y"]

/-- All units. -/
def all : List TimeUnit :=
  [nanosecond, microsecond, millisecond, second, minute, hour, day, week, month, year]

/-- The unit of a name. -/
def ofName? (name : String) : Option TimeUnit := all.find? (fun unit => unit.names.contains name)

/-- Whether amounts of the unit are counted in nanoseconds rather than in seconds. -/
def isSmall : TimeUnit → Bool
  | nanosecond | microsecond | millisecond => true
  | _ => false

/-- The nanoseconds of a unit. -/
def nanos : TimeUnit → Nat
  | nanosecond => 1
  | microsecond => 1000
  | millisecond => 1000000
  | second => nanosPerSecond
  | minute => 60 * nanosPerSecond
  | hour => 3600 * nanosPerSecond
  | day => 86400 * nanosPerSecond
  | week => 604800 * nanosPerSecond
  | month => 2630016 * nanosPerSecond
  | year => 31557600 * nanosPerSecond

end TimeUnit

/-- A number of 64 bits. -/
def word? (n : Nat) : Option Nat := if n < Nat.pow 2 64 then some n else none

/-- An amount: a whole number and a fraction of small terms. -/
structure Amount where
  whole : Nat
  part : Nat
  scale : Nat

/-- A length of time and one more part, counted in seconds or in nanoseconds. -/
def plus? (total : Duration) (seconds nanos : Nat) : Option Duration := do
  let _ ← word? (total.subsecond + nanos)
  ofNanos? (total.nanos + seconds * nanosPerSecond + nanos)

/-- The whole part of an amount added to a length of time. -/
def plusWhole? (total : Duration) (unit : TimeUnit) (n : Nat) : Option Duration := do
  if unit.isSmall then total.plus? 0 (← word? (n * unit.nanos))
  else total.plus? (← word? (n * (unit.nanos / nanosPerSecond))) 0

/-- The fraction of an amount added: whole nanoseconds up to a minute, else whole seconds. -/
def plusPart? (total : Duration) (unit : TimeUnit) (part scale : Nat) : Option Duration := do
  if unit.isSmall ∨ unit = .second ∨ unit = .minute then
    total.plus? 0 ((← word? (part * unit.nanos)) / scale)
  else total.plus? ((← word? (part * (unit.nanos / nanosPerSecond))) / scale) 0

/-- What has been read of a text: the sum so far, and the amount that has begun. -/
inductive Reading
  | between (total : Option Duration)
  | number (total : Duration) (whole : Nat)
  | fraction (total : Duration) (amount : Amount)
  | unit (total : Duration) (amount : Amount) (name : List Char)

/-- Whether a character may stand in the name of a unit. -/
def isUnitChar (c : Char) : Bool := c.isAlpha || c = 'µ'

/-- The sum after an amount whose unit is complete. -/
def close? (total : Duration) (amount : Amount) (name : List Char) : Option Duration := do
  let unit ← TimeUnit.ofName? (String.ofList name)
  let total ← total.plusWhole? unit amount.whole
  total.plusPart? unit amount.part amount.scale

/-- What has been read after one more character; blanks may stand also between digits. -/
def Reading.step? (reading : Reading) (c : Char) : Option Reading :=
  match reading with
  | .between total =>
    if Text.isBlank c then some (.between total)
    else if c.isDigit then some (.number (total.getD zero) (digitValue c))
    else none
  | .number total whole =>
    if c.isDigit then (word? (whole * 10 + digitValue c)).map (.number total)
    else if Text.isBlank c then some (.number total whole)
    else if c = '.' then some (.fraction total ⟨whole, 0, 1⟩)
    else if isUnitChar c then some (.unit total ⟨whole, 0, 1⟩ [c])
    else none
  | .fraction total amount =>
    if c.isDigit then do
      -- Digits and scale are kept as words, so a fraction cannot be too long.
      let scale ← word? (amount.scale * 10)
      let part ← word? (amount.part * 10 + digitValue c)
      some (.fraction total ⟨amount.whole, part, scale⟩)
    else if Text.isBlank c then some (.fraction total amount)
    -- After a point at least one digit is wanted.
    else if isUnitChar c ∧ amount.scale ≠ 1 then some (.unit total amount [c])
    else none
  | .unit total amount name =>
    if isUnitChar c then some (.unit total amount (name ++ [c]))
    else if Text.isBlank c then (close? total amount name).map (fun d => .between (some d))
    else if c.isDigit then (close? total amount name).map (fun d => .number d (digitValue c))
    else none

/-- The sum at the end of a text; an amount without a unit is none. -/
def Reading.finish? : Reading → Option Duration
  | .between total => total
  | .unit total amount name => close? total amount name
  | _ => none

/-- The length of time that a text names. -/
def ofText? (s : String) : Option Duration :=
  if s = "0" then some zero
  else (s.toList.foldlM Reading.step? (.between none)).bind Reading.finish?

/-- An amount that is not zero, with its unit. -/
def item (n : Nat) (unit : String) : List String := if n = 0 then [] else [toString n ++ unit]

/-- An amount that is not zero, with a unit that is a word. -/
def wordItem (n : Nat) (unit : String) : List String := item n (if n = 1 then unit else unit ++ "s")

/-- The text of a length of time: its parts from years down to nanoseconds, without the empty ones. -/
def toText (d : Duration) : String :=
  let s := d.seconds
  let n := d.subsecond
  if d.nanos = 0 then "0s"
  else " ".intercalate
    (wordItem (s / 31557600) "year" ++ wordItem (s % 31557600 / 2630016) "month"
      ++ wordItem (s % 31557600 % 2630016 / 86400) "day"
      ++ item (s % 31557600 % 2630016 % 86400 / 3600) "h"
      ++ item (s % 31557600 % 2630016 % 86400 % 3600 / 60) "m"
      ++ item (s % 31557600 % 2630016 % 86400 % 60) "s"
      ++ item (n / 1000000) "ms" ++ item (n / 1000 % 1000) "us" ++ item (n % 1000) "ns")

end ImageBuild.Duration

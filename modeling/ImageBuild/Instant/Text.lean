import ImageBuild.Instant
import ImageBuild.Text.Blank
import ImageBuild.Text.Digits

/-! Moments as dates with times of day: the written forms, and the looser form that is read. -/

namespace ImageBuild.Instant

open Text (digitsValue skipBlanks)

/-- A number with zeros before it up to a width. -/
def padded (width n : Nat) : String :=
  let digits := Nat.toDigits 10 n
  String.ofList (List.replicate (width - digits.length) '0' ++ digits)

/-- A year: four digits, and a sign outside the years 0 to 9999. -/
def yearText (year : Int) : String :=
  if 0 ≤ year ∧ year ≤ 9999 then padded 4 year.toNat
  else (if year < 0 then "-" else "+") ++ padded 4 year.natAbs

/-- The date of a moment. -/
def dateText (t : Instant) : String :=
  let date := Date.ofDay t.day
  yearText date.year ++ "-" ++ padded 2 date.month ++ "-" ++ padded 2 date.day

/-- The time of day without a fraction; a leap second is the sixty-first of its minute. -/
def clockText (t : Instant) : String :=
  let second := t.second % 60 + t.nanos / nanosPerSecond
  padded 2 (t.second / 3600) ++ ":" ++ padded 2 (t.second / 60 % 60) ++ ":" ++ padded 2 second

/-- The fraction of a second, in as many groups of three digits as it needs. -/
def fractionText (t : Instant) : String :=
  let n := t.nanos % nanosPerSecond
  if n = 0 then ""
  else if n % 1000000 = 0 then "." ++ padded 3 (n / 1000000)
  else if n % 1000 = 0 then "." ++ padded 6 (n / 1000)
  else "." ++ padded 9 n

/-- The exact written form. -/
def toText (t : Instant) : String := t.dateText ++ "T" ++ t.clockText ++ t.fractionText ++ "Z"

/-- The written form without the fraction of a second. -/
def toSecondsText (t : Instant) : String := t.dateText ++ "T" ++ t.clockText ++ "Z"

/-- The written form with six digits of the fraction. -/
def toMicrosText (t : Instant) : String :=
  t.dateText ++ "T" ++ t.clockText ++ "." ++ padded 6 (t.nanos % nanosPerSecond / 1000) ++ "Z"

/-- The exact form with the offset as a number. -/
def toOffsetText (t : Instant) : String :=
  t.dateText ++ "T" ++ t.clockText ++ t.fractionText ++ "+00:00"

/-- The form for a line of a log. -/
def toLogText (t : Instant) : String :=
  t.dateText ++ " " ++ t.clockText ++ t.fractionText ++ " UTC"

/-- A number of at least one and at most some digits, and what follows it. -/
def number? (most : Nat) (cs : List Char) : Option (Nat × List Char) :=
  let digits := (cs.take most).takeWhile Char.isDigit
  if digits.isEmpty then none else some (digitsValue digits, cs.drop digits.length)

/-- What follows a character, with blanks allowed before it. -/
def mark? (c : Char) (cs : List Char) : Option (List Char) :=
  match skipBlanks cs with
  | d :: rest => if d = c then some rest else none
  | [] => none

/-- A number of a field, with blanks allowed before it. -/
def field? (cs : List Char) : Option (Nat × List Char) := number? 2 (skipBlanks cs)

/-- A year: up to four digits, or any number of them after a sign. -/
def year? (cs : List Char) : Option (Int × List Char) :=
  match skipBlanks cs with
  | '-' :: rest => (number? rest.length rest).map (fun r => (-r.1, r.2))
  | '+' :: rest => (number? rest.length rest).map (fun r => ((r.1 : Int), r.2))
  | rest => (number? 4 rest).map (fun r => ((r.1 : Int), r.2))

/-- The fraction of a second in nanoseconds, where digits beyond the ninth do not count. -/
def fraction? (cs : List Char) : Option (Nat × List Char) :=
  match cs with
  | '.' :: rest =>
    let digits := rest.takeWhile Char.isDigit
    -- Digits below a nanosecond are cut off.
    let counted := digits.take 9
    if digits.isEmpty then none
    else some (digitsValue counted * Nat.pow 10 (9 - counted.length), rest.drop digits.length)
  | _ => some (0, cs)

/-- The seconds that a time of day is ahead of universal time. -/
def offset? (cs : List Char) : Option (Int × List Char) :=
  match cs with
  | 'Z' :: rest | 'z' :: rest => some (0, rest)
  | u :: t :: c :: rest =>
    if u.toUpper = 'U' ∧ t.toUpper = 'T' ∧ c.toUpper = 'C' then some (0, rest)
    else if u ≠ '+' ∧ u ≠ '-' ∧ u ≠ '\u2212' then none
    else if ¬(t.isDigit ∧ c.isDigit) then none
    else
      match rest.dropWhile (fun x => x = ':' || Text.isBlank x) with
      | m :: n :: rest =>
        if m.isDigit ∧ n.isDigit ∧ digitsValue [m, n] < 60 then
          let seconds : Int := digitsValue [t, c] * 3600 + digitsValue [m, n] * 60
          if seconds < 86400 then some (if u = '+' then seconds else -seconds, rest) else none
        else none
      | _ => none
  | _ => none

/-- The moment of a date and a time of day that is ahead of universal time by some seconds. -/
def ofFields? (date : Date) (hour minute second nanos : Nat) (offset : Int) : Option Instant := do
  if ¬date.isValid ∨ 24 ≤ hour ∨ 60 ≤ minute ∨ 61 ≤ second then none
  if date.year < -262143 ∨ 262142 < date.year then none
  -- The sixty-first second of a minute is the last one going on.
  let leap := second = 60
  let nanos := if leap then nanos + nanosPerSecond else nanos
  let local_ : Int := hour * 3600 + minute * 60 + (if leap then 59 else second) - offset
  of? (date.toDay + Int.fdiv local_ 86400) (Int.fmod local_ 86400).toNat nanos

/-- The moment that a text names: a date, a time of day and an offset. -/
def ofText? (s : String) : Option Instant := do
  let (year, cs) ← year? s.toList
  let (month, cs) ← field? (← mark? '-' cs)
  let (day, cs) ← field? (← mark? '-' cs)
  let cs ← match cs with
    | c :: rest => if c = 'T' ∨ c = 't' ∨ c = ' ' then some rest else none
    | [] => none
  let (hour, cs) ← field? cs
  let (minute, cs) ← field? (← mark? ':' cs)
  let (second, cs) ← field? (← mark? ':' cs)
  let (nanos, cs) ← fraction? cs
  let (offset, cs) ← offset? (skipBlanks cs)
  if (skipBlanks cs).isEmpty then ofFields? ⟨year, month, day⟩ hour minute second nanos offset
  else none

end ImageBuild.Instant

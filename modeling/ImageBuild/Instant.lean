import ImageBuild.Duration

/-! Moments of universal time, with the leap seconds that a written time may name. -/

namespace ImageBuild

/-- A date of the Gregorian calendar, also before its introduction. -/
structure Date where
  year : Int
  month : Nat
  day : Nat
  deriving DecidableEq

namespace Date

/-- The number of a date, counted from 1970-01-01. -/
def toDay (date : Date) : Int :=
  -- A year is counted from March on, so that the day added in leap years is its last.
  let y := if date.month ≤ 2 then date.year - 1 else date.year
  let month : Int := (date.month + 9) % 12
  let era := Int.fdiv y 400
  let yearOfEra := y - era * 400
  let dayOfYear := Int.fdiv (153 * month + 2) 5 + date.day - 1
  let dayOfEra := yearOfEra * 365 + Int.fdiv yearOfEra 4 - Int.fdiv yearOfEra 100 + dayOfYear
  era * 146097 + dayOfEra - 719468

/-- The date of a day counted from 1970-01-01. -/
def ofDay (day : Int) : Date :=
  let z := day + 719468
  let era := Int.fdiv z 146097
  let dayOfEra := z - era * 146097
  let yearOfEra := Int.fdiv
    (dayOfEra - Int.fdiv dayOfEra 1460 + Int.fdiv dayOfEra 36524 - Int.fdiv dayOfEra 146096) 365
  let dayOfYear := dayOfEra - (365 * yearOfEra + Int.fdiv yearOfEra 4 - Int.fdiv yearOfEra 100)
  let month := Int.fdiv (5 * dayOfYear + 2) 153
  let dayOfMonth := dayOfYear - Int.fdiv (153 * month + 2) 5 + 1
  let calendarMonth := if month < 10 then month + 3 else month - 9
  let year := yearOfEra + era * 400
  ⟨if calendarMonth ≤ 2 then year + 1 else year, calendarMonth.toNat, dayOfMonth.toNat⟩

/-- Whether a year has a day more. -/
def isLeapYear (year : Int) : Bool := year % 4 = 0 && (year % 100 ≠ 0 || year % 400 = 0)

/-- The days of a month. -/
def daysInMonth (year : Int) (month : Nat) : Nat :=
  if month = 2 then (if isLeapYear year then 29 else 28)
  else if month = 4 ∨ month = 6 ∨ month = 9 ∨ month = 11 then 30
  else 31

/-- Whether the calendar has the date. -/
def isValid (date : Date) : Bool :=
  1 ≤ date.month && date.month ≤ 12 && 1 ≤ date.day && date.day ≤ daysInMonth date.year date.month

end Date

/-- A moment: a day since 1970-01-01, a second of it and nanoseconds of that, which run on in a leap second. -/
structure Instant where
  day : Int
  second : Nat
  nanos : Nat
  day_fits : -96465292 ≤ day ∧ day ≤ 95026236
  second_lt : second < 86400
  nanos_lt : nanos < 2 * nanosPerSecond
  leap_ends_minute : nanosPerSecond ≤ nanos → second % 60 = 59
  deriving DecidableEq

namespace Instant

/-- The moment of a day, a second and nanoseconds, if there is one. -/
def of? (day : Int) (second nanos : Nat) : Option Instant :=
  if h : (-96465292 ≤ day ∧ day ≤ 95026236) ∧ second < 86400 ∧ nanos < 2 * nanosPerSecond
      ∧ (nanosPerSecond ≤ nanos → second % 60 = 59) then
    some ⟨day, second, nanos, h.1, h.2.1, h.2.2.1, h.2.2.2⟩
  else none

/-- The start of 1970. -/
def epoch : Instant := ⟨0, 0, 0, by decide, by decide, by decide, by decide⟩

instance : Inhabited Instant := ⟨epoch⟩

/-- The order of moments, by day, second and nanoseconds. -/
def cmp (a b : Instant) : Ordering :=
  (compare a.day b.day).then ((compare a.second b.second).then (compare a.nanos b.nanos))

/-- The later of two moments. -/
def later (a b : Instant) : Instant := if b.cmp a = .gt then b else a

/-- The nanoseconds from one moment to another; a leap second between them counts only when it is named. -/
def since (later earlier : Instant) : Int :=
  let leap : Int :=
    -- A leap second at the earlier end lies between the two, and so does one at the later end.
    if earlier.second < later.second then (if nanosPerSecond ≤ earlier.nanos then 1 else 0)
    else if later.second < earlier.second then (if nanosPerSecond ≤ later.nanos then -1 else 0)
    else 0
  let seconds : Int := (later.day - earlier.day) * 86400 + (later.second - earlier.second) + leap
  seconds * nanosPerSecond + (later.nanos - earlier.nanos)

/-- The time from one moment to another, unless that one comes first. -/
def elapsedSince? (later earlier : Instant) : Option Duration :=
  let n := later.since earlier
  if n < 0 then none else Duration.ofNanos? n.toNat

end Instant

end ImageBuild

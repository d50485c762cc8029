import ImageBuild.Duration.Text
import ImageBuild.Proofs.Text.Digits

/-! What is written of a length of time reads back as that length. -/

namespace ImageBuild.Duration

open Text (digitValue)

/-- An amount and its unit, under the name that is written. -/
structure Part where
  amount : Nat
  unit : TimeUnit
  name : String

/-- A name by which a reader finds a unit. -/
structure TimeUnit.Known (unit : TimeUnit) (name : String) : Prop where
  named : ofName? name = some unit
  letters : name.toList.all isUnitChar = true
  some_ : name.toList ≠ []

/-- A letter is neither a digit nor a blank nor a point. -/
theorem of_isUnitChar {c : Char} (letter : isUnitChar c = true) :
    c.isDigit = false ∧ Text.isBlank c = false ∧ c ≠ '.' := by
  -- The only letter beyond ASCII is the one for a millionth.
  have range : (65 ≤ c.toNat ∧ c.toNat ≤ 90) ∨ (97 ≤ c.toNat ∧ c.toNat ≤ 122) ∨
      c.toNat = 181 := by
    rw [isUnitChar, Bool.or_eq_true, decide_eq_true_eq] at letter
    rcases letter with letter | rfl
    · have ranged : (decide ('A'.val ≤ c.val ∧ c.val ≤ 'Z'.val) ||
          (decide ('a'.val ≤ c.val) && decide (c.val ≤ 'z'.val))) = true := letter
      simp only [Bool.or_eq_true, Bool.and_eq_true, decide_eq_true_eq, UInt32.le_iff_toNat_le,
        Char.toNat_val, Char.reduceToNat] at ranged
      omega
    · exact .inr (.inr rfl)
  -- Digits, blanks and the dot lie outside of the ranges.
  refine ⟨?_, ?_, ?_⟩
  · simp only [Char.isDigit, Bool.and_eq_false_iff, decide_eq_false_iff_not, ge_iff_le,
      UInt32.le_iff_toNat_le, Char.toNat_val, Char.reduceToNat]
    omega
  · exact Text.isBlank_of_lt (by omega) (by omega) (by omega) (by omega)
  · rintro rfl
    simp at range

/-- Letters go on with the name of a unit. -/
theorem foldlM_step?_unit (total : Duration) (amount : Amount) {more : List Char}
    (letters : more.all isUnitChar = true) (name : List Char) :
    more.foldlM Reading.step? (.unit total amount name) = some (.unit total amount (name ++ more)) := by
  -- The induction is on the letters, which are collected into the name.
  induction more generalizing name with
  | nil => simp
  | cons c rest ih =>
    rw [List.all_cons, Bool.and_eq_true] at letters
    have read : Reading.step? (.unit total amount name) c =
        some (.unit total amount (name ++ [c])) := by
      simp [Reading.step?, letters.1]
    rw [List.foldlM_cons, read, Option.bind_eq_bind, Option.bind_some, ih letters.2, List.append_assoc]
    rfl

/-- The name of a unit after a number is read to its end. -/
theorem TimeUnit.Known.read {unit : TimeUnit} {name : String} (known : unit.Known name)
    (total : Duration) (n : Nat) :
    name.toList.foldlM Reading.step? (.number total n) =
      some (.unit total ⟨n, 0, 1⟩ name.toList) := by
  have letters := known.letters
  obtain ⟨c, rest, spelled⟩ := List.exists_cons_of_ne_nil known.some_
  rw [spelled, List.all_cons, Bool.and_eq_true] at letters
  -- The first letter ends the number, and those after it go on with the name.
  obtain ⟨digit, blank, point⟩ := of_isUnitChar letters.1
  have read : Reading.step? (.number total n) c = some (.unit total ⟨n, 0, 1⟩ [c]) := by
    simp [Reading.step?, digit, blank, point, letters.1]
  rw [spelled, List.foldlM_cons, read, Option.bind_eq_bind, Option.bind_some,
    foldlM_step?_unit total _ letters.2]
  rfl

namespace Part

/-- The nanoseconds of the amount. -/
def nanos (p : Part) : Nat := p.amount * p.unit.nanos

/-- What a reader needs of a part: it knows the unit by its name, and can count the amount. -/
structure Sound (p : Part) : Prop where
  known : p.unit.Known p.name
  small : p.unit.isSmall = true → p.amount < 1000

end Part

theorem word?_of_lt {n : Nat} (fits : n < 2 ^ 64) : word? n = some n := if_pos fits

/-- A sum that is a length of time is found. -/
theorem plus?_eq {total sum : Duration} {seconds nanos : Nat} (small : nanos < 2 ^ 63)
    (adds : sum.nanos = total.nanos + seconds * nanosPerSecond + nanos) :
    total.plus? seconds nanos = some sum := by
  -- Both subsecond parts are small, so their sum does not overflow a word.
  have rest : total.subsecond < 1000000000 := Nat.mod_lt _ (by decide)
  have carry : word? (total.subsecond + nanos) = some (total.subsecond + nanos) :=
    word?_of_lt (by omega)
  have found : ofNanos? sum.nanos = some sum := ofNanos?_of_lt sum.fits
  rw [plus?, carry, ← adds]
  exact found

/-- A unit is some whole seconds, unless it is small, and then no more than a thousandth of one. -/
theorem TimeUnit.nanos_cases (unit : TimeUnit) :
    (unit.isSmall = true ∧ unit.nanos ≤ 1000000) ∨
      (unit.isSmall = false ∧ unit.nanos = unit.nanos / nanosPerSecond * nanosPerSecond) := by
  cases unit <;> decide

/-- Where there is no fraction nothing is added. -/
theorem plusPart?_zero (total : Duration) (unit : TimeUnit) : total.plusPart? unit 0 1 = some total := by
  -- Without a fraction nothing is added, whichever way the unit is counted.
  have same : total.plus? 0 0 = some total := plus?_eq (by decide) (by simp)
  unfold plusPart?
  rw [Nat.zero_mul, Nat.zero_mul, word?_of_lt (by decide)]
  split <;> exact same

/-- An amount is added where the sum is a length of time. -/
theorem plusWhole?_of_sound {p : Part} (sound : p.Sound) {total sum : Duration}
    (adds : sum.nanos = total.nanos + p.nanos) : total.plusWhole? p.unit p.amount = some sum := by
  unfold Part.nanos at adds
  -- Units below a second are added in nanoseconds, and the others in seconds.
  rcases p.unit.nanos_cases with ⟨small, bound⟩ | ⟨large, seconds⟩
  · -- A small amount is less than a second.
    have counted := sound.small small
    have product : p.amount * p.unit.nanos ≤ 999 * 1000000 := Nat.mul_le_mul (by omega) bound
    rw [plusWhole?, if_pos small, word?_of_lt (by omega)]
    exact plus?_eq (by omega) (by omega)
  · -- The seconds of a large one are no more than those of the sum.
    have below : sum.nanos < 2 ^ 64 * nanosPerSecond := sum.fits
    obtain ⟨each, named⟩ : ∃ each, p.unit.nanos / nanosPerSecond = each := ⟨_, rfl⟩
    rw [named] at seconds
    rw [seconds, ← Nat.mul_assoc] at adds
    -- So the number of seconds is a word, and is added without overflow.
    have fits : p.amount * each < 2 ^ 64 := by
      have second : nanosPerSecond = 1000000000 := rfl
      rw [second] at adds below
      omega
    have sums : total.plus? (p.amount * each) 0 = some sum :=
      plus?_eq (by decide) (by rw [adds, Nat.add_zero])
    rw [plusWhole?, if_neg (by simp [large]), named, word?_of_lt fits, Option.bind_eq_bind,
      Option.bind_some, sums]

/-- An amount with the name of its unit is added where the sum is a length of time. -/
theorem close?_of_sound {p : Part} (sound : p.Sound) {total sum : Duration}
    (adds : sum.nanos = total.nanos + p.nanos) :
    close? total ⟨p.amount, 0, 1⟩ p.name.toList = some sum := by
  -- The name is that of the unit, and there is no fraction to add.
  rw [close?, String.ofList_toList, sound.known.named]
  change (total.plusWhole? p.unit p.amount).bind (fun total => total.plusPart? p.unit 0 1) = _
  rw [plusWhole?_of_sound sound adds]
  exact sum.plusPart?_zero p.unit

/-- The characters of a part. -/
def Part.chars (p : Part) : List Char := (toString p.amount).toList ++ p.name.toList

/-- Digits are read one by one into the number that has begun. -/
theorem foldlM_step?_number {digits : List Char} (all : ∀ c ∈ digits, c.isDigit = true)
    (total : Duration) {n : Nat} (fits : Nat.ofDigitChars 10 digits n < 2 ^ 64) :
    digits.foldlM Reading.step? (.number total n) =
      some (.number total (Nat.ofDigitChars 10 digits n)) := by
  induction digits generalizing n with
  | nil => rfl
  | cons c rest ih =>
    have digit : c.isDigit = true := all c List.mem_cons_self
    rw [Nat.ofDigitChars_cons] at fits ⊢
    -- The number up to here is no larger than the whole, so it is a word as well.
    have part := Text.le_ofDigitChars rest (10 * n + (c.toNat - '0'.toNat))
    have read : Reading.step? (.number total n) c =
        some (.number total (10 * n + (c.toNat - '0'.toNat))) := by
      have word : word? (n * 10 + digitValue c) = some (10 * n + (c.toNat - '0'.toNat)) := by
        rw [Nat.mul_comm n 10]
        exact word?_of_lt (Nat.lt_of_le_of_lt part fits)
      simp [Reading.step?, digit, word]
    rw [List.foldlM_cons, read]
    exact ih (fun d member => all d (List.mem_cons_of_mem _ member)) fits

/-- A number that is written where an amount may begin is that amount. -/
theorem foldlM_step?_amount (total : Option Duration) {n : Nat} (fits : n < 2 ^ 64) :
    (toString n).toList.foldlM Reading.step? (.between total) =
      some (.number (total.getD zero) n) := by
  have all : ∀ c ∈ Nat.toDigits 10 n, c.isDigit = true := fun _ => Text.isDigit_of_mem_toDigits
  have value : Nat.ofDigitChars 10 (Nat.toDigits 10 n) 0 = n := Nat.ofDigitChars_ten_toDigits
  rw [Text.toList_toString]
  obtain ⟨c, rest, digits⟩ := Text.exists_toDigits_eq_cons n
  rw [digits] at all value ⊢
  have digit : c.isDigit = true := all c List.mem_cons_self
  rw [Nat.ofDigitChars_cons] at value
  -- The first digit begins the number, and those after it go on with it.
  have read : Reading.step? (.between total) c =
      some (.number (total.getD zero) (10 * 0 + (c.toNat - '0'.toNat))) := by
    simp [Reading.step?, digit, Text.isBlank_of_isDigit digit, digitValue]
  have later := foldlM_step?_number (fun d member => all d (List.mem_cons_of_mem _ member))
    (total.getD zero) (n := 10 * 0 + (c.toNat - '0'.toNat)) (by omega)
  rw [value] at later
  rw [List.foldlM_cons, read]
  exact later

/-- A part that is written where an amount may begin is read up to the end of the name of its unit. -/
theorem Part.Sound.read {p : Part} (sound : p.Sound) {total : Option Duration} {sum : Duration}
    (adds : sum.nanos = (total.getD zero).nanos + p.nanos) :
    p.chars.foldlM Reading.step? (.between total) =
      some (.unit (total.getD zero) ⟨p.amount, 0, 1⟩ p.name.toList) := by
  have below : sum.nanos < 2 ^ 64 * nanosPerSecond := sum.fits
  have unit : 1 ≤ p.unit.nanos := by cases p.unit <;> decide
  -- The amount is a word: for a small unit by its bound, for a large one by the sum.
  have fits : p.amount < 2 ^ 64 := by
    rcases p.unit.nanos_cases with ⟨small, bound⟩ | ⟨large, seconds⟩
    · have counted := sound.small small
      omega
    · -- A large unit is at least a second, and there are fewer seconds than that.
      have second : nanosPerSecond ≤ p.unit.nanos := by
        generalize p.unit.nanos / nanosPerSecond = each at seconds
        rcases each with _ | each
        · omega
        · rw [seconds]
          exact Nat.le_mul_of_pos_left _ (Nat.succ_pos each)
      have least : p.amount * nanosPerSecond ≤ p.nanos := Nat.mul_le_mul_left p.amount second
      have seconds : nanosPerSecond = 1000000000 := rfl
      rw [seconds] at least below
      omega
  rw [Part.chars, List.foldlM_append, foldlM_step?_amount total fits, Option.bind_eq_bind,
    Option.bind_some, sound.known.read]

/-- The texts of parts, each with a blank before the next. -/
def joined (parts : List Part) : List Char := [' '].intercalate (parts.map Part.chars)

/-- Parts that are written one after another are read as their sum. -/
theorem read_joined {parts : List Part} (sound : ∀ p ∈ parts, p.Sound) (some_ : parts ≠ [])
    {total : Option Duration} {sum : Duration}
    (adds : sum.nanos = (total.getD zero).nanos + (parts.map Part.nanos).sum) :
    ((joined parts).foldlM Reading.step? (.between total)).bind Reading.finish? = some sum := by
  -- The induction is on the parts, with what has been read so far as the total.
  induction parts generalizing total with
  | nil => exact absurd rfl some_
  | cons p rest ih =>
    have head : p.Sound := sound p List.mem_cons_self
    -- The sum up to here is a length of time, as it is no more than the whole.
    have below := sum.fits
    rw [List.map_cons, List.sum_cons] at adds
    obtain ⟨part, partial_⟩ : ∃ part : Duration, part.nanos = (total.getD zero).nanos + p.nanos :=
      ⟨⟨(total.getD zero).nanos + p.nanos, by omega⟩, rfl⟩
    have closed := close?_of_sound head partial_
    have read := head.read partial_
    cases rest with
    | nil =>
      -- The last part completes the sum.
      have same : part = sum := by
        cases part
        cases sum
        simp_all
      have text : joined [p] = p.chars := by simp [joined, List.intercalate]
      rw [text, read, ← same]
      exact closed
    | cons q rest =>
      have text : joined (p :: q :: rest) = p.chars ++ ' ' :: joined (q :: rest) := by
        simp [joined, List.intercalate_cons_cons]
      -- The blank after the part closes it.
      have blank : Reading.step? (.unit (total.getD zero) ⟨p.amount, 0, 1⟩ p.name.toList) ' ' =
          some (.between (some part)) := by
        change (close? _ _ _).map _ = _
        rw [closed]
        rfl
      rw [text, List.foldlM_append, read, Option.bind_eq_bind, Option.bind_some, List.foldlM_cons,
        blank, Option.bind_eq_bind, Option.bind_some]
      exact ih (fun r member => sound r (List.mem_cons_of_mem _ member)) (by simp)
        (by rw [Option.getD_some]; omega)

/-- A word in the plural, unless there is one of what it names. -/
def plural (n : Nat) (word : String) : String := if n = 1 then word else word ++ "s"

/-- A unit is known by whichever form of its word is written, if it is known by both. -/
theorem TimeUnit.Known.counted {unit : TimeUnit} {word : String} (one : unit.Known word)
    (many : unit.Known (word ++ "s")) (n : Nat) : unit.Known (plural n word) := by
  -- One or many: the word with its ending is known too.
  unfold plural
  split
  · exact one
  · exact many

/-- All parts of a length of time from years down, also those that are not written. -/
def allParts (d : Duration) : List Part :=
  let s := d.seconds
  let n := d.subsecond
  [⟨s / 31557600, .year, plural (s / 31557600) "year"⟩,
    ⟨s % 31557600 / 2630016, .month, plural (s % 31557600 / 2630016) "month"⟩,
    ⟨s % 31557600 % 2630016 / 86400, .day, plural (s % 31557600 % 2630016 / 86400) "day"⟩,
    ⟨s % 31557600 % 2630016 % 86400 / 3600, .hour, "h"⟩,
    ⟨s % 31557600 % 2630016 % 86400 % 3600 / 60, .minute, "m"⟩,
    ⟨s % 31557600 % 2630016 % 86400 % 60, .second, "s"⟩,
    ⟨n / 1000000, .millisecond, "ms"⟩, ⟨n / 1000 % 1000, .microsecond, "us"⟩,
    ⟨n % 1000, .nanosecond, "ns"⟩]

/-- The parts that are written. -/
def parts (d : Duration) : List Part := d.allParts.filter (fun p => p.amount ≠ 0)

/-- The text of a length of time consists of its parts. -/
theorem toList_toText {d : Duration} (some_ : d.nanos ≠ 0) : d.toText.toList = joined d.parts := by
  -- Each item is a part, or nothing for a part that is not written.
  have text : d.toText = " ".intercalate (d.allParts.flatMap (fun p => item p.amount p.name)) := by
    simp only [toText, if_neg some_, allParts, List.flatMap_cons, List.flatMap_nil, List.append_nil,
      List.append_assoc, wordItem, plural]
  have written : ∀ l : List Part, (l.flatMap (fun p => item p.amount p.name)).map String.toList =
      (l.filter (fun p => p.amount ≠ 0)).map Part.chars := by
    intro l
    induction l with
    | nil => rfl
    | cons p rest ih =>
      by_cases zero : p.amount = 0
      · simpa [item, zero] using ih
      · simpa [item, zero, Part.chars] using ih
  rw [text, String.toList_intercalate, written]
  rfl

/-- A reader can read every part. -/
theorem sound_of_mem_allParts {d : Duration} {p : Part} (member : p ∈ d.allParts) : p.Sound := by
  have rest : d.subsecond < 1000000000 := Nat.mod_lt _ (by decide)
  -- Each unit is read back from the name under which it is written, in the singular and in the plural.
  have years : ∀ n, TimeUnit.year.Known (plural n "year") :=
    TimeUnit.Known.counted ⟨by decide, by decide, by decide⟩ ⟨by decide, by decide, by decide⟩
  have months : ∀ n, TimeUnit.month.Known (plural n "month") :=
    TimeUnit.Known.counted ⟨by decide, by decide, by decide⟩ ⟨by decide, by decide, by decide⟩
  have days : ∀ n, TimeUnit.day.Known (plural n "day") :=
    TimeUnit.Known.counted ⟨by decide, by decide, by decide⟩ ⟨by decide, by decide, by decide⟩
  have hours : TimeUnit.hour.Known "h" := ⟨by decide, by decide, by decide⟩
  have minutes : TimeUnit.minute.Known "m" := ⟨by decide, by decide, by decide⟩
  have seconds : TimeUnit.second.Known "s" := ⟨by decide, by decide, by decide⟩
  have millis : TimeUnit.millisecond.Known "ms" := ⟨by decide, by decide, by decide⟩
  have micros : TimeUnit.microsecond.Known "us" := ⟨by decide, by decide, by decide⟩
  have nanos : TimeUnit.nanosecond.Known "ns" := ⟨by decide, by decide, by decide⟩
  simp only [allParts, List.mem_cons, List.not_mem_nil, or_false] at member
  -- Only what is below a second is counted in small units.
  rcases member with rfl | rfl | rfl | rfl | rfl | rfl | rfl | rfl | rfl
  · exact ⟨years _, fun small => by cases small⟩
  · exact ⟨months _, fun small => by cases small⟩
  · exact ⟨days _, fun small => by cases small⟩
  · exact ⟨hours, fun small => by cases small⟩
  · exact ⟨minutes, fun small => by cases small⟩
  · exact ⟨seconds, fun small => by cases small⟩
  · exact ⟨millis, fun _ => by simp only; omega⟩
  · exact ⟨micros, fun _ => by simp only; omega⟩
  · exact ⟨nanos, fun _ => by simp only; omega⟩

/-- What is summed over a list that is written out is added up part by part. -/
theorem sum_map_written_out (f : Part → Nat) (a b c d e g h i j : Part) :
    ([a, b, c, d, e, g, h, i, j].map f).sum =
      f a + (f b + (f c + (f d + (f e + (f g + (f h + (f i + f j))))))) := by
  simp only [List.map_cons, List.map_nil, List.sum_cons, List.sum_nil, Nat.add_zero]

/-- A part is as long as so many of its unit. -/
theorem Part.nanos_eq_mul (amount : Nat) (unit : TimeUnit) (name : String) :
    (⟨amount, unit, name⟩ : Part).nanos = amount * unit.nanos := rfl

/-- The parts add up to the whole. -/
theorem sum_allParts (d : Duration) : (d.allParts.map Part.nanos).sum = d.nanos := by
  have whole : nanosPerSecond * d.seconds + d.subsecond = d.nanos :=
    Nat.div_add_mod d.nanos nanosPerSecond
  -- Seconds and nanoseconds are split apart from each other, so each of the two sums up by itself.
  rw [allParts, sum_map_written_out, ← whole]
  generalize d.seconds = s
  generalize d.subsecond = n
  repeat rw [Part.nanos_eq_mul]
  -- With the units as numbers this is the sum of quotients and remainders.
  have year : TimeUnit.year.nanos = 31557600000000000 := by decide
  have month : TimeUnit.month.nanos = 2630016000000000 := by decide
  have day : TimeUnit.day.nanos = 86400000000000 := by decide
  have hour : TimeUnit.hour.nanos = 3600000000000 := by decide
  have minute : TimeUnit.minute.nanos = 60000000000 := by decide
  have sec : TimeUnit.second.nanos = 1000000000 := by decide
  have millisecond : TimeUnit.millisecond.nanos = 1000000 := by decide
  have microsecond : TimeUnit.microsecond.nanos = 1000 := by decide
  have nanosecond : TimeUnit.nanosecond.nanos = 1 := by decide
  rw [year, month, day, hour, minute, sec, millisecond, microsecond, nanosecond]
  have second : nanosPerSecond = 1000000000 := rfl
  rw [second]
  omega

/-- Parts that are not written add nothing. -/
theorem sum_parts (d : Duration) : (d.parts.map Part.nanos).sum = d.nanos := by
  -- Parts that are not written have amount zero.
  rw [← sum_allParts, parts]
  generalize d.allParts = l
  induction l with
  | nil => rfl
  | cons p rest ih =>
    by_cases zero : p.amount = 0
    · simpa [Part.nanos, zero] using ih
    · simpa [zero] using ih

/-- The text of a length of time names it. -/
theorem ofText?_toText (d : Duration) : ofText? d.toText = some d := by
  by_cases nothing : d.nanos = 0
  -- Zero has a text of its own.
  · obtain rfl : d = zero := by
      cases d
      simp_all [zero, ofSeconds]
    decide
  · have sum := d.sum_parts
    -- A length that is not zero has a part to write.
    have some_ : d.parts ≠ [] := by
      intro empty
      rw [empty] at sum
      exact nothing sum.symm
    have sound : ∀ p ∈ d.parts, p.Sound :=
      fun p member => sound_of_mem_allParts ((List.mem_filter.mp member).1)
    have adds : d.nanos = ((none : Option Duration).getD zero).nanos + (d.parts.map Part.nanos).sum := by
      rw [sum]
      exact (Nat.zero_add _).symm
    have read := read_joined sound some_ adds
    have text := toList_toText nothing
    -- An amount without a unit is none, so that this is not the text with which zero is read.
    have other : d.toText ≠ "0" := by
      intro same
      rw [← text, same] at read
      cases read
    rw [ofText?, if_neg other, text]
    exact read

end ImageBuild.Duration

import ImageBuild.Instant.Text
import ImageBuild.Proofs.Instant.Calendar
import ImageBuild.Proofs.Text.Digits

/-! What is written of a moment reads back as that moment, leap seconds included. -/

namespace ImageBuild.Instant

open Text (digitsValue skipBlanks)

/-- The digits of a number with zeros before it. -/
private def places (width n : Nat) : List Char :=
  List.replicate (width - (Nat.toDigits 10 n).length) '0' ++ Nat.toDigits 10 n

private theorem toList_padded (width n : Nat) : (padded width n).toList = places width n := by
  rw [padded, String.toList_ofList, places]

private theorem isDigit_of_mem_places {width n : Nat} {c : Char} (member : c ∈ places width n) :
    c.isDigit = true := by
  -- Leading zeros are digits too.
  rcases List.mem_append.mp member with zero | digit
  · rw [List.eq_of_mem_replicate zero]
    rfl
  · exact Text.isDigit_of_mem_toDigits digit

/-- A number that needs no more places fills the width. -/
private theorem length_places {width n : Nat} (some_ : 0 < width) (fits : n < 10 ^ width) :
    (places width n).length = width := by
  -- The zeros fill up what the digits leave of the width.
  have digits : (Nat.toDigits 10 n).length ≤ width :=
    (Nat.length_toDigits_le_iff (by decide) some_).mpr fits
  rw [places, List.length_append, List.length_replicate]
  omega

/-- The zeros before a number leave its value as it is. -/
private theorem digitsValue_places (width n : Nat) : digitsValue (places width n) = n := by
  -- Leading zeros add nothing to the value.
  have value : Nat.ofDigitChars 10 (Nat.toDigits 10 n) 0 = n := Nat.ofDigitChars_ten_toDigits
  rw [Text.digitsValue_eq_ofDigitChars, places, Nat.ofDigitChars_append,
    Nat.ofDigitChars_replicate_zero, Nat.mul_zero, value]

private theorem exists_places_eq_cons (width n : Nat) :
    ∃ c rest, places width n = c :: rest ∧ c.isDigit = true := by
  -- A number has at least one digit, whatever the width.
  obtain ⟨c, rest, digits⟩ := Text.exists_toDigits_eq_cons n
  have some_ : places width n ≠ [] := by
    rw [places, digits]
    simp
  obtain ⟨d, more, same⟩ := List.exists_cons_of_ne_nil some_
  exact ⟨d, more, same, isDigit_of_mem_places (same ▸ List.mem_cons_self)⟩

/-- Before digits there are no blanks. -/
private theorem skipBlanks_places (width n : Nat) (rest : List Char) :
    skipBlanks (places width n ++ rest) = places width n ++ rest := by
  -- The first character is a digit, and not blank.
  obtain ⟨c, more, same, digit⟩ := exists_places_eq_cons width n
  rw [same, List.cons_append, skipBlanks, List.dropWhile_cons_of_neg]
  rw [Text.isBlank_of_isDigit digit]
  decide

private theorem takeWhile_places (width n : Nat) {rest : List Char}
    (stop : ∀ c ∈ rest.head?, c.isDigit = false) :
    (places width n ++ rest).takeWhile Char.isDigit = places width n := by
  -- All of the places are digits, and what follows does not begin with one.
  rw [List.takeWhile_append_of_pos (fun _ => isDigit_of_mem_places)]
  cases rest with
  | nil => simp
  | cons c more =>
    rw [List.takeWhile_cons_of_neg, List.append_nil]
    simp [stop c rfl]

/-- A number is read up to what is no digit. -/
private theorem number?_places {most width n : Nat} {rest : List Char}
    (fits : (places width n).length ≤ most) (stop : ∀ c ∈ rest.head?, c.isDigit = false) :
    number? most (places width n ++ rest) = some (n, rest) := by
  -- As many characters as are looked at hold all digits, and maybe some of what follows.
  have cut : (places width n ++ rest).take most =
      places width n ++ rest.take (most - (places width n).length) := by
    rw [List.take_append, List.take_of_length_le fits]
  -- Of these the leading digits are the number.
  have digits : ((places width n ++ rest).take most).takeWhile Char.isDigit = places width n := by
    rw [cut]
    refine takeWhile_places width n fun c head => stop c ?_
    cases rest with
    | nil => simp at head
    | cons d more =>
      cases h : most - (places width n).length with
      | zero => simp [h] at head
      | succ k => simpa [h] using head
  obtain ⟨c, more, same, -⟩ := exists_places_eq_cons width n
  have some_ : (places width n).isEmpty = false := by rw [same]; rfl
  rw [number?, digits, digitsValue_places]
  simp [some_]

private theorem stop_mark {c : Char} (mark : c.isDigit = false) {rest : List Char} :
    ∀ d ∈ (c :: rest).head?, d.isDigit = false := by
  -- The head is the mark itself.
  intro d head
  obtain rfl : c = d := Option.some.inj head
  exact mark

/-- A field of two digits is read up to what is no digit. -/
private theorem field?_places {n : Nat} (fits : n < 100) {rest : List Char}
    (stop : ∀ c ∈ rest.head?, c.isDigit = false) :
    field? (places 2 n ++ rest) = some (n, rest) := by
  -- Fields have two digits, with no blanks to skip.
  rw [field?, skipBlanks_places]
  exact number?_places (length_places (by decide) fits).le stop

private theorem mark?_self {c : Char} (blank : Text.isBlank c = false) (rest : List Char) :
    mark? c (c :: rest) = some rest := by
  -- There is nothing to skip before the mark.
  rw [mark?, skipBlanks, List.dropWhile_cons_of_neg (by simp [blank])]
  exact if_pos rfl

/-- A year is read up to the mark after it, with or without a sign. -/
private theorem year?_yearText (year : Int) (rest : List Char) :
    year? ((yearText year).toList ++ '-' :: rest) = some (year, '-' :: rest) := by
  have stop : ∀ c ∈ ('-' :: rest).head?, c.isDigit = false := stop_mark rfl
  by_cases usual : 0 ≤ year ∧ year ≤ 9999
  · -- Usual years have four digits, and no sign by which the reader would begin otherwise.
    have read := number?_places (length_places (n := year.toNat) (by decide : 0 < 4) (by omega)).le stop
    have value : ((year.toNat : Nat) : Int) = year := by omega
    obtain ⟨c, more, same, digit⟩ := exists_places_eq_cons 4 year.toNat
    have unsigned : c ≠ '-' ∧ c ≠ '+' := by
      constructor <;> (rintro rfl; cases digit)
    rw [yearText, if_pos usual, toList_padded, year?, skipBlanks_places]
    rw [same, List.cons_append] at read ⊢
    split
    · rename_i head
      exact absurd (List.cons.inj head).1 unsigned.1
    · rename_i head
      exact absurd (List.cons.inj head).1 unsigned.2
    · rw [read, Option.map_some, value]
  · -- Outside the usual years a sign comes first, and any number of digits after it.
    have short : (places 4 year.natAbs).length ≤ (places 4 year.natAbs ++ '-' :: rest).length := by
      simp
    have read := number?_places short stop
    have minus : ∀ cs, year? ('-' :: cs) = (number? cs.length cs).map (fun r => (-(r.1 : Int), r.2)) :=
      fun _ => rfl
    have plus : ∀ cs, year? ('+' :: cs) = (number? cs.length cs).map (fun r => ((r.1 : Int), r.2)) :=
      fun _ => rfl
    -- The digits are those of the distance from zero, which the sign turns back into the year.
    have value : ((year.natAbs : Nat) : Int) = if year < 0 then -year else year := by
      split <;> omega
    rw [yearText, if_neg usual, String.toList_append, toList_padded]
    split
    · rw [if_pos ‹_›] at value
      have sign : "-".toList = ['-'] := rfl
      rw [sign, List.append_assoc, List.singleton_append, minus, read, Option.map_some, value,
        Int.neg_neg]
    · rw [if_neg ‹_›] at value
      have sign : "+".toList = ['+'] := rfl
      rw [sign, List.append_assoc, List.singleton_append, plus, read, Option.map_some, value]

/-- A fraction is read from as many digits as it is written in. -/
private theorem fraction?_places {width n : Nat} (some_ : 0 < width) (most : width ≤ 9)
    (fits : n < 10 ^ width) (rest : List Char) :
    fraction? ('.' :: (places width n ++ 'Z' :: rest)) =
      some (n * 10 ^ (9 - width), 'Z' :: rest) := by
  have stop : ∀ c ∈ ('Z' :: rest).head?, c.isDigit = false := stop_mark rfl
  have digits := takeWhile_places width n stop
  have length := length_places some_ fits
  obtain ⟨c, more, same, -⟩ := exists_places_eq_cons width n
  have nonempty : (places width n).isEmpty = false := by rw [same]; rfl
  -- Nine digits count at most, and there are no more.
  have counted : (places width n).take 9 = places width n :=
    List.take_of_length_le (by omega)
  rw [fraction?]
  simp only [digits, nonempty, counted, digitsValue_places, length]
  simp [List.drop_left' length]

/-- The fraction of a second is read as its nanoseconds. -/
private theorem fraction?_fractionText (t : Instant) (rest : List Char) :
    fraction? (t.fractionText.toList ++ 'Z' :: rest) =
      some (t.nanos % nanosPerSecond, 'Z' :: rest) := by
  have below : t.nanos % nanosPerSecond < 1000000000 := Nat.mod_lt _ (by decide)
  unfold fractionText
  generalize t.nanos % nanosPerSecond = n at below
  have point : ∀ width m, ("." ++ padded width m).toList ++ 'Z' :: rest =
      '.' :: (places width m ++ 'Z' :: rest) := by
    intro width m
    rw [String.toList_append, toList_padded]
    rfl
  simp only
  -- The fraction is written with none, three, six or nine digits; in each case the reader fills it up to nine.
  split
  next none =>
    rw [none]
    rfl
  split
  -- Filled up with zeros the digits are worth what was divided off.
  next millis =>
    have value : n / 1000000 * 10 ^ (9 - 3) = n := by omega
    rw [point, fraction?_places (by decide) (by decide) (by omega), value]
  split
  next micros =>
    have value : n / 1000 * 10 ^ (9 - 6) = n := by omega
    rw [point, fraction?_places (by decide) (by decide) (by omega), value]
  next =>
    rw [point, fraction?_places (by decide) (by decide) below]
    simp

/-- What follows the seconds is no digit of theirs. -/
private theorem stop_fraction (t : Instant) (rest : List Char) :
    ∀ c ∈ (t.fractionText.toList ++ 'Z' :: rest).head?, c.isDigit = false := by
  -- After the seconds comes either the point or the zone.
  have point : ∀ s, ∀ c ∈ (("." ++ s).toList ++ 'Z' :: rest).head?, c.isDigit = false := by
    intro s
    rw [String.toList_append]
    exact stop_mark (c := '.') rfl
  unfold fractionText
  simp only
  split
  · exact stop_mark (c := 'Z') rfl
  split
  · exact point _
  split <;> exact point _

/-- A moment is found from the fields that are written of it. -/
private theorem ofFields?_fields (t : Instant) :
    ofFields? (Date.ofDay t.day) (t.second / 3600) (t.second / 60 % 60)
      (t.second % 60 + t.nanos / nanosPerSecond) (t.nanos % nanosPerSecond) 0 = some t := by
  have years := Date.year_ofDay t.day_fits
  have bounds := t.second_lt
  have nanos_lt := t.nanos_lt
  have ends := t.leap_ends_minute
  have second : nanosPerSecond = 1000000000 := rfl
  rw [second] at nanos_lt ends ⊢
  -- The nanoseconds beyond a second are those of a leap second, which is the sixty-first.
  have nanos : (if t.second % 60 + t.nanos / 1000000000 = 60 then t.nanos % 1000000000 + 1000000000
      else t.nanos % 1000000000) = t.nanos := by
    split <;> omega
  have clock : ((t.second / 3600 : Nat) : Int) * 3600 + ((t.second / 60 % 60 : Nat) : Int) * 60 +
      ((if t.second % 60 + t.nanos / 1000000000 = 60 then 59
        else t.second % 60 + t.nanos / 1000000000 : Nat) : Int) - 0 = t.second := by
    split <;> omega
  -- The clock stays within the day, so the offset carries nothing over.
  have day : Int.fdiv (t.second : Int) 86400 = 0 := by
    rw [Int.fdiv_eq_ediv_of_nonneg _ (by decide)]
    omega
  have rest : (Int.fmod (t.second : Int) 86400).toNat = t.second := by
    rw [Int.fmod_eq_emod_of_nonneg _ (by decide)]
    omega
  have valid : ¬((¬(Date.ofDay t.day).isValid = true) ∨ 24 ≤ t.second / 3600 ∨
      60 ≤ t.second / 60 % 60 ∨ 61 ≤ t.second % 60 + t.nanos / 1000000000) := by
    rw [Date.isValid_ofDay]
    simp only [not_true_eq_false, false_or]
    omega
  -- A moment has a day that the calendar can name.
  have within : ¬((Date.ofDay t.day).year < -262143 ∨ 262142 < (Date.ofDay t.day).year) := by omega
  have found : of? t.day t.second t.nanos = some t :=
    dif_pos ⟨t.day_fits, t.second_lt, t.nanos_lt, t.leap_ends_minute⟩
  rw [ofFields?, if_neg valid, if_neg within]
  simp only [second, nanos, clock, day, rest, Date.toDay_ofDay, Int.add_zero]
  exact found

/-- The text of a moment names it. -/
theorem ofText?_toText (t : Instant) : ofText? t.toText = some t := by
  have bounds := t.second_lt
  have nanos := t.nanos_lt
  have ends := t.leap_ends_minute
  have second : nanosPerSecond = 1000000000 := rfl
  rw [second] at nanos ends
  -- Month and day have two digits at most.
  have month : (Date.ofDay t.day).month < 100 ∧ (Date.ofDay t.day).day < 100 := by
    have valid := Date.isValid_ofDay t.day
    have most : Date.daysInMonth (Date.ofDay t.day).year (Date.ofDay t.day).month ≤ 31 := by
      unfold Date.daysInMonth
      split <;> split <;> omega
    simp only [Date.isValid, Bool.and_eq_true, decide_eq_true_eq] at valid
    omega
  -- The text is the fields in order, with a mark between any two of them.
  have text : t.toText.toList = (yearText (Date.ofDay t.day).year).toList ++ '-' ::
      (places 2 (Date.ofDay t.day).month ++ '-' :: (places 2 (Date.ofDay t.day).day ++ 'T' ::
      (places 2 (t.second / 3600) ++ ':' :: (places 2 (t.second / 60 % 60) ++ ':' ::
      (places 2 (t.second % 60 + t.nanos / nanosPerSecond) ++ (t.fractionText.toList ++ ['Z'])))))) := by
    simp [toText, dateText, clockText, toList_padded]
  have dash : ∀ rest, mark? '-' ('-' :: rest) = some rest := mark?_self rfl
  have colon : ∀ rest, mark? ':' (':' :: rest) = some rest := mark?_self rfl
  have zone : offset? (skipBlanks ['Z']) = some (0, []) := rfl
  -- Every field is read up to the mark that is written after it.
  have months : ∀ rest, field? (places 2 (Date.ofDay t.day).month ++ '-' :: rest) = some (_, _) :=
    fun _ => field?_places month.1 (stop_mark rfl)
  have days : ∀ rest, field? (places 2 (Date.ofDay t.day).day ++ 'T' :: rest) = some (_, _) :=
    fun _ => field?_places month.2 (stop_mark rfl)
  have hours : ∀ rest, field? (places 2 (t.second / 3600) ++ ':' :: rest) = some (_, _) :=
    fun _ => field?_places (by omega) (stop_mark rfl)
  have minutes : ∀ rest, field? (places 2 (t.second / 60 % 60) ++ ':' :: rest) = some (_, _) :=
    fun _ => field?_places (by omega) (stop_mark rfl)
  have seconds := field?_places (n := t.second % 60 + t.nanos / nanosPerSecond)
    (by rw [second]; omega) (stop_fraction t [])
  rw [ofText?, text]
  -- From here on field after field is consumed.
  refine Option.bind_eq_some_iff.mpr ⟨_, year?_yearText _ _, ?_⟩
  refine Option.bind_eq_some_iff.mpr ⟨_, dash _, Option.bind_eq_some_iff.mpr ⟨_, months _, ?_⟩⟩
  refine Option.bind_eq_some_iff.mpr ⟨_, dash _, Option.bind_eq_some_iff.mpr ⟨_, days _, ?_⟩⟩
  refine Option.bind_eq_some_iff.mpr ⟨_, hours _, ?_⟩
  refine Option.bind_eq_some_iff.mpr ⟨_, colon _, Option.bind_eq_some_iff.mpr ⟨_, minutes _, ?_⟩⟩
  refine Option.bind_eq_some_iff.mpr ⟨_, colon _, Option.bind_eq_some_iff.mpr ⟨_, seconds, ?_⟩⟩
  refine Option.bind_eq_some_iff.mpr ⟨_, fraction?_fractionText t [], ?_⟩
  refine Option.bind_eq_some_iff.mpr ⟨_, zone, ?_⟩
  exact ofFields?_fields t

end ImageBuild.Instant

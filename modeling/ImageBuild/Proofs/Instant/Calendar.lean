import ImageBuild.Instant

/-! The days since 1970-01-01 and the dates of the calendar name each other. -/

namespace ImageBuild.Date

/-- A day of an era of 400 years: centuries, then fours of years, then years, then days. -/
private structure Terms (day century four year rest : Int) : Prop where
  sum : day = 36524 * century + 1461 * four + 365 * year + rest
  centuries : 0 ≤ century ∧ century ≤ 3
  fours : 0 ≤ four ∧ four ≤ 24
  years : 0 ≤ year ∧ year ≤ 3
  days : 0 ≤ rest ∧ rest ≤ 365
  leap : rest = 365 → year = 3 ∧ (four < 24 ∨ century = 3)

private theorem exists_terms {day : Int} (first : 0 ≤ day) (last : day ≤ 146096) :
    ∃ century four year rest, Terms day century four year rest := by
  -- The last century and the last year of four have a day more than those before them.
  obtain ⟨century, centuries⟩ : ∃ century, century = min (day / 36524) 3 := ⟨_, rfl⟩
  obtain ⟨later, inCentury⟩ : ∃ later, later = day - 36524 * century := ⟨_, rfl⟩
  obtain ⟨year, years⟩ : ∃ year, year = min (later % 1461 / 365) 3 := ⟨_, rfl⟩
  refine ⟨century, later / 1461, year, later % 1461 - 365 * year, ?_, ?_, ?_, ?_, ?_, ?_⟩ <;> omega

private theorem Terms.yearOfEra {day c f y rest : Int} (terms : Terms day c f y rest) :
    (day - day / 1460 + day / 36524 - day / 146096) / 365 = 100 * c + 4 * f + y := by
  obtain ⟨sum, centuries, fours, years, days, leap⟩ := terms
  -- Within the centuries the correction of a whole era does not yet count.
  have century : day / 36524 - day / 146096 = c := by
    by_cases inside : 1461 * f + 365 * y + rest < 36524
    · have whole : day / 36524 = c := by omega
      omega
    · -- Only the last day of the era is beyond its centuries.
      have last : c = 3 ∧ f = 24 ∧ y = 3 ∧ rest = 365 := by omega
      omega
  -- The days of leap years are counted ahead of time only at the end of four years.
  obtain ⟨ahead, counted, bit, early, late⟩ : ∃ ahead, day / 1460 = 25 * c + f + ahead ∧
      (0 ≤ ahead ∧ ahead ≤ 1) ∧ (ahead = 1 → 1460 ≤ 24 * c + f + 365 * y + rest) ∧
      (ahead = 0 → 24 * c + f + 365 * y + rest < 1460) := by
    refine ⟨day / 1460 - 25 * c - f, ?_⟩
    omega
  omega

private theorem Terms.dayOfYear {day c f y rest : Int} (terms : Terms day c f y rest) :
    day - (365 * (100 * c + 4 * f + y) + (100 * c + 4 * f + y) / 4 - (100 * c + 4 * f + y) / 100) =
      rest := by
  -- Of the years before this one every fourth has a day more, except at the centuries.
  obtain ⟨sum, centuries, fours, years, days, leap⟩ := terms
  have four : (100 * c + 4 * f + y) / 4 = 25 * c + f := by omega
  have century : (100 * c + 4 * f + y) / 100 = c := by omega
  omega

/-- The month of a day of a year that begins in March, counted from March. -/
private def monthOfYear (day : Int) : Int := (5 * day + 2) / 153

/-- The number of a month in the year that begins in January. -/
private def calendarMonth (month : Int) : Int := if month < 10 then month + 3 else month - 9

/-- The date of a day whose era and terms are known. -/
private theorem ofDay_eq {day era c f y rest : Int} (inEra : (day + 719468) / 146097 = era)
    (terms : Terms (day + 719468 - era * 146097) c f y rest) :
    ofDay day = ⟨if calendarMonth (monthOfYear rest) ≤ 2
        then 100 * c + 4 * f + y + era * 400 + 1 else 100 * c + 4 * f + y + era * 400,
      (calendarMonth (monthOfYear rest)).toNat,
      (rest - (153 * monthOfYear rest + 2) / 5 + 1).toNat⟩ := by
  -- The divisions round towards minus infinity, and all divisors are positive.
  simp (disch := decide) only [ofDay, Int.fdiv_eq_ediv_of_nonneg, inEra, terms.yearOfEra,
    terms.dayOfYear, monthOfYear, calendarMonth]
  congr

/-- A day of a year that begins in March, as a day of one of its months. -/
private structure MonthDay (rest month day : Int) : Prop where
  months : 0 ≤ month ∧ month ≤ 11
  counted : (153 * month + 2) / 5 + day - 1 = rest
  days : 1 ≤ day ∧ day ≤ 31
  short : month = 1 ∨ month = 3 ∨ month = 6 ∨ month = 8 → day ≤ 30
  late : 10 ≤ month ↔ 306 ≤ rest
  shortest : month = 11 → day ≤ 29 ∧ (day = 29 → rest = 365)

private theorem monthDay {rest : Int} (days : 0 ≤ rest ∧ rest ≤ 365) :
    MonthDay rest (monthOfYear rest) (rest - (153 * monthOfYear rest + 2) / 5 + 1) := by
  -- Each bound is one on a quotient by 153, the days of five months.
  unfold monthOfYear
  refine ⟨?_, ?_, ?_, ?_, ?_, ?_⟩ <;> omega

/-- Every day is one of a month, and that month one of a year in the terms of an era. -/
private theorem exists_ofDay_eq (day : Int) : ∃ era c f y rest month dayOfMonth year calendar,
    Terms (day + 719468 - era * 146097) c f y rest ∧ MonthDay rest month dayOfMonth ∧
      (month < 10 → year = 100 * c + 4 * f + y + era * 400 ∧ calendar = month + 3) ∧
      (10 ≤ month → year = 100 * c + 4 * f + y + era * 400 + 1 ∧ calendar = month - 9) ∧
      ofDay day = ⟨year, calendar.toNat, dayOfMonth.toNat⟩ := by
  obtain ⟨era, inEra⟩ : ∃ era, (day + 719468) / 146097 = era := ⟨_, rfl⟩
  have first : 0 ≤ day + 719468 - era * 146097 := by omega
  obtain ⟨c, f, y, rest, terms⟩ := exists_terms first (by omega)
  have inMonth := monthDay terms.days
  have months := inMonth.months
  -- Counted from March on, the last two months belong to the next calendar year.
  refine ⟨_, c, f, y, rest, _, _, _, _, terms, inMonth, ?_, ?_, ofDay_eq inEra terms⟩
  · intro early
    have calendar : calendarMonth (monthOfYear rest) = monthOfYear rest + 3 := if_pos early
    exact ⟨if_neg (by omega), calendar⟩
  · intro late
    have calendar : calendarMonth (monthOfYear rest) = monthOfYear rest - 9 := if_neg (by omega)
    exact ⟨if_pos (by omega), calendar⟩

/-- The date of a day is the date with its number. -/
theorem toDay_ofDay (day : Int) : (ofDay day).toDay = day := by
  obtain ⟨era, c, f, y, rest, month, dayOfMonth, year, calendar, terms, inMonth, early, late, date⟩ :=
    exists_ofDay_eq day
  obtain ⟨sum, centuries, fours, years, days, -⟩ := terms
  obtain ⟨months, counted, monthDays, -, -, -⟩ := inMonth
  -- Counted from March on, the year and the month are those of the terms again.
  have fromMarch : (if calendar.toNat ≤ 2 then year - 1 else year) = 100 * c + 4 * f + y + era * 400 ∧
      ((calendar.toNat : Int) + 9) % 12 = month := by
    split <;> omega
  have inEra : (100 * c + 4 * f + y + era * 400) / 400 = era := by omega
  have four : (100 * c + 4 * f + y) / 4 = 25 * c + f := by omega
  have century : (100 * c + 4 * f + y) / 100 = c := by omega
  rw [date]
  simp (disch := decide) only [toDay, Int.fdiv_eq_ediv_of_nonneg, fromMarch, inEra,
    Int.add_sub_cancel, four, century]
  omega

/-- The calendar has the date of every day. -/
theorem isValid_ofDay (day : Int) : (ofDay day).isValid = true := by
  obtain ⟨era, c, f, y, rest, month, dayOfMonth, year, calendar, terms, inMonth, early, late, date⟩ :=
    exists_ofDay_eq day
  obtain ⟨-, centuries, fours, years, days, leap⟩ := terms
  obtain ⟨months, -, monthDays, short, -, shortest⟩ := inMonth
  -- Only February can be too short for its day, and the year has that day if the terms do.
  have inMonth : dayOfMonth.toNat ≤ daysInMonth year calendar.toNat := by
    unfold daysInMonth
    split
    · have february : month = 11 := by omega
      -- The 29th of February is the last of 366 days, which only leap years have.
      have leapYear : dayOfMonth = 29 → isLeapYear year = true := by
        intro last
        have ends := leap ((shortest february).2 last)
        simp only [isLeapYear, Bool.and_eq_true, Bool.or_eq_true, decide_eq_true_eq]
        omega
      split <;> rename_i long
      · omega
      · have before : dayOfMonth ≠ 29 := fun last => long (leapYear last)
        omega
    · split <;> omega
  rw [date]
  simp only [isValid, Bool.and_eq_true, decide_eq_true_eq]
  exact ⟨⟨⟨by omega, by omega⟩, by omega⟩, inMonth⟩

/-- The days of moments lie in the years that are read. -/
theorem year_ofDay {day : Int} (fits : -96465292 ≤ day ∧ day ≤ 95026236) :
    -262143 ≤ (ofDay day).year ∧ (ofDay day).year ≤ 262142 := by
  obtain ⟨era, c, f, y, rest, month, dayOfMonth, year, calendar, terms, inMonth, early, late, date⟩ :=
    exists_ofDay_eq day
  obtain ⟨sum, centuries, fours, years, days, -⟩ := terms
  have latest := inMonth.late
  have bounds : -262143 ≤ year ∧ year ≤ 262142 := by
    refine ⟨by omega, Int.not_lt.mp fun above => ?_⟩
    -- A later year would be in the last era, and there in its second century.
    have lastEra : era = 655 := by omega
    have century : c = 1 := by omega
    omega
  rw [date]
  exact bounds

end ImageBuild.Date

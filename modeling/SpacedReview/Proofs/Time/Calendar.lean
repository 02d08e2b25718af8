import Mathlib.Tactic.IntervalCases
import SpacedReview.Time.Date

/-!
# The order of dates

Numbering dates by days respects their order: of two dates of the calendar, the one that comes first
by year, month and day has the lower number. Every number is that of a date of the calendar, so the
dates behind two numbers are in the order of the numbers.

The numbering counts years from March, and a year of the calendar goes over two of those. All the
arithmetic of the order is in `dayNumber_bounds`, which puts the days of a year between the days
before two first days of January.

## Main statements

* `valid_ofDayNumber`: every number is that of a date of the calendar.
* `dayNumber_lt_of_before`: earlier dates have lower numbers.
* `before_ofDayNumber`: lower numbers are those of earlier dates.
* `year_ofDayNumber_le_iff`: the days up to the end of a year, by their numbers.
-/

namespace SpacedReview.Time.Date

/-- Does a date come in front of another, by year, month and day? -/
def Before (d e : Date) : Prop :=
  d.year < e.year ∨ d.year = e.year ∧ (d.month < e.month ∨ d.month = e.month ∧ d.day < e.day)

theorem before_trichotomy (d e : Date) : d.Before e ∨ d = e ∨ e.Before d := by
  have hext : d.year = e.year → d.month = e.month → d.day = e.day → d = e := by
    intro hyear hmonth hday
    cases d
    cases e
    simp_all
  simp only [Before]
  rcases lt_trichotomy d.year e.year with h | hyear | h
  · exact .inl (.inl h)
  · rcases lt_trichotomy d.month e.month with h | hmonth | h
    · exact .inl (.inr ⟨hyear, .inl h⟩)
    · rcases lt_trichotomy d.day e.day with h | hday | h
      · exact .inl (.inr ⟨hyear, .inr ⟨hmonth, h⟩⟩)
      · exact .inr (.inl (hext hyear hmonth hday))
      · exact .inr (.inr (.inr ⟨hyear.symm, .inr ⟨hmonth.symm, h⟩⟩))
    · exact .inr (.inr (.inr ⟨hyear.symm, .inl h⟩))
  · exact .inr (.inr (.inl h))

/-! ### Years -/

/-- The leap day of a year counts in the year that starts in the March before it. -/
theorem daysBeforeYear_eq (year : Int) :
    daysBeforeYear year = daysBeforeYear (year - 1) + 365 + if isLeapYear year then 1 else 0 := by
  have hquarter : year / 4 = (year - 1) / 4 + if year % 4 = 0 then 1 else 0 := by
    split <;> omega
  have hhundredth : year / 100 = (year - 1) / 100 + if year % 100 = 0 then 1 else 0 := by
    split <;> omega
  have hcycle : year / 400 = (year - 1) / 400 + if year % 400 = 0 then 1 else 0 := by
    split <;> omega
  have hleap : (if isLeapYear year = true then (1 : Int) else 0) =
      (if year % 4 = 0 then 1 else 0) - (if year % 100 = 0 then 1 else 0) +
        if year % 400 = 0 then 1 else 0 := by
    simp only [isLeapYear, Bool.and_eq_true, Bool.or_eq_true, beq_iff_eq, bne_iff_ne]
    split_ifs <;> omega
  rw [hleap]
  simp only [daysBeforeYear]
  omega

theorem daysBeforeYear_mono {y z : Int} (h : y ≤ z) : daysBeforeYear y ≤ daysBeforeYear z := by
  simp only [daysBeforeYear]
  omega

theorem isLeapYear_add (cycle year : Int) : isLeapYear (400 * cycle + year) = isLeapYear year := by
  have hquarter : (400 * cycle + year) % 4 = year % 4 := by omega
  have hhundredth : (400 * cycle + year) % 100 = year % 100 := by omega
  have hcycle : (400 * cycle + year) % 400 = year % 400 := by omega
  simp only [isLeapYear, hquarter, hhundredth, hcycle]

/-! ### Days of a year -/

theorem daysInMonth_le (year : Int) (month : Nat) : daysInMonth year month ≤ 31 := by
  unfold daysInMonth
  split <;> (repeat' split) <;> omega

theorem dayNumber_of_le {d : Date} (hd : d.Valid) (h : d.month ≤ 2) : d.dayNumber + epochOffset =
    daysBeforeYear (d.year - 1) + daysBeforeMonth (d.month + 9) + d.day - 1 := by
  have hindex : (d.month + 9) % 12 = d.month + 9 := by
    obtain ⟨hfirst, -⟩ := hd
    omega
  simp only [dayNumber, if_pos h, hindex]
  omega

theorem dayNumber_of_lt {d : Date} (hd : d.Valid) (h : 2 < d.month) : d.dayNumber + epochOffset =
    daysBeforeYear d.year + daysBeforeMonth (d.month - 3) + d.day - 1 := by
  have hindex : (d.month + 9) % 12 = d.month - 3 := by
    obtain ⟨-, hlast, -⟩ := hd
    omega
  simp only [dayNumber, if_neg (Nat.not_le.2 h), hindex]
  omega

/-- A month from March on ends before the next one starts. -/
theorem daysBeforeMonth_add_day_le {d : Date} (hd : d.Valid) (h : 2 < d.month) :
    daysBeforeMonth (d.month - 3) + d.day ≤ daysBeforeMonth (d.month - 2) := by
  obtain ⟨year, month, day⟩ := d
  obtain ⟨-, hlast, -, hday⟩ := hd
  simp only at h hlast hday ⊢
  interval_cases month <;> simp [daysInMonth, daysBeforeMonth] at hday ⊢ <;> omega

/-- January and February, as the last months of a year that starts in March. -/
theorem daysBeforeMonth_add_day_le_of_le {d : Date} (hd : d.Valid) (h : d.month ≤ 2) :
    (d.month = 1 ∧ d.day ≤ 31) ∨
      d.month = 2 ∧ (d.day : Int) ≤ 28 + if isLeapYear d.year then 1 else 0 := by
  obtain ⟨year, month, day⟩ := d
  obtain ⟨hfirst, -, -, hday⟩ := hd
  simp only at h hfirst hday ⊢
  interval_cases month
  · exact .inl ⟨rfl, by simpa [daysInMonth] using hday⟩
  · refine .inr ⟨rfl, ?_⟩
    simp only [daysInMonth] at hday
    split at hday <;> simp_all

/-- The days of January and February come before the first of March. -/
theorem dayNumber_lt_of_le {d : Date} (hd : d.Valid) (h : d.month ≤ 2) :
    d.dayNumber + epochOffset < daysBeforeYear d.year := by
  have hyear := daysBeforeYear_eq d.year
  have hleap : (0 : Int) ≤ if isLeapYear d.year then 1 else 0 := by split <;> omega
  rw [dayNumber_of_le hd h]
  rcases daysBeforeMonth_add_day_le_of_le hd h with ⟨hmonth, hle⟩ | ⟨hmonth, hle⟩
  · simp only [hmonth, daysBeforeMonth]
    omega
  · simp only [hmonth, daysBeforeMonth]
    omega

/-- The days from March on come at or behind the first of March. -/
theorem le_dayNumber_of_lt {d : Date} (hd : d.Valid) (h : 2 < d.month) :
    daysBeforeYear d.year ≤ d.dayNumber + epochOffset := by
  have hday : 1 ≤ d.day := hd.2.2.1
  rw [dayNumber_of_lt hd h]
  omega

/-- The days of a year lie between two first days of January. -/
theorem dayNumber_bounds {d : Date} (hd : d.Valid) :
    daysBeforeYear (d.year - 1) + 306 ≤ d.dayNumber + epochOffset ∧
      d.dayNumber + epochOffset < daysBeforeYear d.year + 306 := by
  have hyear := daysBeforeYear_eq d.year
  have hleap : (0 : Int) ≤ if isLeapYear d.year then 1 else 0 := by split <;> omega
  have hfirst : 1 ≤ d.month := hd.1
  have hlast : d.month ≤ 12 := hd.2.1
  have hday : 1 ≤ d.day := hd.2.2.1
  by_cases h : d.month ≤ 2
  · have hmarch := dayNumber_lt_of_le hd h
    rw [dayNumber_of_le hd h] at hmarch ⊢
    simp only [daysBeforeMonth] at hmarch ⊢
    omega
  · have hmonth : 2 < d.month := by omega
    have hmarch := le_dayNumber_of_lt hd hmonth
    have hend := daysBeforeMonth_add_day_le hd hmonth
    rw [dayNumber_of_lt hd hmonth] at hmarch ⊢
    simp only [daysBeforeMonth] at hend hmarch ⊢
    omega

/-- Earlier dates have lower numbers. -/
theorem dayNumber_lt_of_before {d e : Date} (hd : d.Valid) (he : e.Valid) (h : d.Before e) :
    d.dayNumber < e.dayNumber := by
  have hday : 1 ≤ e.day := he.2.2.1
  rcases h with hyear | ⟨hyear, hmonth | ⟨hmonth, hlt⟩⟩
  · have hmono := daysBeforeYear_mono (show d.year ≤ e.year - 1 by omega)
    have hbefore := (dayNumber_bounds hd).2
    have hbehind := (dayNumber_bounds he).1
    omega
  · by_cases hd' : d.month ≤ 2
    · by_cases he' : e.month ≤ 2
      · have hbefore := dayNumber_of_le hd hd'
        have hbehind := dayNumber_of_le he he'
        have hfirst : 1 ≤ d.month := hd.1
        have hjanuary : d.month = 1 ∧ d.day ≤ 31 := by
          rcases daysBeforeMonth_add_day_le_of_le hd hd' with hjanuary | ⟨hfebruary, -⟩
          · exact hjanuary
          · omega
        have hfebruary : e.month = 2 := by omega
        rw [hyear, hjanuary.1] at hbefore
        rw [hfebruary] at hbehind
        simp only [daysBeforeMonth] at hbefore hbehind
        omega
      · have hbefore := dayNumber_lt_of_le hd hd'
        have hbehind := le_dayNumber_of_lt he (by omega)
        rw [hyear] at hbefore
        omega
    · have hbefore := dayNumber_of_lt hd (by omega)
      have hbehind := dayNumber_of_lt he (by omega)
      have hend := daysBeforeMonth_add_day_le hd (by omega)
      rw [hyear] at hbefore
      simp only [daysBeforeMonth] at hbefore hbehind hend
      omega
  · simp only [dayNumber, hyear, hmonth]
    omega

/-! ### Numbers -/

/-- The last day of a year that starts in March is its 366th only if its days take in a leap day. -/
theorem isLeapYear_of_splitCycle {n : Nat} (h : n < 146097) (hday : (splitCycle n).2 = 365) :
    isLeapYear ((splitCycle n).1 + 1) = true := by
  simp only [splitCycle] at hday ⊢
  generalize hcentury : min (n / 36524) 3 = century at *
  have hofCentury : century ≤ 3 ∧ 36524 * century ≤ n ∧
      (n - 36524 * century < 36524 ∨ century = 3 ∧ n - 36524 * century = 36524) := by
    omega
  generalize hrest : n - 36524 * century = ofCentury at *
  generalize hspan : ofCentury / 1461 = span at *
  generalize hofSpan : ofCentury % 1461 = ofSpan at *
  have hlong : ofCentury = 1461 * span + 1460 ∧ ofSpan = 1460 := by omega
  obtain ⟨hlong, rfl⟩ := hlong
  have hyear : min (1460 / 365) 3 = 3 := by decide
  rw [hyear]
  clear hcentury hrest hspan hofSpan hday hyear h
  rw [isLeapYear]
  simp only [Bool.and_eq_true, Bool.or_eq_true, beq_iff_eq, bne_iff_ne]
  push_cast
  refine ⟨by omega, ?_⟩
  omega

/-- A day of a year lies before the month behind its own. -/
theorem lt_daysBeforeMonth_splitYear (n : Nat) : n < daysBeforeMonth ((splitYear n).1 + 1) := by
  simp only [splitYear, daysBeforeMonth]
  omega

/-- Every number is that of a date of the calendar. -/
theorem valid_ofDayNumber (n : Int) : (ofDayNumber n).Valid := by
  have hcycle : ((n + epochOffset) % 146097).toNat < 146097 := by omega
  have hle := (splitCycle_sum hcycle).2.1
  have hleap := isLeapYear_of_splitCycle hcycle
  obtain ⟨hindex, hsum⟩ := splitYear_sum hle
  have hlt := lt_daysBeforeMonth_splitYear (splitCycle ((n + epochOffset) % 146097).toNat).2
  simp only [ofDayNumber]
  generalize splitCycle ((n + epochOffset) % 146097).toNat = yearDay at *
  generalize splitYear yearDay.2 = monthDay at *
  obtain ⟨index, day⟩ := monthDay
  generalize (n + epochOffset) / 146097 = cycle
  simp only [daysBeforeMonth] at hindex hsum hlt
  by_cases hmarch : index < 10
  · rw [if_pos hmarch]
    refine ⟨by simp, by simp; omega, by simp, ?_⟩
    interval_cases index <;> simp [daysInMonth] <;> omega
  · rw [if_neg hmarch]
    refine ⟨by simp; omega, by simp; omega, by simp, ?_⟩
    obtain rfl | rfl : index = 10 ∨ index = 11 := by omega
    · simp only [daysInMonth]
      omega
    · have hyear : isLeapYear (400 * cycle + yearDay.1 + 1) = isLeapYear (yearDay.1 + 1) := by
        rw [Int.add_assoc, isLeapYear_add]
      simp only [daysInMonth, hyear]
      by_cases hday : yearDay.2 = 365
      · rw [if_pos (hleap hday)]
        omega
      · split <;> omega

/-- Lower numbers are those of earlier dates. -/
theorem before_ofDayNumber {m n : Int} (h : m < n) : (ofDayNumber m).Before (ofDayNumber n) := by
  rcases before_trichotomy (ofDayNumber m) (ofDayNumber n) with hbefore | heq | hbehind
  · exact hbefore
  · have hnumber := congrArg dayNumber heq
    rw [dayNumber_ofDayNumber, dayNumber_ofDayNumber] at hnumber
    omega
  · have hlt := dayNumber_lt_of_before (valid_ofDayNumber n) (valid_ofDayNumber m) hbehind
    rw [dayNumber_ofDayNumber, dayNumber_ofDayNumber] at hlt
    omega

/-- A year ends with the last of December, 306 days behind the first of March. -/
theorem year_ofDayNumber_le_iff (n year : Int) :
    (ofDayNumber n).year ≤ year ↔ n + epochOffset < daysBeforeYear year + 306 := by
  have hbounds := dayNumber_bounds (valid_ofDayNumber n)
  rw [dayNumber_ofDayNumber] at hbounds
  constructor
  · intro h
    have hmono := daysBeforeYear_mono h
    omega
  · intro h
    by_contra hlt
    have hmono := daysBeforeYear_mono (show year ≤ (ofDayNumber n).year - 1 by omega)
    omega

end SpacedReview.Time.Date

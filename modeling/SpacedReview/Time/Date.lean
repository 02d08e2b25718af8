/-!
# Calendar dates

Dates of the proleptic Gregorian calendar, with a year zero, and their numbering by days from
1970-01-01. The numbering counts years from March, so that the leap day is the last day of its
year: then the days before a year are given by the leap year rule alone, and the days before a
month by one linear formula.
-/

namespace SpacedReview.Time

/-- A day of a month of a year. -/
structure Date where
  year : Int
  month : Nat
  day : Nat
  deriving DecidableEq, Repr

namespace Date

/-- Does the year have a 29th of February? -/
def isLeapYear (year : Int) : Bool := year % 4 == 0 && (year % 100 != 0 || year % 400 == 0)

/-- The number of days of a month. -/
def daysInMonth (year : Int) (month : Nat) : Nat :=
  match month with
  | 4 | 6 | 9 | 11 => 30
  | 2 => if isLeapYear year then 29 else 28
  | _ => 31

/-- Is this a day of the calendar? -/
def Valid (d : Date) : Prop :=
  1 ≤ d.month ∧ d.month ≤ 12 ∧ 1 ≤ d.day ∧ d.day ≤ daysInMonth d.year d.month

instance (d : Date) : Decidable d.Valid := inferInstanceAs (Decidable (_ ∧ _ ∧ _ ∧ _))

/-- The days from 0000-03-01 to 1970-01-01. -/
def epochOffset : Int := 719468

/-- The days before the first of March of a year, counted from the first of March of year zero. -/
def daysBeforeYear (year : Int) : Int := 365 * year + year / 4 - year / 100 + year / 400

/-- The days of a year that starts in March before its month with the given index from zero. -/
def daysBeforeMonth (index : Nat) : Nat := (153 * index + 2) / 5

/-- The number of days from 1970-01-01 to a date. -/
def dayNumber (d : Date) : Int :=
  let year := if d.month ≤ 2 then d.year - 1 else d.year
  let index := (d.month + 9) % 12
  daysBeforeYear year + daysBeforeMonth index + d.day - 1 - epochOffset

/-- The year of a 400-year cycle and the day of that year, both from zero, of a day of the cycle.
The last century of the cycle and the last year of a span of four take the extra day. -/
def splitCycle (n : Nat) : Nat × Nat :=
  let century := min (n / 36524) 3
  let ofCentury := n - 36524 * century
  let ofSpan := ofCentury % 1461
  let year := min (ofSpan / 365) 3
  (100 * century + 4 * (ofCentury / 1461) + year, ofSpan - 365 * year)

/-- The index of the month and the day of the month, both from zero, of a day of a year that starts
in March. -/
def splitYear (n : Nat) : Nat × Nat :=
  let index := (5 * n + 2) / 153
  (index, n - daysBeforeMonth index)

/-- The date a number of days after 1970-01-01. -/
def ofDayNumber (n : Int) : Date :=
  let days := n + epochOffset
  let (year, ofYear) := splitCycle (days % 146097).toNat
  let (index, day) := splitYear ofYear
  let year := 400 * (days / 146097) + year
  if index < 10 then ⟨year, index + 3, day + 1⟩ else ⟨year + 1, index - 9, day + 1⟩

/-! ### Laws -/

/-- The days before the year and the day of the year add up to the day of the cycle. -/
theorem splitCycle_sum {n : Nat} (h : n < 146097) :
    (splitCycle n).1 ≤ 399 ∧ (splitCycle n).2 ≤ 365 ∧
      daysBeforeYear (splitCycle n).1 + (splitCycle n).2 = n := by
  simp only [splitCycle, daysBeforeYear]
  generalize ha : min (n / 36524) 3 = century
  have hcentury : century ≤ 3 ∧ 36524 * century ≤ n ∧ n - 36524 * century ≤ 36524 := by omega
  generalize hb : n - 36524 * century = ofCentury at *
  generalize he : ofCentury / 1461 = span
  generalize hf : ofCentury % 1461 = ofSpan
  have hspan : ofCentury = 1461 * span + ofSpan ∧ span ≤ 24 ∧ ofSpan < 1461 := by omega
  generalize hg : min (ofSpan / 365) 3 = year
  have hyear : 365 * year ≤ ofSpan ∧ year ≤ 3 ∧ ofSpan - 365 * year ≤ 365 := by omega
  clear ha he hf hg
  have hquarter : ((100 * century + 4 * span + year : Nat) : Int) / 4 = 25 * century + span := by
    omega
  have hhundredth : ((100 * century + 4 * span + year : Nat) : Int) / 100 = century := by omega
  have hcycle : ((100 * century + 4 * span + year : Nat) : Int) / 400 = 0 := by omega
  rw [hquarter, hhundredth, hcycle]
  omega

/-- The days before the month and the day of the month add up to the day of the year. -/
theorem splitYear_sum {n : Nat} (h : n ≤ 365) :
    (splitYear n).1 ≤ 11 ∧ daysBeforeMonth (splitYear n).1 + (splitYear n).2 = n := by
  simp only [splitYear, daysBeforeMonth]
  omega

/-- Whole cycles shift the days before a year by their own length. -/
theorem daysBeforeYear_add (cycle year : Int) :
    daysBeforeYear (400 * cycle + year) = 146097 * cycle + daysBeforeYear year := by
  simp only [daysBeforeYear]
  omega

/-- Numbering the date that has a number gives the number back. -/
theorem dayNumber_ofDayNumber (n : Int) : (ofDayNumber n).dayNumber = n := by
  have hcycle : ((n + epochOffset) % 146097).toNat < 146097 := by omega
  obtain ⟨-, hyear, hsum⟩ := splitCycle_sum hcycle
  obtain ⟨hindex, hday⟩ := splitYear_sum hyear
  simp only [ofDayNumber]
  generalize splitYear (splitCycle ((n + epochOffset) % 146097).toNat).2 = monthDay at *
  split
  · have hmonth : ¬monthDay.1 + 3 ≤ 2 := by omega
    have hback : (monthDay.1 + 3 + 9) % 12 = monthDay.1 := by omega
    simp only [dayNumber, hmonth, if_false, hback, daysBeforeYear_add]
    omega
  · have hmonth : monthDay.1 - 9 ≤ 2 := by omega
    have hback : (monthDay.1 - 9 + 9) % 12 = monthDay.1 := by omega
    simp only [dayNumber, hmonth, if_true, hback, Int.add_sub_cancel, daysBeforeYear_add]
    omega

end Date

end SpacedReview.Time

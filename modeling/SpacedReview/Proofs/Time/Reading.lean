import Mathlib.Data.List.Basic
import SpacedReview.Proofs.Text.Padded
import SpacedReview.Proofs.Time.Calendar
import SpacedReview.Time.Text

/-!
# Written instants are read back

Both written forms of an instant hold the same clock: a date and a time of day up to the second,
where the second of a leap second is the 60th of its minute. `ofClock?_clock` reads the clock back,
and leaves the fraction of the second to the two forms. The exact form gives the instant back. The
stored form gives back the instant cut off after the millisecond, and it can only be read if the
year has four digits.

## Main statements

* `ofStored?_stored`: the stored form of a year with four digits is read back without what is below
  a millisecond.
* `ofStored?_stored_eq_none`: the stored form of a later year is not read.
* `ofExact?_exact`: the exact form is read back.
-/

namespace SpacedReview.Time

open SpacedReview.Text

namespace Instant

/-! ### The clock -/

/-- The seconds of an instant since its day began; a leap second does not count. -/
def secondOfDay (t : Instant) : Nat := (t.seconds % 86400).toNat

/-- The second of an instant within its minute. A leap second is the 60th. -/
def secondOfMinute (t : Instant) : Nat := t.secondOfDay % 60 + if t.isLeap then 1 else 0

theorem secondOfDay_lt (t : Instant) : t.secondOfDay < 86400 := by
  simp only [secondOfDay]
  omega

theorem secondOfDay_mod_of_isLeap {t : Instant} (h : t.isLeap = true) :
    t.secondOfDay % 60 = 59 := by
  have hleap := t.leap (of_decide_eq_true h)
  simp only [secondOfDay]
  omega

theorem secondOfMinute_le (t : Instant) : t.secondOfMinute ≤ 60 := by
  simp only [secondOfMinute]
  split <;> omega

theorem secondOfMinute_eq_sixty_iff {t : Instant} : t.secondOfMinute = 60 ↔ t.isLeap = true := by
  cases h : t.isLeap with
  | true =>
    have hmod := secondOfDay_mod_of_isLeap h
    simp [secondOfMinute, h, hmod]
  | false =>
    simp only [secondOfMinute, h]
    simp
    omega

theorem valid_date (t : Instant) : t.date.Valid := Date.valid_ofDayNumber _

theorem day_lt (t : Instant) : t.date.day < 100 := by
  have hle := Date.daysInMonth_le t.date.year t.date.month
  exact Nat.lt_of_le_of_lt (t.valid_date.2.2.2.trans hle) (by decide)

theorem dayNumber_date (t : Instant) : t.date.dayNumber = t.seconds / 86400 :=
  Date.dayNumber_ofDayNumber _

/-- The clock of an instant is that of its second. -/
theorem ofClock?_clock (t : Instant) {nanos : Nat} (hnanos : nanos < nanosPerSecond) :
    ofClock? t.date (t.secondOfDay / 3600) (t.secondOfDay / 60 % 60) t.secondOfMinute nanos 0 =
      ofParts? t.seconds (if t.isLeap then nanos + nanosPerSecond else nanos) := by
  have hday := t.secondOfDay_lt
  have hsecond := t.secondOfMinute_le
  have hclock : ((3600 * (t.secondOfDay / 3600 : Nat) + 60 * (t.secondOfDay / 60 % 60 : Nat) +
      min t.secondOfMinute 59 : Nat) : Int) = t.seconds % 86400 := by
    have hmin : min t.secondOfMinute 59 = t.secondOfDay % 60 := by
      cases h : t.isLeap with
      | true =>
        have hmod := secondOfDay_mod_of_isLeap h
        simp [secondOfMinute, h, hmod]
      | false =>
        simp only [secondOfMinute, h]
        simp
        omega
    have hsum : 3600 * (t.secondOfDay / 3600) + 60 * (t.secondOfDay / 60 % 60) +
        t.secondOfDay % 60 = t.secondOfDay := by
      omega
    rw [hmin, hsum, secondOfDay]
    omega
  have hhere : t.date.dayNumber * 86400 + (t.seconds % 86400) = t.seconds := by
    rw [dayNumber_date]
    omega
  have hfirst := t.first_le
  have hlast := t.le_last
  simp only [ofClock?, hclock, hhere, Int.sub_zero]
  rw [if_pos ⟨t.valid_date, by omega, by omega, hsecond, hnanos, hfirst, hlast⟩]
  simp only [secondOfMinute_eq_sixty_iff]

theorem printSeconds_eq (t : Instant) : t.printSeconds = t.date.print ++ 'T' ::
    Decimal.padded 2 (t.secondOfDay / 3600) ++ ':' ::
      Decimal.padded 2 (t.secondOfDay / 60 % 60) ++ ':' :: Decimal.padded 2 t.secondOfMinute := rfl

/-! ### Instants of milliseconds -/

/-- The instant without what is below a millisecond. -/
def truncated (t : Instant) : Instant where
  seconds := t.seconds
  nanos := t.nanos / 1000000 * 1000000
  first_le := t.first_le
  le_last := t.le_last
  nanos_lt := by
    have := t.nanos_lt
    omega
  leap := by
    intro h
    exact t.leap (by omega)

@[simp] theorem truncated_seconds (t : Instant) : t.truncated.seconds = t.seconds := rfl

@[simp] theorem truncated_nanos (t : Instant) :
    t.truncated.nanos = t.nanos / 1000000 * 1000000 := rfl

/-- Does the year of an instant have four digits and no sign? -/
def HasFourDigitYear (t : Instant) : Prop := 0 ≤ t.date.year ∧ t.date.year ≤ 9999

instance (t : Instant) : Decidable t.HasFourDigitYear := inferInstanceAs (Decidable (_ ∧ _))

/-- An instant exists just with its own parts. -/
theorem ofParts?_eq_some_iff {t : Instant} {seconds : Int} {nanos : Nat} :
    ofParts? seconds nanos = some t ↔ t.seconds = seconds ∧ t.nanos = nanos := by
  constructor
  · intro h
    unfold ofParts? at h
    split at h
    · exact Option.some.inj h ▸ ⟨rfl, rfl⟩
    · cases h
  · rintro ⟨rfl, rfl⟩
    exact dif_pos ⟨⟨t.first_le, t.le_last⟩, t.nanos_lt, t.leap⟩

end Instant

/-! ### Numerals in a text -/

theorem twoDigits?_of_padded {n : Nat} {a b : Char} (h : Decimal.padded 2 n = [a, b]) :
    twoDigits? a b = some n := by
  rw [twoDigits?, ← h, Decimal.nat?_padded]

theorem exists_padded_two {n : Nat} (hn : n < 100) : ∃ a b, Decimal.padded 2 n = [a, b] :=
  List.length_eq_two.1 (Decimal.length_padded 1 hn)

theorem exists_padded_four {n : Nat} (hn : n < 10000) :
    ∃ a b c d, Decimal.padded 4 n = [a, b, c, d] := by
  obtain ⟨a, ds, hcons⟩ := List.exists_cons_of_length_eq_add_one (Decimal.length_padded 3 hn)
  have hlength : ds.length = 3 := by
    have := Decimal.length_padded 3 hn
    rw [hcons] at this
    simpa using this
  obtain ⟨b, c, d, rfl⟩ := List.length_eq_three.1 hlength
  exact ⟨a, b, c, d, hcons⟩

theorem takeWhile_isDigit_append {ds rest : List Char} (hds : ∀ c ∈ ds, c.isDigit = true)
    (hrest : ∀ c ∈ rest.head?, c.isDigit = false) :
    (ds ++ rest).takeWhile Char.isDigit = ds ∧ (ds ++ rest).dropWhile Char.isDigit = rest := by
  rw [List.takeWhile_append_of_pos hds, List.dropWhile_append_of_pos hds]
  cases rest with
  | nil => simp
  | cons c rest => simp [hrest c rfl]

/-- The digits behind a decimal point are read up to the first character that is none. -/
theorem fraction?_append {ds rest : List Char} (hne : ds ≠ []) (hds : ∀ c ∈ ds, c.isDigit = true)
    (hrest : ∀ c ∈ rest.head?, c.isDigit = false) :
    fraction? ('.' :: (ds ++ rest)) = some (fractionNanos ds, rest) := by
  obtain ⟨htake, hdrop⟩ := takeWhile_isDigit_append hds hrest
  rw [fraction?, htake, hdrop, if_neg hne]

/-- A fraction of a width of at most nine digits. -/
theorem fractionNanos_padded {width n : Nat} (hn : n < 10 ^ (width + 1)) (hwidth : width + 1 ≤ 9) :
    fractionNanos (Decimal.padded (width + 1) n) = n * 10 ^ (9 - (width + 1)) := by
  have hlength := Decimal.length_padded width hn
  have hvalue : Nat.ofDigitChars 10 (Decimal.padded (width + 1) n) 0 = n := by
    have hread := Decimal.nat?_padded (width + 1) n
    rw [Decimal.nat?] at hread
    split at hread
    · exact Option.some.inj hread
    · cases hread
  have htake : (Decimal.padded (width + 1) n).take 9 = Decimal.padded (width + 1) n :=
    List.take_of_length_le (by omega)
  simp only [fractionNanos, htake, hvalue, hlength, Nat.pow_eq]

/-! ### The stored form -/

namespace Instant

theorem subsecond_lt (t : Instant) : t.subsecond < nanosPerSecond := Nat.mod_lt _ (by decide)

theorem nanos_eq_subsecond (t : Instant) :
    t.nanos = t.subsecond + if t.isLeap then nanosPerSecond else 0 := by
  have hlt := t.nanos_lt
  cases h : t.isLeap with
  | true =>
    have hle : nanosPerSecond ≤ t.nanos := of_decide_eq_true h
    simp only [subsecond, nanosPerSecond, if_true] at *
    omega
  | false =>
    have hlt : ¬ nanosPerSecond ≤ t.nanos := of_decide_eq_false h
    simp only [subsecond, nanosPerSecond] at *
    simp
    omega

/-- The characters of the stored form of a year with four digits. -/
theorem printStored_eq {t : Instant} (h : t.HasFourDigitYear) : t.printStored =
    Decimal.padded 4 t.date.year.toNat ++ ('-' :: (Decimal.padded 2 t.date.month ++
      ('-' :: (Decimal.padded 2 t.date.day ++ ('T' :: (Decimal.padded 2 (t.secondOfDay / 3600) ++
        (':' :: (Decimal.padded 2 (t.secondOfDay / 60 % 60) ++
          (':' :: (Decimal.padded 2 t.secondOfMinute ++
            ('.' :: (Decimal.padded 3 (t.subsecond / 1000000) ++ ['Z'])))))))))))) := by
  have hyear : printYear t.date.year = Decimal.padded 4 t.date.year.toNat := if_pos h
  simp [printStored, printSeconds_eq, Date.print, hyear]

/-- The numbers of the stored form of a year with four digits have as many digits as there is room
for. -/
theorem parts_lt {t : Instant} (h : t.HasFourDigitYear) :
    t.date.year.toNat < 10 ^ 4 ∧ t.date.month < 10 ^ 2 ∧ t.date.day < 10 ^ 2 ∧
      t.secondOfDay / 3600 < 10 ^ 2 ∧ t.secondOfDay / 60 % 60 < 10 ^ 2 ∧
        t.secondOfMinute < 10 ^ 2 ∧ t.subsecond / 1000000 < 10 ^ 3 := by
  obtain ⟨-, hyear⟩ := h
  have hmonth : t.date.month < 100 := Nat.lt_of_le_of_lt t.valid_date.2.1 (by decide)
  have hday : t.date.day < 100 := t.day_lt
  have hclock := t.secondOfDay_lt
  have hsecond := t.secondOfMinute_le
  have hsubsecond := t.subsecond_lt
  simp only [nanosPerSecond] at hsubsecond
  omega

theorem length_printStored {t : Instant} (h : t.HasFourDigitYear) : t.printStored.length = 24 := by
  obtain ⟨hyear, hmonth, hday, hhour, hminute, hsecond, hmilli⟩ := parts_lt h
  simp [printStored_eq h, Decimal.length_padded 3 hyear, Decimal.length_padded 1 hmonth,
    Decimal.length_padded 1 hday, Decimal.length_padded 1 hhour, Decimal.length_padded 1 hminute,
    Decimal.length_padded 1 hsecond, Decimal.length_padded 2 hmilli]

/-- The stored form of a year with four digits is read back without what is below a millisecond. -/
theorem ofStored?_stored {t : Instant} (h : t.HasFourDigitYear) :
    ofStored? t.stored = some t.truncated := by
  obtain ⟨hyear, hmonth, hday, hhour, hminute, hsecond, hmilli⟩ := parts_lt h
  obtain ⟨ya, yb, yc, yd, hy⟩ : ∃ a b c d, Decimal.padded 4 t.date.year.toNat = [a, b, c, d] :=
    exists_padded_four hyear
  obtain ⟨mo, mo', hmo⟩ := exists_padded_two hmonth
  obtain ⟨d, d', hd⟩ := exists_padded_two hday
  obtain ⟨ho, ho', hho⟩ := exists_padded_two hhour
  obtain ⟨mi, mi', hmi⟩ := exists_padded_two hminute
  obtain ⟨se, se', hse⟩ := exists_padded_two hsecond
  have hfraction : fraction? ('.' :: (Decimal.padded 3 (t.subsecond / 1000000) ++ ['Z'])) =
      some (fractionNanos (Decimal.padded 3 (t.subsecond / 1000000)), ['Z']) :=
    fraction?_append (Decimal.padded_ne_nil _ _) (fun _ ↦ Decimal.isDigit_of_mem_padded) (by simp)
  rw [fractionNanos_padded hmilli (by decide)] at hfraction
  have hyearRead : Decimal.nat? [ya, yb, yc, yd] = some t.date.year.toNat := by
    rw [← hy, Decimal.nat?_padded]
  have hdate : (⟨t.date.year.toNat, t.date.month, t.date.day⟩ : Date) = t.date := by
    rw [Int.toNat_of_nonneg h.1]
  have htext : t.stored.toList =
      ya :: yb :: yc :: yd :: '-' :: mo :: mo' :: '-' :: d :: d' :: 'T' ::
      ho :: ho' :: ':' :: mi :: mi' :: ':' :: se :: se' :: '.' ::
        (Decimal.padded 3 (t.subsecond / 1000000) ++ ['Z']) := by
    rw [stored, String.toList_ofList, printStored_eq h, hy, hmo, hd, hho, hmi, hse]
    rfl
  have hzone : zone? ['Z'] = some 0 := rfl
  have hsep : (guard (isDateEnd 'T') : Option Unit) = some () := rfl
  simp only [ofStored?, htext, hsep, hyearRead, twoDigits?_of_padded hmo, twoDigits?_of_padded hd,
    twoDigits?_of_padded hho, twoDigits?_of_padded hmi, twoDigits?_of_padded hse, hfraction, hzone,
    Option.bind_eq_bind, Option.bind_some, hdate]
  rw [ofClock?_clock t (by simp only [nanosPerSecond]; omega)]
  refine ofParts?_eq_some_iff.2 ⟨rfl, ?_⟩
  have hnanos := t.nanos_eq_subsecond
  simp only [truncated_nanos, nanosPerSecond] at hnanos ⊢
  cases hleap : t.isLeap with
  | true =>
    simp only [hleap, if_true] at hnanos ⊢
    omega
  | false =>
    simp only [hleap, Bool.false_eq_true, if_false] at hnanos ⊢
    omega

/-- The stored form of a year beyond 9999 is not read: its fifth character is a digit. -/
theorem ofStored?_stored_eq_none {t : Instant} (h : 9999 < t.date.year) :
    ofStored? t.stored = none := by
  have hdigits := Decimal.lt_length_padded 3 (n := t.date.year.natAbs) (by omega)
  have hall : ∀ c ∈ Decimal.padded 4 t.date.year.natAbs, c.isDigit = true := fun _ ↦
    Decimal.isDigit_of_mem_padded
  obtain ⟨rest, htext⟩ : ∃ rest, t.stored.toList =
      '+' :: (Decimal.padded 4 t.date.year.natAbs ++ rest) := by
    have hyear : printYear t.date.year = '+' :: Decimal.padded 4 t.date.year.natAbs := by
      rw [printYear, if_neg (by omega), if_neg (by omega)]
    simp [stored, printStored, printSeconds, Date.print, hyear]
  obtain ⟨a, b, c, d, ds, hds⟩ : ∃ a b c d ds, Decimal.padded 4 t.date.year.natAbs =
      a :: b :: c :: d :: ds := by
    match hcases : Decimal.padded 4 t.date.year.natAbs with
    | a :: b :: c :: d :: ds => exact ⟨a, b, c, d, ds, rfl⟩
    | [] | [_] | [_, _] | [_, _, _] => simp [hcases] at hdigits
  rw [hds] at htext hall
  have hdigit : d.isDigit = true := hall d (by simp)
  unfold ofStored?
  split
  · rename_i hpattern
    rw [htext] at hpattern
    simp only [List.cons_append, List.cons.injEq] at hpattern
    obtain ⟨-, -, -, -, rfl, -⟩ := hpattern
    exact absurd hdigit (by decide)
  · rfl

end Instant

/-! ### The exact form -/

/-- Blanks are skipped up to the first character that is none. -/
theorem skipBlank_cons {c : Char} (cs : List Char) (hc : isBlank c = false) :
    skipBlank (c :: cs) = c :: cs := by
  simp [skipBlank, hc]

theorem isBlank_of_isDigit {c : Char} (hc : c.isDigit = true) : isBlank c = false := by
  rw [Bool.eq_false_iff]
  intro hblank
  obtain ⟨r, hr, hle⟩ := Ranges.exists_mem_of_contains hblank
  have hrange : 48 ≤ c.toNat ∧ c.toNat ≤ 57 := by
    simpa [Char.isDigit, UInt32.le_iff_toNat_le] using hc
  have hoff : ∀ r ∈ blankRanges, r.2 < 48 ∨ 57 < r.1 := by decide
  have := hoff r hr
  omega

/-- A numeral has no blanks in front of it. -/
theorem skipBlank_padded_append (width n : Nat) (rest : List Char) :
    skipBlank (Decimal.padded width n ++ rest) = Decimal.padded width n ++ rest := by
  obtain ⟨c, cs, hcs⟩ := List.exists_cons_of_ne_nil (Decimal.padded_ne_nil width n)
  have hmem : c ∈ Decimal.padded width n := by simp [hcs]
  have hc : c.isDigit = true := Decimal.isDigit_of_mem_padded hmem
  rw [hcs, List.cons_append, skipBlank_cons _ (isBlank_of_isDigit hc)]

/-- A numeral is read to its end, if that is at the bound or in front of what is no digit. -/
theorem digits?_padded_append {bound width n : Nat} {rest : List Char}
    (hle : (Decimal.padded width n).length ≤ bound)
    (hend : (Decimal.padded width n).length = bound ∨ ∀ c ∈ rest.head?, c.isDigit = false) :
    digits? bound (Decimal.padded width n ++ rest) = some (n, rest) := by
  have hall : ∀ c ∈ Decimal.padded width n, c.isDigit = true := fun _ ↦
    Decimal.isDigit_of_mem_padded
  have htake : ((Decimal.padded width n ++ rest).take bound).takeWhile Char.isDigit =
      Decimal.padded width n := by
    rw [List.take_append, List.take_of_length_le hle]
    refine (takeWhile_isDigit_append hall fun c hc ↦ ?_).1
    rcases hend with hbound | hrest
    · simp [hbound] at hc
    · rw [List.head?_take] at hc
      split at hc
      · simp at hc
      · exact hrest c hc
  rw [digits?, htake, Decimal.nat?_padded, Option.map_some, List.drop_left]

theorem number?_padded_append {n : Nat} (hn : n < 100) (rest : List Char) :
    number? (Decimal.padded 2 n ++ rest) = some (n, rest) := by
  have hlength := Decimal.length_padded 1 hn
  rw [number?, skipBlank_padded_append,
    digits?_padded_append (Nat.le_of_eq hlength) (.inl hlength)]

theorem mark?_cons {c : Char} (cs : List Char) (hc : isBlank c = false) :
    mark? c (c :: cs) = some cs := by
  simp [mark?, skipBlank_cons cs hc]

/-- A year is read in front of the mark behind it, with or without a sign. -/
theorem year?_printYear_append (year : Int) (rest : List Char) :
    year? (printYear year ++ '-' :: rest) = some (year, '-' :: rest) := by
  have hend : ∀ c ∈ ('-' :: rest).head?, c.isDigit = false := by simp
  have hsigned : ∀ n, digits? (Decimal.padded 4 n ++ '-' :: rest).length
      (Decimal.padded 4 n ++ '-' :: rest) = some (n, '-' :: rest) := fun n ↦
    digits?_padded_append (by simp) (.inr hend)
  by_cases hfour : 0 ≤ year ∧ year ≤ 9999
  · have hlength := Decimal.length_padded 3 (n := year.toNat) (by omega)
    have hread : digits? 4 (Decimal.padded 4 year.toNat ++ '-' :: rest) =
        some (year.toNat, '-' :: rest) :=
      digits?_padded_append (Nat.le_of_eq hlength) (.inl hlength)
    obtain ⟨c, ds, hcs⟩ := List.exists_cons_of_ne_nil (Decimal.padded_ne_nil 4 year.toNat)
    have hmem : c ∈ Decimal.padded 4 year.toNat := by simp [hcs]
    have hc : c.isDigit = true := Decimal.isDigit_of_mem_padded hmem
    rw [year?, printYear, if_pos hfour, skipBlank_padded_append]
    rw [hcs, List.cons_append] at hread ⊢
    -- the first digit is no sign
    split
    · rename_i hsign
      obtain rfl : c = '-' := (List.cons.inj hsign).1
      exact absurd hc (by decide)
    · rename_i hsign
      obtain rfl : c = '+' := (List.cons.inj hsign).1
      exact absurd hc (by decide)
    · simp only [hread, Option.map_some, Int.toNat_of_nonneg hfour.1]
  · rw [printYear, if_neg hfour]
    by_cases hneg : year < 0
    · rw [if_pos hneg, List.cons_append, year?, skipBlank_cons _ (by decide)]
      simp only [hsigned, Option.map_some]
      congr 2
      omega
    · rw [if_neg hneg, List.cons_append, year?, skipBlank_cons _ (by decide)]
      simp only [hsigned, Option.map_some]
      congr 2
      omega

/-- The fraction of the exact form is read back. -/
theorem fraction?_printFraction_append {nanos : Nat} (hnanos : nanos < nanosPerSecond) :
    fraction? (Instant.printFraction nanos ++ ['Z']) = some (nanos, ['Z']) := by
  have hread : ∀ width n, n < 10 ^ (width + 1) → width + 1 ≤ 9 →
      fraction? ('.' :: (Decimal.padded (width + 1) n ++ ['Z'])) =
        some (n * 10 ^ (9 - (width + 1)), ['Z']) := by
    intro width n hn hwidth
    rw [fraction?_append (Decimal.padded_ne_nil _ _) (fun _ ↦ Decimal.isDigit_of_mem_padded)
      (by simp), fractionNanos_padded hn hwidth]
  simp only [nanosPerSecond] at hnanos
  unfold Instant.printFraction
  split_ifs with hzero hmilli hmicro
  · rw [hzero]
    rfl
  · rw [List.cons_append, hread 2 (nanos / 1000000) (by omega) (by decide)]
    congr 2
    omega
  · rw [List.cons_append, hread 5 (nanos / 1000) (by omega) (by decide)]
    congr 2
    omega
  · rw [List.cons_append, hread 8 nanos (by omega) (by decide)]
    simp

namespace Instant

/-- The exact form is read back. -/
theorem ofExact?_exact (t : Instant) : ofExact? t.exact = some t := by
  have hmonth : t.date.month < 100 := Nat.lt_of_le_of_lt t.valid_date.2.1 (by decide)
  have hclock := t.secondOfDay_lt
  have hsecond := t.secondOfMinute_le
  have htext : t.exact.toList = printYear t.date.year ++ '-' :: (Decimal.padded 2 t.date.month ++
      '-' :: (Decimal.padded 2 t.date.day ++ 'T' :: (Decimal.padded 2 (t.secondOfDay / 3600) ++
        ':' :: (Decimal.padded 2 (t.secondOfDay / 60 % 60) ++
          ':' :: (Decimal.padded 2 t.secondOfMinute ++
            (printFraction t.subsecond ++ ['Z'])))))) := by
    simp [exact, printExact, printSeconds_eq, Date.print]
  have hclockRead : ofClock? t.date (t.secondOfDay / 3600) (t.secondOfDay / 60 % 60)
      t.secondOfMinute t.subsecond 0 = some t := by
    rw [ofClock?_clock t t.subsecond_lt]
    refine ofParts?_eq_some_iff.2 ⟨rfl, ?_⟩
    rw [t.nanos_eq_subsecond]
    split <;> rfl
  rw [ofExact?, htext]
  refine Option.bind_eq_some_iff.2 ⟨_, year?_printYear_append _ _, ?_⟩
  refine Option.bind_eq_some_iff.2 ⟨_, mark?_cons _ (by decide), ?_⟩
  refine Option.bind_eq_some_iff.2 ⟨_, number?_padded_append hmonth _, ?_⟩
  refine Option.bind_eq_some_iff.2 ⟨_, mark?_cons _ (by decide), ?_⟩
  refine Option.bind_eq_some_iff.2 ⟨_, number?_padded_append t.day_lt _, ?_⟩
  refine Option.bind_eq_some_iff.2 ⟨(), rfl, ?_⟩
  refine Option.bind_eq_some_iff.2 ⟨_, number?_padded_append (by omega) _, ?_⟩
  refine Option.bind_eq_some_iff.2 ⟨_, mark?_cons _ (by decide), ?_⟩
  refine Option.bind_eq_some_iff.2 ⟨_, number?_padded_append (by omega) _, ?_⟩
  refine Option.bind_eq_some_iff.2 ⟨_, mark?_cons _ (by decide), ?_⟩
  refine Option.bind_eq_some_iff.2 ⟨_, number?_padded_append (by omega) _, ?_⟩
  refine Option.bind_eq_some_iff.2 ⟨_, fraction?_printFraction_append t.subsecond_lt, ?_⟩
  refine Option.bind_eq_some_iff.2 ⟨(0, []), ?_, ?_⟩
  · rw [skipBlank_cons _ (by decide)]
    rfl
  · exact Option.bind_eq_some_iff.2 ⟨(), rfl, hclockRead⟩

end Instant

end SpacedReview.Time

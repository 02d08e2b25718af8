import SpacedReview.Proofs.Text.ByteOrder
import SpacedReview.Proofs.Time.Reading
import SpacedReview.Time.Parse

/-!
# The order of stored instants

Among the years with four digits, the stored forms of two instants are in the order of the instants
themselves, cut off after the millisecond. The forms are made of numerals of fixed widths, from the
year down to the millisecond, so the order of texts is that of the parts; the parts of the time of
day are in the order of the seconds, a leap second standing behind all of its minute and before the
next one.

Cutting off the later of two instants does not put it in front of the earlier one if that has been
cut off as well. So it makes no difference whether a stored time is compared as a text with a time,
or read back and compared.

## Main statements

* `stored_le_stored_iff`: stored forms compare like instants of milliseconds.
* `truncated_le_iff`: the second of two instants need not be cut off.
* `utf8_stored_compare`: the bytes of stored forms compare like instants of milliseconds, and the
  forms are read back as these.
-/

namespace SpacedReview.Time

open SpacedReview.Text

theorem le_iff_not_toList_lt {s t : String} : s ≤ t ↔ ¬ t.toList < s.toList := Iff.rfl

namespace Instant

/-! ### The parts of an instant -/

/-- The milliseconds of an instant within its second. -/
def millisecond (t : Instant) : Nat := t.subsecond / 1000000

/-- Does the time of day of an instant come in front of that of another, by hour, minute, second and
millisecond? -/
def ClockBefore (s t : Instant) : Prop :=
  s.secondOfDay / 3600 < t.secondOfDay / 3600 ∨ s.secondOfDay / 3600 = t.secondOfDay / 3600 ∧
    (s.secondOfDay / 60 % 60 < t.secondOfDay / 60 % 60 ∨
      s.secondOfDay / 60 % 60 = t.secondOfDay / 60 % 60 ∧
        (s.secondOfMinute < t.secondOfMinute ∨ s.secondOfMinute = t.secondOfMinute ∧
          s.millisecond < t.millisecond))

/-- The time of day is in the order of the instants, cut off after the millisecond. -/
theorem clockBefore_of_lt {s t : Instant} (hday : s.seconds / 86400 = t.seconds / 86400)
    (h : s.truncated < t.truncated) : s.ClockBefore t := by
  rw [lt_def] at h
  simp only [truncated_seconds, truncated_nanos] at h
  unfold ClockBefore
  rcases h with hseconds | ⟨hseconds, hnanos⟩
  · have hlt : s.secondOfDay < t.secondOfDay := by
      simp only [secondOfDay]
      omega
    by_cases hminute : s.secondOfDay / 60 = t.secondOfDay / 60
    · -- a leap second is the last of its minute, so the earlier instant is in none
      have hleap : s.isLeap = false := by
        rw [Bool.eq_false_iff]
        intro hleap
        have hmod := secondOfDay_mod_of_isLeap hleap
        omega
      have hsecond : s.secondOfMinute < t.secondOfMinute := by
        simp only [secondOfMinute, hleap]
        simp
        omega
      omega
    · omega
  · have heq : s.secondOfDay = t.secondOfDay := by rw [secondOfDay, secondOfDay, hseconds]
    have hs := s.nanos_eq_subsecond
    have ht := t.nanos_eq_subsecond
    have hslt := s.subsecond_lt
    have htlt := t.subsecond_lt
    simp only [nanosPerSecond] at hs ht hslt htlt
    refine .inr ⟨by rw [heq], .inr ⟨by rw [heq], ?_⟩⟩
    simp only [secondOfMinute, heq, millisecond]
    cases hleap : s.isLeap <;> cases hleap' : t.isLeap <;> simp [hleap, hleap'] at hs ht ⊢ <;> omega

/-- The dates, and on one day the times of day, are in the order of the instants, cut off after the
millisecond. -/
theorem before_of_lt {s t : Instant} (h : s.truncated < t.truncated) :
    s.date.Before t.date ∨ s.date = t.date ∧ s.ClockBefore t := by
  rcases lt_or_ge (s.seconds / 86400) (t.seconds / 86400) with hday | hday
  · exact .inl (Date.before_ofDayNumber hday)
  · have heq : s.seconds / 86400 = t.seconds / 86400 := by
      rw [lt_def] at h
      simp only [truncated_seconds, truncated_nanos] at h
      omega
    exact .inr ⟨by rw [date, date, heq], clockBefore_of_lt heq h⟩

/-! ### Texts -/

/-- The characters of the stored form depend on what is left of an instant after it has been cut
off. -/
theorem printStored_truncated (t : Instant) : t.truncated.printStored = t.printStored := by
  have hleap : t.truncated.isLeap = t.isLeap := by
    simp only [isLeap, truncated_nanos, nanosPerSecond]
    congr 1
    exact propext (by omega)
  have hmilli : t.truncated.subsecond / 1000000 = t.subsecond / 1000000 := by
    simp only [subsecond, truncated_nanos, nanosPerSecond]
    omega
  simp only [printStored, printSeconds, date, truncated_seconds, hleap, hmilli]

/-- Of two instants that differ by a millisecond or more, the earlier one has the lower text. -/
theorem printStored_lt_of_lt {s t : Instant} (hs : s.HasFourDigitYear) (ht : t.HasFourDigitYear)
    (h : s.truncated < t.truncated) : s.printStored < t.printStored := by
  have hyear : s.date.year.toNat < t.date.year.toNat ∨ s.date.year.toNat = t.date.year.toNat ∧
      (s.date.month < t.date.month ∨ s.date.month = t.date.month ∧
        (s.date.day < t.date.day ∨ s.date.day = t.date.day ∧ s.ClockBefore t)) := by
    rcases before_of_lt h with (hyear | ⟨hyear, hmonth⟩) | ⟨hdate, hclock⟩
    · have := hs.1
      omega
    · exact .inr ⟨congrArg Int.toNat hyear, hmonth.imp_right (And.imp_right .inl)⟩
    · rw [hdate]
      exact .inr ⟨rfl, .inr ⟨rfl, .inr ⟨rfl, hclock⟩⟩⟩
  have hlast : t.date.year.toNat < 10 ^ 4 := by
    have := ht.2
    omega
  have hmonths : t.date.month < 10 ^ 2 := Nat.lt_of_le_of_lt t.valid_date.2.1 (by decide)
  have hseconds := t.secondOfDay_lt
  have hsecond := t.secondOfMinute_le
  have hmilli : t.millisecond < 10 ^ 3 := by
    have hlt := t.subsecond_lt
    simp only [millisecond, nanosPerSecond] at hlt ⊢
    omega
  rw [printStored_eq hs, printStored_eq ht]
  refine Decimal.padded_append_cons_lt (hyear.imp_right (And.imp_right fun hmonth ↦ ?_)) hlast
  refine Decimal.padded_append_cons_lt (hmonth.imp_right (And.imp_right fun hday ↦ ?_)) hmonths
  refine Decimal.padded_append_cons_lt (hday.imp_right (And.imp_right fun hhour ↦ ?_)) t.day_lt
  refine Decimal.padded_append_cons_lt (hhour.imp_right (And.imp_right fun hminute ↦ ?_)) (by omega)
  refine Decimal.padded_append_cons_lt (hminute.imp_right (And.imp_right fun hlt ↦ ?_)) (by omega)
  refine Decimal.padded_append_cons_lt (hlt.imp_right (And.imp_right fun hlt ↦ ?_)) (by omega)
  exact Decimal.padded_append_lt hlt hmilli _ _

/-- Stored forms compare like the instants, cut off after the millisecond. -/
theorem stored_le_stored_iff {s t : Instant} (hs : s.HasFourDigitYear) (ht : t.HasFourDigitYear) :
    s.stored ≤ t.stored ↔ s.truncated ≤ t.truncated := by
  rw [le_iff_not_toList_lt, stored, stored, String.toList_ofList, String.toList_ofList]
  constructor
  · intro hle
    by_contra hnot
    exact hle (printStored_lt_of_lt ht hs (lt_iff_not_le.2 hnot))
  · intro hle hlt
    by_cases hlt' : s.truncated < t.truncated
    · exact List.lt_asymm hlt (printStored_lt_of_lt hs ht hlt')
    · have hge : t.truncated ≤ s.truncated := by
        rw [lt_iff_not_le] at hlt'
        exact not_not.1 hlt'
      rw [← printStored_truncated s, ← printStored_truncated t, le_antisymm hle hge] at hlt
      exact List.lt_irrefl _ hlt

/-- Cutting off the later instant makes no difference if the earlier one has been cut off. -/
theorem truncated_le_iff {s t : Instant} : s.truncated ≤ t ↔ s.truncated ≤ t.truncated := by
  simp only [le_def, truncated_seconds, truncated_nanos]
  omega

/-! ### Bytes -/

theorem stored_lt_stored_iff {s t : Instant} (hs : s.HasFourDigitYear) (ht : t.HasFourDigitYear) :
    s.stored < t.stored ↔ s.truncated < t.truncated := by
  rw [lt_iff_not_le, ← stored_le_stored_iff ht hs, String.not_le]

/-- A stored form is read back as the instant that it was written from, cut off after the
millisecond. -/
theorem parse_stored {t : Instant} (h : t.HasFourDigitYear) : parse t.stored = .ok t.truncated := by
  rw [parse, ofStored?_stored h]

/-- The stored form is that of the instant cut off after the millisecond, and no other instant of
milliseconds has it. -/
theorem stored_eq_stored_iff {s t : Instant} (hs : s.HasFourDigitYear) (ht : t.HasFourDigitYear) :
    s.stored = t.stored ↔ s.truncated = t.truncated := by
  constructor
  · intro h
    have hparse : parse s.stored = parse t.stored := congrArg parse h
    rw [parse_stored hs, parse_stored ht] at hparse
    exact Except.ok.inj hparse
  · intro h
    rw [stored, stored, ← printStored_truncated s, ← printStored_truncated t, h]

/-- In years of four digits the stored form of an instant stands below, at or above that of another,
byte by byte, just as the one instant lies before, at or after the other when both are cut off after
the millisecond; and it is read back as the instant cut off like this. -/
theorem utf8_stored_compare {s t : Instant} (hs : s.HasFourDigitYear) (ht : t.HasFourDigitYear) :
    (CardId.utf8 s.stored < CardId.utf8 t.stored ↔ s.truncated < t.truncated) ∧
      (CardId.utf8 s.stored = CardId.utf8 t.stored ↔ s.truncated = t.truncated) ∧
      (CardId.utf8 t.stored < CardId.utf8 s.stored ↔ t.truncated < s.truncated) ∧
      parse s.stored = .ok s.truncated := by
  rw [CardId.utf8_lt_utf8_iff, CardId.utf8_eq_utf8_iff, CardId.utf8_lt_utf8_iff]
  exact ⟨stored_lt_stored_iff hs ht, stored_eq_stored_iff hs ht, stored_lt_stored_iff ht hs,
    parse_stored hs⟩

/-- A leap second stands behind the second that it prolongs and before the next year, and the end of
its last millisecond is cut off. -/
theorem utf8_stored_compare_of_leap_second :
    let before : Instant := ⟨1483228799, 999999999, by decide, by decide, by decide, by decide⟩
    let leap : Instant := ⟨1483228799, 1999000001, by decide, by decide, by decide, by decide⟩
    let last : Instant := ⟨1483228799, 1999999999, by decide, by decide, by decide, by decide⟩
    let next : Instant := ⟨1483228800, 0, by decide, by decide, by decide, by decide⟩
    CardId.utf8 before.stored < CardId.utf8 leap.stored ∧
      CardId.utf8 leap.stored = CardId.utf8 last.stored ∧
      CardId.utf8 last.stored < CardId.utf8 next.stored ∧ leap.truncated < leap ∧
      parse leap.stored = .ok leap.truncated := by
  intro before leap last next
  have hbefore : before.HasFourDigitYear := by decide
  have hleap : leap.HasFourDigitYear := by decide
  have hlast : last.HasFourDigitYear := by decide
  have hnext : next.HasFourDigitYear := by decide
  obtain ⟨-, hequal, hgreater, hparse⟩ := utf8_stored_compare hleap hlast
  exact ⟨(utf8_stored_compare hbefore hleap).1.2 (by decide), hequal.2 (by decide),
    (utf8_stored_compare hlast hnext).1.2 (by decide), by decide, hparse⟩

end Instant

end SpacedReview.Time

import SpacedReview.Proofs.Time.Calendar
import SpacedReview.Proofs.Time.Reading
import SpacedReview.Time.Parse

/-!
# Instants moved forward

Forward in time every duration leads to an instant, as long as the range is not left. This instant
is not earlier than the one it started from, and at most a second later than the duration in whole
seconds.

Within a leap second there are two ways to go. A duration that ends in the same leap second prolongs
the second further (`Instant.Stays`); any other is counted from the start of the second that is
prolonged, so it leads to the next second at the earliest. A longer duration can only change from
the first way to the second one, which is why it always leads to a later instant.

An instant that was read is far from the end of the range. Its text has four digits for the year,
and an offset of less than a day can only lead into the year after.

## Main statements

* `Instant.add_of_stays`, `Instant.add_of_not_stays`: where a duration forward leads.
* `Instant.add_lt_add`: a longer duration leads to a later instant.
* `Instant.exists_add`, `Instant.exists_add_of_le`: a duration leads to an instant, as long as the
  range is not left.
* `Instant.year_le_iff`: the instants up to the end of a year, by their seconds.
* `Instant.year_le_of_parse`: the last year of an instant that was read.
-/

namespace SpacedReview

namespace Text.Decimal

/-- A number that is read has no more digits than its numeral. -/
theorem lt_of_nat? {cs : List Char} {n : Nat} (h : nat? cs = some n) : n < 10 ^ cs.length := by
  unfold nat? at h
  split at h
  · rename_i hdigits
    obtain rfl := Option.some.inj h
    obtain ⟨-, hdigits⟩ := hdigits
    clear h
    induction cs with
    | nil => simp
    | cons c cs ih =>
      rw [List.all_cons, Bool.and_eq_true] at hdigits
      have hdigit : c.toNat - '0'.toNat ≤ 9 := by
        have hle := (Char.isDigit_iff_toNat.1 hdigits.1).2
        simp only [Char.reduceToNat] at hle ⊢
        omega
      have hrest := ih hdigits.2
      rw [Nat.ofDigitChars_cons, Nat.ofDigitChars_eq_ofDigitChars_zero, List.length_cons,
        Nat.pow_succ', Nat.mul_zero, Nat.zero_add]
      have hlead := Nat.mul_le_mul_left (10 ^ cs.length) hdigit
      omega
  · cases h

end Text.Decimal

namespace Time.Instant

open SpacedReview.Text

/-- The instants up to the end of a year. -/
theorem year_le_iff (t : Instant) (year : Int) : t.date.year ≤ year ↔
    t.seconds / 86400 + Date.epochOffset < Date.daysBeforeYear year + 306 :=
  Date.year_ofDayNumber_le_iff _ _

/-- The years do not fall while time passes. -/
theorem year_nonneg_of_le {t u : Instant} (h : t.seconds ≤ u.seconds) (ht : 0 ≤ t.date.year) :
    0 ≤ u.date.year := by
  have hlater := year_le_iff u (-1)
  have hearlier := year_le_iff t (-1)
  omega

/-- Parts within their ranges are those of an instant. -/
theorem exists_ofParts? (seconds : Int) (nanos : Nat) (hfirst : firstSecond ≤ seconds)
    (hlast : seconds ≤ lastSecond) (hnanos : nanos < 2 * nanosPerSecond)
    (hleap : nanosPerSecond ≤ nanos → seconds % 60 = 59) :
    ∃ u, ofParts? seconds nanos = some u ∧ u.seconds = seconds :=
  ⟨⟨seconds, nanos, hfirst, hlast, hnanos, hleap⟩,
    dif_pos ⟨⟨hfirst, hlast⟩, hnanos, hleap⟩, rfl⟩

/-! ### Where a duration leads -/

section

variable {t u v : Instant} {d e : Duration}

/-- The nanoseconds from the epoch to an instant. A leap second starts over with the second that it
prolongs. -/
def sinceEpoch (t : Instant) : Int := t.seconds * nanosPerSecond + t.subsecond

/-- Does a duration forward end within the leap second that it starts in? -/
def Stays (t : Instant) (d : Duration) : Prop :=
  t.isLeap = true ∧ t.nanos + d.nanos < 2 * nanosPerSecond

/-- A duration that ends within the leap second that it starts in prolongs the second further. -/
theorem add_of_stays (hforward : 0 ≤ d) (h : t.Stays d) :
    t.add d = ofParts? t.seconds (t.nanos + d.nanos).toNat := by
  obtain ⟨hleap, hshort⟩ := h
  have hlong : nanosPerSecond ≤ t.nanos := of_decide_eq_true hleap
  rw [Duration.nonneg_iff] at hforward
  have hwhole : d.nanos.tdiv nanosPerSecond = 0 := by
    rw [Int.tdiv_eq_ediv_of_nonneg hforward]
    simp only [nanosPerSecond] at hshort hlong ⊢
    omega
  have hrest : d.nanos.tmod nanosPerSecond = d.nanos := by
    rw [Int.tmod_eq_emod_of_nonneg hforward]
    simp only [nanosPerSecond] at hshort hlong ⊢
    omega
  simp only [add, hleap, hwhole, hrest, if_true]
  rw [if_neg (by omega), if_neg (by omega)]

/-- Any other duration forward is counted from the epoch. -/
theorem add_of_not_stays (hforward : 0 ≤ d) (h : ¬ t.Stays d) :
    t.add d =
      ofParts? ((t.sinceEpoch + d.nanos) / nanosPerSecond)
        ((t.sinceEpoch + d.nanos) % nanosPerSecond).toNat := by
  have hlt := t.nanos_lt
  have hsub := t.subsecond_lt
  have hnanos := t.nanos_eq_subsecond
  rw [Duration.nonneg_iff] at hforward
  have hwhole : d.nanos.tdiv nanosPerSecond = d.nanos / nanosPerSecond :=
    Int.tdiv_eq_ediv_of_nonneg hforward
  have hrest : d.nanos.tmod nanosPerSecond = d.nanos % nanosPerSecond :=
    Int.tmod_eq_emod_of_nonneg hforward
  simp only [Stays] at h
  simp only [add, hwhole, hrest, sinceEpoch]
  simp only [nanosPerSecond] at *
  cases hleap : t.isLeap with
  | true =>
    simp only [hleap, if_true, true_and] at hnanos h ⊢
    rw [if_pos (by omega)]
    congr 2 <;> omega
  | false =>
    simp only [hleap] at hnanos ⊢
    simp only [Bool.false_eq_true, if_false] at hnanos ⊢
    congr 2 <;> omega

/-! ### Order -/

/-- A longer duration leads to a later instant. -/
theorem add_lt_add (hforward : 0 ≤ d) (hlt : d < e) (hu : t.add d = some u)
    (hv : t.add e = some v) : u < v := by
  have hsub := t.subsecond_lt
  have hnanos := t.nanos_eq_subsecond
  have hlonger : 0 ≤ e := Duration.le_trans hforward (Int.le_of_lt hlt)
  rw [Duration.lt_def] at hlt
  rw [lt_def]
  by_cases he : t.Stays e
  · obtain ⟨hleap, hshort⟩ := he
    have hd : t.Stays d := ⟨hleap, by omega⟩
    rw [add_of_stays hforward hd, ofParts?_eq_some_iff] at hu
    rw [add_of_stays hlonger ⟨hleap, hshort⟩, ofParts?_eq_some_iff] at hv
    rw [Duration.nonneg_iff] at hforward
    omega
  · rw [add_of_not_stays hlonger he, ofParts?_eq_some_iff] at hv
    by_cases hd : t.Stays d
    · -- the leap second is left, and with it the second that it prolongs
      obtain ⟨hleap, hshort⟩ := hd
      rw [add_of_stays hforward ⟨hleap, hshort⟩, ofParts?_eq_some_iff] at hu
      rw [Duration.nonneg_iff] at hforward
      have hlong : 2 * nanosPerSecond ≤ t.nanos + e.nanos := not_lt.1 fun h ↦ he ⟨hleap, h⟩
      simp only [hleap, if_true] at hnanos
      simp only [sinceEpoch, nanosPerSecond] at *
      omega
    · rw [add_of_not_stays hforward hd, ofParts?_eq_some_iff] at hu
      simp only [nanosPerSecond] at *
      omega

theorem add_zero (t : Instant) : t.add 0 = some t := by
  have hlt := t.nanos_lt
  have hsub := t.subsecond_lt
  have hnanos := t.nanos_eq_subsecond
  by_cases h : t.Stays 0
  · rw [add_of_stays (Duration.le_refl 0) h, ofParts?_eq_some_iff, Duration.nanos_zero]
    omega
  · have hleap : t.isLeap = false := by
      rw [Bool.eq_false_iff]
      exact fun hleap ↦ h ⟨hleap, by rw [Duration.nanos_zero]; omega⟩
    rw [add_of_not_stays (Duration.le_refl 0) h, ofParts?_eq_some_iff, Duration.nanos_zero]
    simp only [hleap] at hnanos
    simp only [sinceEpoch, nanosPerSecond, Bool.false_eq_true, if_false] at *
    omega

/-- A duration that is not shorter does not lead to an earlier instant. -/
theorem add_le_add (hforward : 0 ≤ d) (hle : d ≤ e) (hu : t.add d = some u)
    (hv : t.add e = some v) : u ≤ v := by
  rcases Duration.lt_or_eq_of_le hle with hlt | rfl
  · exact (add_lt_add hforward hlt hu hv).imp_right (And.imp_right le_of_lt)
  · obtain rfl := Option.some.inj (hu.symm.trans hv)
    exact .inr ⟨rfl, le_rfl⟩

/-! ### The range of time -/

/-- Within a leap second the range is not left. -/
theorem exists_add_of_stays (hforward : 0 ≤ d) (h : t.Stays d) :
    ∃ u, t.add d = some u ∧ u.seconds = t.seconds := by
  obtain ⟨hleap, hshort⟩ := h
  have hnonneg := Duration.nonneg_iff.1 hforward
  obtain ⟨u, hu, hseconds⟩ := exists_ofParts? t.seconds (t.nanos + d.nanos).toNat
    t.first_le t.le_last (by omega) fun _ ↦ t.leap (of_decide_eq_true hleap)
  exact ⟨u, (add_of_stays hforward ⟨hleap, hshort⟩).trans hu, hseconds⟩

/-- Any other duration forward leads to an instant unless it leads beyond the last second. -/
theorem exists_add_of_not_stays (hforward : 0 ≤ d) (h : ¬ t.Stays d)
    (hlast : (t.sinceEpoch + d.nanos) / nanosPerSecond ≤ lastSecond) :
    ∃ u, t.add d = some u ∧ u.seconds = (t.sinceEpoch + d.nanos) / nanosPerSecond := by
  have hfirst := t.first_le
  rw [add_of_not_stays hforward h]
  rw [Duration.nonneg_iff] at hforward
  simp only [sinceEpoch, nanosPerSecond] at *
  exact exists_ofParts? _ _ (by omega) hlast (by simp only [nanosPerSecond]; omega)
    (by simp only [nanosPerSecond]; omega)

/-- Up to the end of the range every duration forward leads to an instant, at most a second later
than its whole seconds. -/
theorem exists_add (hforward : 0 ≤ d)
    (hrange : t.seconds * 1000000000 + d.nanos ≤ lastSecond * 1000000000) :
    ∃ u, t.add d = some u ∧ t.seconds ≤ u.seconds ∧
      u.seconds ≤ t.seconds + d.nanos / 1000000000 + 1 := by
  have hsub := t.subsecond_lt
  have hnonneg := Duration.nonneg_iff.1 hforward
  by_cases h : t.Stays d
  · obtain ⟨u, hu, hseconds⟩ := exists_add_of_stays hforward h
    simp only [nanosPerSecond] at *
    exact ⟨u, hu, by omega, by omega⟩
  · obtain ⟨u, hu, hseconds⟩ := exists_add_of_not_stays hforward h (by
      simp only [sinceEpoch, nanosPerSecond] at *
      omega)
    simp only [sinceEpoch, nanosPerSecond] at *
    exact ⟨u, hu, by omega, by omega⟩

/-- Where a duration leads to an instant, so does a shorter one. -/
theorem exists_add_of_le (hforward : 0 ≤ d) (hle : d ≤ e) (hv : t.add e = some v) :
    ∃ u, t.add d = some u ∧ u ≤ v := by
  have hexists : ∃ u, t.add d = some u := by
    by_cases hd : t.Stays d
    · exact (exists_add_of_stays hforward hd).imp fun u ↦ And.left
    · have hnanos := Duration.le_def.1 hle
      have he : ¬ t.Stays e := fun he ↦ hd ⟨he.1, by have := he.2; omega⟩
      rw [add_of_not_stays (Duration.le_trans hforward hle) he, ofParts?_eq_some_iff] at hv
      have hlast := v.le_last
      refine (exists_add_of_not_stays hforward hd ?_).imp fun u ↦ And.left
      simp only [nanosPerSecond] at *
      omega
  obtain ⟨u, hu⟩ := hexists
  exact ⟨u, hu, add_le_add hforward hle hu hv⟩

end

/-! ### Instants that were read -/

/-- An offset is less than a day. -/
theorem zone?_bounds {cs : List Char} {offset : Int} (h : zone? cs = some offset) :
    -86400 < offset ∧ offset < 86400 := by
  unfold zone? at h
  split at h
  · exact Option.some.inj h ▸ by decide
  · exact Option.some.inj h ▸ by decide
  · obtain ⟨behind, -, h⟩ := Option.bind_eq_some_iff.1 h
    obtain ⟨hours, -, h⟩ := Option.bind_eq_some_iff.1 h
    obtain ⟨minutes, -, h⟩ := Option.bind_eq_some_iff.1 h
    split at h
    · obtain rfl := Option.some.inj h
      simp only [Time.offset]
      split <;> omega
    · cases h
  · cases h

/-- An offset leads from a year into the next one at the most. -/
theorem year_le_of_ofClock? {date : Date} {hour minute second nanos : Nat} {offset : Int}
    {t : Instant} (hoffset : -86400 < offset)
    (h : ofClock? date hour minute second nanos offset = some t) : t.date.year ≤ date.year + 1 := by
  simp only [ofClock?, Option.ite_none_right_eq_some] at h
  obtain ⟨⟨hdate, hhour, hminute, -⟩, h⟩ := h
  have hseconds := (ofParts?_eq_some_iff.1 h).1
  have hday := (Date.dayNumber_bounds hdate).2
  rw [year_le_iff]
  simp only [Date.daysBeforeYear] at hday ⊢
  omega

/-- An instant that was read lies in the year 10000 at the latest. -/
theorem year_le_of_ofStored? {s : String} {t : Instant} (h : ofStored? s = some t) :
    t.date.year ≤ 10000 := by
  unfold ofStored? at h
  split at h
  · obtain ⟨-, -, h⟩ := Option.bind_eq_some_iff.1 h
    obtain ⟨year, hyear, h⟩ := Option.bind_eq_some_iff.1 h
    obtain ⟨month, -, h⟩ := Option.bind_eq_some_iff.1 h
    obtain ⟨day, -, h⟩ := Option.bind_eq_some_iff.1 h
    obtain ⟨hour, -, h⟩ := Option.bind_eq_some_iff.1 h
    obtain ⟨minute, -, h⟩ := Option.bind_eq_some_iff.1 h
    obtain ⟨second, -, h⟩ := Option.bind_eq_some_iff.1 h
    obtain ⟨⟨nanos, rest⟩, -, h⟩ := Option.bind_eq_some_iff.1 h
    obtain ⟨offset, hoffset, h⟩ := Option.bind_eq_some_iff.1 h
    have hlast := year_le_of_ofClock? (zone?_bounds hoffset).1 h
    have hdigits : year < 10 ^ 4 := Decimal.lt_of_nat? hyear
    simp only at hlast
    omega
  · cases h

theorem year_le_of_parse {s : String} {t : Instant} (h : parse s = .ok t) :
    t.date.year ≤ 10000 := by
  unfold parse at h
  split at h
  · rename_i read hread
    exact Except.ok.inj h ▸ year_le_of_ofStored? hread
  · cases h

end Time.Instant

end SpacedReview

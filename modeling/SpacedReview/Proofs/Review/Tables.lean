import SpacedReview.Proofs.Review.Marks

/-!
# Sound tables and the order of their reviews

A table is made of a row of intervals just if the row is sound: it has a first interval, none is
negative or longer than a hundred years, and none is shorter than any one in front of it. Only
neighbours are compared, which is enough.

A card of a higher level is then never due earlier than one of a lower level that is reviewed at the
same time, and no card is due before its review. Both come from the order of instants that are moved
forward, as a review may take place within a leap second.

## Main statements

* `LevelTable.exists_ofIntervals_iff`: which rows of intervals make a table.
* `LevelTable.reviews_ascend`: the same, and in what order a table schedules reviews.
-/

namespace SpacedReview.Review.LevelTable

open SpacedReview.Time

variable {intervals : List Duration} {table : LevelTable}

/-! ### Tables -/

/-- A table is made of its own intervals and of no others. -/
theorem ofIntervals_eq_ok_iff :
    ofIntervals intervals = .ok table ↔ table.intervals = intervals := by
  constructor
  · intro h
    simp only [ofIntervals] at h
    split at h
    · cases h
    · split at h
      · cases h
      · split at h
        · cases h
        · split at h
          · exact Except.ok.inj h ▸ rfl
          · cases h
  · rintro rfl
    have hneg : ¬ table.intervals.any (fun i ↦ decide (i < 0)) = true := by
      simpa using table.nonneg
    have hlong : ¬ table.intervals.any (fun i ↦ decide (longestInterval < i)) = true := by
      simpa using table.le_longest
    rw [ofIntervals, dif_neg table.ne_nil, dif_neg hneg, dif_neg hlong,
      dif_pos (neighboursAscend_of_pairwise table.ascending)]

/-- A table is made of the rows of intervals that are sound. -/
theorem exists_ofIntervals_iff : (∃ table, ofIntervals intervals = .ok table) ↔
    intervals ≠ [] ∧ (∀ i ∈ intervals, 0 ≤ i ∧ i ≤ longestInterval) ∧
      intervals.Pairwise (· ≤ ·) := by
  constructor
  · rintro ⟨table, h⟩
    obtain rfl := ofIntervals_eq_ok_iff.1 h
    exact ⟨table.ne_nil, fun i hi ↦ ⟨table.nonneg i hi, table.le_longest i hi⟩, table.ascending⟩
  · rintro ⟨hne, hbounds, hascending⟩
    exact ⟨⟨intervals, hne, fun i hi ↦ (hbounds i hi).1, fun i hi ↦ (hbounds i hi).2, hascending⟩,
      ofIntervals_eq_ok_iff.2 rfl⟩

/-! ### Reviews -/

/-- A hundred years before the end of time a review leads to where the interval of its level leads
to. -/
theorem exists_nextReview_of_room (table : LevelTable) {now : Instant} {level : Nat}
    (h : level < table.size)
    (hrange : now.seconds + secondsOfCentury ≤ lastSecond) :
    ∃ due, table.nextReview level now = .ok due ∧ now.add table.intervals[level] = some due := by
  have hmem : table.intervals[level] ∈ table.intervals := List.getElem_mem h
  have hlongest := Duration.le_def.1 (table.le_longest _ hmem)
  simp only [longestInterval, Duration.days, secondsOfCentury] at hrange hlongest
  obtain ⟨due, hdue, -⟩ := Instant.exists_add (t := now) (table.nonneg _ hmem) (by omega)
  exact ⟨due, (nextReview_eq_ok_iff h).2 ⟨_, List.getElem?_eq_getElem h, hdue⟩, hdue⟩

/-- A row of intervals, which are exact to the nanosecond, makes a table just if it is not empty,
its intervals are between zero and a hundred years, and they ascend. Its levels lead to reviews in
their order, from the present instant on, and a longer interval leads to a later one; the present
instant may lie in a leap second, and lies a hundred years before the end of time or earlier. -/
theorem reviews_ascend (intervals : List Duration) :
    ((∃ table, ofIntervals intervals = .ok table) ↔
      intervals ≠ [] ∧ (∀ i ∈ intervals, 0 ≤ i ∧ i ≤ .days 36525) ∧
        ∀ i j, ∀ (_ : i ≤ j) (_ : j < intervals.length), intervals[i] ≤ intervals[j]) ∧
    ∀ table, ofIntervals intervals = .ok table →
      ∀ now : Instant, now.seconds + 36525 * 86400 ≤ lastSecond →
        ∀ i j, ∀ (_ : i ≤ j) (_ : j < intervals.length),
          ∃ s t, table.nextReview i now = .ok s ∧ table.nextReview j now = .ok t ∧
            now ≤ s ∧ s ≤ t ∧ (intervals[i] < intervals[j] → s < t) := by
  refine ⟨?_, fun table htable now hrange i j hij hj ↦ ?_⟩
  · have hpairwise : intervals.Pairwise (· ≤ ·) ↔
        ∀ i j, ∀ (_ : i ≤ j) (_ : j < intervals.length), intervals[i] ≤ intervals[j] := by
      rw [List.pairwise_iff_getElem]
      constructor
      · intro h i j hij hj
        rcases hij.eq_or_lt with rfl | hlt
        · exact Duration.le_refl _
        · exact h i j (by omega) hj hlt
      · intro h i j hi hj hlt
        exact h i j hlt.le hj
    rw [exists_ofIntervals_iff, hpairwise, longestInterval]
  · obtain rfl := ofIntervals_eq_ok_iff.1 htable
    obtain ⟨s, hs, hadds⟩ :=
      table.exists_nextReview_of_room (Nat.lt_of_le_of_lt hij hj) hrange
    obtain ⟨t, ht, haddt⟩ := table.exists_nextReview_of_room hj hrange
    have hforward := table.nonneg _ (List.getElem_mem (Nat.lt_of_le_of_lt hij hj))
    have hle : table.intervals[i] ≤ table.intervals[j] := by
      rcases hij.eq_or_lt with rfl | hlt
      · exact Duration.le_refl _
      · exact List.pairwise_iff_getElem.1 table.ascending i j _ hj hlt
    exact ⟨s, t, hs, ht, Instant.add_le_add (Duration.le_refl _) hforward now.add_zero hadds,
      Instant.add_le_add hforward hle hadds haddt,
      fun hlt ↦ Instant.add_lt_add hforward hlt hadds haddt⟩

/-- Within a leap second, one nanosecond before its end, a duration of nothing leads nowhere, one
nanosecond leads out of it and a second leads further. -/
theorem reviews_ascend_within_leap_second :
    let intervals : List Duration := [0, ⟨1⟩, ⟨1000000000⟩]
    let now : Instant := ⟨1483228799, 1999999999, by decide, by decide, by decide, by decide⟩
    let s : Instant := ⟨1483228800, 0, by decide, by decide, by decide, by decide⟩
    let t : Instant := ⟨1483228800, 999999999, by decide, by decide, by decide, by decide⟩
    ∃ table, ofIntervals intervals = .ok table ∧ table.nextReview 1 now = .ok s ∧
      table.nextReview 2 now = .ok t ∧ now ≤ s ∧ s < t := by
  intro intervals now s t
  let table : LevelTable := ⟨intervals, by decide, by decide, by decide, by decide⟩
  have htable : ofIntervals intervals = .ok table := ofIntervals_eq_ok_iff.2 rfl
  have hs : table.nextReview 1 now = .ok s := by decide
  have ht : table.nextReview 2 now = .ok t := by decide
  obtain ⟨s', t', hs', ht', hle, -, hlt⟩ :=
    (reviews_ascend intervals).2 table htable now (by decide) 1 2 (by decide) (by decide)
  obtain rfl := Except.ok.inj (hs.symm.trans hs')
  obtain rfl := Except.ok.inj (ht.symm.trans ht')
  exact ⟨table, htable, hs, ht, hle, hlt (by decide)⟩

/-- Neighbours that descend by one nanosecond make no table, and neither does one nanosecond more
than a hundred years. -/
example : ofIntervals [⟨2⟩, ⟨1⟩] = .error .descending ∧
    ofIntervals [⟨36525 * 86400 * 1000000000 + 1⟩] = .error .tooLong := by
  decide

end SpacedReview.Review.LevelTable

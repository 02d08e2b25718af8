import SpacedReview.Proofs.Results
import SpacedReview.Proofs.Time.Moving
import SpacedReview.Review.Scheduler

/-!
# What a mark does

A mark clamps the level into the table, counts the answer, and moves the next review if the answer
is right. The clamped level always has an interval, so a mark can only fail because the next review
lies beyond the range of time, and this can only happen to a right answer. The first review of a
card may also fail on the delay that its record starts with.

In a store the record is loaded before the review and saved after it, and the first of the three
that fails decides how the mark fails.

## Main statements

* `Record.mark_eq_ok_iff`: what a record is marked to.
* `Record.mark_eq_error_iff`: when a record cannot be marked.
* `Scheduler.level_lt_of_review`, `Scheduler.eq_timeOverflow_of_review`: the same for reviews.
* `Scheduler.mark_eq_ok_iff`, `Scheduler.mark_eq_error_iff`: the same for records in stores.
-/

namespace SpacedReview

open SpacedReview.Review SpacedReview.Text SpacedReview.Time

namespace Text.Decimal

theorem wrapInt64_of_fits {n : Int} (h : FitsInt64 n) : wrapInt64 n = n := by
  obtain ⟨hfirst, hlast⟩ := h
  show n.bmod 18446744073709551616 = n
  exact Int.bmod_eq_of_le (by omega) (by omega)

theorem wrapInt64_of_lt {n : Nat} (h : n < 2 ^ 63) : wrapInt64 n = n :=
  wrapInt64_of_fits ⟨by omega, by omega⟩

theorem wrapInt64_lt (n : Int) : wrapInt64 n < 2 ^ 63 :=
  Int.bmod_lt (by decide)

end Text.Decimal

namespace Time.Instant

theorem after_eq_ok_iff {t u : Instant} {d : Duration} :
    t.after d = .ok u ↔ t.add d = some u := by
  unfold after
  cases t.add d <;> simp

theorem after_eq_error_iff {t : Instant} {d : Duration} {f : Failure} :
    t.after d = .error f ↔ t.add d = none ∧ f = .timeOverflow := by
  unfold after
  cases t.add d <;> simp [eq_comm]

end Time.Instant

namespace Review

variable {outcome : Outcome} {table : LevelTable} {now : Instant} {level : Nat}

/-! ### Intervals -/

namespace LevelTable

/-- A level of a table has an interval. -/
theorem exists_interval (table : LevelTable) (h : level < table.size) :
    ∃ i, table.interval? level = some i ∧ 0 ≤ i ∧ i ≤ longestInterval := by
  have hmem : table.intervals[level] ∈ table.intervals := List.getElem_mem h
  exact ⟨table.intervals[level], List.getElem?_eq_getElem h, table.nonneg _ hmem,
    table.le_longest _ hmem⟩

/-- A lower level has an interval that is no longer. -/
theorem exists_interval_le {lower : Nat} {i : Duration} (hle : lower ≤ level)
    (hi : table.interval? level = some i) :
    ∃ j, table.interval? lower = some j ∧ 0 ≤ j ∧ j ≤ i := by
  obtain ⟨h, rfl⟩ := List.getElem?_eq_some_iff.1 hi
  obtain ⟨j, hj, hnonneg, -⟩ := table.exists_interval (hle.trans_lt h)
  refine ⟨j, hj, hnonneg, ?_⟩
  obtain ⟨hlower, rfl⟩ := List.getElem?_eq_some_iff.1 hj
  rcases hle.eq_or_lt with rfl | hlt
  · exact Duration.le_refl _
  · exact List.pairwise_iff_getElem.1 table.ascending lower level hlower h hlt

/-- The next review is an interval away. -/
theorem nextReview_of_interval? {i : Duration} (h : table.interval? level = some i)
    (now : Instant) : table.nextReview level now = now.after i := by
  rw [nextReview, interval, h]
  rfl

theorem nextReview_eq_ok_iff {due : Instant} (h : level < table.size) :
    table.nextReview level now = .ok due ↔
      ∃ i, table.interval? level = some i ∧ now.add i = some due := by
  obtain ⟨i, hi, -⟩ := table.exists_interval h
  simp [nextReview_of_interval? hi, Instant.after_eq_ok_iff, hi]

theorem nextReview_eq_error_iff {f : Failure} (h : level < table.size) :
    table.nextReview level now = .error f ↔
      (∃ i, table.interval? level = some i ∧ now.add i = none) ∧ f = .timeOverflow := by
  obtain ⟨i, hi, -⟩ := table.exists_interval h
  simp [nextReview_of_interval? hi, Instant.after_eq_error_iff, hi]

/-- The seconds of the longest interval. -/
def secondsOfCentury : Int := 36525 * 86400

/-- More than a hundred years before the end of time every level leads to a next review. -/
theorem exists_nextReview_of_lt (table : LevelTable) (h : level < table.size)
    (hrange : now.seconds + secondsOfCentury < lastSecond) :
    ∃ due, table.nextReview level now = .ok due ∧ now.seconds ≤ due.seconds ∧
      due.seconds ≤ now.seconds + secondsOfCentury + 1 := by
  obtain ⟨i, hi, hforward, hlongest⟩ := table.exists_interval h
  rw [Duration.le_def] at hlongest
  simp only [longestInterval, Duration.days, secondsOfCentury] at *
  obtain ⟨due, hdue, hle, hge⟩ := Instant.exists_add (t := now) hforward (by omega)
  refine ⟨due, ?_, hle, by omega⟩
  rw [nextReview_of_interval? hi, Instant.after_eq_ok_iff]
  exact hdue

end LevelTable

/-! ### Marks -/

namespace Record

variable {r marked : Record}

theorem levelAfter_lt_size (r : Record) (outcome : Outcome) (table : LevelTable) :
    r.levelAfter outcome table < table.size := table.clamp_lt_size _

/-- A level below the highest one moves by the answer and is brought into the table. -/
theorem levelAfter_eq (h : r.level < 2 ^ 63 - 1) (outcome : Outcome) (table : LevelTable) :
    r.levelAfter outcome table = table.clamp (r.level + outcome.delta) := by
  rw [levelAfter, Decimal.wrapInt64_of_lt (by omega), Decimal.wrapInt64_of_fits]
  cases outcome <;> exact ⟨by simp only [Outcome.delta]; omega, by simp only [Outcome.delta]; omega⟩

/-- A mark leads to a level that is a signed number. -/
theorem levelAfter_lt (r : Record) (outcome : Outcome) (table : LevelTable) :
    r.levelAfter outcome table < 2 ^ 63 := by
  have := Decimal.wrapInt64_lt (Decimal.wrapInt64 r.level + outcome.delta)
  simp only [levelAfter, LevelTable.clamp]
  omega

/-- A mark replaces the next review if the answer is right, and everything but the card anyway. -/
theorem mark_eq (r : Record) (outcome : Outcome) (table : LevelTable) (now : Instant) :
    r.mark outcome table now =
      (if outcome = .right then table.nextReview (r.levelAfter outcome table) now
        else .ok r.nextReview).map fun nextReview ↦
          ⟨r.card, r.levelAfter outcome table, nextReview, r.stat.count outcome now⟩ := by
  unfold mark
  by_cases hright : outcome = .right
  · simp only [if_pos hright]
    cases table.nextReview (r.levelAfter outcome table) now <;> rfl
  · simp only [if_neg hright]
    rfl

/-- What a record is marked to. The interval is that of the level that the mark leads to. -/
theorem mark_eq_ok_iff : r.mark outcome table now = .ok marked ↔
    marked.card = r.card ∧ marked.level = r.levelAfter outcome table ∧
      marked.stat = r.stat.count outcome now ∧
        (if outcome = .right then
          ∃ i, table.interval? marked.level = some i ∧ now.add i = some marked.nextReview
        else marked.nextReview = r.nextReview) := by
  have hsize := r.levelAfter_lt_size outcome table
  rw [mark_eq, map_eq_ok_iff]
  by_cases hright : outcome = .right
  · rw [if_pos hright, if_pos hright]
    constructor
    · rintro ⟨due, hdue, rfl⟩
      simpa only [true_and] using (LevelTable.nextReview_eq_ok_iff hsize).1 hdue
    · rintro ⟨hcard, hlevel, hstat, hdue⟩
      rw [hlevel] at hdue
      exact ⟨marked.nextReview, (LevelTable.nextReview_eq_ok_iff hsize).2 hdue,
        by rw [← hcard, ← hlevel, ← hstat]⟩
  · rw [if_neg hright, if_neg hright]
    constructor
    · rintro ⟨due, hdue, rfl⟩
      simpa only [true_and] using (Except.ok.inj hdue).symm
    · rintro ⟨hcard, hlevel, hstat, hnext⟩
      exact ⟨r.nextReview, rfl, by rw [← hcard, ← hlevel, ← hstat, ← hnext]⟩

/-- A mark only fails where the next review of a right answer is beyond the range of time. -/
theorem mark_eq_error_iff {f : Failure} : r.mark outcome table now = .error f ↔
    outcome = .right ∧ f = .timeOverflow ∧
      ∃ i, table.interval? (r.levelAfter outcome table) = some i ∧ now.add i = none := by
  rw [mark_eq, map_eq_error_iff]
  by_cases hright : outcome = .right
  · rw [if_pos hright, LevelTable.nextReview_eq_error_iff (r.levelAfter_lt_size outcome table),
      and_iff_right hright]
    exact And.comm
  · rw [if_neg hright]
    exact iff_of_false (fun h ↦ by cases h) fun h ↦ hright h.1

/-- More than a hundred years before the end of time every record can be marked. -/
theorem exists_mark_of_lt (r : Record) (outcome : Outcome) (table : LevelTable)
    (hrange : now.seconds + LevelTable.secondsOfCentury < lastSecond) :
    ∃ marked, r.mark outcome table now = .ok marked := by
  obtain ⟨due, hdue, -⟩ :=
    table.exists_nextReview_of_lt (r.levelAfter_lt_size outcome table) hrange
  rw [mark_eq, hdue]
  split <;> exact ⟨_, rfl⟩

end Record

/-! ### Reviews -/

namespace Scheduler

variable {scheduler : Scheduler} {loaded : Option Record} {card : CardId} {r : Record}

/-- The record that a review starts from: the one that was loaded, or a fresh one. -/
theorem review_eq (scheduler : Scheduler) (loaded : Option Record) (card : CardId)
    (outcome : Outcome) (now : Instant) :
    scheduler.review loaded card outcome now =
      (loaded.elim (Record.fresh card now scheduler.delay) .ok).bind
        fun start ↦ start.mark outcome scheduler.levels now := by
  cases loaded <;> rfl

/-- The level that a review leads to is that of a mark. -/
theorem exists_levelAfter_of_review (h : scheduler.review loaded card outcome now = .ok r) :
    ∃ start : Record, r.level = start.levelAfter outcome scheduler.levels := by
  rw [review_eq] at h
  obtain ⟨start, -, hmark⟩ := bind_eq_ok_iff.1 h
  exact ⟨start, (Record.mark_eq_ok_iff.1 hmark).2.1⟩

/-- A review leads to a level of the table. -/
theorem level_lt_of_review (h : scheduler.review loaded card outcome now = .ok r) :
    r.level < scheduler.levels.size := by
  obtain ⟨start, hlevel⟩ := exists_levelAfter_of_review h
  exact hlevel ▸ start.levelAfter_lt_size outcome scheduler.levels

/-- A review is about the card that is reviewed, if the loaded record is. -/
theorem card_of_review (hloaded : ∀ old ∈ loaded, old.card = card)
    (h : scheduler.review loaded card outcome now = .ok r) : r.card = card := by
  have hmark : ∀ {old : Record}, old.card = card → old.mark outcome scheduler.levels now = .ok r →
      r.card = card := fun hold hmarked ↦ (Record.mark_eq_ok_iff.1 hmarked).1.trans hold
  cases loaded with
  | some old => exact hmark (hloaded old rfl) h
  | none =>
    obtain ⟨fresh, hfresh, h⟩ := bind_eq_ok_iff.1 h
    obtain ⟨due, -, hfresh⟩ := bind_eq_ok_iff.1 hfresh
    exact hmark (congrArg Record.card (Except.ok.inj hfresh).symm) h

/-- A review only fails where an instant would be beyond the range of time. -/
theorem eq_timeOverflow_of_review {f : Failure}
    (h : scheduler.review loaded card outcome now = .error f) : f = .timeOverflow := by
  have hmark : ∀ {start : Record}, start.mark outcome scheduler.levels now = .error f →
      f = .timeOverflow := fun hmark ↦ (Record.mark_eq_error_iff.1 hmark).2.1
  cases loaded with
  | some old => exact hmark h
  | none =>
    rw [review_eq, Option.elim_none, Record.fresh] at h
    cases hdue : now.after scheduler.delay with
    | error g =>
      rw [hdue] at h
      exact (Except.error.inj h) ▸ (Instant.after_eq_error_iff.1 hdue).2
    | ok due =>
      rw [hdue] at h
      exact hmark h

/-- A review does not fail if neither the delay nor a hundred years lead to the end of time. -/
theorem exists_review_of_lt (loaded : Option Record) (card : CardId) (outcome : Outcome)
    (hforward : 0 ≤ scheduler.delay)
    (hdelay : now.seconds + scheduler.delay.nanos / 1000000000 < lastSecond)
    (hrange : now.seconds + LevelTable.secondsOfCentury < lastSecond) :
    ∃ r, scheduler.review loaded card outcome now = .ok r := by
  rw [review_eq]
  cases loaded with
  | some old => exact old.exists_mark_of_lt outcome scheduler.levels hrange
  | none =>
    obtain ⟨due, hdue, -⟩ := Instant.exists_add (t := now) hforward (by omega)
    rw [Option.elim_none, Record.fresh, Instant.after_eq_ok_iff.2 hdue]
    exact Record.exists_mark_of_lt _ outcome scheduler.levels hrange

/-! ### Reviews in stores -/

variable {σ : Type} {store : RecordStore σ} {state next : σ} {session : Session} {owner : Subject}
  {f : Failure}

/-- A mark that fails before it saves leaves the state. -/
theorem mark_of_error {f : Failure}
    (h : (store.load state owner card).bind (scheduler.review · card outcome now) = .error f) :
    scheduler.mark store state (some owner) card outcome now = (.error f, state) := by
  simp only [mark, Session.subject, h]

/-- Any other mark leaves what saving leaves. -/
theorem mark_of_ok
    (h : (store.load state owner card).bind (scheduler.review · card outcome now) = .ok r) :
    scheduler.mark store state (some owner) card outcome now =
      ((store.save state owner r).1.map fun _ ↦ r, (store.save state owner r).2) := by
  simp only [mark, Session.subject, h]

/-- A card is marked if its user is logged in and each of the steps succeeds. -/
theorem mark_eq_ok_iff : scheduler.mark store state session card outcome now = (.ok r, next) ↔
    ∃ owner, session = some owner ∧ ∃ loaded, store.load state owner card = .ok loaded ∧
      scheduler.review loaded card outcome now = .ok r ∧
        store.save state owner r = (.ok (), next) := by
  cases session with
  | none => exact iff_of_false (fun h ↦ by cases h) fun ⟨_, h, _⟩ ↦ by cases h
  | some owner =>
    simp only [Option.some.injEq, exists_eq_left']
    cases hreview : (store.load state owner card).bind (scheduler.review · card outcome now) with
    | error f =>
      rw [mark_of_error hreview]
      refine iff_of_false (fun h ↦ by cases h) ?_
      rintro ⟨loaded, hload, hok, -⟩
      rw [hload] at hreview
      exact absurd (hreview.symm.trans hok) (by simp)
    | ok r' =>
      obtain ⟨loaded, hload, hok⟩ := bind_eq_ok_iff.1 hreview
      rw [mark_of_ok hreview]
      simp only [hload, Except.ok.injEq, exists_eq_left', hok, Prod.ext_iff, map_eq_ok_iff]
      constructor
      · rintro ⟨⟨_, hsaved, rfl⟩, hnext⟩
        exact ⟨rfl, hsaved, hnext⟩
      · rintro ⟨rfl, hsaved, hnext⟩
        exact ⟨⟨_, hsaved, rfl⟩, hnext⟩

/-- A mark fails if no user is logged in, or for the first of the steps that does. Only saving can
leave another state. -/
theorem mark_eq_error_iff {f : Failure} :
    scheduler.mark store state session card outcome now = (.error f, next) ↔
      session = none ∧ f = .notLoggedIn ∧ next = state ∨ ∃ owner, session = some owner ∧
        (store.load state owner card = .error f ∧ next = state ∨
          ∃ loaded, store.load state owner card = .ok loaded ∧
            (scheduler.review loaded card outcome now = .error f ∧ next = state ∨
              ∃ r, scheduler.review loaded card outcome now = .ok r ∧
                store.save state owner r = (.error f, next))) := by
  cases session with
  | none =>
    have hnone : scheduler.mark store state none card outcome now = (.error .notLoggedIn, state) :=
      rfl
    simp [hnone, eq_comm]
  | some owner =>
    simp only [Option.some.injEq, exists_eq_left', reduceCtorEq, false_and, false_or]
    cases hload : store.load state owner card with
    | error g =>
      rw [mark_of_error (f := g) (by rw [hload]; rfl)]
      simp [eq_comm]
    | ok loaded =>
      simp only [reduceCtorEq, false_and, false_or, Except.ok.injEq, exists_eq_left']
      cases hreview : scheduler.review loaded card outcome now with
      | error g =>
        rw [mark_of_error (f := g) (by rw [hload]; exact hreview)]
        simp [eq_comm]
      | ok r =>
        rw [mark_of_ok (r := r) (by rw [hload]; exact hreview)]
        simp [Prod.ext_iff, map_eq_error_iff]

end Scheduler

end Review

end SpacedReview

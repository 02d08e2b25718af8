import SpacedReview.Proofs.Configuration
import SpacedReview.Proofs.Review.Marks
import SpacedReview.Proofs.Store.Records
import SpacedReview.Proofs.Store.Search

/-!
# Marking a card again and again

Whoever marks a card expects to find the record that came out of it. Each mark loads the record of
the one before, and what is stored is not always read again: a next review after the year 9999 is
written with a sign and a fifth digit, which the reader of stored times refuses.

The intervals of the levels cannot lead there, since none is longer than a hundred years. The delay
of a card that was never reviewed has no such bound, so it depends on the first mark: a right answer
replaces the delay by the interval of a level, and any other answer keeps it
(`Config.readable_iff`).

## Main statements

* `Record.exists_mark`: what a mark does to a record.
* `Scheduler.readable_of_quiz`: a card with a record that can be read stays readable.
* `Config.readable_iff`: when a card without a record is readable after every mark.
-/

namespace SpacedReview

open SpacedReview.Review SpacedReview.Store SpacedReview.Text SpacedReview.Time

/-! ### Records -/

namespace Review

theorem truncated_hasFourDigitYear {t : Instant} (h : t.HasFourDigitYear) :
    t.truncated.HasFourDigitYear := h

/-- Up to the year 8999 the interval of a level leads to a year of four digits. -/
theorem LevelTable.exists_nextReview (table : LevelTable) {level : Nat} (h : level < table.size)
    {now : Instant} (hfirst : 0 ≤ now.date.year) (hlast : now.date.year ≤ 8999) :
    ∃ due, table.nextReview level now = .ok due ∧ due.HasFourDigitYear := by
  rw [Instant.year_le_iff] at hlast
  simp only [Date.daysBeforeYear, Date.epochOffset] at hlast
  have hrange : now.seconds + secondsOfCentury < lastSecond := by
    simp only [lastSecond, secondsOfCentury]
    omega
  obtain ⟨due, hdue, hle, hge⟩ := table.exists_nextReview_of_lt h hrange
  refine ⟨due, hdue, Instant.year_nonneg_of_le hle hfirst, ?_⟩
  rw [Instant.year_le_iff]
  simp only [Date.daysBeforeYear, Date.epochOffset, secondsOfCentury] at hge ⊢
  omega

/-- What a mark does to a record, up to the year 8999. -/
theorem Record.exists_mark (r : Record) (outcome : Outcome) (table : LevelTable) {now : Instant}
    (hfirst : 0 ≤ now.date.year) (hlast : now.date.year ≤ 8999) :
    ∃ marked, r.mark outcome table now = .ok marked ∧ marked.card = r.card ∧
      (if outcome = .right then marked.nextReview.HasFourDigitYear
        else marked.nextReview = r.nextReview) := by
  have hsize := r.levelAfter_lt_size outcome table
  rw [mark_eq]
  generalize r.levelAfter outcome table = level at hsize ⊢
  by_cases hright : outcome = .right
  · obtain ⟨due, hdue, hyear⟩ := table.exists_nextReview hsize hfirst hlast
    refine ⟨⟨r.card, level, due, r.stat.count outcome now⟩, ?_, rfl, by rwa [if_pos hright]⟩
    rw [if_pos hright, hdue, Except.map]
  · refine ⟨⟨r.card, level, r.nextReview, r.stat.count outcome now⟩, ?_, rfl,
      by rw [if_neg hright]⟩
    rw [if_neg hright, Except.map]

/-! ### Marks -/

namespace Scheduler

/-- Does every mark of a card give a record, and is this record what is loaded then, its next review
cut off after the millisecond? -/
def Readable (scheduler : Scheduler) (session : Session) (card : CardId) :
    Database → List (Outcome × Instant) → Prop
  | _, [] => True
  | db, (outcome, now) :: marks => ∃ r saved,
    scheduler.mark Database.store db session card outcome now = (.ok r, saved) ∧
      Database.store.loadFor saved session card =
        .ok (some { r with nextReview := r.nextReview.truncated }) ∧
      Readable scheduler session card saved marks

variable {scheduler : Scheduler} {db : Database} {owner : Subject} {card : CardId}

/-- A card with a record is marked from it. -/
theorem review_some (scheduler : Scheduler) (r : Record) (card : CardId) (outcome : Outcome)
    (now : Instant) :
    scheduler.review (some r) card outcome now = r.mark outcome scheduler.levels now := rfl

/-- A mark puts the record that the outcome makes of the loaded one. -/
theorem mark_eq_of_review {loaded : Option Record} {outcome : Outcome} {now : Instant} {r : Record}
    (howned : (db.owned? owner card).isSome = true) (hload : db.load owner card = .ok loaded)
    (hreview : scheduler.review loaded card outcome now = .ok r) (hcard : r.card = card) :
    scheduler.mark Database.store db (some owner) card outcome now =
      (.ok r, db.putQuiz (Database.QuizRow.write r)) := by
  subst hcard
  exact mark_eq_ok_iff.2 ⟨owner, rfl, loaded, hload, hreview, Database.save_of_owned howned⟩

/-- A mark whose record is due in a year of four digits is followed by others. -/
theorem readable_cons_of_review {loaded : Option Record} {outcome : Outcome} {now : Instant}
    {r : Record} {marks : List (Outcome × Instant)}
    (howned : (db.owned? owner card).isSome = true) (hload : db.load owner card = .ok loaded)
    (hreview : scheduler.review loaded card outcome now = .ok r) (hcard : r.card = card)
    (hyear : r.nextReview.HasFourDigitYear)
    (hrest : scheduler.Readable (some owner) card (db.putQuiz (Database.QuizRow.write r)) marks) :
    scheduler.Readable (some owner) card db ((outcome, now) :: marks) := by
  refine ⟨r, _, mark_eq_of_review howned hload hreview hcard, ?_, hrest⟩
  subst hcard
  show (db.putQuiz (Database.QuizRow.write r)).load owner r.card = _
  rw [Database.load_putQuiz howned, Database.QuizRow.read_write hyear,
    (isStorable_of_review hreview hyear).restored_eq]
  rfl

/-- A card whose record is due in a year of four digits is readable after every mark. -/
theorem readable_of_quiz {r : Record} {marks : List (Outcome × Instant)}
    (howned : (db.owned? owner card).isSome = true)
    (hquiz : db.quiz? card = some (Database.QuizRow.write r)) (hcard : r.card = card)
    (hyear : r.nextReview.HasFourDigitYear)
    (htimes : ∀ m ∈ marks, 0 ≤ m.2.date.year ∧ m.2.date.year ≤ 8999) :
    scheduler.Readable (some owner) card db marks := by
  induction marks generalizing db r with
  | nil => trivial
  | cons m marks ih =>
    obtain ⟨outcome, now⟩ := m
    obtain ⟨hfirst, hlast⟩ := htimes (outcome, now) (by simp)
    have hload : db.load owner card = .ok (some r.restored) := by
      rw [Database.load_of_owned howned, hquiz]
      simp only [Database.QuizRow.read_write hyear]
      rfl
    obtain ⟨marked, hmarked, hsame, hnext⟩ :=
      r.restored.exists_mark outcome scheduler.levels hfirst hlast
    have hyear' : marked.nextReview.HasFourDigitYear := by
      split at hnext
      · exact hnext
      · rw [hnext, Record.restored_nextReview]
        exact truncated_hasFourDigitYear hyear
    have hcard' : marked.card = card := by rw [hsame, Record.restored_card, hcard]
    have hquiz' : (db.putQuiz (Database.QuizRow.write marked)).quiz? card =
        some (Database.QuizRow.write marked) := by
      rw [Database.quiz?_putQuiz, Database.QuizRow.write, if_pos hcard']
    refine readable_cons_of_review howned hload ((review_some ..).trans hmarked) hcard' hyear' ?_
    exact ih (by rwa [Database.owned?_putQuiz]) hquiz' hcard' hyear'
      fun m hm ↦ htimes m (List.mem_cons_of_mem _ hm)

/-- The first mark of a card keeps the delay unless the answer is right. -/
theorem exists_review_none (card : CardId) (outcome : Outcome) {now due : Instant}
    (hdue : now.add scheduler.delay = some due) (hfirst : 0 ≤ now.date.year)
    (hlast : now.date.year ≤ 8999) :
    ∃ marked, scheduler.review none card outcome now = .ok marked ∧ marked.card = card ∧
      (if outcome = .right then marked.nextReview.HasFourDigitYear
        else marked.nextReview = due) := by
  let fresh : Record := ⟨card, 0, due, .initial⟩
  have hfresh : Record.fresh card now scheduler.delay = .ok fresh := by
    simp only [Record.fresh, Instant.after, hdue, bind, Except.bind, pure, Except.pure, fresh]
  obtain ⟨marked, hmarked, hcard, hnext⟩ :=
    fresh.exists_mark outcome scheduler.levels hfirst hlast
  refine ⟨marked, ?_, hcard, hnext⟩
  simp only [review, hfresh, bind, Except.bind]
  exact hmarked

/-- A record that is due after the year 9999 is stored and not read again. -/
theorem load_putQuiz_of_large_year {r : Record} (howned : (db.owned? owner r.card).isSome = true)
    (hyear : 9999 < r.nextReview.date.year) :
    (db.putQuiz (Database.QuizRow.write r)).load owner r.card = .error .database := by
  rw [Database.load_putQuiz howned, Database.QuizRow.read_write_of_large_year hyear]
  rfl

/-- The delay does not lead out of the range of time. -/
theorem exists_add_delay (hforward : 0 ≤ scheduler.delay)
    (hdelay : scheduler.delay < .minutes Decimal.count32) {now : Instant}
    (hlast : now.date.year ≤ 8999) :
    ∃ due, now.add scheduler.delay = some due ∧ now.seconds ≤ due.seconds := by
  rw [Instant.year_le_iff] at hlast
  rw [Duration.lt_def] at hdelay
  obtain ⟨due, hdue, hle, -⟩ := Instant.exists_add hforward (t := now) (by
    simp only [Date.daysBeforeYear, Date.epochOffset, Duration.minutes, Decimal.count32,
      lastSecond] at hlast hdelay ⊢
    omega)
  exact ⟨due, hdue, hle⟩

/-- A card that was never reviewed is readable after every mark if the delay does not lead beyond
the year 9999, or the first answer is right, and only then. -/
theorem readable_first_iff (hforward : 0 ≤ scheduler.delay)
    (hdelay : scheduler.delay < .minutes Decimal.count32)
    (howned : (db.owned? owner card).isSome = true) (hnew : db.quiz? card = none)
    {marks : List (Outcome × Instant)}
    (htimes : ∀ m ∈ marks, 0 ≤ m.2.date.year ∧ m.2.date.year ≤ 8999) :
    scheduler.Readable (some owner) card db marks ↔ ∀ m ∈ marks.head?, m.1 = .right ∨
      ∃ due, m.2.add scheduler.delay = some due ∧ due.date.year ≤ 9999 := by
  cases marks with
  | nil => simp [Readable]
  | cons m marks =>
    obtain ⟨outcome, now⟩ := m
    obtain ⟨hfirst, hlast⟩ := htimes (outcome, now) (by simp)
    have hload : db.load owner card = .ok none := by
      rw [Database.load_of_owned howned, hnew]
    obtain ⟨due, hdue, hle⟩ := exists_add_delay hforward hdelay hlast
    obtain ⟨marked, hmarked, hcard, hnext⟩ :=
      exists_review_none card outcome hdue hfirst hlast
    have hquiz : (db.putQuiz (Database.QuizRow.write marked)).quiz? card =
        some (Database.QuizRow.write marked) := by
      rw [Database.quiz?_putQuiz, Database.QuizRow.write, if_pos hcard]
    have hreadable : marked.nextReview.HasFourDigitYear →
        scheduler.Readable (some owner) card db ((outcome, now) :: marks) := by
      intro hyear
      refine readable_cons_of_review howned hload hmarked hcard hyear ?_
      exact readable_of_quiz (by rwa [Database.owned?_putQuiz]) hquiz hcard hyear
        fun m hm ↦ htimes m (List.mem_cons_of_mem _ hm)
    simp only [List.head?_cons, Option.mem_def, Option.some.injEq, forall_eq', hdue]
    -- only a right answer takes the delay out of the record that is stored first
    by_cases hright : outcome = .right
    · rw [if_pos hright] at hnext
      exact iff_of_true (hreadable hnext) (.inl hright)
    · rw [if_neg hright] at hnext
      by_cases hyear : due.date.year ≤ 9999
      · refine iff_of_true (hreadable ?_) (.inr ⟨due, rfl, hyear⟩)
        rw [hnext]
        exact ⟨Instant.year_nonneg_of_le hle hfirst, hyear⟩
      · refine iff_of_false ?_ (by simpa [hright] using hyear)
        rintro ⟨r, saved, hmark, hload', -⟩
        rw [mark_eq_of_review howned hload hmarked hcard] at hmark
        obtain ⟨hr, rfl⟩ := Prod.mk.inj hmark
        obtain rfl := Except.ok.inj hr
        subst hcard
        have hlost := load_putQuiz_of_large_year howned (hnext ▸ not_le.1 hyear)
        cases hlost.symm.trans hload'

end Scheduler

end Review

namespace Config

open SpacedReview.Review

/-- A configuration that is read has a scheduler. By it a user's card that was never reviewed is
marked, again and again up to the year 8999: every mark gives a record that is loaded again just if
the first answer is right or the delay does not lead from the first mark beyond the year 9999. -/
theorem readable_iff {text : String} {config : Config} (hparse : parse text = .ok config)
    {db : Database} {owner : Subject} {card : CardId}
    (howned : (db.owned? owner card).isSome = true) (hnew : db.quiz? card = none)
    {marks : List (Outcome × Instant)}
    (htimes : ∀ m ∈ marks, 0 ≤ m.2.date.year ∧ m.2.date.year ≤ 8999) :
    ∃ scheduler, config.scheduler = .ok scheduler ∧
      (scheduler.Readable (some owner) card db marks ↔ ∀ m ∈ marks.head?, m.1 = .right ∨
        ∃ due, m.2.add scheduler.delay = some due ∧ due.date.year ≤ 9999) := by
  obtain ⟨scheduler, hscheduler, hforward, hdelay⟩ := exists_scheduler_of_parse hparse
  exact ⟨scheduler, hscheduler,
    Scheduler.readable_first_iff hforward hdelay howned hnew htimes⟩

/-- The usual settings, with the longest delay that a configuration can ask for. -/
def withLongestDelay : Config :=
  { standard with srs := { ScheduleConfig.standard with repeatMinutes := 4294967295 } }

theorem parse_withLongestDelay :
    parse "[srs]\nrepeat_minutes = 4294967295\n" = .ok withLongestDelay := by
  decide +kernel

/-- The longest delay leads beyond the year 9999: after a wrong answer the record of a new card has
been stored and cannot be loaded. -/
theorem load_after_wrong_of_longest_delay :
    let alice : Subject := ⟨"alice"⟩
    let card := CardId.ofCard alice .hanzi "学"
    let db := Database.empty.insert alice ⟨.hanzi, "学", some "study", []⟩
    let now : Instant := ⟨1717200000, 0, by decide, by decide, by decide, by decide⟩
    ∃ config scheduler r saved,
      parse "[srs]\nrepeat_minutes = 4294967295\n" = .ok config ∧ config.scheduler = .ok scheduler ∧
        (db.owned? alice card).isSome = true ∧ db.quiz? card = none ∧
          scheduler.mark Database.store db (some alice) card .wrong now = (.ok r, saved) ∧
            saved.load alice card = .error .database := by
  intro alice card db now
  let scheduler : Scheduler := ⟨.standard, .minutes 4294967295⟩
  let due : Instant := ⟨259415237700, 0, by decide, by decide, by decide, by decide⟩
  have hscheduler : withLongestDelay.scheduler = .ok scheduler := rfl
  have hdb : db = ⟨[⟨card, alice, "hanzi", "学", some "study"⟩], [], []⟩ := rfl
  have howned : (db.owned? alice card).isSome = true := by simp [hdb, Database.owned?]
  have hnew : db.quiz? card = none := by rw [hdb]; rfl
  have hload : db.load alice card = .ok none := by rw [Database.load_of_owned howned, hnew]
  have hdue : now.add scheduler.delay = some due := by decide
  obtain ⟨r, hreview, hcard, hnext⟩ :=
    Scheduler.exists_review_none card .wrong hdue (by decide) (by decide)
  have hyear : 9999 < r.nextReview.date.year := by
    rw [if_neg (by decide)] at hnext
    rw [hnext]
    decide
  refine ⟨withLongestDelay, scheduler, r, _, parse_withLongestDelay, hscheduler, howned, hnew,
    Scheduler.mark_eq_of_review howned hload hreview hcard, ?_⟩
  rw [← hcard] at howned ⊢
  exact Scheduler.load_putQuiz_of_large_year howned hyear

/-- Even with the longest delay a card is readable after every mark if the first answer is right. -/
theorem readable_of_right_then_wrong :
    let alice : Subject := ⟨"alice"⟩
    let card := CardId.ofCard alice .hanzi "学"
    let db := Database.empty.insert alice ⟨.hanzi, "学", some "study", []⟩
    let now : Instant := ⟨1717200000, 0, by decide, by decide, by decide, by decide⟩
    ∃ config scheduler, parse "[srs]\nrepeat_minutes = 4294967295\n" = .ok config ∧
      config.scheduler = .ok scheduler ∧
        scheduler.Readable (some alice) card db [(.right, now), (.wrong, now)] := by
  intro alice card db now
  have hdb : db = ⟨[⟨card, alice, "hanzi", "学", some "study"⟩], [], []⟩ := rfl
  have htimes : ∀ m ∈ [(Outcome.right, now), (Outcome.wrong, now)],
      0 ≤ m.2.date.year ∧ m.2.date.year ≤ 8999 := by decide
  have howned : (db.owned? alice card).isSome = true := by simp [hdb, Database.owned?]
  have hnew : db.quiz? card = none := by rw [hdb]; rfl
  obtain ⟨scheduler, hscheduler, hiff⟩ := readable_iff parse_withLongestDelay howned hnew htimes
  exact ⟨withLongestDelay, scheduler, parse_withLongestDelay, hscheduler, hiff.2 (by simp)⟩

end Config

end SpacedReview

import SpacedReview.Proofs.Configuration
import SpacedReview.Proofs.Store.Records

/-!
# Marks do not stop the program

Two failures stop the program: a level that the table does not have, and an instant beyond the range
of time. No mark ends in either of them. The level is clamped into the table of the mark before its
interval is looked up, so the level that is stored may be any number, as one that a longer table
left. The instants that are reached are those of the mark, at the latest in the year 10000 since its
text was read, and a hundred years or 2^32 minutes later: far from the end of the range.

So a row of marks goes on whatever the tables hold, and whichever configuration each mark goes by. A
mark fails where nobody is logged in, the card is another user's, or its row cannot be read, and
only there.

## Main statements

* `Config.exists_review_of_parse`: by a configuration that was read, at a time that was read, every
  review leads to a record.
* `MarkCall.runsSafely`: what a mark can come to.
* `Database.marksSafely`: the same for every row of marks.
-/

namespace SpacedReview

open SpacedReview.Review SpacedReview.Store SpacedReview.Text SpacedReview.Time

/-! ### Reviews -/

/-- By a configuration that was read, at a time that was read, every review leads to a record. -/
theorem Config.exists_review_of_parse {text : String} {config : Config} {scheduler : Scheduler}
    (hparse : parse text = .ok config) (hscheduler : config.scheduler = .ok scheduler)
    {time : String} {now : Instant} (hnow : Instant.parse time = .ok now) (loaded : Option Record)
    (card : CardId) (outcome : Outcome) :
    ∃ r, scheduler.review loaded card outcome now = .ok r := by
  obtain ⟨scheduler', hscheduler', hforward, hdelay⟩ := exists_scheduler_of_parse hparse
  obtain rfl := Except.ok.inj (hscheduler'.symm.trans hscheduler)
  have hyear := Instant.year_le_of_parse hnow
  rw [Instant.year_le_iff] at hyear
  rw [Duration.lt_def] at hdelay
  simp only [Date.daysBeforeYear, Date.epochOffset, Duration.minutes, Decimal.count32]
    at hyear hdelay
  refine Scheduler.exists_review_of_lt loaded card outcome hforward ?_ ?_
  · simp only [lastSecond]
    omega
  · simp only [lastSecond, LevelTable.secondsOfCentury]
    omega

namespace Store

/-! ### Calls -/

/-- A row whose next review and statistics can be read. Its level may be any number. -/
def QuizRow.IsReadable (row : QuizRow) : Prop :=
  (∃ t, Instant.ofStored? row.nextReview = some t) ∧ ∃ stat, Stat.parse row.stat = .ok stat

theorem QuizRow.isReadable_iff {row : QuizRow} :
    row.IsReadable ↔ ∃ r, Database.QuizRow.read row = .ok r := by
  simp only [IsReadable, Database.QuizRow.read_eq_ok_iff]
  constructor
  · rintro ⟨⟨t, ht⟩, stat, hstat⟩
    exact ⟨_, t, stat, ht, hstat, rfl⟩
  · rintro ⟨_, t, stat, ht, hstat, -⟩
    exact ⟨⟨t, ht⟩, stat, hstat⟩

/-- The record of a user's card is loaded if its row can be read, or there is none. -/
theorem Database.exists_load_iff {db : Database} {owner : Subject} {id : CardId}
    (howned : (db.owned? owner id).isSome = true) :
    (∃ loaded, db.load owner id = .ok loaded) ↔ ∀ row, db.quiz? id = some row → row.IsReadable := by
  rw [load_of_owned howned]
  cases db.quiz? id with
  | none => simp
  | some row =>
    simp only [map_eq_ok_iff, Option.some.injEq, forall_eq', QuizRow.isReadable_iff]
    exact ⟨fun ⟨_, r, hr, _⟩ ↦ ⟨r, hr⟩, fun ⟨r, hr⟩ ↦ ⟨_, r, hr, rfl⟩⟩

/-- A mark of a card, as it is called for. -/
structure MarkCall where
  scheduler : Scheduler
  session : Session
  card : CardId
  outcome : Outcome
  now : Instant

namespace MarkCall

variable {call : MarkCall} {db : Database}

/-- A call by the scheduler of a configuration that was read, at a time that was read. -/
structure IsAccepted (call : MarkCall) : Prop where
  scheduler : ∃ text config, Config.parse text = .ok config ∧ config.scheduler = .ok call.scheduler
  now : ∃ text, Instant.parse text = .ok call.now

/-- What a call comes to: a record, and the tables that hold it. A call that fails leaves tables
too. -/
def run (call : MarkCall) (db : Database) : Except Failure Record × Database :=
  call.scheduler.mark Database.store db call.session call.card call.outcome call.now

/-- The tables behind a call. -/
def apply (call : MarkCall) (db : Database) : Database :=
  Operation.apply db (.mark call.scheduler call.session call.card call.outcome call.now)

/-- Does the card belong to the user who is logged in, and can its row be read if it has one? -/
def Finds (call : MarkCall) (db : Database) : Prop :=
  ∃ owner, call.session = some owner ∧ (db.owned? owner call.card).isSome = true ∧
    ∀ row, db.quiz? call.card = some row → row.IsReadable

/-- A call that returns a record just if it finds what it needs, and a record with a level of the
table. A call that fails does not stop the program, and leaves the tables as they are. -/
structure RunsSafely (call : MarkCall) (db : Database) : Prop where
  exists_iff : (∃ r saved, call.run db = (.ok r, saved)) ↔ call.Finds db
  level_lt : ∀ r saved, call.run db = (.ok r, saved) → r.level < call.scheduler.levels.size
  not_isFatal : ∀ f left, call.run db = (.error f, left) → f.isFatal = false ∧ left = db

theorem exists_review (h : call.IsAccepted) (loaded : Option Record) :
    ∃ r, call.scheduler.review loaded call.card call.outcome call.now = .ok r := by
  obtain ⟨⟨text, config, hparse, hscheduler⟩, time, hnow⟩ := h
  exact Config.exists_review_of_parse hparse hscheduler hnow loaded call.card call.outcome

/-- What an accepted call can come to, whatever the tables hold. -/
theorem runsSafely (h : call.IsAccepted) (db : Database) : call.RunsSafely db := by
  refine ⟨⟨?_, ?_⟩, ?_, ?_⟩
  · rintro ⟨r, saved, hrun⟩
    obtain ⟨owner, hsession, loaded, hload, -, hsave⟩ := Scheduler.mark_eq_ok_iff.1 hrun
    obtain ⟨howned, -⟩ := Database.eq_putQuiz_of_save hsave
    have hid : r.card = call.card := by
      rw [run, hsession] at hrun
      exact Database.card_of_store_mark hrun
    rw [hid] at howned
    exact ⟨owner, hsession, howned, (Database.exists_load_iff howned).1 ⟨loaded, hload⟩⟩
  · rintro ⟨owner, hsession, howned, hrow⟩
    obtain ⟨loaded, hload⟩ := (Database.exists_load_iff howned).2 hrow
    obtain ⟨r, hreview⟩ := exists_review h loaded
    have hid : r.card = call.card :=
      Scheduler.card_of_review (fun old hold ↦ Database.card_of_load (hold ▸ hload)) hreview
    rw [← hid] at howned
    exact ⟨r, _, Scheduler.mark_eq_ok_iff.2
      ⟨owner, hsession, loaded, hload, hreview, Database.save_of_owned howned⟩⟩
  · intro r saved hrun
    obtain ⟨owner, -, loaded, -, hreview, -⟩ := Scheduler.mark_eq_ok_iff.1 hrun
    exact Scheduler.level_lt_of_review hreview
  · intro f left hrun
    refine ⟨?_, eq_of_mark_error hrun⟩
    rcases Scheduler.mark_eq_error_iff.1 hrun with
      ⟨-, rfl, -⟩ | ⟨owner, -, ⟨hload, -⟩ | ⟨loaded, -, ⟨hreview, -⟩ | ⟨r, -, hsave⟩⟩⟩
    · rfl
    · obtain ⟨-, row, -, hread⟩ := Database.load_eq_error_iff.1 hload
      exact Database.QuizRow.not_isFatal_of_read hread
    · obtain ⟨r, hr⟩ := exists_review h loaded
      cases hr.symm.trans hreview
    · exact Database.not_isFatal_of_save hsave

end MarkCall

/-! ### Rows of calls -/

/-- Does every call of a row of calls run safely on the tables that the calls before it left? -/
def Database.MarksSafely : Database → List MarkCall → Prop
  | _, [] => True
  | db, call :: calls => call.RunsSafely db ∧ MarksSafely (call.apply db) calls

/-- Whatever the tables hold, and however the tables of levels change between the marks, no mark
stops the program. Each mark returns a record if the card is the user's and its row can be read,
and the level of the record is one of the table of the mark. -/
theorem Database.marksSafely (db : Database) {calls : List MarkCall}
    (h : ∀ call ∈ calls, call.IsAccepted) : db.MarksSafely calls := by
  induction calls generalizing db with
  | nil => trivial
  | cons call calls ih =>
    exact ⟨MarkCall.runsSafely (h call (by simp)) db,
      ih _ fun c hc ↦ h c (List.mem_cons_of_mem call hc)⟩

/-- The table of levels of one hour and of a day. -/
def hourAndDay : LevelTable where
  intervals := [.hours 1, .days 1]
  ne_nil := by decide
  nonneg := by decide
  le_longest := by decide
  ascending := by decide

/-- A level far beyond the table of the mark, and then one that is the highest of a shorter table:
the card is marked all the same, as is a card of which there is no row. -/
theorem marksSafely_of_stale_level :
    let alice : Subject := ⟨"alice"⟩
    let card := CardId.ofCard alice .hanzi "学"
    let other := CardId.ofCard alice .hanzi "好"
    let db : Database := ⟨[⟨card, alice, "hanzi", "学", none⟩,
        ⟨other, alice, "hanzi", "好", none⟩], [],
      [⟨card, 9223372036854775806, "2024-06-01T00:00:00.000Z", "\x7b\x7d"⟩]⟩
    let now : Instant := ⟨1717200000, 0, by decide, by decide, by decide, by decide⟩
    let minutes : Duration := .minutes 10
    db.MarksSafely [⟨⟨.standard, minutes⟩, some alice, card, .right, now⟩,
      ⟨⟨hourAndDay, minutes⟩, some alice, card, .again, now⟩,
      ⟨⟨hourAndDay, minutes⟩, some alice, other, .wrong, now⟩] := by
  intro alice card other db now minutes
  have hnow : Instant.parse "2024-06-01T00:00:00Z" = .ok now := by decide +kernel
  have hstandard : Config.parse "" = .ok .standard := by decide +kernel
  have hsettings : Config.parse "[srs]\nintervals_hours = [1, 24]\n" =
      .ok { Config.standard with srs := ⟨[1, 24], 10⟩ } := by decide +kernel
  have hlong : ∀ outcome,
      MarkCall.IsAccepted ⟨⟨.standard, minutes⟩, some alice, card, outcome, now⟩ :=
    fun _ ↦ ⟨⟨_, _, hstandard, rfl⟩, _, hnow⟩
  have hshort : ∀ id outcome,
      MarkCall.IsAccepted ⟨⟨hourAndDay, minutes⟩, some alice, id, outcome, now⟩ :=
    fun _ _ ↦ ⟨⟨_, _, hsettings, rfl⟩, _, hnow⟩
  exact db.marksSafely (by simp [hlong, hshort])

end Store

end SpacedReview

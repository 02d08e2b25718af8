import SpacedReview.Proofs.Results
import SpacedReview.Proofs.Store.History
import SpacedReview.Proofs.Store.Rows
import SpacedReview.Proofs.Time.Reading

/-!
# Stored records are read back

A record is stored as a row whose next review is a text of milliseconds and whose statistics are a
JSON text. Reading the row gives the record back, its next review cut off after the millisecond, as
long as this has a year of four digits (`Database.QuizRow.read_write`). A later year is written all
the same and never read again (`Database.QuizRow.read_write_of_large_year`).

## Main statements

* `Review.Stat.parse_stored`: stored statistics are read back.
* `Database.QuizRow.read_write`: a stored record is read back.
* `Database.QuizRow.read_write_of_large_year`: when it is not.
-/

namespace SpacedReview

open SpacedReview.Json SpacedReview.Review SpacedReview.Text SpacedReview.Time

namespace Review

/-! ### Statistics -/

theorem counter?_nat (n : UInt32) : counter? (some (.nat n.toNat)) = some n := by
  have hn : n.toNat < Decimal.count32 := n.toNat_lt
  simp [counter?, Value.nat, Option.filter, hn]

/-- Written rows of answers are read back. -/
theorem Streak.ofJson?_toJson (s : Streak) : Streak.ofJson? s.toJson = some s := by
  have hparts : parts? ["right", "wrong", "maxRight", "maxWrong"] s.toJson =
      some [some (.nat s.right.toNat), some (.nat s.wrong.toNat), some (.nat s.maxRight.toNat),
        some (.nat s.maxWrong.toNat)] := by
    simp [parts?, Streak.toJson]
  simp [Streak.ofJson?, hparts, counter?_nat]

/-- The member for a time is found in the part that it is written to. -/
theorem time?_text_exact (t : Instant) : time? (some (.text t.exact)) = some (some t) := by
  simp [time?, Value.text, Instant.ofExact?_exact]

/-- Written statistics are read back. -/
theorem Stat.ofJson?_toJson (s : Stat) : Stat.ofJson? s.toJson = some s := by
  have hparts : parts? ["streak", "lastRight", "lastWrong"] s.toJson =
      some [some s.streak.toJson, s.lastRight.map fun t ↦ .text t.exact,
        s.lastWrong.map fun t ↦ .text t.exact] := by
    cases hright : s.lastRight <;> cases hwrong : s.lastWrong <;>
      simp [parts?, Stat.toJson, timeMember, hright, hwrong]
  have htime : ∀ t : Option Instant, time? (t.map fun t ↦ .text t.exact) = some t := by
    intro t
    cases t with
    | none => rfl
    | some t => exact time?_text_exact t
  simp [Stat.ofJson?, hparts, streak?, Streak.ofJson?_toJson, htime]

/-- Stored statistics are read back. -/
theorem Stat.parse_stored (s : Stat) : Stat.parse s.stored = .ok s := by
  rw [Stat.parse, s.parse?_stored, Option.bind_some, s.ofJson?_toJson]

/-! ### Records -/

/-- The record that is loaded after a record was saved: the next review is cut off after the
millisecond, and a level that does not fit into a signed number is zero. -/
def Record.restored (r : Record) : Record :=
  ⟨r.card, (Decimal.wrapInt64 r.level).toNat, r.nextReview.truncated, r.stat⟩

@[simp] theorem Record.restored_card (r : Record) : r.restored.card = r.card := by
  rw [restored]

@[simp] theorem Record.restored_nextReview (r : Record) :
    r.restored.nextReview = r.nextReview.truncated := by
  rw [restored]

/-- A record that a row of the database can hold: the level fits into a signed number, and the next
review has a year of four digits. -/
structure Record.IsStorable (r : Record) : Prop where
  level : r.level < 2 ^ 63
  nextReview : r.nextReview.HasFourDigitYear

/-- A record with its next review cut off after the millisecond. -/
def Record.truncated (r : Record) : Record := { r with nextReview := r.nextReview.truncated }

/-- Of a record that a row can hold only the end of the next review is lost. -/
theorem Record.IsStorable.restored_eq {r : Record} (h : r.IsStorable) :
    r.restored = r.truncated := by
  rw [restored, Decimal.wrapInt64_of_lt h.level, Int.toNat_natCast]
  rfl

/-- A review that is next due in a year of four digits fits into a row. -/
theorem Scheduler.isStorable_of_review {scheduler : Scheduler} {loaded : Option Record}
    {card : CardId} {outcome : Outcome} {now : Instant} {r : Record}
    (h : scheduler.review loaded card outcome now = .ok r) (hyear : r.nextReview.HasFourDigitYear) :
    r.IsStorable := by
  obtain ⟨start, hlevel⟩ := exists_levelAfter_of_review h
  exact ⟨hlevel ▸ start.levelAfter_lt outcome scheduler.levels, hyear⟩

end Review

namespace Store.Database

/-- A stored record is read back. -/
theorem QuizRow.read_write {r : Record} (hyear : r.nextReview.HasFourDigitYear) :
    QuizRow.read (QuizRow.write r) = .ok r.restored := by
  simp only [QuizRow.read, QuizRow.write, Instant.ofStored?_stored hyear, Stat.parse_stored]
  rfl

/-- A record that is due after the year 9999 is not read back. -/
theorem QuizRow.read_write_of_large_year {r : Record} (hyear : 9999 < r.nextReview.date.year) :
    QuizRow.read (QuizRow.write r) = .error .database := by
  simp only [QuizRow.read, QuizRow.write, Instant.ofStored?_stored_eq_none hyear]

/-- A row is read if its next review and its statistics are. Its level may be any number. -/
theorem QuizRow.read_eq_ok_iff {row : QuizRow} {r : Record} : QuizRow.read row = .ok r ↔
    ∃ t stat, Instant.ofStored? row.nextReview = some t ∧ Stat.parse row.stat = .ok stat ∧
      r = ⟨row.id, row.level.toNat, t, stat⟩ := by
  unfold read
  cases Instant.ofStored? row.nextReview with
  | none => simp
  | some t => cases Stat.parse row.stat <;> simp [bind, Except.bind, pure, Except.pure, eq_comm]

/-- A row that cannot be read does not stop the program. -/
theorem QuizRow.not_isFatal_of_read {row : QuizRow} {f : Failure}
    (h : QuizRow.read row = .error f) : f.isFatal = false := by
  unfold read at h
  split at h
  · exact Except.error.inj h ▸ rfl
  · rcases bind_eq_error_iff.1 h with hstat | ⟨stat, -, h⟩
    · unfold Stat.parse at hstat
      split at hstat
      · cases hstat
      · exact Except.error.inj hstat ▸ rfl
    · cases h

/-! ### Tables of records -/

/-- A record that is put is the one found for its card, and no other card's. -/
theorem quiz?_putQuiz (db : Database) (row : QuizRow) (id : CardId) :
    (db.putQuiz row).quiz? id = if row.id = id then some row else db.quiz? id := by
  rw [quiz?, quizzes_putQuiz, find?_upsert fun _ h ↦ h.symm]
  show (if row.id = id then some ((db.quiz? id).elim row fun _ ↦ row) else db.quiz? id) = _
  cases db.quiz? id <;> rfl

theorem owned?_putQuiz (db : Database) (row : QuizRow) (owner : Subject) (id : CardId) :
    (db.putQuiz row).owned? owner id = db.owned? owner id := by
  rw [putQuiz_eq]
  rfl

theorem not_isFatal_of_save {db left : Database} {owner : Subject} {r : Record} {f : Failure}
    (h : db.save owner r = (.error f, left)) : f.isFatal = false := by
  rw [(eq_of_save_error h).2.1]
  rfl

/-- The record of a card of a user is read from its row, if it has one. -/
theorem load_of_owned {db : Database} {owner : Subject} {id : CardId}
    (h : (db.owned? owner id).isSome = true) :
    db.load owner id = match db.quiz? id with
      | some quiz => (QuizRow.read quiz).map some
      | none => .ok none := by
  obtain ⟨card, hcard⟩ := Option.isSome_iff_exists.1 h
  cases hquiz : db.quiz? id <;> simp [load, hcard, hquiz]

/-- A record that is loaded is about the card that is asked for. -/
theorem card_of_load {db : Database} {owner : Subject} {id : CardId} {r : Record}
    (h : db.load owner id = .ok (some r)) : r.card = id := by
  unfold load at h
  split at h
  · rename_i row card hrow hcard
    obtain ⟨read, hread, h⟩ := map_eq_ok_iff.1 h
    obtain rfl := Option.some.inj h
    obtain ⟨t, stat, -, -, rfl⟩ := QuizRow.read_eq_ok_iff.1 hread
    simpa using List.find?_some hrow
  · cases h

/-- A mark saves a record of the card that is marked. -/
theorem card_of_store_mark {db : Database} {user : Subject} {id : CardId} {scheduler : Scheduler}
    {outcome : Outcome} {now : Instant} {r : Record} {left : Database}
    (h : scheduler.mark store db (some user) id outcome now = (.ok r, left)) : r.card = id := by
  obtain ⟨_, hsession, loaded, hload, hreview, -⟩ := Scheduler.mark_eq_ok_iff.1 h
  obtain rfl := Option.some.inj hsession
  refine Scheduler.card_of_review (fun old hold ↦ ?_) hreview
  obtain rfl := Option.mem_def.1 hold
  exact card_of_load hload

/-- Loading fails just for the rows of a user's own cards that cannot be read. -/
theorem load_eq_error_iff {db : Database} {owner : Subject} {id : CardId} {f : Failure} :
    db.load owner id = .error f ↔ (db.owned? owner id).isSome = true ∧
      ∃ quiz, db.quiz? id = some quiz ∧ QuizRow.read quiz = .error f := by
  cases hcard : db.owned? owner id with
  | none => cases hquiz : db.quiz? id <;> simp [load, hcard, hquiz]
  | some card =>
    rw [load_of_owned (by simp [hcard])]
    cases hquiz : db.quiz? id <;> simp [map_eq_error_iff]

/-- What is loaded after a record was put. -/
theorem load_putQuiz {db : Database} {owner : Subject} {r : Record}
    (h : (db.owned? owner r.card).isSome = true) :
    (db.putQuiz (QuizRow.write r)).load owner r.card =
      (QuizRow.read (QuizRow.write r)).map some := by
  have hquiz : (db.putQuiz (QuizRow.write r)).quiz? r.card = some (QuizRow.write r) :=
    (db.quiz?_putQuiz (QuizRow.write r) r.card).trans (if_pos rfl)
  rw [load_of_owned (by rwa [owned?_putQuiz]), hquiz]

end Store.Database

end SpacedReview

import SpacedReview.Proofs.Store.Remembering
import SpacedReview.Store.Memory

/-!
# Marks are all or nothing

A mark either replaces the record of the card that is marked, and nothing else, or it changes
nothing. What it puts there was made of the record that the store gave out, and of a fresh record
only if the store said that there was none. A store that cannot read a record does not say that, so
a damaged row stays as it is.

A mark itself does nothing before it saves. Whether one that fails has changed something is thus up
to the store: whether what it leaves where saving fails is what was there before. This holds of the
records in memory and of the database, which abandons its transaction, also where loading or saving
is refused (`RecordStore.SavesOrLeaves`).

A store is only known by what it loads and saves. What it keeps is told apart from what it loads,
since a row can be there that is not read back: `RecordStore.Keeps` ties the two together.

## Main statements

* `RecordStore.failsInOrder`: how a mark fails, and that only saving can change something.
* `RecordStore.SavesOrLeaves.failsInPlace`: where it does not, a mark that fails changes nothing.
* `RecordStore.Keeps.replacesOne`: a mark that succeeds replaces one record.
* `marks_all_or_nothing`: all of this, for records in memory and in the database.
-/

namespace SpacedReview

open SpacedReview.Review SpacedReview.Store SpacedReview.Time

namespace Review.RecordStore

variable {σ κ : Type}

/-! ### Marks that fail -/

/-- In this state every mark fails for the first reason that there is: nobody is logged in, or the
store fails to load, or the review stops the program, or the store fails to save. The state is the
one that saving left, and as it was before if nothing was saved. -/
def FailsInOrder (store : RecordStore σ) (state : σ) : Prop :=
  ∀ (scheduler : Scheduler) (session : Session) (card : CardId) (outcome : Outcome) (now : Instant)
    (f : Failure) (next : σ),
    scheduler.mark store state session card outcome now = (.error f, next) →
      match session with
      | none => f = .notLoggedIn ∧ next = state
      | some owner =>
        match store.load state owner card with
        | .error g => f = g ∧ next = state
        | .ok loaded =>
          match scheduler.review loaded card outcome now with
          | .error g => f = g ∧ f.isFatal = true ∧ next = state
          | .ok r => store.save state owner r = (.error f, next)

/-- In this state every mark that fails changes nothing. -/
def FailsInPlace (store : RecordStore σ) (state : σ) : Prop :=
  ∀ (scheduler : Scheduler) (session : Session) (card : CardId) (outcome : Outcome) (now : Instant)
    (f : Failure) (next : σ),
    scheduler.mark store state session card outcome now = (.error f, next) → next = state

/-- In this state every record is saved, or its failure to be saved changes nothing. -/
def SavesOrLeaves (store : RecordStore σ) (state : σ) : Prop :=
  ∀ (owner : Subject) (r : Record) (f : Failure) (next : σ),
    store.save state owner r = (.error f, next) → next = state

/-- How a mark fails, whatever the store is. -/
theorem failsInOrder (store : RecordStore σ) (state : σ) : store.FailsInOrder state := by
  intro scheduler session card outcome now f next h
  rcases Scheduler.mark_eq_error_iff.1 h with
    ⟨rfl, rfl, rfl⟩ |
      ⟨owner, rfl, ⟨hload, rfl⟩ | ⟨loaded, hload, ⟨hreview, rfl⟩ | ⟨r, hreview, hsave⟩⟩⟩
  · exact ⟨rfl, rfl⟩
  · simp only [hload, and_self]
  · obtain rfl := Scheduler.eq_timeOverflow_of_review hreview
    simp only [hload, hreview, Failure.isFatal, and_self]
  · simp only [hload, hreview, hsave]

variable {store : RecordStore σ} {state : σ}

/-- A mark that fails changes nothing if a save that fails does not. -/
theorem SavesOrLeaves.failsInPlace (h : store.SavesOrLeaves state) : store.FailsInPlace state := by
  intro scheduler session card outcome now f next hmark
  have horder := store.failsInOrder state scheduler session card outcome now f next hmark
  cases session with
  | none => exact horder.2
  | some owner =>
    simp only at horder
    split at horder
    · exact horder.2
    · split at horder
      · exact horder.2.2
      · exact h owner _ f next horder

/-- A store that refuses to load or to save still leaves what it does not save. -/
theorem SavesOrLeaves.refusing (h : store.SavesOrLeaves state) (noLoad noSave : Option String) :
    (store.refusing noLoad noSave).SavesOrLeaves state := by
  intro owner r f next hsave
  cases noSave with
  | some reason => exact (Prod.mk.inj hsave).2.symm
  | none => exact h owner r f next hsave

/-! ### Marks that succeed -/

/-- A store that keeps records: a record that is loaded is about the card that is asked for, and a
record that is saved is kept in place of what was kept of its user and card, and nothing else
changes. Here `record?` is what is kept, and `kept` is the form in which a record is kept. -/
structure Keeps (store : RecordStore σ) (state : σ) (record? : σ → Subject → CardId → Option κ)
    (kept : Record → κ) : Prop where
  card_of_load : ∀ {owner card r}, store.load state owner card = .ok (some r) → r.card = card
  of_save : ∀ {owner r next}, store.save state owner r = (.ok (), next) →
    record? next owner r.card = some (kept r) ∧ ∀ owner' id, (owner', id) ≠ (owner, r.card) →
      record? next owner' id = record? state owner' id

/-- In this state every mark that succeeds does so for a user. It returns what one mark makes of the
record that was loaded, or of a fresh one if the store said that there is none. This is kept from
then on, and no other user's or card's record changes. -/
def ReplacesOne (store : RecordStore σ) (state : σ) (record? : σ → Subject → CardId → Option κ)
    (kept : Record → κ) : Prop :=
  ∀ (scheduler : Scheduler) (session : Session) (card : CardId) (outcome : Outcome) (now : Instant)
    (r : Record) (next : σ),
    scheduler.mark store state session card outcome now = (.ok r, next) →
      ∃ owner loaded start, session = some owner ∧ store.load state owner card = .ok loaded ∧
        (loaded = some start ∨
          loaded = none ∧ Record.fresh card now scheduler.delay = .ok start) ∧
        start.mark outcome scheduler.levels now = .ok r ∧
        record? next owner card = some (kept r) ∧
        ∀ owner' id, (owner', id) ≠ (owner, card) →
          record? next owner' id = record? state owner' id

variable {record? : σ → Subject → CardId → Option κ} {kept : Record → κ}

/-- In a store that keeps records a mark that succeeds replaces one. -/
theorem Keeps.replacesOne (h : store.Keeps state record? kept) :
    store.ReplacesOne state record? kept := by
  intro scheduler session card outcome now r next hmark
  obtain ⟨owner, hsession, loaded, hload, hreview, hsave⟩ := Scheduler.mark_eq_ok_iff.1 hmark
  have hcard : r.card = card :=
    Scheduler.card_of_review (fun old hold ↦ h.card_of_load (hold ▸ hload)) hreview
  obtain ⟨hself, hothers⟩ := h.of_save hsave
  rw [hcard] at hself hothers
  rw [Scheduler.review_eq] at hreview
  obtain ⟨start, hstart, hmarked⟩ := bind_eq_ok_iff.1 hreview
  refine ⟨owner, loaded, start, hsession, hload, ?_, hmarked, hself, hothers⟩
  cases loaded with
  | some old => exact .inl (congrArg some (Except.ok.inj hstart))
  | none => exact .inr ⟨rfl, hstart⟩

/-- A store that refuses to load or to save still keeps its records. -/
theorem Keeps.refusing (h : store.Keeps state record? kept) (noLoad noSave : Option String) :
    (store.refusing noLoad noSave).Keeps state record? kept := by
  constructor
  · intro owner card r hload
    cases noLoad with
    | some reason => cases hload
    | none => exact h.card_of_load hload
  · intro owner r next hsave
    cases noSave with
    | some reason => cases hsave
    | none => exact h.of_save hsave

end Review.RecordStore

namespace Store

/-! ### Records in memory and in the database -/

/-- Records in memory are always saved. -/
theorem Memory.savesOrLeaves (m : Memory) : store.SavesOrLeaves m :=
  fun _ _ _ _ hsave ↦ absurd (Prod.mk.inj hsave).1 nofun

/-- Records in memory are kept as they are. -/
theorem Memory.keeps (m : Memory) : store.Keeps m find? id := by
  constructor
  · intro owner card r hload
    exact card_of_find? (Except.ok.inj hload)
  · intro owner r next hsave
    obtain rfl := (Prod.mk.inj hsave).2
    refine ⟨m.find?_insert_self owner r, fun owner' id hne ↦ m.find?_insert_of_ne ?_⟩
    rwa [Ne, Prod.mk.injEq, not_and_or] at hne

namespace Database

variable {db : Database} {owner : Subject} {id : CardId}

/-- The row of a user's record of a card, whether or not it can be read. -/
def record? (db : Database) (owner : Subject) (id : CardId) : Option QuizRow :=
  (db.owned? owner id).bind fun _ ↦ db.quiz? id

/-- What is loaded is read from this row. -/
theorem load_eq_record? (db : Database) (owner : Subject) (id : CardId) :
    db.load owner id = match db.record? owner id with
      | some row => (QuizRow.read row).map some
      | none => .ok none := by
  cases hcard : db.owned? owner id <;> cases hquiz : db.quiz? id <;>
    simp [load, record?, hcard, hquiz]

theorem record?_putQuiz_self {row : QuizRow} (howned : (db.owned? owner row.id).isSome = true) :
    (db.putQuiz row).record? owner row.id = some row := by
  obtain ⟨card, hcard⟩ := Option.isSome_iff_exists.1 howned
  rw [record?, owned?_putQuiz, hcard, quiz?_putQuiz, if_pos rfl]
  rfl

/-- A row that is put does not show in the records of others, nor of other cards. -/
theorem record?_putQuiz_of_ne (hkeys : (db.cards.map (·.id)).Nodup) {row : QuizRow}
    (howned : (db.owned? owner row.id).isSome = true) {owner' : Subject}
    (hne : (owner', id) ≠ (owner, row.id)) :
    (db.putQuiz row).record? owner' id = db.record? owner' id := by
  rw [record?, owned?_putQuiz, quiz?_putQuiz, record?]
  cases hcard : db.owned? owner' id with
  | none => rfl
  | some card =>
    rw [if_neg]
    rintro rfl
    have howned' : (db.owned? owner' row.id).isSome = true := by rw [hcard]; rfl
    exact hne (by rw [owner_eq_of_owned? hkeys howned howned'])

/-- The database abandons its transaction where it does not save. -/
theorem savesOrLeaves (db : Database) : store.SavesOrLeaves db :=
  fun _ _ _ _ hsave ↦ (eq_of_save_error hsave).2.2

/-- Records in the database are kept as rows, if no two cards have one key. -/
theorem keeps (hkeys : (db.cards.map (·.id)).Nodup) : store.Keeps db record? QuizRow.write := by
  refine ⟨card_of_load, fun {owner r next} hsave ↦ ?_⟩
  obtain ⟨howned, rfl⟩ := eq_putQuiz_of_save hsave
  exact ⟨record?_putQuiz_self howned, fun owner' id hne ↦ record?_putQuiz_of_ne hkeys howned hne⟩

/-- A row that cannot be read is not replaced. -/
theorem mark_of_unreadable {row : QuizRow} {f : Failure} (hrow : db.record? owner id = some row)
    (hread : QuizRow.read row = .error f) (scheduler : Scheduler) (outcome : Outcome)
    (now : Instant) :
    scheduler.mark store db (some owner) id outcome now = (.error f, db) := by
  have hload : db.load owner id = .error f := by
    simp only [load_eq_record?, hrow, hread]
    rfl
  exact Scheduler.mark_eq_error_iff.2 (.inr ⟨owner, rfl, .inl ⟨hload, rfl⟩⟩)

end Database

/-! ### All or nothing -/

/-- A mark is all or nothing. In every store a mark fails for the first reason that there is, in its
own words, and only a save that fails can have changed something; so a mark that fails changes
nothing if such a save does not. This is the case in memory and in the database, also where loading
or saving is refused, and there a mark that succeeds replaces just the record of the card by what
one mark makes of it. A row that cannot be read is never replaced. No two rows of the table of cards
have one key. -/
theorem marks_all_or_nothing (m : Memory) (db : Database) (hkeys : (db.cards.map (·.id)).Nodup)
    (noLoad noSave : Option String) :
    (∀ (σ : Type) (store : RecordStore σ) (state : σ), store.FailsInOrder state ∧
      (store.SavesOrLeaves state → store.FailsInPlace state)) ∧
      Failure.notLoggedIn.message = "not logged in" ∧
      (Memory.store.refusing noLoad noSave).FailsInPlace m ∧
      (Database.store.refusing noLoad noSave).FailsInPlace db ∧
      (Memory.store.refusing noLoad noSave).ReplacesOne m Memory.find? id ∧
      (Database.store.refusing noLoad noSave).ReplacesOne db Database.record?
        Database.QuizRow.write ∧
      ∀ (owner : Subject) (card : CardId) (row : QuizRow) (f : Failure),
        db.record? owner card = some row → Database.QuizRow.read row = .error f →
          ∀ (scheduler : Scheduler) (outcome : Outcome) (now : Instant),
            scheduler.mark Database.store db (some owner) card outcome now = (.error f, db) :=
  ⟨fun _ store state ↦ ⟨store.failsInOrder state, RecordStore.SavesOrLeaves.failsInPlace⟩, rfl,
    (m.savesOrLeaves.refusing noLoad noSave).failsInPlace,
    (db.savesOrLeaves.refusing noLoad noSave).failsInPlace,
    (m.keeps.refusing noLoad noSave).replacesOne,
    ((Database.keeps hkeys).refusing noLoad noSave).replacesOne,
    fun _ _ _ _ hrow hread ↦ Database.mark_of_unreadable hrow hread⟩

/-- The damaged row of a card stays when the card is marked, and when another card is marked that
has no row yet. A user who marks another one's card changes nothing. -/
theorem marks_all_or_nothing_of_damaged_row :
    let alice : Subject := ⟨"alice"⟩
    let card := CardId.ofCard alice .hanzi "学"
    let other := CardId.ofCard alice .hanzi "好"
    let row : QuizRow := ⟨card, 3, "yesterday", Stat.initial.stored⟩
    let db : Database :=
      ⟨[⟨card, alice, "hanzi", "学", none⟩, ⟨other, alice, "hanzi", "好", none⟩], [], [row]⟩
    (db.cards.map (·.id)).Nodup ∧
      Scheduler.standard.mark Database.store db (some alice) card .wrong .epoch =
        (.error .database, db) ∧
      (∀ f next, Scheduler.standard.mark Database.store db (some ⟨"bob"⟩) other .wrong .epoch =
        (.error f, next) → next = db) ∧
      ∃ r next,
        Scheduler.standard.mark Database.store db (some alice) other .wrong .epoch =
          (.ok r, next) ∧
        next.record? alice other = some (Database.QuizRow.write r) ∧
          next.record? alice card = some row := by
  intro alice card other row db
  have hne : card ≠ other := by
    intro heq
    exact absurd (congrArg CardId.digest heq) (by decide +kernel)
  have hkeys : (db.cards.map (·.id)).Nodup := by simp [db, hne]
  have hrow : db.record? alice card = some row := by
    simp [db, row, Database.record?, Database.owned?, Database.quiz?]
  have hread : Database.QuizRow.read row = .error .database := by
    have htime : Instant.ofStored? "yesterday" = none := by decide +kernel
    simp only [row, Database.QuizRow.read, htime]
  have howned : (db.owned? alice other).isSome = true := by
    simp [db, Database.owned?]
  have hnone : db.load alice other = .ok none := by
    have hquiz : db.quiz? other = none := by simp [db, row, Database.quiz?, hne]
    rw [Database.load_of_owned howned, hquiz]
  obtain ⟨-, -, -, hleaves, -, hreplaces, hunreadable⟩ :=
    marks_all_or_nothing .empty db hkeys none none
  obtain ⟨r, hreview⟩ : ∃ r, Scheduler.standard.review none other .wrong .epoch = .ok r :=
    Scheduler.exists_review_of_lt none other .wrong (by decide) (by decide) (by decide)
  have hcard : r.card = other := Scheduler.card_of_review (by simp) hreview
  have hsave : Database.store.save db alice r =
      (.ok (), db.putQuiz (Database.QuizRow.write r)) :=
    Database.save_of_owned (by rwa [hcard])
  have hmark := Scheduler.mark_eq_ok_iff.2 ⟨alice, rfl, none, hnone, hreview, hsave⟩
  obtain ⟨_, _, _, hsession, -, -, -, hkept, hothers⟩ := hreplaces _ _ _ _ _ _ _ hmark
  obtain rfl := Option.some.inj hsession
  exact ⟨hkeys, hunreadable alice card row .database hrow hread .standard .wrong .epoch,
    hleaves .standard (some ⟨"bob"⟩) other .wrong .epoch, r, _, hmark, hkept,
    (hothers alice card (by simp [hne])).trans hrow⟩

end Store

end SpacedReview

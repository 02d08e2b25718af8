import SpacedReview.Proofs.Store.Remembering
import SpacedReview.Store.Memory

/-!
# Records in memory and in the database

Records can be kept in memory or in the database, and users who mark, load and save records of their
own cards cannot tell the two apart, except that the database cuts a next review off after the
millisecond. The difference neither grows nor spreads: a mark either replaces the next review or
hands it on as it is, and looks at nothing else of the record that the cut could have changed.

So the two stores are in step (`InStep`): what the database loads is what is in memory, cut off. One
step keeps them in step, and gives two answers that only differ in the cut, as long as the records
that are saved fit into a row of the database.

## Main statements

* `Scheduler.review_truncated`: a review does not look at the end of the next review.
* `InStep.step`: one step of both stores.
* `answers_memory_eq_answers_database`: whole runs, and the records that they end in.
-/

namespace SpacedReview

open SpacedReview.Review SpacedReview.Store SpacedReview.Time

namespace Review

/-! ### Steps -/

/-- What a user asks of a store of records. -/
inductive RecordStep where
  | mark (scheduler : Scheduler) (card : CardId) (outcome : Outcome) (now : Instant)
  | load (card : CardId)
  | save (record : Record)

/-- The card that a step is about. -/
def RecordStep.card : RecordStep → CardId
  | mark _ card _ _ => card
  | load card => card
  | save record => record.card

namespace RecordStore

variable {σ : Type} (store : RecordStore σ)

/-- The answer to a step of a user who is logged in, with the record that there is to be seen, and
the state behind the step. -/
def step (state : σ) (user : Subject) : RecordStep → Except Failure (Option Record) × σ
  | .mark scheduler card outcome now =>
    let (marked, next) := scheduler.mark store state (some user) card outcome now
    (marked.map some, next)
  | .load card => (store.loadFor state (some user) card, state)
  | .save record =>
    let (saved, next) := store.saveFor state (some user) record
    (saved.map fun _ ↦ none, next)

/-- The answers to a row of steps of users, and the state behind it. -/
def run (state : σ) : List (Subject × RecordStep) → List (Except Failure (Option Record)) × σ
  | [] => ([], state)
  | (user, s) :: steps =>
    let next := run (store.step state user s).2 steps
    ((store.step state user s).1 :: next.1, next.2)

/-- A mark is a review of the record that is loaded, and saves what comes of it. -/
theorem step_mark {state : σ} {user : Subject} {card : CardId} {loaded : Option Record}
    (hload : store.load state user card = .ok loaded) (scheduler : Scheduler) (outcome : Outcome)
    (now : Instant) :
    store.step state user (.mark scheduler card outcome now) =
      match scheduler.review loaded card outcome now with
      | .ok r => ((store.save state user r).1.map fun _ ↦ some r, (store.save state user r).2)
      | .error f => (.error f, state) := by
  cases hreview : scheduler.review loaded card outcome now with
  | error f =>
    rw [step, Scheduler.mark_of_error (f := f) (by rw [hload]; exact hreview)]
    rfl
  | ok r =>
    have hmap : ((store.save state user r).1.map fun _ ↦ r).map some =
        (store.save state user r).1.map fun _ ↦ some r := by
      cases (store.save state user r).1 <;> rfl
    rw [step, Scheduler.mark_of_ok (r := r) (by rw [hload]; exact hreview)]
    exact congrArg (·, (store.save state user r).2) hmap

end RecordStore

/-! ### Records cut off -/

/-- An answer with the next review of its record cut off after the millisecond. -/
def truncatedAnswer (answer : Except Failure (Option Record)) : Except Failure (Option Record) :=
  answer.map (·.map Record.truncated)

/-- There is nothing left to cut off. -/
theorem truncated_truncated (t : Instant) : t.truncated.truncated = t.truncated := by
  refine Instant.ext_iff'.2 ⟨rfl, ?_⟩
  simp only [Instant.truncated_nanos]
  omega

@[simp] theorem Record.truncated_idem (r : Record) : r.truncated.truncated = r.truncated := by
  rw [truncated, truncated, truncated_truncated]

variable {r r' : Record}

/-- Records that are the same once they are cut off fit into rows alike. -/
theorem Record.IsStorable.of_truncated_eq (h : r.IsStorable) (heq : r'.truncated = r.truncated) :
    r'.IsStorable := by
  have hlevel : r'.truncated.level = r.truncated.level := congrArg Record.level heq
  have hseconds : r'.truncated.nextReview.seconds = r.truncated.nextReview.seconds :=
    congrArg (fun r : Record ↦ r.nextReview.seconds) heq
  simp only [truncated, Instant.truncated_seconds] at hlevel hseconds
  refine ⟨hlevel ▸ h.level, ?_⟩
  rw [Instant.HasFourDigitYear, Instant.date, hseconds]
  exact h.nextReview

/-- A mark hands the next review on or replaces it. -/
theorem Record.mark_truncated (r : Record) (outcome : Outcome) (table : LevelTable)
    (now : Instant) :
    (r.truncated.mark outcome table now).map truncated =
      (r.mark outcome table now).map truncated := by
  have hlevel : r.truncated.levelAfter outcome table = r.levelAfter outcome table := rfl
  rw [mark_eq, mark_eq, hlevel]
  by_cases hright : outcome = .right
  · simp only [if_pos hright]
    rfl
  · simp only [if_neg hright, Except.map, truncated, truncated_truncated]

/-- A review does not look at the end of the next review. -/
theorem Scheduler.review_truncated (scheduler : Scheduler) (loaded : Option Record) (card : CardId)
    (outcome : Outcome) (now : Instant) :
    (scheduler.review (loaded.map Record.truncated) card outcome now).map Record.truncated =
      (scheduler.review loaded card outcome now).map Record.truncated := by
  cases loaded with
  | none => rfl
  | some r => exact r.mark_truncated outcome scheduler.levels now

end Review

namespace Store

/-! ### Two stores in step -/

/-- A database, with the cards that it had in the beginning, and a memory that holds what is loaded
from it, up to the end of the next review. -/
structure InStep (cards : List CardRow) (db : Database) (m : Memory) : Prop where
  keys : (cards.map (·.id)).Nodup
  cards_eq : db.cards = cards
  load_eq : ∀ owner id, db.load owner id = .ok ((m.find? owner id).map Record.truncated)

variable {cards : List CardRow} {db : Database} {m : Memory} {user : Subject}

/-- A record that is saved in both stores keeps them in step. -/
theorem InStep.insert (h : InStep cards db m) {r r' : Record}
    (howned : (db.owned? user r.card).isSome = true) (hr : r.IsStorable)
    (heq : r'.truncated = r.truncated) :
    InStep cards (db.putQuiz (Database.QuizRow.write r')) (m.insert user r) := by
  have hcard : r'.truncated.card = r.truncated.card := congrArg Record.card heq
  simp only [Record.truncated] at hcard
  have hr' : r'.IsStorable := hr.of_truncated_eq heq
  have hrow : (db.owned? user (Database.QuizRow.write r').id).isSome = true := by
    rwa [Database.QuizRow.write, hcard]
  refine ⟨h.keys, ?_, fun owner id ↦ ?_⟩
  · rw [Database.putQuiz_eq]
    exact h.cards_eq
  · by_cases hkey : (owner, id) = (user, r.card)
    · obtain ⟨rfl, rfl⟩ := Prod.mk.inj hkey
      have howned' : (db.owned? owner r'.card).isSome = true := by rwa [hcard]
      have hload := Database.load_putQuiz howned'
      rw [hcard, Database.QuizRow.read_write hr'.nextReview, hr'.restored_eq, heq] at hload
      rw [hload, Memory.find?_insert_self]
      rfl
    · have hne : (owner, id) ≠ (user, (Database.QuizRow.write r').id) := by
        rwa [Database.QuizRow.write, hcard]
      rw [Database.load_putQuiz_of_ne (h.cards_eq ▸ h.keys) hrow hne, h.load_eq,
        Memory.find?_insert_of_ne]
      rwa [Prod.mk.injEq, not_and_or] at hkey

/-- A mark of one of the user's own cards gives the same answer in both stores, up to the end of the
next review, and keeps them in step, if what comes of it is next due in a year of four digits. -/
theorem InStep.step_mark (h : InStep cards db m) (scheduler : Scheduler) {card : CardId}
    (outcome : Outcome) (now : Instant) (howned : (db.owned? user card).isSome = true)
    (hanswer : ∀ r, (Memory.store.step m user (.mark scheduler card outcome now)).1 =
      .ok (some r) → r.nextReview.HasFourDigitYear) :
    truncatedAnswer (Memory.store.step m user (.mark scheduler card outcome now)).1 =
        truncatedAnswer (Database.store.step db user (.mark scheduler card outcome now)).1 ∧
      InStep cards (Database.store.step db user (.mark scheduler card outcome now)).2
        (Memory.store.step m user (.mark scheduler card outcome now)).2 := by
  have hloadM : Memory.store.load m user card = .ok (m.find? user card) := rfl
  have hloadD : Database.store.load db user card =
      .ok ((m.find? user card).map Record.truncated) := h.load_eq user card
  -- the records that are loaded differ in the cut, and so do the reviews, if there are any
  have hreview := scheduler.review_truncated (m.find? user card) card outcome now
  rw [RecordStore.step_mark _ hloadM] at hanswer ⊢
  rw [RecordStore.step_mark _ hloadD]
  cases hm : scheduler.review (m.find? user card) card outcome now with
  | error f =>
    rw [hm] at hreview
    rw [map_eq_error_iff.1 hreview]
    exact ⟨rfl, h⟩
  | ok r =>
    rw [hm] at hreview hanswer
    obtain ⟨r', hd, heq⟩ := map_eq_ok_iff.1 hreview
    have hcard : r.card = card := Scheduler.card_of_review (fun old ↦ Memory.card_of_find?) hm
    have hcard' : r'.card = card := (congrArg Record.card heq).trans hcard
    have hsave : Database.store.save db user r' =
        (.ok (), db.putQuiz (Database.QuizRow.write r')) := by
      refine Database.save_of_owned ?_
      rwa [hcard']
    have hr : r.IsStorable := Scheduler.isStorable_of_review hm (hanswer r rfl)
    rw [hd]
    simp only [hsave]
    refine ⟨?_, h.insert ?_ hr heq⟩
    · exact congrArg (fun r ↦ Except.ok (some r)) heq.symm
    · rwa [hcard]

/-- So does every step, if a record that is saved fits into a row. -/
theorem InStep.step (h : InStep cards db m) {s : RecordStep}
    (howned : (db.owned? user s.card).isSome = true) (hsaved : ∀ r, s = .save r → r.IsStorable)
    (hanswer : ∀ r, (Memory.store.step m user s).1 = .ok (some r) →
      r.nextReview.HasFourDigitYear) :
    truncatedAnswer (Memory.store.step m user s).1 =
        truncatedAnswer (Database.store.step db user s).1 ∧
      InStep cards (Database.store.step db user s).2 (Memory.store.step m user s).2 := by
  cases s with
  | load card =>
    refine ⟨?_, h⟩
    show truncatedAnswer (.ok (m.find? user card)) = truncatedAnswer (db.load user card)
    rw [h.load_eq]
    cases m.find? user card with
    | none => rfl
    | some r =>
      simp only [truncatedAnswer, Except.map, Option.map_some, Record.truncated_idem]
  | save r =>
    have hsave : Database.store.saveFor db (some user) r =
        (.ok (), db.putQuiz (Database.QuizRow.write r)) := Database.save_of_owned howned
    have hstep : Database.store.step db user (.save r) =
        (.ok none, db.putQuiz (Database.QuizRow.write r)) := by
      rw [RecordStore.step, hsave]
      rfl
    rw [hstep]
    exact ⟨rfl, h.insert howned (hsaved r rfl) rfl⟩
  | mark scheduler card outcome now => exact h.step_mark scheduler outcome now howned hanswer

/-- So do rows of steps, one after the other. -/
theorem InStep.run {steps : List (Subject × RecordStep)} (h : InStep cards db m)
    (howned : ∀ s ∈ steps, (db.owned? s.1 s.2.card).isSome = true)
    (hsaved : ∀ s ∈ steps, ∀ r, s.2 = .save r → r.IsStorable)
    (hanswers : ∀ r, .ok (some r) ∈ (Memory.store.run m steps).1 →
      r.nextReview.HasFourDigitYear) :
    (Memory.store.run m steps).1.map truncatedAnswer =
        (Database.store.run db steps).1.map truncatedAnswer ∧
      InStep cards (Database.store.run db steps).2 (Memory.store.run m steps).2 := by
  induction steps generalizing db m with
  | nil => exact ⟨rfl, h⟩
  | cons s steps ih =>
    obtain ⟨user, s⟩ := s
    obtain ⟨hanswer, hnext⟩ := h.step (howned (user, s) (by simp)) (hsaved (user, s) (by simp))
      fun r hr ↦ hanswers r (hr ▸ List.mem_cons_self)
    -- no step changes the cards, so whoever owns one keeps it
    have hcards : (Database.store.step db user s).2.cards = db.cards :=
      hnext.cards_eq.trans h.cards_eq.symm
    obtain ⟨hrest, hlast⟩ := ih hnext
      (fun s hs ↦ by
        have := howned s (List.mem_cons_of_mem _ hs)
        rwa [Database.owned?, hcards])
      (fun s hs ↦ hsaved s (List.mem_cons_of_mem _ hs))
      fun r hr ↦ hanswers r (List.mem_cons_of_mem _ hr)
    exact ⟨congrArg₂ List.cons hanswer hrest, hlast⟩

/-! ### Runs -/

/-- A database with cards of users, and no records. -/
def Database.ofCards (cards : List (Subject × NewCard)) : Database :=
  Database.empty.after (cards.map fun c ↦ .add c.1 c.2)

theorem Database.quizzes_ofCards (cards : List (Subject × NewCard)) :
    (ofCards cards).quizzes = [] := by
  induction cards using List.reverseRecOn with
  | nil => rfl
  | append_singleton cards c ih =>
    rw [ofCards, List.map_append, List.map_singleton, Database.after_append_singleton,
      Operation.apply_add, quizzes_insert]
    exact ih

/-- In the beginning there are no records. -/
theorem InStep.ofCards (cards : List (Subject × Database.NewCard)) :
    InStep (Database.ofCards cards).cards (.ofCards cards) .empty := by
  refine ⟨(Database.WellFormed.empty.after _).nodup_cards, rfl, fun owner id ↦ ?_⟩
  have hquiz : (Database.ofCards cards).quiz? id = none := by
    rw [Database.quiz?, Database.quizzes_ofCards]
    rfl
  simp only [Database.load, hquiz]
  rfl

/-- Users who mark, load and save records of their own cards get the same answers from records in
memory and from the database, up to the end of the next review, and leave the same records behind.
The levels that are saved are signed numbers, and no record is next due in a year that has more than
four digits. Counters that start over, and levels behind the highest, do so in both. -/
theorem answers_memory_eq_answers_database (cards : List (Subject × Database.NewCard))
    (steps : List (Subject × RecordStep))
    (howned : ∀ s ∈ steps, ((Database.ofCards cards).owned? s.1 s.2.card).isSome = true)
    (hlevels : ∀ s ∈ steps, ∀ r, s.2 = .save r → r.level < 2 ^ 63)
    (hyears : ∀ s ∈ steps, ∀ r, s.2 = .save r → r.nextReview.HasFourDigitYear)
    (hanswers : ∀ r, .ok (some r) ∈ (Memory.store.run .empty steps).1 →
      r.nextReview.HasFourDigitYear) :
    (Memory.store.run .empty steps).1.map truncatedAnswer =
        (Database.store.run (.ofCards cards) steps).1.map truncatedAnswer ∧
      ∀ owner id, (Database.store.run (.ofCards cards) steps).2.load owner id =
        .ok (((Memory.store.run .empty steps).2.find? owner id).map Record.truncated) := by
  have hsaved : ∀ s ∈ steps, ∀ r, s.2 = .save r → r.IsStorable := fun s hs r hr ↦
    ⟨hlevels s hs r hr, hyears s hs r hr⟩
  obtain ⟨hsame, hlast⟩ := (InStep.ofCards cards).run howned hsaved hanswers
  exact ⟨hsame, hlast.load_eq⟩

/-- A next review with microseconds is kept over a wrong answer in memory, and cut off in the
database. In both the counter of wrong answers starts over behind its last value. -/
theorem answers_of_wrong_after_microseconds :
    let alice : Subject := ⟨"alice"⟩
    let id := CardId.ofCard alice .hanzi "学"
    let cards : List (Subject × Database.NewCard) := [(alice, ⟨.hanzi, "学", some "study", []⟩)]
    let next : Instant := ⟨1717200000, 123456000, by decide, by decide, by decide, by decide⟩
    let now : Instant := ⟨1717200001, 0, by decide, by decide, by decide, by decide⟩
    let saved : Record := ⟨id, 3, next, ⟨⟨0, 4294967295, 0, 4294967295⟩, none, none⟩⟩
    let marked : Record := ⟨id, 2, next, ⟨⟨0, 0, 0, 4294967295⟩, none, some now⟩⟩
    let steps : List (Subject × RecordStep) :=
      [(alice, .save saved), (alice, .mark .standard id .wrong now), (alice, .load id)]
    (Memory.store.run .empty steps).1 = [.ok none, .ok (some marked), .ok (some marked)] ∧
      (Database.store.run (.ofCards cards) steps).1.map truncatedAnswer =
        [.ok none, .ok (some marked.truncated), .ok (some marked.truncated)] := by
  intro alice id cards next now saved marked steps
  let first := Memory.empty.insert alice saved
  have hload : Memory.store.load first alice id = .ok (some saved) :=
    congrArg Except.ok (Memory.find?_insert_self .empty alice saved)
  have hlevel : saved.levelAfter .wrong .standard = 2 := by
    simp only [Record.levelAfter, saved]
    decide
  have hstat : saved.stat.count .wrong now = marked.stat := by
    have hmax : max 4294967295 (4294967295 + 1 : UInt32) = 4294967295 := by decide
    simp only [Stat.count, saved, marked, hmax]
    rfl
  have hreview : Scheduler.standard.review (some saved) id .wrong now = .ok marked := by
    show saved.mark .wrong .standard now = .ok marked
    rw [Record.mark_eq, hlevel, hstat]
    rfl
  have hmark : Memory.store.step first alice (.mark .standard id .wrong now) =
      (.ok (some marked), first.insert alice marked) := by
    rw [RecordStore.step_mark _ hload, hreview]
    rfl
  have hlast : Memory.store.load (first.insert alice marked) alice id = .ok (some marked) :=
    congrArg Except.ok (Memory.find?_insert_self first alice marked)
  have hmemory : (Memory.store.run .empty steps).1 =
      [.ok none, .ok (some marked), .ok (some marked)] := by
    show [.ok none, (Memory.store.step first alice (.mark .standard id .wrong now)).1,
      (Memory.store.step (Memory.store.step first alice (.mark .standard id .wrong now)).2 alice
        (.load id)).1] = _
    rw [hmark]
    exact congrArg (fun found ↦ [.ok none, .ok (some marked), found]) hlast
  have hcards : Database.ofCards cards = ⟨[⟨id, alice, "hanzi", "学", some "study"⟩], [], []⟩ :=
    Database.after_add alice .hanzi "学" (some "study")
  have howned : ∀ s ∈ steps, ((Database.ofCards cards).owned? s.1 s.2.card).isSome = true := by
    simp [steps, Database.owned?, hcards, RecordStep.card, saved]
  have hyear : next.HasFourDigitYear := by decide
  have hsame := (answers_memory_eq_answers_database cards steps howned ?_ ?_ ?_).1
  · refine ⟨hmemory, ?_⟩
    rw [← hsame, hmemory]
    rfl
  · simp [steps, saved]
  · simpa [steps, saved] using hyear
  · simpa [hmemory, marked] using hyear

end Store

end SpacedReview

import SpacedReview.Proofs.Review.Marks
import SpacedReview.Proofs.Store.Isolation

/-!
# The store remembers the last save

To whoever uses it, the table of review records is a map from cards to records. A record that its
user saves is the one that is loaded from then on, its next review cut off after the millisecond,
until the same user saves or marks the same card again. Nothing else that is asked of the database
comes between, whoever asks for it: cards that are added keep their owners, other cards have other
rows, and other users are refused.

This is a property of the tables alone. It needs no history, and holds of tables with damaged rows,
as long as no two rows of the table of cards have one key.

## Main statements

* `Request.keeps_record`: a request leaves the records of others and of other cards as they are.
* `load_after_save`: what is loaded after a record was saved.
-/

namespace SpacedReview

open SpacedReview.Review SpacedReview.Text SpacedReview.Time

namespace Store

open SpacedReview.Review

namespace Database

variable {db : Database} {owner user : Subject} {id : CardId}

/-! ### What is kept -/

/-- In a table with unique keys no card has two owners. -/
theorem owner_eq_of_owned? (hkeys : (db.cards.map (·.id)).Nodup)
    (h : (db.owned? owner id).isSome = true) (h' : (db.owned? user id).isSome = true) :
    user = owner := by
  obtain ⟨card, hcard, hkey⟩ := List.mem_map.1 (db.isSome_owned?_iff.1 h)
  obtain ⟨card', hcard', hkey'⟩ := List.mem_map.1 (db.isSome_owned?_iff.1 h')
  obtain ⟨rfl, rfl⟩ := Prod.mk.inj hkey
  obtain ⟨hid, rfl⟩ := Prod.mk.inj hkey'
  rw [List.inj_on_of_nodup_map hkeys hcard' hcard hid]

/-- A user's card, and the row of its review record, in a table of cards with unique keys. -/
structure Keeps (db : Database) (owner : Subject) (id : CardId) (quiz : Option QuizRow) : Prop where
  keys : (db.cards.map (·.id)).Nodup
  owned : (db.owned? owner id).isSome = true
  quiz : db.quiz? id = quiz

variable {quiz : Option QuizRow}

/-- Cards that are added leave the others as they are, also if they are the same card. -/
theorem Keeps.insert (h : db.Keeps owner id quiz) (user : Subject) (card : NewCard) :
    (db.insert user card).Keeps owner id quiz := by
  obtain ⟨rows, -, hinsert⟩ := db.exists_insert_eq user card
  have hid : id ∈ db.cards.map (·.id) := by
    obtain ⟨row, hrow, hkey⟩ := List.mem_map.1 (db.isSome_owned?_iff.1 h.owned)
    exact List.mem_map.2 ⟨row, hrow, congrArg Prod.fst hkey⟩
  rw [hinsert]
  refine ⟨?_, ?_, h.quiz⟩
  · rw [putCard_ids]
    exact nodup_append_if h.keys _
  · exact (isSome_owned?_putCard hid).trans h.owned

/-- A record of another card leaves the records of a card as they are. -/
theorem Keeps.putQuiz (h : db.Keeps owner id quiz) {row : QuizRow} (hrow : row.id ≠ id) :
    (db.putQuiz row).Keeps owner id quiz := by
  refine ⟨?_, ?_, ?_⟩
  · rw [putQuiz_eq]
    exact h.keys
  · rw [owned?_putQuiz]
    exact h.owned
  · rw [quiz?_putQuiz, if_neg hrow]
    exact h.quiz

/-- What a user saves is about one of the user's own cards, and so never about another user's. -/
theorem Keeps.of_save (h : db.Keeps owner id quiz) {saved : Database} {r : Record}
    (hsave : db.save user r = (.ok (), saved)) (hr : user = owner → r.card ≠ id) :
    saved.Keeps owner id quiz := by
  obtain ⟨howned, rfl⟩ := eq_putQuiz_of_save hsave
  refine h.putQuiz fun hid ↦ hr ?_ hid
  exact owner_eq_of_owned? h.keys h.owned (hid ▸ howned)

/-- What is loaded from a kept row. -/
theorem Keeps.load_eq {row : QuizRow} (h : db.Keeps owner id (some row)) :
    db.load owner id = (QuizRow.read row).map some := by
  rw [load_of_owned h.owned, h.quiz]

end Database

namespace Request

/-- The card whose record a request is to replace. -/
def recorded? : Request → Option CardId
  | mark _ card _ _ => some card
  | save record => some record.card
  | _ => none

/-- A request leaves the records of others as they are, and of its user those of other cards. -/
theorem keeps_record {db : Database} {owner user : Subject} {id : CardId}
    {quiz : Option QuizRow} (h : db.Keeps owner id quiz) {request : Request}
    (hrequest : user = owner → request.recorded? ≠ some id) :
    (request.apply db user).Keeps owner id quiz := by
  cases request with
  | add card =>
    show (Operation.apply db (.add user card)).Keeps owner id quiz
    rw [Operation.apply_add]
    exact h.insert user card
  | mark scheduler card outcome now =>
    show (Operation.apply db (.mark scheduler (some user) card outcome now)).Keeps owner id quiz
    rw [Operation.apply]
    rcases hmark : scheduler.mark Database.store db (some user) card outcome now with ⟨_ | r, left⟩
    · exact eq_of_mark_error hmark ▸ h
    · obtain ⟨_, hsession, hsave⟩ := exists_save_of_mark hmark
      obtain rfl := Option.some.inj hsession
      refine h.of_save hsave fun huser hid ↦ hrequest huser ?_
      exact congrArg some ((Database.card_of_store_mark hmark).symm.trans hid)
  | save record =>
    show (Operation.apply db (.save (some user) record)).Keeps owner id quiz
    rw [Operation.apply]
    rcases hsave : Database.store.saveFor db (some user) record with ⟨_ | _, left⟩
    · exact eq_of_saveFor_error hsave ▸ h
    · exact h.of_save hsave fun huser hid ↦ hrequest huser (congrArg some hid)
  | _ => exact h

end Request

/-- The tables after a row of requests of users. -/
def Database.afterRequests (db : Database) (requests : List (Subject × Request)) : Database :=
  requests.foldl (fun db r ↦ r.2.apply db r.1) db

/-- A row of requests leaves the record of a card as it is, unless the card's user replaces it. -/
theorem Database.Keeps.afterRequests {db : Database} {owner : Subject} {id : CardId}
    {quiz : Option QuizRow} (h : db.Keeps owner id quiz) {requests : List (Subject × Request)}
    (hrequests : ∀ r ∈ requests, r.1 = owner → r.2.recorded? ≠ some id) :
    (db.afterRequests requests).Keeps owner id quiz := by
  induction requests generalizing db with
  | nil => exact h
  | cons r requests ih =>
    exact ih (Request.keeps_record h (hrequests r (by simp)))
      fun r' hr' ↦ hrequests r' (List.mem_cons_of_mem _ hr')

/-! ### The law of the store -/

namespace Database

variable {db : Database} {owner : Subject}

/-- Nothing is loaded for a user who does not own the card. -/
theorem load_of_owned?_eq_none {id : CardId} (h : db.owned? owner id = none) :
    db.load owner id = .ok none := by
  cases hquiz : db.quiz? id <;> simp only [load, hquiz, h]

/-- A record that is put does not show in what others load, nor in other cards. -/
theorem load_putQuiz_of_ne (hkeys : (db.cards.map (·.id)).Nodup) {row : QuizRow}
    (howned : (db.owned? owner row.id).isSome = true) {owner' : Subject} {id : CardId}
    (hne : (owner', id) ≠ (owner, row.id)) :
    (db.putQuiz row).load owner' id = db.load owner' id := by
  by_cases hid : row.id = id
  · -- the card is another user's, who does not own it
    have hnone : db.owned? owner' id = none := by
      by_contra hsome
      have howner : owner' = owner := by
        refine owner_eq_of_owned? hkeys howned ?_
        rw [hid]
        exact Option.isSome_iff_ne_none.2 hsome
      exact hne (by rw [howner, hid])
    rw [load_of_owned?_eq_none hnone, load_of_owned?_eq_none (by rwa [owned?_putQuiz])]
  · simp only [load, owned?_putQuiz, quiz?_putQuiz, if_neg hid]

/-- What is loaded after a record was saved does not depend on the records of others or of other
cards. -/
theorem save_putQuiz (hkeys : (db.cards.map (·.id)).Nodup) {row : QuizRow}
    (howned : (db.owned? owner row.id).isSome = true) {owner' : Subject} {r : Record}
    (hne : (owner', r.card) ≠ (owner, row.id)) :
    ((db.putQuiz row).save owner' r).map id (·.load owner' r.card) =
      (db.save owner' r).map id (·.load owner' r.card) := by
  cases hcard : db.owned? owner' r.card with
  | none =>
    rw [save_of_not_owned hcard, save_of_not_owned (by rwa [owned?_putQuiz]), Prod.map_apply,
      Prod.map_apply, load_putQuiz_of_ne hkeys howned hne]
  | some card =>
    have hown : (db.owned? owner' r.card).isSome = true := Option.isSome_of_eq_some hcard
    have hown' : ((db.putQuiz row).owned? owner' r.card).isSome = true := by
      rwa [owned?_putQuiz]
    rw [save_of_owned hown, save_of_owned hown', Prod.map_apply, Prod.map_apply,
      load_putQuiz hown, load_putQuiz hown']

end Database

/-- A record that a user saves for a card of the user, and that a row can hold, is loaded from then
on, cut off after the millisecond, whatever is asked of the database, until the user replaces it.
Saving it changes nothing of what is loaded for other users or cards, or after others are saved. A
record of a card that the user does not own is refused, and the tables stay as they are. No two rows
of the table of cards have one key. -/
theorem load_after_save (db : Database) (hkeys : (db.cards.map (·.id)).Nodup) (owner : Subject)
    (r : Record) :
    ((db.owned? owner r.card).isSome = true → r.IsStorable →
      ∃ saved, db.save owner r = (.ok (), saved) ∧
        (∀ requests : List (Subject × Request),
          (∀ q ∈ requests, q.1 = owner → q.2.recorded? ≠ some r.card) →
            (saved.afterRequests requests).load owner r.card = .ok (some r.truncated)) ∧
        ∀ owner' id, (owner', id) ≠ (owner, r.card) →
          saved.load owner' id = db.load owner' id ∧
            ∀ r' : Record, r'.card = id →
              (saved.save owner' r').1 = (db.save owner' r').1 ∧
                (saved.save owner' r').2.load owner' id = (db.save owner' r').2.load owner' id) ∧
    (db.owned? owner r.card = none →
      db.save owner r = (.error (.noSuchCard r.card.hex), db) ∧
        (Failure.noSuchCard r.card.hex).message = "no such card: " ++ r.card.hex ∧
          (Request.save r).apply db owner = db) := by
  refine ⟨fun howned hr ↦ ?_, fun hnone ↦ ?_⟩
  · have hcard : (db.owned? owner (Database.QuizRow.write r).id).isSome = true := howned
    refine ⟨_, Database.save_of_owned howned, fun requests hrequests ↦ ?_, fun owner' id hne ↦ ?_⟩
    · have hkeeps : (db.putQuiz (Database.QuizRow.write r)).Keeps owner r.card
          (some (Database.QuizRow.write r)) := by
        refine ⟨?_, ?_, ?_⟩
        · rw [Database.putQuiz_eq]
          exact hkeys
        · rwa [Database.owned?_putQuiz]
        · rw [Database.quiz?_putQuiz, Database.QuizRow.write, if_pos rfl]
      rw [(hkeeps.afterRequests hrequests).load_eq]
      rw [Database.QuizRow.read_write hr.nextReview, hr.restored_eq]
      rfl
    · refine ⟨Database.load_putQuiz_of_ne hkeys hcard hne, ?_⟩
      rintro r' rfl
      exact Prod.ext_iff.1 (Database.save_putQuiz hkeys hcard hne)
  · have hsave := Database.save_of_not_owned hnone
    exact ⟨hsave, rfl, congrArg Prod.snd hsave⟩

/-- The record of a card, due within a leap second, is loaded after another user tried to save one
for the same card and its own user added the card again. -/
theorem load_after_save_of_intruder :
    let alice : Subject := ⟨"alice"⟩
    let mallory : Subject := ⟨"mallory"⟩
    let id := CardId.ofCard alice .hanzi "学"
    let db : Database := ⟨[⟨id, alice, "hanzi", "学", none⟩], [], []⟩
    let next : Instant := ⟨1483228799, 1000500000, by decide, by decide, by decide, by decide⟩
    let r : Record := ⟨id, 3, next, ⟨⟨1, 0, 2, 1⟩, some next, none⟩⟩
    (db.cards.map (·.id)).Nodup ∧ (db.owned? alice id).isSome = true ∧ r.IsStorable ∧
      db.owned? mallory id = none ∧
      ∃ saved, db.save alice r = (.ok (), saved) ∧
        (saved.afterRequests [(mallory, .save ⟨id, 9, .epoch, .initial⟩),
          (alice, .add ⟨.hanzi, "学", some "study", ["a"]⟩),
          (alice, .searchCards "is:new" .epoch 10)]).load alice id = .ok (some r.truncated) ∧
        saved.load mallory id = db.load mallory id ∧
        db.save mallory r = (.error (.noSuchCard id.hex), db) := by
  intro alice mallory id db next r
  have hkeys : (db.cards.map (·.id)).Nodup := List.nodup_singleton _
  have howned : (db.owned? alice id).isSome = true := by simp [db, Database.owned?]
  have hr : r.IsStorable := ⟨by decide, by decide⟩
  have hnone : db.owned? mallory id = none := by simp [db, Database.owned?, alice, mallory]
  obtain ⟨saved, hsave, hload, hothers⟩ := (load_after_save db hkeys alice r).1 howned hr
  refine ⟨hkeys, howned, hr, hnone, saved, hsave, hload _ ?_, (hothers mallory id ?_).1,
    ((load_after_save db hkeys mallory r).2 hnone).1⟩
  · simp [Request.recorded?, alice, mallory]
  · simp [alice, mallory]

end Store

end SpacedReview

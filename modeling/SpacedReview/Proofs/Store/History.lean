import Mathlib.Data.List.Basic
import Mathlib.Data.List.Induction
import SpacedReview.Proofs.Review.Marks
import SpacedReview.Proofs.Store.Upsert
import SpacedReview.Store.Database

/-!
# Histories of the database

Users add and mark cards and save records of them, and each of these operations changes the tables
in one of three ways: it inserts a card, it puts a review record that was written by the program, or
it changes nothing (`Operation.apply_cases`). What holds of all databases that come about in this
way is proved for these three changes: keys are unique, and kinds and review records can be read
(`Database.WellFormed`).

A card belongs to the user who was the first to add it, and the rows stay in the order in which
their cards were first added. Both are read off the history (`cardsOf`), with no regard to what the
other operations did in between.

## Main statements

* `Database.WellFormed.after`: every history keeps a database well-formed.
* `map_id_cards_after`: the rows of cards are in the order in which the cards were first added.
* `firstOwner?_of_mem_after`: a card belongs to the user who was the first to add it.
* `map_id_filter_cards_after`: so a user's rows are those of the user's cards, in this order.
-/

namespace SpacedReview.Store

open SpacedReview.Review SpacedReview.Time

/-! ### Operations -/

/-- A request that may change the database. -/
inductive Operation where
  | add (owner : Subject) (card : Database.NewCard)
  | mark (scheduler : Scheduler) (session : Session) (card : CardId) (outcome : Outcome)
      (now : Instant)
  | save (session : Session) (record : Record)

/-- The tables behind an operation. -/
def Operation.apply (db : Database) : Operation → Database
  | add owner card => (db.add owner card).2
  | mark scheduler session card outcome now =>
    (scheduler.mark Database.store db session card outcome now).2
  | save session record => (Database.store.saveFor db session record).2

/-- The tables after a row of operations. -/
def Database.after (db : Database) (ops : List Operation) : Database := ops.foldl Operation.apply db

/-- The card that an operation adds, and the user who adds it. -/
def Operation.addition? : Operation → Option (CardId × Subject)
  | add owner card => some (CardId.ofCard owner card.kind card.item, owner)
  | _ => none

theorem Database.after_append_singleton (db : Database) (ops : List Operation) (op : Operation) :
    db.after (ops ++ [op]) = op.apply (db.after ops) := by
  simp [after]

/-- A record is stored beside the card that it is about. -/
theorem Database.save_of_owned {db : Database} {owner : Subject} {r : Record}
    (h : (db.owned? owner r.card).isSome = true) :
    db.save owner r = (.ok (), db.putQuiz (QuizRow.write r)) := by
  obtain ⟨card, hcard⟩ := Option.isSome_iff_exists.1 h
  simp only [save, begin, hcard]
  rfl

/-- A record of a card that is not the user's is refused, and the transaction is taken back. -/
theorem Database.save_of_not_owned {db : Database} {owner : Subject} {r : Record}
    (h : db.owned? owner r.card = none) :
    db.save owner r = (.error (.noSuchCard r.card.hex), db) := by
  simp only [save, begin, h]
  rfl

/-- A record is only put beside a card of its user. -/
theorem Database.eq_putQuiz_of_save {db saved : Database} {owner : Subject} {r : Record}
    (h : db.save owner r = (.ok (), saved)) :
    (db.owned? owner r.card).isSome = true ∧ saved = db.putQuiz (QuizRow.write r) := by
  cases hcard : db.owned? owner r.card with
  | none => cases (save_of_not_owned hcard).symm.trans h
  | some card =>
    cases (save_of_owned (Option.isSome_of_eq_some hcard)).symm.trans h
    exact ⟨rfl, rfl⟩

/-- Saving fails only where the card is not the user's, and leaves the tables as they are. -/
theorem Database.eq_of_save_error {db left : Database} {owner : Subject} {r : Record} {f : Failure}
    (h : db.save owner r = (.error f, left)) :
    db.owned? owner r.card = none ∧ f = .noSuchCard r.card.hex ∧ left = db := by
  cases hcard : db.owned? owner r.card with
  | none =>
    cases (save_of_not_owned hcard).symm.trans h
    exact ⟨rfl, rfl, rfl⟩
  | some card => cases (save_of_owned (Option.isSome_of_eq_some hcard)).symm.trans h

/-- A session that a store accepts is one of a user. -/
theorem exists_save_of_saveFor {db saved : Database} {session : Session} {r : Record}
    (h : Database.store.saveFor db session r = (.ok (), saved)) :
    ∃ owner, session = some owner ∧ db.save owner r = (.ok (), saved) := by
  cases session with
  | none => exact absurd (Prod.mk.inj h).1 nofun
  | some owner => exact ⟨owner, rfl, h⟩

/-- A record that cannot be saved leaves the tables as they are. -/
theorem eq_of_saveFor_error {db left : Database} {session : Session} {r : Record} {f : Failure}
    (h : Database.store.saveFor db session r = (.error f, left)) : left = db := by
  cases session with
  | none => exact (Prod.mk.inj h).2.symm
  | some owner => exact (Database.eq_of_save_error h).2.2

theorem exists_save_of_mark {db left : Database} {scheduler : Scheduler} {session : Session}
    {card : CardId} {outcome : Outcome} {now : Instant} {r : Record}
    (h : scheduler.mark Database.store db session card outcome now = (.ok r, left)) :
    ∃ owner, session = some owner ∧ db.save owner r = (.ok (), left) := by
  obtain ⟨owner, hsession, _, -, -, hsave⟩ := Scheduler.mark_eq_ok_iff.1 h
  exact ⟨owner, hsession, hsave⟩

/-- A mark that fails leaves the tables as they are. -/
theorem eq_of_mark_error {db left : Database} {scheduler : Scheduler} {session : Session}
    {card : CardId} {outcome : Outcome} {now : Instant} {f : Failure}
    (h : scheduler.mark Database.store db session card outcome now = (.error f, left)) :
    left = db := by
  rcases Scheduler.mark_eq_error_iff.1 h with
    ⟨-, -, heq⟩ | ⟨owner, -, ⟨-, heq⟩ | ⟨loaded, -, ⟨-, heq⟩ | ⟨r, -, hsave⟩⟩⟩
  · exact heq
  · exact heq
  · exact heq
  · exact (Database.eq_of_save_error hsave).2.2

/-- Adding a card inserts it, whether or not it is found again afterwards. -/
theorem Database.add_eq (db : Database) (owner : Subject) (card : Database.NewCard) :
    db.add owner card =
      (match (db.insert owner card).get owner (CardId.ofCard owner card.kind card.item) with
        | .ok (some found) => .ok found
        | .ok none => .error (.vanished (CardId.ofCard owner card.kind card.item).hex)
        | .error f => .error f,
      db.insert owner card) := by
  have hadd : (db.begin.update fun tables ↦ tables.insert owner card).commit =
    db.insert owner card := rfl
  simp only [add, hadd]
  cases (db.insert owner card).get owner (CardId.ofCard owner card.kind card.item) with
  | error f => rfl
  | ok found => cases found <;> rfl

theorem Operation.apply_add (db : Database) (owner : Subject) (card : Database.NewCard) :
    (add owner card).apply db = db.insert owner card := by
  rw [apply, Database.add_eq]

/-- What an operation can do to the tables. -/
theorem Operation.apply_cases (db : Database) (op : Operation) :
    (∃ owner card, op = .add owner card ∧ op.apply db = db.insert owner card) ∨
      op.addition? = none ∧
        (op.apply db = db ∨ ∃ owner r, (db.owned? owner r.card).isSome = true ∧
          op.apply db = db.putQuiz (Database.QuizRow.write r)) := by
  cases op with
  | add owner card => exact .inl ⟨owner, card, rfl, apply_add db owner card⟩
  | mark scheduler session card outcome now =>
    refine .inr ⟨rfl, ?_⟩
    rcases h : scheduler.mark Database.store db session card outcome now with ⟨result, left⟩
    simp only [apply, h]
    cases result with
    | error f => exact .inl (eq_of_mark_error h)
    | ok r =>
      obtain ⟨owner, -, hsave⟩ := exists_save_of_mark h
      obtain ⟨howned, hput⟩ := Database.eq_putQuiz_of_save hsave
      exact .inr ⟨owner, r, howned, hput⟩
  | save session record =>
    refine .inr ⟨rfl, ?_⟩
    rcases h : Database.store.saveFor db session record with ⟨result, left⟩
    simp only [apply, h]
    cases result with
    | error f => exact .inl (eq_of_saveFor_error h)
    | ok _ =>
      obtain ⟨owner, -, hsave⟩ := exists_save_of_saveFor h
      obtain ⟨howned, hput⟩ := Database.eq_putQuiz_of_save hsave
      exact .inr ⟨owner, record, howned, hput⟩

/-! ### Insertions -/

namespace Database

/-- Tags only change the table of tags, and give no card a tag twice. -/
theorem exists_foldl_putTag_eq (db : Database) (id : CardId) (tags : List String) :
    ∃ rows, (db.tags.Nodup → rows.Nodup) ∧
      tags.foldl (fun db tag ↦ db.putTag ⟨id, tag⟩) db = { db with tags := rows } := by
  induction tags generalizing db with
  | nil => exact ⟨db.tags, fun h ↦ h, rfl⟩
  | cons tag tags ih =>
    obtain ⟨rows, hnodup, hrows⟩ := ih (db.putTag ⟨id, tag⟩)
    rw [List.foldl_cons, hrows]
    by_cases hmem : (⟨id, tag⟩ : TagRow) ∈ db.tags
    · exact ⟨rows, by simpa [putTag, hmem] using hnodup, by simp [putTag, hmem]⟩
    · refine ⟨rows, fun h ↦ hnodup ?_, by simp [putTag, hmem]⟩
      have hdisjoint : ∀ row ∈ db.tags, row ≠ ⟨id, tag⟩ := fun row hrow heq ↦ hmem (heq ▸ hrow)
      simpa [putTag, hmem, List.nodup_append, h] using hdisjoint

/-- The row that a card is inserted as, if it is not there yet. -/
def NewCard.row (owner : Subject) (card : NewCard) : CardRow :=
  ⟨CardId.ofCard owner card.kind card.item, owner, card.kind.word, card.item, card.english⟩

theorem putCard_eq (db : Database) (row : CardRow) :
    db.putCard row = { db with cards := (db.putCard row).cards } := by
  unfold putCard
  split <;> rfl

/-- Inserting a card changes the cards and the tags. -/
theorem exists_insert_eq (db : Database) (owner : Subject) (card : NewCard) :
    ∃ rows, (db.tags.Nodup → rows.Nodup) ∧ db.insert owner card =
      ⟨(db.putCard (card.row owner)).cards, rows, db.quizzes⟩ := by
  obtain ⟨rows, hnodup, hrows⟩ := exists_foldl_putTag_eq (db.putCard (card.row owner))
    (CardId.ofCard owner card.kind card.item) card.tags
  rw [putCard_eq] at hnodup
  refine ⟨rows, hnodup, ?_⟩
  show card.tags.foldl _ (db.putCard (card.row owner)) = _
  rw [hrows, putCard_eq]

theorem cards_insert (db : Database) (owner : Subject) (card : NewCard) :
    (db.insert owner card).cards = (db.putCard (card.row owner)).cards := by
  obtain ⟨rows, -, hinsert⟩ := db.exists_insert_eq owner card
  rw [hinsert]

theorem quizzes_insert (db : Database) (owner : Subject) (card : NewCard) :
    (db.insert owner card).quizzes = db.quizzes := by
  obtain ⟨rows, -, hinsert⟩ := db.exists_insert_eq owner card
  rw [hinsert]

theorem cards_putCard (db : Database) (row : CardRow) : (db.putCard row).cards =
    upsert (·.id) (fun old ↦ { old with english := row.english.or old.english }) row db.cards := by
  unfold putCard upsert
  split <;> rfl

theorem quizzes_putQuiz (db : Database) (row : QuizRow) :
    (db.putQuiz row).quizzes = upsert (·.id) (fun _ ↦ row) row db.quizzes := by
  unfold putQuiz upsert
  split <;> rfl

/-- A card keeps its place and its owner when it is put again. -/
theorem putCard_keys (db : Database) (row : CardRow) :
    (db.putCard row).cards.map (fun card ↦ (card.id, card.owner)) =
      db.cards.map (fun card ↦ (card.id, card.owner)) ++
        if row.id ∈ db.cards.map (·.id) then [] else [(row.id, row.owner)] := by
  rw [cards_putCard]
  exact map_upsert fun _ _ ↦ rfl

/-- A card has the key of one that was there before, or of the new one. -/
theorem key_of_mem_putCard {db : Database} {row card : CardRow}
    (h : card ∈ (db.putCard row).cards) :
    (∃ old ∈ db.cards, card.id = old.id ∧ card.owner = old.owner) ∨
      row.id ∉ db.cards.map (·.id) ∧ card.id = row.id ∧ card.owner = row.owner := by
  have hkey := List.mem_map_of_mem (f := fun card ↦ (card.id, card.owner)) h
  rw [putCard_keys, List.mem_append] at hkey
  rcases hkey with hkey | hkey
  · obtain ⟨old, hold, hkey⟩ := List.mem_map.1 hkey
    obtain ⟨hid, howner⟩ := Prod.mk.inj hkey
    exact .inl ⟨old, hold, hid.symm, howner.symm⟩
  · split at hkey
    · cases hkey
    · rename_i hmem
      exact .inr ⟨hmem, Prod.mk.inj (List.mem_singleton.1 hkey)⟩

/-- A card that is put again keeps its kind. -/
theorem kind_of_mem_putCard {db : Database} {row card : CardRow}
    (h : card ∈ (db.putCard row).cards) : card.kind = row.kind ∨
      ∃ old ∈ db.cards, card.kind = old.kind := by
  rw [cards_putCard] at h
  rcases mem_upsert h with rfl | hold | ⟨old, hold, rfl⟩
  · exact .inl rfl
  · exact .inr ⟨card, hold, rfl⟩
  · exact .inr ⟨old, hold, rfl⟩

theorem putQuiz_eq (db : Database) (row : QuizRow) :
    db.putQuiz row = { db with quizzes := (db.putQuiz row).quizzes } := by
  unfold putQuiz
  split <;> rfl

/-- A review record keeps its place when it is put again. -/
theorem putQuiz_ids (db : Database) (row : QuizRow) :
    (db.putQuiz row).quizzes.map (·.id) =
      db.quizzes.map (·.id) ++ if row.id ∈ db.quizzes.map (·.id) then [] else [row.id] := by
  rw [quizzes_putQuiz]
  exact map_upsert fun _ h ↦ h.symm

theorem mem_putQuiz {db : Database} {row quiz : QuizRow} (h : quiz ∈ (db.putQuiz row).quizzes) :
    quiz = row ∨ quiz ∈ db.quizzes := by
  rw [quizzes_putQuiz] at h
  rcases mem_upsert h with rfl | hold | ⟨old, -, rfl⟩
  · exact .inl rfl
  · exact .inr hold
  · exact .inl rfl

/-! ### Well-formed databases -/

/-- A database that only the program has written to. -/
structure WellFormed (db : Database) : Prop where
  nodup_cards : (db.cards.map (·.id)).Nodup
  nodup_tags : db.tags.Nodup
  nodup_quizzes : (db.quizzes.map (·.id)).Nodup
  kinds : ∀ card ∈ db.cards, ∃ kind : CardKind, card.kind = kind.word
  written : ∀ quiz ∈ db.quizzes, ∃ r, quiz = QuizRow.write r

theorem WellFormed.empty : WellFormed empty := by
  constructor <;> simp [Database.empty]

theorem nodup_append_if {α : Type} [DecidableEq α] {l : List α} (h : l.Nodup) (a : α) :
    (l ++ if a ∈ l then [] else [a]).Nodup := by
  by_cases ha : a ∈ l
  · simpa [ha] using h
  · rw [if_neg ha, List.nodup_append]
    refine ⟨h, List.nodup_singleton a, fun b hb c hc ↦ ?_⟩
    obtain rfl := List.mem_singleton.1 hc
    exact fun heq ↦ ha (heq ▸ hb)

theorem putCard_ids (db : Database) (row : CardRow) :
    (db.putCard row).cards.map (·.id) =
      db.cards.map (·.id) ++ if row.id ∈ db.cards.map (·.id) then [] else [row.id] := by
  have := congrArg (List.map Prod.fst) (db.putCard_keys row)
  rw [List.map_map, List.map_append, List.map_map] at this
  refine this.trans ?_
  split <;> rfl

theorem WellFormed.insert {db : Database} (h : db.WellFormed) (owner : Subject) (card : NewCard) :
    (db.insert owner card).WellFormed := by
  obtain ⟨rows, hnodup, hinsert⟩ := db.exists_insert_eq owner card
  rw [hinsert]
  refine ⟨?_, hnodup h.nodup_tags, h.nodup_quizzes, fun c hc ↦ ?_, h.written⟩
  · rw [putCard_ids]
    exact nodup_append_if h.nodup_cards _
  · rcases kind_of_mem_putCard hc with hkind | ⟨old, hold, hkind⟩
    · exact ⟨card.kind, hkind⟩
    · obtain ⟨kind, hold⟩ := h.kinds old hold
      exact ⟨kind, hkind.trans hold⟩

theorem WellFormed.putQuiz {db : Database} (h : db.WellFormed) (r : Record) :
    (db.putQuiz (QuizRow.write r)).WellFormed := by
  rw [putQuiz_eq]
  refine ⟨h.nodup_cards, h.nodup_tags, ?_, h.kinds, fun quiz hquiz ↦ ?_⟩
  · rw [putQuiz_ids]
    exact nodup_append_if h.nodup_quizzes _
  · rcases mem_putQuiz hquiz with rfl | hold
    · exact ⟨r, rfl⟩
    · exact h.written quiz hold

/-- An operation keeps a database well-formed. -/
theorem WellFormed.apply {db : Database} (h : db.WellFormed) (op : Operation) :
    (op.apply db).WellFormed := by
  rcases op.apply_cases db with ⟨owner, card, -, happly⟩ | ⟨-, happly | ⟨-, r, -, happly⟩⟩
  · exact happly ▸ h.insert owner card
  · exact happly.symm ▸ h
  · exact happly ▸ h.putQuiz r

/-- Every history keeps a database well-formed. -/
theorem WellFormed.after {db : Database} (h : db.WellFormed) (ops : List Operation) :
    (db.after ops).WellFormed := by
  induction ops generalizing db with
  | nil => exact h
  | cons op ops ih => exact ih (h.apply op)

end Database

/-! ### The order of cards -/

/-- The cards that were added, with the users who added them, again and again. -/
def additions (ops : List Operation) : List (CardId × Subject) := ops.filterMap (·.addition?)

/-- The cards that were added, in the order in which each was added first. -/
def addedCards (ops : List Operation) : List CardId := ((additions ops).map Prod.fst).eraseDups

/-- The user who was the first to add a card. -/
def firstOwner? (ops : List Operation) (id : CardId) : Option Subject :=
  ((additions ops).find? (·.1 == id)).map Prod.snd

/-- A user's cards, in the order in which each was added first. -/
def cardsOf (ops : List Operation) (owner : Subject) : List CardId :=
  (addedCards ops).filter fun id ↦ decide (firstOwner? ops id = some owner)

theorem additions_append_singleton (ops : List Operation) (op : Operation) :
    additions (ops ++ [op]) = additions ops ++ op.addition?.toList := by
  rw [additions, additions, List.filterMap_append]
  cases h : op.addition? <;> simp [h]

theorem eraseDups_concat {α : Type} [BEq α] [LawfulBEq α] (l : List α) (a : α) :
    (l ++ [a]).eraseDups = l.eraseDups ++ if a ∈ l then [] else [a] := by
  rw [List.eraseDups_append]
  by_cases h : a ∈ l <;> simp [List.removeAll, h, List.eraseDups_cons]

theorem mem_addedCards_iff {ops : List Operation} {id : CardId} :
    id ∈ addedCards ops ↔ id ∈ (additions ops).map Prod.fst := by
  rw [addedCards, List.mem_eraseDups]

/-- One more addition counts only if it is the first of its card. -/
theorem addedCards_append_singleton (ops : List Operation) (op : Operation) :
    addedCards (ops ++ [op]) = addedCards ops ++
      match op.addition? with
      | none => []
      | some a => if a.1 ∈ addedCards ops then [] else [a.1] := by
  rw [addedCards, additions_append_singleton, List.map_append]
  cases op.addition? with
  | none => simp [addedCards]
  | some a => simp only [Option.toList, List.map_cons, List.map_nil, eraseDups_concat,
      addedCards, List.mem_eraseDups]

theorem firstOwner?_append_singleton (ops : List Operation) (op : Operation) (id : CardId) :
    firstOwner? (ops ++ [op]) id = (firstOwner? ops id).or
      ((op.addition?.filter (·.1 == id)).map Prod.snd) := by
  rw [firstOwner?, additions_append_singleton, List.find?_append, Option.map_or, firstOwner?]
  cases op.addition? with
  | none => rfl
  | some a => by_cases h : a.1 == id <;> simp [h, Option.filter]

theorem firstOwner?_eq_none {ops : List Operation} {id : CardId} (h : id ∉ addedCards ops) :
    firstOwner? ops id = none := by
  rw [firstOwner?, Option.map_eq_none_iff, List.find?_eq_none]
  rintro a ha hid
  rw [mem_addedCards_iff] at h
  exact h (List.mem_map.2 ⟨a, ha, by simpa using hid⟩)

theorem firstOwner?_ne_none {ops : List Operation} {id : CardId} (h : id ∈ addedCards ops) :
    firstOwner? ops id ≠ none := by
  rw [mem_addedCards_iff] at h
  obtain ⟨a, ha, rfl⟩ := List.mem_map.1 h
  rw [firstOwner?, Ne, Option.map_eq_none_iff, List.find?_eq_none]
  exact fun hnone ↦ hnone a ha (beq_self_eq_true a.1)

/-- The rows of the table of cards are in the order in which the cards were first added. -/
theorem map_id_cards_after (ops : List Operation) :
    (Database.empty.after ops).cards.map (·.id) = addedCards ops := by
  induction ops using List.reverseRecOn with
  | nil => rfl
  | append_singleton ops op ih =>
    rw [Database.after_append_singleton, addedCards_append_singleton]
    rcases op.apply_cases (Database.empty.after ops) with
      ⟨owner, card, rfl, happly⟩ | ⟨hnone, happly | ⟨-, r, -, happly⟩⟩
    · rw [happly, Database.cards_insert, Database.putCard_ids, ih]
      rfl
    · rw [happly, ih, hnone, List.append_nil]
    · rw [happly, Database.putQuiz_eq, hnone, List.append_nil]
      exact ih

/-- A card belongs to the user who was the first to add it. -/
theorem firstOwner?_of_mem_after {ops : List Operation} {card : CardRow}
    (h : card ∈ (Database.empty.after ops).cards) : firstOwner? ops card.id = some card.owner := by
  induction ops using List.reverseRecOn generalizing card with
  | nil => exact absurd h List.not_mem_nil
  | append_singleton ops op ih =>
    rw [Database.after_append_singleton] at h
    rw [firstOwner?_append_singleton]
    rcases op.apply_cases (Database.empty.after ops) with
      ⟨owner, new, rfl, happly⟩ | ⟨hnone, happly | ⟨-, r, -, happly⟩⟩
    · rw [happly, Database.cards_insert] at h
      rcases Database.key_of_mem_putCard h with ⟨old, hold, hid, howner⟩ | ⟨hmem, hid, howner⟩
      · rw [hid, howner, ih hold]
        rfl
      · rw [map_id_cards_after] at hmem
        rw [hid, howner, firstOwner?_eq_none hmem]
        simp [Operation.addition?, Option.filter, Database.NewCard.row]
    · rw [hnone, ih (happly ▸ h)]
      rfl
    · rw [happly, Database.putQuiz_eq] at h
      rw [hnone, ih h]
      rfl

theorem nodup_addedCards (ops : List Operation) : (addedCards ops).Nodup := by
  rw [← map_id_cards_after]
  exact (Database.WellFormed.empty.after ops).nodup_cards

/-- A user's rows in the table of cards are those of the cards of the history, in the same order. -/
theorem map_id_filter_cards_after (ops : List Operation) (owner : Subject) :
    ((Database.empty.after ops).cards.filter (·.owner == owner)).map (·.id) =
      cardsOf ops owner := by
  have hfilter : (Database.empty.after ops).cards.filter (·.owner == owner) =
      (Database.empty.after ops).cards.filter
        ((fun id ↦ decide (firstOwner? ops id = some owner)) ∘ (·.id)) := by
    refine List.filter_congr fun card hcard ↦ ?_
    rw [Function.comp_apply, firstOwner?_of_mem_after hcard]
    simp [Bool.beq_eq_decide_eq]
  rw [hfilter, ← List.filter_map, map_id_cards_after, cardsOf]

/-! ### Histories of a single card -/

/-- Who alone adds a card, and adds it once, has this card. -/
theorem cardsOf_of_additions {ops : List Operation} {id : CardId} {owner : Subject}
    (h : additions ops = [(id, owner)]) : cardsOf ops owner = [id] := by
  simp [cardsOf, addedCards, firstOwner?, h, List.eraseDups_cons]

/-- The tables after a card without tags was added. -/
theorem Database.after_add (owner : Subject) (kind : CardKind) (item : String)
    (english : Option String) :
    Database.empty.after [.add owner ⟨kind, item, english, []⟩] =
      ⟨[⟨CardId.ofCard owner kind item, owner, kind.word, item, english⟩], [], []⟩ :=
  Operation.apply_add .empty owner _

theorem Database.owned?_after_add (owner : Subject) (kind : CardKind) (item : String)
    (english : Option String) :
    (Database.empty.after [.add owner ⟨kind, item, english, []⟩]).owned? owner
        (CardId.ofCard owner kind item) =
      some ⟨CardId.ofCard owner kind item, owner, kind.word, item, english⟩ := by
  simp [Database.after_add, Database.owned?]

theorem Database.get_after_add (owner : Subject) (kind : CardKind) (item : String)
    (english : Option String) :
    (Database.empty.after [.add owner ⟨kind, item, english, []⟩]).get owner
        (CardId.ofCard owner kind item) =
      .ok (some ⟨CardId.ofCard owner kind item, kind, item, english, []⟩) := by
  have hkind : CardKind.ofWord? kind.word = some kind := CardKind.ofWord?_word kind
  simp [Database.after_add, Database.get, Database.owned?, Database.tagsOf, hkind]

/-- The tables after a record was saved for the card. -/
theorem Database.after_add_save (owner : Subject) (kind : CardKind) (item : String)
    (english : Option String) {r : Record} (hr : r.card = CardId.ofCard owner kind item) :
    Database.empty.after [.add owner ⟨kind, item, english, []⟩, .save (some owner) r] =
      ⟨[⟨CardId.ofCard owner kind item, owner, kind.word, item, english⟩], [],
        [QuizRow.write r]⟩ := by
  show Operation.apply (Database.empty.after [.add owner ⟨kind, item, english, []⟩])
    (.save (some owner) r) = _
  rw [Database.after_add]
  have howned : ((⟨[⟨CardId.ofCard owner kind item, owner, kind.word, item, english⟩], [], []⟩ :
      Database).owned? owner r.card).isSome = true := by
    simp [Database.owned?, hr]
  exact congrArg Prod.snd (Database.save_of_owned howned)

end SpacedReview.Store

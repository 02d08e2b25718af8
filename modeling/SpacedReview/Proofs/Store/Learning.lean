import SpacedReview.Proofs.Card.Identity
import SpacedReview.Proofs.Store.Combining

/-!
# Cards to learn

Three ways to ask which cards of a user were never reviewed, of one kind if asked for, come to the
same: the cards that one of them is picked from, the search for new cards, and loading the record of
each card and finding none. The first looks whether there is a row of a review record, the second
joins the cards with these rows and asks whether nothing was joined, and the third joins them for
the user who owns the card. On the tables that histories lead to, all of them tell whether a row has
the identifier of the card.

Nothing takes a review record away, and every mark that succeeds puts one, whatever the outcome. So
a card that was once marked is never picked again.

## Main statements

* `Database.WellFormed.candidates_eq`: the cards to pick from are those that the condition fits.
* `Database.exists_pick_iff`: what can be picked.
* `Database.isSome_quiz?_after`: a card that has a review record keeps one.
* `picks_unreviewed`: all three ways, and what a mark does to them.
-/

namespace SpacedReview.Store

open SpacedReview.Query SpacedReview.Review SpacedReview.Time

variable {db : Database} {owner : Subject} {kind : Option CardKind} {id : CardId}

/-! ### The search for new cards -/

/-- The query for cards that were never reviewed, of one kind if asked for. -/
def newQuery : Option CardKind → String
  | none => "is:new"
  | some kind => "is:new type:" ++ kind.word

/-- The condition that the query for new cards stands for. -/
def newCondition : Option CardKind → Condition
  | none => .term ⟨some "is", .has, "new", false⟩
  | some kind =>
    .all [.term ⟨some "is", .has, "new", false⟩, .term ⟨some "type", .has, kind.word, false⟩]

theorem parse_newQuery (kind : Option CardKind) :
    Condition.parse (newQuery kind) = .ok (some (newCondition kind)) := by
  rcases kind with _ | _ | _ | _ <;> decide +kernel

/-- The condition for new cards of a kind compiles to both filters. -/
theorem compile_newCondition_some (now : Instant) (kind : CardKind) :
    ((cardSchema now).compile (newCondition (some kind))).predicate =
      .all [.atom .unreviewed, .atom (.ofKind kind)] := by
  cases kind <;> rfl

/-- The search for new cards is within the limits of SQL. -/
theorem searchable_newCondition (now : Instant) (owner : Subject) (kind : Option CardKind)
    (limit : Nat) :
    Database.Searchable owner ((cardSchema now).compile (newCondition kind)).predicate limit := by
  cases kind with
  | none => exact Database.searchable_term owner now limit ⟨rfl, rfl⟩
  | some kind =>
    rw [compile_newCondition_some]
    refine Database.searchable_of_size_le rfl (Nat.le_of_ble_eq_true rfl) ?_ owner limit
    exact ⟨⟨rfl, rfl⟩, ⟨rfl, by cases kind <;> decide⟩, trivial⟩

/-- What the condition for new cards says about a row. -/
theorem holds_newCondition (now : Instant) (row : Row) :
    ((cardSchema now).compile (newCondition kind)).predicate.holds (Filter.accepts row) =
      (kind.all (fun k ↦ row.card.kind == k.word) && row.quiz.isNone) := by
  cases kind with
  | none => rfl
  | some kind =>
    rw [compile_newCondition_some]
    simp [Predicate.holds, Predicate.holdsAll, Filter.accepts, Bool.and_comm, Bool.beq_eq_decide_eq]

namespace Database

/-- The cards to pick from are those that the condition for new cards fits, in their order. -/
theorem WellFormed.candidates_eq (hdb : db.WellFormed) (owner : Subject) (kind : Option CardKind)
    (now : Instant) : db.candidates owner kind =
      ((db.cards.filter (·.owner == owner)).map (·.id)).filter
        (db.fits owner ((cardSchema now).compile (newCondition kind)).predicate) := by
  rw [List.filter_map, List.filter_filter, candidates]
  refine congrArg (List.map _) (List.filter_congr fun row hrow ↦ ?_)
  cases howner : row.owner == owner with
  | false => simp
  | true =>
    have hfound := hdb.owned?_eq_some_iff.2 ⟨hrow, rfl, eq_of_beq howner⟩
    rw [Function.comp_apply, fits, hfound, Option.any_some, holds_newCondition]
    simp [Database.row]

/-! ### Cards without records -/

/-- No record is loaded for a user's card just if there is no row of one. -/
theorem load_eq_ok_none_iff (howned : (db.owned? owner id).isSome = true) :
    db.load owner id = .ok none ↔ db.quiz? id = none := by
  rw [load_of_owned howned]
  cases hquiz : db.quiz? id with
  | none => simp
  | some quiz => simp [map_eq_ok_iff]

/-- The condition for new cards fits a user's card of the kind for which no record is loaded. -/
theorem fits_newCondition_iff {card : Card} (hcard : db.get owner id = .ok (some card))
    (now : Instant) :
    db.fits owner ((cardSchema now).compile (newCondition kind)).predicate id = true ↔
      (∀ k ∈ kind, card.kind = k) ∧ db.load owner id = .ok none := by
  obtain ⟨row, hrow⟩ := Option.isSome_iff_exists.1 (isSome_owned?_of_get hcard)
  obtain ⟨-, hid, -⟩ := mem_of_owned? hrow
  rw [load_eq_ok_none_iff (by rw [hrow]; rfl), fits, hrow, Option.any_some, holds_newCondition]
  rw [get, hrow] at hcard
  cases hkind : CardKind.ofWord? row.kind with
  | none => simp [hkind] at hcard
  | some read =>
    obtain rfl : _ = card := by simpa [hkind] using hcard
    have hword : ∀ k : CardKind, row.kind = k.word ↔ read = k := fun k ↦ by
      rw [CardKind.eq_word_of_ofWord? hkind]
      exact ⟨CardKind.word_injective, congrArg CardKind.word⟩
    cases kind <;> simp [Database.row, hid, hword]

/-! ### Picking -/

/-- Any of the cards to pick from can be picked, and nothing else; nothing is picked if there are
none. -/
theorem exists_pick_iff {result : Except Failure (Option Card)} :
    (∃ choice, db.pick owner kind choice = result) ↔
      db.candidates owner kind = [] ∧ result = .ok none ∨
        ∃ id ∈ db.candidates owner kind, db.get owner id = result := by
  simp only [pick]
  generalize db.candidates owner kind = ids
  constructor
  · rintro ⟨choice, rfl⟩
    cases hid : ids[choice % ids.length]? with
    | some id => exact .inr ⟨id, List.mem_of_getElem? hid, rfl⟩
    | none =>
      refine .inl ⟨?_, rfl⟩
      rw [List.getElem?_eq_none_iff] at hid
      by_contra hne
      exact absurd (Nat.mod_lt choice (List.length_pos_iff.2 hne)) (by omega)
  · rintro (⟨rfl, rfl⟩ | ⟨id, hid, rfl⟩)
    · exact ⟨0, rfl⟩
    · obtain ⟨i, hi, rfl⟩ := List.getElem_of_mem hid
      exact ⟨i, by rw [Nat.mod_eq_of_lt hi, List.getElem?_eq_getElem hi]⟩

/-- A card that is picked has no review record. -/
theorem quiz?_of_pick {choice : Nat} {card : Card}
    (h : db.pick owner kind choice = .ok (some card)) :
    db.quiz? card.id = none := by
  rcases exists_pick_iff.1 ⟨choice, h⟩ with ⟨-, h⟩ | ⟨id, hid, hget⟩
  · cases h
  · obtain ⟨row, hrow, rfl⟩ := List.mem_map.1 hid
    have hfits := (List.mem_filter.1 hrow).2
    rw [id_of_get hget]
    simpa using (Bool.and_eq_true_iff.1 hfits).2

/-! ### Review records stay -/

theorem isSome_quiz?_apply (op : Operation) (h : (db.quiz? id).isSome = true) :
    ((op.apply db).quiz? id).isSome = true := by
  rcases op.apply_cases db with ⟨owner, card, -, happly⟩ | ⟨-, happly | ⟨-, r, -, happly⟩⟩
  · rwa [happly, quiz?, quizzes_insert]
  · rwa [happly]
  · rw [happly, quiz?_putQuiz]
    split
    · rfl
    · exact h

/-- A card that has a review record keeps one. -/
theorem isSome_quiz?_after (ops : List Operation) (h : (db.quiz? id).isSome = true) :
    ((db.after ops).quiz? id).isSome = true := by
  induction ops generalizing db with
  | nil => exact h
  | cons op ops ih => exact ih (isSome_quiz?_apply op h)

/-- A card that was marked has a review record. -/
theorem isSome_quiz?_of_mark {scheduler : Scheduler} {session : Session} {outcome : Outcome}
    {now : Instant} {r : Record} {saved : Database}
    (h : scheduler.mark store db session id outcome now = (.ok r, saved)) :
    (saved.quiz? id).isSome = true := by
  obtain ⟨user, rfl, hsave⟩ := exists_save_of_mark h
  have hcard : r.card = id := card_of_store_mark h
  have hput : saved = db.putQuiz (QuizRow.write r) := (eq_putQuiz_of_save hsave).2
  rw [hput, quiz?_putQuiz, QuizRow.write, if_pos hcard]
  rfl

end Database

open Database in
/-- After any history, the query for new cards, under a limit that leaves no card out, finds the
user's cards of the kind for which no record is loaded. These and no others can be picked, and
nothing is picked just if there are none. A card that is marked then, with whatever outcome, is
never picked afterwards, for any user or kind. -/
theorem picks_unreviewed (ops : List Operation) (owner : Subject) (kind : Option CardKind)
    (now : Instant) (limit : UInt64)
    (hlimit : (Database.empty.after ops).count owner ≤ limit.toNat) :
    let db := Database.empty.after ops
    ∃ cards, db.searchCards (some owner) (newQuery kind) now limit.toNat = .ok cards ∧
      (∀ card, card ∈ cards ↔ db.get owner card.id = .ok (some card) ∧
        (∀ k ∈ kind, card.kind = k) ∧ db.load owner card.id = .ok none) ∧
      (∀ result, (∃ choice, db.pick owner kind choice = result) ↔
        cards = [] ∧ result = .ok none ∨ ∃ card ∈ cards, result = .ok (some card)) ∧
      ∀ (scheduler : Scheduler) session id outcome time r saved,
        scheduler.mark Database.store db session id outcome time = (.ok r, saved) →
          ∀ later user kind choice card,
            (saved.after later).pick user kind choice = .ok (some card) → card.id ≠ id := by
  intro db
  have hdb : db.WellFormed := Database.WellFormed.empty.after ops
  obtain ⟨all, hall⟩ := hdb.exists_cards owner
  let p := ((cardSchema now).compile (newCondition kind)).predicate
  have hids : (all.filter fun card ↦ db.fits owner p card.id).map (·.id) =
      db.candidates owner kind := by
    rw [hdb.candidates_eq owner kind now, ← map_id_eq hall, List.filter_map]
    rfl
  have hget : ∀ card ∈ all.filter fun card ↦ db.fits owner p card.id,
      db.get owner card.id = .ok (some card) := fun card hcard ↦
    get_of_mem hall (List.mem_filter.1 hcard).1
  have hsearch := (hdb.answers hall (parse_newQuery kind) now hlimit).eq_ok (parse_newQuery kind)
    (searchable_newCondition now owner kind limit.toNat)
  rw [matching_of_parse (parse_newQuery kind)] at hsearch
  refine ⟨_, hsearch, fun card ↦ ?_, fun result ↦ ?_, ?_⟩
  · constructor
    · intro hcard
      exact ⟨hget card hcard,
        (fits_newCondition_iff (hget card hcard) now).1 (List.mem_filter.1 hcard).2⟩
    · rintro ⟨hcard, hnew⟩
      exact List.mem_filter.2 ⟨hdb.mem_of_get hall hcard, (fits_newCondition_iff hcard now).2 hnew⟩
  · rw [exists_pick_iff, ← hids, List.map_eq_nil_iff]
    refine or_congr_right ⟨?_, ?_⟩
    · rintro ⟨id, hid, rfl⟩
      obtain ⟨card, hcard, rfl⟩ := List.mem_map.1 hid
      exact ⟨card, hcard, hget card hcard⟩
    · rintro ⟨card, hcard, rfl⟩
      exact ⟨card.id, List.mem_map_of_mem hcard, hget card hcard⟩
  · intro scheduler session id outcome time r saved hmark later user kind choice card hpick hid
    have hsome := isSome_quiz?_after later (isSome_quiz?_of_mark hmark)
    rw [← hid, quiz?_of_pick hpick] at hsome
    cases hsome

/-- A card of a kind is found and picked until its first review, also if it is to be asked again. -/
theorem picks_unreviewed_until_asked :
    let alice : Subject := ⟨"alice"⟩
    let id := CardId.ofCard alice .hanzi "学"
    let now : Instant := ⟨1717200000, 0, by decide, by decide, by decide, by decide⟩
    let db := Database.empty.after [.add alice ⟨.hanzi, "学", some "study", []⟩]
    (∃ cards, db.searchCards (some alice) "is:new type:hanzi" now 10 = .ok cards ∧
      ∃ card ∈ cards, card.id = id ∧
        ∃ choice, db.pick alice (some .hanzi) choice = .ok (some card)) ∧
    ∃ r saved, Scheduler.standard.mark Database.store db (some alice) id .again now =
        (.ok r, saved) ∧
      ∀ choice card, saved.pick alice none choice = .ok (some card) → card.id ≠ id := by
  intro alice id now db
  have hdb : db = ⟨[⟨id, alice, "hanzi", "学", some "study"⟩], [], []⟩ :=
    Database.after_add alice .hanzi "学" (some "study")
  have howned : (db.owned? alice id).isSome = true :=
    Option.isSome_of_eq_some (Database.owned?_after_add alice .hanzi "学" (some "study"))
  have hload : db.load alice id = .ok none := by
    rw [Database.load_of_owned howned, hdb]
    rfl
  have hget : db.get alice id = .ok (some ⟨id, .hanzi, "学", some "study", []⟩) :=
    Database.get_after_add alice .hanzi "学" (some "study")
  have hcount : db.count alice ≤ (10 : UInt64).toNat := by simp [hdb, Database.count]
  obtain ⟨cards, hcards, hmem, hpick, hmarked⟩ :=
    picks_unreviewed _ alice (some .hanzi) now 10 hcount
  have hfound := (hmem ⟨id, .hanzi, "学", some "study", []⟩).2 ⟨hget, by simp, hload⟩
  refine ⟨⟨cards, hcards, _, hfound, rfl, (hpick _).2 (.inr ⟨_, hfound, rfl⟩)⟩, ?_⟩
  obtain ⟨r, hreview⟩ : ∃ r, Scheduler.standard.review none id .again now = .ok r :=
    Scheduler.exists_review_of_lt none id .again (by decide) (by decide) (by decide)
  have hcard : r.card = id := Scheduler.card_of_review (by simp) hreview
  have hsave : db.save alice r = (.ok (), db.putQuiz (Database.QuizRow.write r)) :=
    Database.save_of_owned (by rwa [hcard])
  have hmark : Scheduler.standard.mark Database.store db (some alice) id .again now =
      (.ok r, db.putQuiz (Database.QuizRow.write r)) :=
    Scheduler.mark_eq_ok_iff.2 ⟨alice, rfl, none, hload, hreview, hsave⟩
  exact ⟨r, _, hmark, hmarked _ _ _ _ _ _ _ hmark [] alice none⟩

end SpacedReview.Store

import SpacedReview.Proofs.Store.Additions

/-!
# Additions that fail

A card that is added is looked up again after the tables have changed, and this is where an addition
can fail: there is a row with the identifier of the card already, and either its kind cannot be read
or the card is another user's. The tables stay as they are then, with the English and the tags that
came with the card. So a failed addition leaves no trace only if it brought nothing, that is, no
other English and no other tags than are there (`Database.BringsNothing`).

Whatever it leaves, it leaves under this one identifier. No card is added, no review record changes,
and everything under other identifiers is as before.

The tables may hold anything here.

## Main statements

* `Database.add_eq_error_iff`: when an addition fails, and how.
* `Database.insert_eq_self_iff`: when an insertion changes nothing.
* `Database.eq_of_failed_addition_iff`: what a failed addition leaves.
-/

namespace SpacedReview.Store.Database

open SpacedReview.Review

variable {db next : Database} {owner user : Subject} {card : NewCard} {id : CardId} {f : Failure}

/-! ### Insertions of cards that are there -/

/-- A row takes on the English of a card that is added under its identifier. -/
def NewCard.revise (owner : Subject) (card : NewCard) (row : CardRow) : CardRow :=
  if row.id = givenId (owner, card) then { row with english := card.english.or row.english }
  else row

@[simp] theorem NewCard.revise_id (owner : Subject) (card : NewCard) (row : CardRow) :
    (card.revise owner row).id = row.id := by
  unfold revise
  split <;> rfl

@[simp] theorem NewCard.revise_owner (owner : Subject) (card : NewCard) (row : CardRow) :
    (card.revise owner row).owner = row.owner := by
  unfold revise
  split <;> rfl

@[simp] theorem NewCard.revise_kind (owner : Subject) (card : NewCard) (row : CardRow) :
    (card.revise owner row).kind = row.kind := by
  unfold revise
  split <;> rfl

theorem NewCard.revise_of_ne {row : CardRow} (h : row.id ≠ givenId (owner, card)) :
    card.revise owner row = row := if_neg h

/-- A card that is there keeps its row. -/
theorem cards_insert_of_mem (h : givenId (owner, card) ∈ db.cards.map (·.id)) :
    (db.insert owner card).cards = db.cards.map (card.revise owner) := by
  rw [cards_insert, cards_putCard, upsert, if_pos (any_key_iff.2 h)]
  rfl

theorem owned?_insert_of_mem (h : givenId (owner, card) ∈ db.cards.map (·.id)) (user : Subject)
    (id : CardId) :
    (db.insert owner card).owned? user id = (db.owned? user id).map (card.revise owner) := by
  rw [owned?, cards_insert_of_mem h, List.find?_map, owned?]
  simp only [Function.comp_def, NewCard.revise_id, NewCard.revise_owner]

/-- A card that is not there becomes the user's. -/
theorem owned?_insert_of_notMem (h : givenId (owner, card) ∉ db.cards.map (·.id)) :
    (db.insert owner card).owned? owner (givenId (owner, card)) = some (card.row owner) := by
  have hnone : db.cards.find?
      (fun row ↦ row.id == givenId (owner, card) && row.owner == owner) = none := by
    rw [List.find?_eq_none]
    intro row hrow hid
    rw [Bool.and_eq_true, beq_iff_eq] at hid
    exact h (List.mem_map.2 ⟨row, hrow, hid.1⟩)
  rw [owned?, cards_insert, cards_putCard, upsert, if_neg (by rwa [any_key_iff]), List.find?_append,
    hnone]
  simp [NewCard.row, givenId]

/-! ### Failures -/

/-- An addition fails if there is a row with the identifier of the card, and it is another user's or
its kind cannot be read. -/
theorem add_eq_error_iff : db.add owner card = (.error f, next) ↔
    next = db.insert owner card ∧ givenId (owner, card) ∈ db.cards.map (·.id) ∧
      ((db.owned? owner (givenId (owner, card)) = none ∧
          f = .vanished (givenId (owner, card)).hex) ∨
        ∃ row, db.owned? owner (givenId (owner, card)) = some row ∧
          CardKind.ofWord? row.kind = none ∧ f = .database) := by
  have hid : CardId.ofCard owner card.kind card.item = givenId (owner, card) := rfl
  simp only [add_eq, hid, get]
  by_cases hmem : givenId (owner, card) ∈ db.cards.map (·.id)
  · rw [owned?_insert_of_mem hmem]
    cases hrow : db.owned? owner (givenId (owner, card)) with
    | none => simp [hmem, eq_comm, and_comm]
    | some row =>
      cases hkind : CardKind.ofWord? row.kind <;> simp [hmem, hkind, eq_comm, and_comm]
  · rw [owned?_insert_of_notMem hmem]
    have hkind : CardKind.ofWord? (card.row owner).kind = some card.kind := CardKind.ofWord?_word _
    simp [hmem, hkind]

/-! ### What an insertion leaves -/

/-- A card that brings no English and no tags but those that are kept under its identifier. -/
structure BringsNothing (db : Database) (owner : Subject) (card : NewCard) : Prop where
  english : ∀ row ∈ db.cards, row.id = givenId (owner, card) →
    card.english.or row.english = row.english
  tags : ∀ tag ∈ card.tags, (⟨givenId (owner, card), tag⟩ : TagRow) ∈ db.tags

theorem foldl_putTag_eq_self {tags : List String}
    (h : ∀ tag ∈ tags, (⟨id, tag⟩ : TagRow) ∈ db.tags) :
    tags.foldl (fun db tag ↦ db.putTag ⟨id, tag⟩) db = db := by
  induction tags with
  | nil => rfl
  | cons tag tags ih =>
    rw [List.foldl_cons, putTag, if_pos (h tag List.mem_cons_self)]
    exact ih fun tag htag ↦ h tag (List.mem_cons_of_mem _ htag)

/-- The rows of cards are the same just if none is revised. -/
theorem cards_insert_eq_self_iff (hmem : givenId (owner, card) ∈ db.cards.map (·.id)) :
    (db.insert owner card).cards = db.cards ↔ ∀ row ∈ db.cards, row.id = givenId (owner, card) →
      card.english.or row.english = row.english := by
  have hid : db.cards = db.cards.map id := (List.map_id _).symm
  rw [cards_insert_of_mem hmem]
  nth_rewrite 2 [hid]
  rw [List.map_inj_left]
  refine forall₂_congr fun row _ ↦ ?_
  by_cases hrow : row.id = givenId (owner, card)
  · rw [NewCard.revise, if_pos hrow, forall_prop_of_true hrow]
    refine ⟨congrArg CardRow.english, fun h ↦ ?_⟩
    rw [h]
    rfl
  · exact iff_of_true (NewCard.revise_of_ne hrow) fun h ↦ absurd h hrow

/-- Inserting a card that is there changes nothing just if the card brings nothing. -/
theorem insert_eq_self_iff (hmem : givenId (owner, card) ∈ db.cards.map (·.id)) :
    db.insert owner card = db ↔ db.BringsNothing owner card := by
  constructor
  · intro h
    refine ⟨(cards_insert_eq_self_iff hmem).1 (congrArg Database.cards h), fun tag htag ↦ ?_⟩
    rw [← h]
    exact mem_tags_insert.2 (.inr ⟨rfl, htag⟩)
  · rintro ⟨henglish, htags⟩
    have hcards := (cards_insert_eq_self_iff hmem).2 henglish
    rw [cards_insert] at hcards
    show card.tags.foldl _ (db.putCard (card.row owner)) = db
    rw [putCard_eq, hcards]
    exact foldl_putTag_eq_self htags

/-- Cards that are put again stay their owners'. -/
theorem count_insert_of_mem (hmem : givenId (owner, card) ∈ db.cards.map (·.id)) (user : Subject) :
    (db.insert owner card).count user = db.count user := by
  rw [count, cards_insert_of_mem hmem, List.countP_map]
  exact List.countP_congr fun row _ ↦ by simp

theorem load_insert_of_mem (hmem : givenId (owner, card) ∈ db.cards.map (·.id)) (user : Subject)
    (id : CardId) : (db.insert owner card).load user id = db.load user id := by
  refine load_congr (by rw [quiz?, quizzes_insert, quiz?]) fun _ ↦ ?_
  rw [owned?_insert_of_mem hmem, Option.isSome_map]

theorem tagsOf_putTag_of_ne {row : TagRow} (hid : id ≠ row.id) :
    (db.putTag row).tagsOf id = db.tagsOf id := by
  unfold putTag
  split
  · rfl
  · rw [tagsOf, List.filter_append, List.filter_cons_of_neg (by simpa using hid.symm),
      List.filter_nil, List.append_nil, tagsOf]

/-- The tags of other cards are as before. -/
theorem tagsOf_insert_of_ne (hid : id ≠ givenId (owner, card)) :
    (db.insert owner card).tagsOf id = db.tagsOf id := by
  have htags : ∀ (tags : List String) (db : Database), (tags.foldl
      (fun db tag ↦ db.putTag ⟨givenId (owner, card), tag⟩) db).tagsOf id = db.tagsOf id := by
    intro tags
    induction tags with
    | nil => exact fun _ ↦ rfl
    | cons tag tags ih => exact fun db ↦ (ih _).trans (tagsOf_putTag_of_ne hid)
  refine (htags card.tags (db.putCard (card.row owner))).trans ?_
  rw [putCard_eq, tagsOf, tagsOf]

theorem get_insert_of_ne (hmem : givenId (owner, card) ∈ db.cards.map (·.id)) (user : Subject)
    (hid : id ≠ givenId (owner, card)) : (db.insert owner card).get user id = db.get user id := by
  have howned : (db.insert owner card).owned? user id = db.owned? user id := by
    rw [owned?_insert_of_mem hmem]
    cases hrow : db.owned? user id with
    | none => rfl
    | some row =>
      obtain ⟨-, rfl, -⟩ := mem_of_owned? hrow
      rw [Option.map_some, NewCard.revise_of_ne hid]
  rw [get, howned, get, tagsOf_insert_of_ne hid]

/-! ### What a failed addition leaves -/

/-- An addition fails just if there is a row with the identifier of the card and the user has no
card of a known kind there. The tables are then as before just if the card brings nothing; if it
brings something, this is kept under its identifier. In any case no user has another number of
cards, another record or another card under any other identifier. -/
theorem eq_of_failed_addition_iff (db : Database) (owner : Subject) (card : NewCard) :
    ((∃ f next, db.add owner card = (.error f, next)) ↔
      givenId (owner, card) ∈ db.cards.map (·.id) ∧
        ∀ row ∈ db.owned? owner (givenId (owner, card)), CardKind.ofWord? row.kind = none) ∧
    ∀ f next, db.add owner card = (.error f, next) →
      (next = db ↔ db.BringsNothing owner card) ∧ next.quizzes = db.quizzes ∧
        ∀ user, next.count user = db.count user ∧ ∀ id, next.load user id = db.load user id ∧
          (id ≠ givenId (owner, card) → next.get user id = db.get user id) := by
  constructor
  · constructor
    · rintro ⟨f, next, h⟩
      obtain ⟨-, hmem, ⟨hnone, -⟩ | ⟨row, hrow, hkind, -⟩⟩ := add_eq_error_iff.1 h
      · exact ⟨hmem, by simp [hnone]⟩
      · exact ⟨hmem, by simp [hrow, hkind]⟩
    · rintro ⟨hmem, hkinds⟩
      cases hrow : db.owned? owner (givenId (owner, card)) with
      | none => exact ⟨_, _, add_eq_error_iff.2 ⟨rfl, hmem, .inl ⟨hrow, rfl⟩⟩⟩
      | some row =>
        exact ⟨_, _, add_eq_error_iff.2 ⟨rfl, hmem, .inr ⟨row, hrow, hkinds row hrow, rfl⟩⟩⟩
  · intro f next h
    obtain ⟨rfl, hmem, -⟩ := add_eq_error_iff.1 h
    exact ⟨insert_eq_self_iff hmem, quizzes_insert db owner card, fun user ↦
      ⟨count_insert_of_mem hmem user, fun id ↦
        ⟨load_insert_of_mem hmem user id, get_insert_of_ne hmem user⟩⟩⟩

/-- A card of a kind that is not known takes on the English and the tag of an addition that
fails. -/
theorem english_of_failed_addition :
    let alice : Subject := ⟨"alice"⟩
    let id := CardId.ofCard alice .hanzi "学"
    let db (english : String) (tags : List String) : Database :=
      ⟨[⟨id, alice, "radical", "学", some english⟩], tags.map (⟨id, ·⟩), []⟩
    (db "study" ["a"]).add alice ⟨.hanzi, "学", some "to learn", ["b"]⟩ =
        (.error .database, db "to learn" ["a", "b"]) ∧
      db "to learn" ["a", "b"] ≠ db "study" ["a"] := by
  intro alice id db
  refine ⟨add_eq_error_iff.2
    ⟨?_, ?_, .inr ⟨⟨id, alice, "radical", "学", some "study"⟩, ?_, rfl, rfl⟩⟩, ?_⟩
  · simp [db, id, insert, putCard, putTag]
  · simp [db, id, givenId]
  · simp [db, id, owned?, givenId]
  · simp [db]

/-- The same addition without English, and with the tag that is there, leaves no trace. -/
theorem eq_of_failed_addition_without_english :
    let alice : Subject := ⟨"alice"⟩
    let id := CardId.ofCard alice .hanzi "学"
    let db : Database := ⟨[⟨id, alice, "radical", "学", some "study"⟩], [⟨id, "a"⟩], []⟩
    ∃ f next, db.add alice ⟨.hanzi, "学", none, ["a"]⟩ = (.error f, next) ∧ next = db := by
  intro alice id db
  have hmem : givenId (alice, ⟨.hanzi, "学", none, ["a"]⟩) ∈ db.cards.map (·.id) :=
    List.mem_singleton.2 rfl
  have hbrings : db.BringsNothing alice ⟨.hanzi, "学", none, ["a"]⟩ := by
    refine ⟨fun _ _ _ ↦ rfl, fun tag htag ↦ ?_⟩
    obtain rfl := List.mem_singleton.1 htag
    exact List.mem_singleton.2 rfl
  have hkinds : ∀ row ∈ db.owned? alice id, CardKind.ofWord? row.kind = none := by
    intro row hrow
    obtain rfl := List.mem_singleton.1 (List.mem_of_find?_eq_some hrow)
    rfl
  obtain ⟨hfails, hleaves⟩ := eq_of_failed_addition_iff db alice ⟨.hanzi, "学", none, ["a"]⟩
  obtain ⟨f, next, hadd⟩ := hfails.2 ⟨hmem, hkinds⟩
  exact ⟨f, next, hadd, (hleaves f next hadd).1.2 hbrings⟩

end SpacedReview.Store.Database

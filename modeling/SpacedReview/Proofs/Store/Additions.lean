import SpacedReview.Proofs.Store.Parts
import SpacedReview.Proofs.Text.ByteOrder

/-!
# What additions leave in the tables

A card that is added again keeps its row, and the row takes on what is new: the English, if any is
given, and the tags. So after any history the tables of cards and of tags can be read off what was
given under each identifier (`givenAs`): the first one gives the owner, the kind and the item, the
last one that has English gives the English, and every one gives its tags. Marks and saved records
do not come into it.

This is about identifiers only. Two users may have given cards with one identifier, and then the row
is that of the first.

## Main statements

* `Operation.apply_of_given?_eq_none`: only additions change cards and tags.
* `Database.Follows.load_insert`: additions do not change records.
* `find?_cards_after`: the row with an identifier.
* `mem_tags_after`: the tags of an identifier.
* `Database.WellFormed.pairwise_tagsOf`: tags are listed in the order of their bytes.
-/

namespace SpacedReview.Store

open SpacedReview.Query SpacedReview.Review SpacedReview.Time

/-! ### What was given -/

/-- The card that an operation gives, and the user who gives it. -/
def Operation.given? : Operation → Option (Subject × Database.NewCard)
  | add owner card => some (owner, card)
  | _ => none

/-- The cards that were given, with the users who gave them, again and again. -/
def given (ops : List Operation) : List (Subject × Database.NewCard) := ops.filterMap (·.given?)

/-- The identifier of a card that was given. -/
def givenId (g : Subject × Database.NewCard) : CardId := CardId.ofCard g.1 g.2.kind g.2.item

/-- What was given under an identifier. -/
def givenAs (ops : List Operation) (id : CardId) : List (Subject × Database.NewCard) :=
  (given ops).filter (givenId · == id)

/-- The last English that was given. -/
def lastEnglish (cards : List Database.NewCard) : Option String :=
  (cards.filterMap (·.english)).getLast?

theorem given_append (ops later : List Operation) :
    given (ops ++ later) = given ops ++ given later :=
  List.filterMap_append

theorem Operation.eq_add_of_given? {op : Operation} {owner : Subject} {card : Database.NewCard}
    (h : op.given? = some (owner, card)) : op = .add owner card := by
  cases op with
  | add owner' card' =>
    obtain ⟨rfl, rfl⟩ := Prod.mk.inj (Option.some.inj h)
    rfl
  | _ => cases h

/-- Histories grow by cards that are given, and by operations that give none. -/
@[elab_as_elim]
theorem given_induction {motive : List Operation → Prop} (nil : motive [])
    (other : ∀ ops op, Operation.given? op = none → motive ops → motive (ops ++ [op]))
    (add : ∀ ops owner card, motive ops → motive (ops ++ [.add owner card]))
    (ops : List Operation) : motive ops := by
  induction ops using List.reverseRecOn with
  | nil => exact nil
  | append_singleton ops op ih =>
    cases hop : op.given? with
    | none => exact other ops op hop ih
    | some g =>
      obtain rfl := Operation.eq_add_of_given? hop
      exact add ops g.1 g.2 ih

theorem Operation.addition?_eq (op : Operation) :
    op.addition? = op.given?.map fun g ↦ (givenId g, g.1) := by
  cases op <;> rfl

theorem additions_eq (ops : List Operation) :
    additions ops = (given ops).map fun g ↦ (givenId g, g.1) := by
  rw [additions, given, List.map_filterMap]
  exact List.filterMap_congr fun op _ ↦ op.addition?_eq

theorem lastEnglish_concat (cards : List Database.NewCard) (card : Database.NewCard) :
    lastEnglish (cards ++ [card]) = card.english.or (lastEnglish cards) := by
  rw [lastEnglish, List.filterMap_append]
  cases h : card.english <;> simp [lastEnglish, h]

theorem given_append_add (ops : List Operation) (owner : Subject) (card : Database.NewCard) :
    given (ops ++ [.add owner card]) = given ops ++ [(owner, card)] :=
  given_append ops [.add owner card]

theorem given_append_of_none {op : Operation} (h : op.given? = none) (ops : List Operation) :
    given (ops ++ [op]) = given ops := by
  simp [given, h]

theorem givenAs_append_add (ops : List Operation) (owner : Subject) (card : Database.NewCard)
    (id : CardId) : givenAs (ops ++ [.add owner card]) id =
      givenAs ops id ++ if givenId (owner, card) = id then [(owner, card)] else [] := by
  rw [givenAs, given_append_add, List.filter_append]
  by_cases h : givenId (owner, card) = id <;> simp [givenAs, h]

theorem givenAs_append_of_none {op : Operation} (h : op.given? = none) (ops : List Operation)
    (id : CardId) : givenAs (ops ++ [op]) id = givenAs ops id := by
  rw [givenAs, givenAs, given_append_of_none h]

/-! ### What operations change -/

namespace Database

variable {db : Database}

/-- Putting a card again changes its English if there is any. -/
theorem find?_cards_putCard (db : Database) (row : CardRow) (id : CardId) :
    (db.putCard row).cards.find? (·.id == id) = if row.id = id then
        some ((db.cards.find? (·.id == id)).elim row
          fun old ↦ { old with english := row.english.or old.english })
      else db.cards.find? (·.id == id) := by
  rw [cards_putCard]
  exact find?_upsert (by intros; rfl) id

theorem mem_foldl_putTag {tags : List String} {id : CardId} {row : TagRow} :
    row ∈ (tags.foldl (fun db tag ↦ db.putTag ⟨id, tag⟩) db).tags ↔
      row ∈ db.tags ∨ row.id = id ∧ row.tag ∈ tags := by
  induction tags generalizing db with
  | nil => simp
  | cons tag tags ih =>
    have hput : row ∈ (db.putTag ⟨id, tag⟩).tags ↔ row ∈ db.tags ∨ row = ⟨id, tag⟩ := by
      unfold putTag
      split
      · rename_i hmem
        exact ⟨.inl, fun h ↦ h.elim (fun h ↦ h) fun heq ↦ heq ▸ hmem⟩
      · simp
    obtain ⟨rowId, rowTag⟩ := row
    rw [List.foldl_cons, ih, hput, TagRow.mk.injEq, List.mem_cons, and_or_left, or_assoc]

theorem mem_tags_insert {owner : Subject} {card : NewCard} {row : TagRow} :
    row ∈ (db.insert owner card).tags ↔
      row ∈ db.tags ∨ row.id = givenId (owner, card) ∧ row.tag ∈ card.tags := by
  have hput : (db.putCard (card.row owner)).tags = db.tags := by rw [putCard_eq]
  rw [← hput]
  exact mem_foldl_putTag

end Database

/-- Only additions change cards and tags. -/
theorem Operation.apply_of_given?_eq_none {op : Operation} (h : op.given? = none) (db : Database) :
    (op.apply db).cards = db.cards ∧ (op.apply db).tags = db.tags := by
  rcases op.apply_cases db with ⟨owner, card, rfl, -⟩ | ⟨-, happly | ⟨-, r, -, happly⟩⟩
  · cases h
  · rw [happly]
    exact ⟨rfl, rfl⟩
  · rw [happly, Database.putQuiz_eq]
    exact ⟨rfl, rfl⟩

namespace Database

variable {db : Database} {owns : Subject → CardId → Prop}

/-- The record that is loaded depends on the row and on whether the card is the user's. -/
theorem load_congr {db' : Database} {owner : Subject} {id : CardId}
    (hquiz : db'.quiz? id = db.quiz? id)
    (howned : db.quiz? id ≠ none → (db'.owned? owner id).isSome = (db.owned? owner id).isSome) :
    db'.load owner id = db.load owner id := by
  unfold load
  rw [hquiz]
  cases hrow : db.quiz? id with
  | none => rfl
  | some row =>
    have howned := howned (by simp [hrow])
    cases hcard : db.owned? owner id <;> cases hcard' : db'.owned? owner id <;>
      simp [hcard, hcard'] at howned ⊢

/-- Cards that are added do not change what is loaded. -/
theorem Follows.load_insert (hdb : db.Follows owns) (owner : Subject) (card : NewCard)
    (user : Subject) (id : CardId) : (db.insert owner card).load user id = db.load user id := by
  refine load_congr (by rw [quiz?, quizzes_insert, quiz?]) fun hrow ↦ ?_
  obtain ⟨row, hrow⟩ := Option.ne_none_iff_exists'.1 hrow
  have hid : row.id = id := by simpa using List.find?_some hrow
  have hmem := hdb.quizzes row (List.mem_of_find?_eq_some hrow)
  rw [owned?, cards_insert]
  exact isSome_owned?_putCard (hid ▸ hmem)

/-- In every history tags and records are kept for cards that are there. -/
theorem Follows.after (hdb : db.Follows fun _ _ ↦ True) (ops : List Operation) :
    (db.after ops).Follows fun _ _ ↦ True := by
  induction ops generalizing db with
  | nil => exact hdb
  | cons op ops ih => exact ih (hdb.apply fun _ _ _ ↦ trivial)

end Database

/-! ### Cards and tags in the tables -/

/-- The row of the cards that were given under one identifier: it is the first user's, and has the
last English. -/
def mergedRow? (id : CardId) (gs : List (Subject × Database.NewCard)) : Option CardRow :=
  gs.head?.map fun g ↦ ⟨id, g.1, g.2.kind.word, g.2.item, lastEnglish (gs.map Prod.snd)⟩

/-- One more card changes the English of the row, or is the row. -/
theorem mergedRow?_concat (gs : List (Subject × Database.NewCard)) (owner : Subject)
    (card : Database.NewCard) (id : CardId) (hid : givenId (owner, card) = id) :
    mergedRow? id (gs ++ [(owner, card)]) = some ((mergedRow? id gs).elim (card.row owner)
      fun old ↦ { old with english := card.english.or old.english }) := by
  subst hid
  cases gs with
  | nil => simp [mergedRow?, lastEnglish, Database.NewCard.row, givenId]
  | cons g gs =>
    simpa [mergedRow?] using lastEnglish_concat ((g :: gs).map Prod.snd) card

/-- The row of the table of cards with an identifier. -/
theorem find?_cards_after (ops : List Operation) (id : CardId) :
    (Database.empty.after ops).cards.find? (·.id == id) = mergedRow? id (givenAs ops id) := by
  induction ops using given_induction with
  | nil => rfl
  | other ops op hop ih =>
    rw [Database.after_append_singleton, (Operation.apply_of_given?_eq_none hop _).1, ih,
      givenAs_append_of_none hop]
  | add ops owner card ih =>
    have hrow : (card.row owner).id = givenId (owner, card) := rfl
    rw [Database.after_append_singleton, Operation.apply_add, Database.cards_insert,
      Database.find?_cards_putCard, hrow, ih, givenAs_append_add]
    by_cases hid : givenId (owner, card) = id
    · rw [if_pos hid, if_pos hid, mergedRow?_concat _ _ _ _ hid]
      rfl
    · rw [if_neg hid, if_neg hid, List.append_nil]

/-- The tags of a card are those that were given under its identifier. -/
theorem mem_tags_after {ops : List Operation} {row : TagRow} :
    row ∈ (Database.empty.after ops).tags ↔ ∃ g ∈ givenAs ops row.id, row.tag ∈ g.2.tags := by
  induction ops using given_induction with
  | nil => simp [Database.after, Database.empty, givenAs, given]
  | other ops op hop ih =>
    rw [Database.after_append_singleton, (Operation.apply_of_given?_eq_none hop _).2, ih,
      givenAs_append_of_none hop]
  | add ops owner card ih =>
    rw [Database.after_append_singleton, Operation.apply_add, Database.mem_tags_insert, ih,
      givenAs_append_add]
    by_cases hid : givenId (owner, card) = row.id
    · simp [hid, or_and_right, exists_or]
    · simp [hid, Ne.symm hid]

namespace Database

theorem mem_tagsOf {db : Database} {id : CardId} {tag : String} :
    tag ∈ db.tagsOf id ↔ ⟨id, tag⟩ ∈ db.tags := by
  simp only [tagsOf, List.mem_mergeSort, List.mem_map, List.mem_filter, beq_iff_eq]
  constructor
  · rintro ⟨⟨_, _⟩, ⟨hrow, rfl⟩, rfl⟩
    exact hrow
  · intro hrow
    exact ⟨⟨id, tag⟩, ⟨hrow, rfl⟩, rfl⟩

/-- The tags of a card are in the order of their bytes, and each is there once. -/
theorem WellFormed.pairwise_tagsOf {db : Database} (hdb : db.WellFormed) (id : CardId) :
    (db.tagsOf id).Pairwise fun s t ↦ CardId.utf8 s < CardId.utf8 t := by
  have hnodup : (db.tagsOf id).Nodup := by
    rw [tagsOf, (List.mergeSort_perm _ _).nodup_iff]
    refine List.Nodup.map_on ?_ (hdb.nodup_tags.filter _)
    intro row hrow row' hrow' htag
    have hid : row.id = id := by simpa using (List.mem_filter.1 hrow).2
    have hid' : row'.id = id := by simpa using (List.mem_filter.1 hrow').2
    cases row
    cases row'
    simp_all
  have hsorted : (db.tagsOf id).Pairwise (· ≤ ·) := by
    have hsorted : (db.tagsOf id).Pairwise fun s t ↦ decide (s ≤ t) = true :=
      List.pairwise_mergeSort
        (fun s t u hst htu ↦ by
          simpa using le_trans (of_decide_eq_true hst) (of_decide_eq_true htu))
        (fun s t ↦ by simpa using le_total s t) _
    exact hsorted.imp of_decide_eq_true
  refine (hsorted.and hnodup).imp fun h ↦ ?_
  exact CardId.utf8_lt_utf8_iff.2 (lt_of_le_of_ne h.1 h.2)

end Database

end SpacedReview.Store

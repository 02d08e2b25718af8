import SpacedReview.Proofs.Store.Records
import SpacedReview.Proofs.Store.Search

/-!
# The part of a user in the database

The three tables are shared by all users, and only the table of cards says who owns what. The part
of a user are the user's cards with their tags and review records (`Database.partOf`). Whatever a
user asks is answered from this part: the answer is the same if the database holds nothing else.

What the users do to the tables respects the parts as long as no two of them can own one card, and
tags and records are only kept for cards that are there (`Database.Follows`). An addition to a table
then either is the same addition to a user's part, or leaves the part as it was.

## Main statements

* `Database.search_partOf` and others: answers come from the user's part.
* `Database.partOf_insert`, `Database.partOf_putQuiz`: what changes do to the parts.
* `Database.Follows.apply`: operations keep to the owners.
-/

namespace SpacedReview.Store

open SpacedReview.Query SpacedReview.Review SpacedReview.Sql SpacedReview.Time

namespace Database

/-! ### Parts -/

/-- The rows that are a user's: the user's cards with their tags and review records. -/
def partOf (db : Database) (owner : Subject) : Database where
  cards := db.cards.filter (·.owner == owner)
  tags := db.tags.filter fun tag ↦ (db.owned? owner tag.id).isSome
  quizzes := db.quizzes.filter fun quiz ↦ (db.owned? owner quiz.id).isSome

variable (db : Database) {owner user : Subject} {id : CardId}

theorem isSome_owned?_iff : (db.owned? owner id).isSome = true ↔
    (id, owner) ∈ db.cards.map fun card ↦ (card.id, card.owner) := by
  simp [owned?, List.find?_isSome]

/-- A user finds the same cards in the user's part. -/
@[simp] theorem owned?_partOf (owner : Subject) (id : CardId) :
    (db.partOf owner).owned? owner id = db.owned? owner id := by
  show List.find? _ (List.filter _ _) = List.find? _ _
  rw [List.find?_filter]
  congr 1
  funext card
  cases card.owner == owner <;> simp [Bool.beq_eq_decide_eq]

theorem tagsOf_partOf (h : (db.owned? owner id).isSome = true) :
    (db.partOf owner).tagsOf id = db.tagsOf id := by
  have htags : (db.partOf owner).tags.filter (·.id == id) = db.tags.filter (·.id == id) := by
    show List.filter _ (List.filter _ _) = _
    rw [List.filter_filter]
    refine List.filter_congr fun tag _ ↦ ?_
    by_cases hid : tag.id = id
    · simp [hid, h]
    · simp [hid]
  rw [tagsOf, tagsOf, htags]

/-- The records beside a user's card are all in the user's part. -/
theorem filter_quizzes_partOf (h : (db.owned? owner id).isSome = true) :
    (db.partOf owner).quizzes.filter (·.id == id) = db.quizzes.filter (·.id == id) := by
  show List.filter _ (List.filter _ _) = _
  rw [List.filter_filter]
  refine List.filter_congr fun quiz _ ↦ ?_
  by_cases hid : quiz.id = id
  · simp [hid, h]
  · simp [hid]

theorem quiz?_partOf (h : (db.owned? owner id).isSome = true) :
    (db.partOf owner).quiz? id = db.quiz? id := by
  rw [quiz?, quiz?, ← List.head?_filter, ← List.head?_filter, filter_quizzes_partOf db h]

/-! ### Answers -/

theorem get_partOf (owner : Subject) (id : CardId) :
    (db.partOf owner).get owner id = db.get owner id := by
  cases hcard : db.owned? owner id with
  | none => simp only [get, owned?_partOf, hcard]
  | some card =>
    have howned : (db.owned? owner id).isSome = true := by simp [hcard]
    simp only [get, owned?_partOf, hcard, db.tagsOf_partOf howned]

theorem filter_cards_partOf (owner : Subject) :
    (db.partOf owner).cards.filter (·.owner == owner) = db.cards.filter (·.owner == owner) := by
  show List.filter _ (List.filter _ _) = _
  simp

theorem count_partOf (owner : Subject) : (db.partOf owner).count owner = db.count owner := by
  rw [count, count, List.countP_eq_length_filter, filter_cards_partOf,
    List.countP_eq_length_filter]

/-- A card of a user is found among those of the user. -/
theorem isSome_owned?_of_mem {card : CardRow} (h : card ∈ db.cards.filter (·.owner == owner)) :
    (db.owned? owner card.id).isSome = true := by
  obtain ⟨hmem, howner⟩ := List.mem_filter.1 h
  rw [isSome_owned?_iff]
  exact List.mem_map.2 ⟨card, hmem, by rw [eq_of_beq howner]⟩

theorem candidates_partOf (owner : Subject) (kind : Option CardKind) :
    (db.partOf owner).candidates owner kind = db.candidates owner kind := by
  have hfits : (db.partOf owner).cards.filter (fun row ↦ row.owner == owner &&
        kind.all (fun k ↦ row.kind == k.word) && ((db.partOf owner).quiz? row.id).isNone) =
      db.cards.filter fun row ↦ row.owner == owner && kind.all (fun k ↦ row.kind == k.word) &&
        (db.quiz? row.id).isNone := by
    show List.filter _ (List.filter _ _) = _
    rw [List.filter_filter]
    refine List.filter_congr fun card hcard ↦ ?_
    by_cases howner : card.owner = owner
    · have howned : (db.owned? owner card.id).isSome = true :=
        db.isSome_owned?_of_mem (List.mem_filter.2 ⟨hcard, beq_iff_eq.2 howner⟩)
      rw [db.quiz?_partOf howned, beq_iff_eq.2 howner, Bool.and_true]
    · have hother : (card.owner == owner) = false := beq_eq_false_iff_ne.2 howner
      simp [hother]
  rw [candidates, candidates, hfits]

theorem pick_partOf (owner : Subject) (kind : Option CardKind) (choice : Nat) :
    (db.partOf owner).pick owner kind choice = db.pick owner kind choice := by
  simp only [pick, candidates_partOf, get_partOf]

theorem rows_partOf (owner : Subject) : (db.partOf owner).rows owner = db.rows owner := by
  have hrowsOf : ∀ card ∈ db.cards.filter (·.owner == owner),
      (db.partOf owner).rowsOf card = db.rowsOf card := by
    intro card hcard
    have howned := db.isSome_owned?_of_mem hcard
    rw [rowsOf, rowsOf, db.filter_quizzes_partOf howned, db.tagsOf_partOf howned]
  rw [rows, rows, filter_cards_partOf, List.flatMap_congr hrowsOf]

theorem search_partOf (owner : Subject) (p : Predicate Filter) (limit : Nat) :
    (db.partOf owner).search owner p limit = db.search owner p limit := by
  rw [search, search, rows_partOf]

theorem getAll_partOf (owner : Subject) (ids : List CardId) :
    (db.partOf owner).getAll owner ids = db.getAll owner ids := by
  induction ids with
  | nil => rfl
  | cons id ids ih => simp only [getAll, get_partOf, ih]

theorem searchCards_partOf (owner : Subject) (query : String) (now : Instant) (limit : Nat) :
    (db.partOf owner).searchCards (some owner) query now limit =
      db.searchCards (some owner) query now limit := by
  simp only [searchCards, searchCondition, Session.subject, bind, Except.bind, search_partOf,
    getAll_partOf]

theorem load_partOf (owner : Subject) (id : CardId) :
    (db.partOf owner).load owner id = db.load owner id := by
  cases hcard : db.owned? owner id with
  | none => simp [load, hcard]
  | some card =>
    have howned : (db.owned? owner id).isSome = true := by simp [hcard]
    simp only [load, owned?_partOf, hcard, db.quiz?_partOf howned]

/-! ### Changes -/

/-- A rule by which no card has two owners. -/
def OneOwner (owns : Subject → CardId → Prop) : Prop :=
  ∀ o o' id, owns o id → owns o' id → o = o'

/-- Cards belong to those whom a rule gives them to, and tags and records are kept for cards that
are there. -/
structure Follows (db : Database) (owns : Subject → CardId → Prop) : Prop where
  cards : ∀ card ∈ db.cards, owns card.owner card.id
  tags : ∀ tag ∈ db.tags, tag.id ∈ db.cards.map (·.id)
  quizzes : ∀ quiz ∈ db.quizzes, quiz.id ∈ db.cards.map (·.id)

variable {db} {owns : Subject → CardId → Prop}

theorem Follows.empty : Follows .empty owns := by
  constructor <;> simp [Database.empty]

/-- A card that is put changes who owns a card only if the card was not there. -/
theorem isSome_owned?_putCard {row : CardRow} (hid : id ∈ db.cards.map (·.id)) :
    ((db.putCard row).owned? owner id).isSome = (db.owned? owner id).isSome := by
  rw [Bool.eq_iff_iff, isSome_owned?_iff, isSome_owned?_iff, putCard_keys, List.mem_append,
    or_iff_left]
  split
  · exact List.not_mem_nil
  · rename_i hnew
    intro hkey
    rw [(Prod.mk.inj (List.mem_singleton.1 hkey)).1] at hid
    exact hnew hid

/-- A card that is put brings no tag or record of a card that is there into a part. -/
theorem partOf_putCard_eq (hdb : db.Follows owns) (row : CardRow) (owner : Subject) :
    (db.putCard row).partOf owner = ⟨(db.putCard row).cards.filter (·.owner == owner),
      (db.partOf owner).tags, (db.partOf owner).quizzes⟩ := by
  have htags : (db.putCard row).tags.filter
      (fun tag ↦ ((db.putCard row).owned? owner tag.id).isSome) = (db.partOf owner).tags := by
    rw [putCard_eq]
    exact List.filter_congr fun tag htag ↦ isSome_owned?_putCard (hdb.tags tag htag)
  have hquizzes : (db.putCard row).quizzes.filter
      (fun quiz ↦ ((db.putCard row).owned? owner quiz.id).isSome) = (db.partOf owner).quizzes := by
    rw [putCard_eq]
    exact List.filter_congr fun quiz hquiz ↦ isSome_owned?_putCard (hdb.quizzes quiz hquiz)
  rw [← htags, ← hquizzes]
  rfl

/-- A card that is put goes to the part of its owner. -/
theorem partOf_putCard (howns : OneOwner owns)
    (hdb : db.Follows owns) {row : CardRow} (hrow : owns row.owner row.id) (owner : Subject) :
    (db.putCard row).partOf owner =
      if row.owner = owner then (db.partOf owner).putCard row else db.partOf owner := by
  -- a card that is put again is one of the same owner, so a row never changes parts
  have hsame : ∀ card ∈ db.cards, card.id = row.id → card.owner = row.owner := fun card hcard hid ↦
    howns _ _ _ (hid ▸ hdb.cards card hcard) hrow
  rw [partOf_putCard_eq hdb, cards_putCard]
  split
  · rename_i howner
    subst howner
    rw [putCard_eq (db.partOf row.owner), cards_putCard, filter_upsert_of_kept]
    · rfl
    · exact fun _ _ _ ↦ rfl
    · exact fun card hcard hid ↦ beq_iff_eq.2 (hsame card hcard hid)
    · exact beq_iff_eq.2 rfl
  · rename_i howner
    rw [filter_upsert_of_left_out]
    · rfl
    · exact fun _ _ _ ↦ rfl
    · exact fun card hcard hid ↦ beq_eq_false_iff_ne.2 (hsame card hcard hid ▸ howner)
    · exact beq_eq_false_iff_ne.2 howner

theorem cards_putTag (db : Database) (row : TagRow) : (db.putTag row).cards = db.cards := by
  unfold putTag
  split <;> rfl

theorem owned?_putTag (db : Database) (row : TagRow) (owner : Subject) (id : CardId) :
    (db.putTag row).owned? owner id = db.owned? owner id := by
  rw [owned?, owned?, cards_putTag]

/-- A tag that is given goes to the part of the owner of its card. -/
theorem partOf_putTag (db : Database) (row : TagRow) (owner : Subject) :
    (db.putTag row).partOf owner =
      if (db.owned? owner row.id).isSome then (db.partOf owner).putTag row
      else db.partOf owner := by
  by_cases hmem : row ∈ db.tags
  · have hpart : (db.owned? owner row.id).isSome = true → row ∈ (db.partOf owner).tags :=
      fun howned ↦ List.mem_filter.2 ⟨hmem, howned⟩
    rw [putTag, if_pos hmem]
    split
    · rename_i howned
      rw [putTag, if_pos (hpart howned)]
    · rfl
  · have hpart : row ∉ (db.partOf owner).tags := fun h ↦ hmem (List.mem_filter.1 h).1
    have htags : ((db.tags ++ [row]).filter fun tag ↦ (db.owned? owner tag.id).isSome) =
        (db.partOf owner).tags ++ if (db.owned? owner row.id).isSome then [row] else [] := by
      rw [List.filter_append, List.filter_cons, List.filter_nil]
      rfl
    have hleft : (db.putTag row).partOf owner = ⟨(db.partOf owner).cards,
        (db.partOf owner).tags ++ if (db.owned? owner row.id).isSome then [row] else [],
        (db.partOf owner).quizzes⟩ := by
      rw [putTag, if_neg hmem, ← htags]
      rfl
    rw [hleft]
    split
    · rw [putTag, if_neg hpart]
    · rw [List.append_nil]

/-- The tags of a card go to the part of its owner. -/
theorem partOf_foldl_putTag (db : Database) (tags : List String) (owner : Subject) (id : CardId) :
    (tags.foldl (fun db tag ↦ db.putTag ⟨id, tag⟩) db).partOf owner =
      if (db.owned? owner id).isSome then
        tags.foldl (fun db tag ↦ db.putTag ⟨id, tag⟩) (db.partOf owner)
      else db.partOf owner := by
  induction tags generalizing db with
  | nil => simp
  | cons tag tags ih =>
    rw [List.foldl_cons, ih, owned?_putTag, partOf_putTag]
    split <;> rfl

theorem id_mem_putCard (db : Database) (row : CardRow) :
    row.id ∈ (db.putCard row).cards.map (·.id) := by
  rw [putCard_ids, List.mem_append]
  by_cases hmem : row.id ∈ db.cards.map (·.id)
  · exact .inl hmem
  · rw [if_neg hmem]
    exact .inr (List.mem_singleton.2 rfl)

theorem Follows.putCard (hdb : db.Follows owns) {row : CardRow} (hrow : owns row.owner row.id) :
    (db.putCard row).Follows owns := by
  have hids : ∀ id ∈ db.cards.map (·.id), id ∈ (db.putCard row).cards.map (·.id) := by
    intro id hid
    rw [putCard_ids]
    exact List.mem_append_left _ hid
  refine ⟨fun card hcard ↦ ?_, fun tag htag ↦ ?_, fun quiz hquiz ↦ ?_⟩
  · rcases key_of_mem_putCard hcard with ⟨old, hold, hid, howner⟩ | ⟨-, hid, howner⟩
    · exact hid ▸ howner ▸ hdb.cards old hold
    · exact hid ▸ howner ▸ hrow
  · rw [putCard_eq] at htag
    exact hids _ (hdb.tags tag htag)
  · rw [putCard_eq] at hquiz
    exact hids _ (hdb.quizzes quiz hquiz)

theorem Follows.putTag (hdb : db.Follows owns) {row : TagRow} (hid : row.id ∈ db.cards.map (·.id)) :
    (db.putTag row).Follows owns := by
  unfold Database.putTag
  split
  · exact hdb
  · refine ⟨hdb.cards, fun tag htag ↦ ?_, hdb.quizzes⟩
    rcases List.mem_append.1 htag with hold | hnew
    · exact hdb.tags tag hold
    · rw [List.mem_singleton.1 hnew]
      exact hid

theorem Follows.foldl_putTag (hdb : db.Follows owns) (hid : id ∈ db.cards.map (·.id))
    (tags : List String) : (tags.foldl (fun db tag ↦ db.putTag ⟨id, tag⟩) db).Follows owns := by
  induction tags generalizing db with
  | nil => exact hdb
  | cons tag tags ih => exact ih (hdb.putTag hid) (by rwa [cards_putTag])

/-- A card that is added keeps to the owners if it is given to its user. -/
theorem Follows.insert (hdb : db.Follows owns) {card : NewCard}
    (hcard : owns user (CardId.ofCard user card.kind card.item)) :
    (db.insert user card).Follows owns := by
  have hput : (db.putCard (card.row user)).Follows owns := hdb.putCard hcard
  exact hput.foldl_putTag (id_mem_putCard db (card.row user)) card.tags

/-- A card that is there is found by the user whom the rule gives it to, and by no other. -/
theorem Follows.isSome_owned?_iff (howns : OneOwner owns) (hdb : db.Follows owns)
    (huser : owns user id) (hid : id ∈ db.cards.map (·.id)) :
    (db.owned? owner id).isSome = true ↔ user = owner := by
  rw [Database.isSome_owned?_iff]
  constructor
  · intro hkey
    obtain ⟨card, hcard, hkey⟩ := List.mem_map.1 hkey
    obtain ⟨rfl, rfl⟩ := Prod.mk.inj hkey
    exact howns _ _ _ huser (hdb.cards card hcard)
  · rintro rfl
    obtain ⟨card, hcard, rfl⟩ := List.mem_map.1 hid
    have howner : card.owner = user := howns _ _ _ (hdb.cards card hcard) huser
    exact List.mem_map.2 ⟨card, hcard, by rw [howner]⟩

/-- A card that is added goes to the part of its user. -/
theorem partOf_insert (howns : OneOwner owns) (hdb : db.Follows owns) {card : NewCard}
    (hcard : owns user (CardId.ofCard user card.kind card.item)) (owner : Subject) :
    (db.insert user card).partOf owner =
      if user = owner then (db.partOf owner).insert owner card else db.partOf owner := by
  have hput : (db.putCard (card.row user)).Follows owns := hdb.putCard hcard
  have hfold : (db.insert user card).partOf owner = _ :=
    partOf_foldl_putTag (db.putCard (card.row user)) card.tags owner (card.row user).id
  have hrow : owns (card.row user).owner (card.row user).id := hcard
  have hpart : (db.putCard (card.row user)).partOf owner =
      if user = owner then (db.partOf owner).putCard (card.row user) else db.partOf owner :=
    partOf_putCard howns hdb hrow owner
  have howned : ((db.putCard (card.row user)).owned? owner (card.row user).id).isSome = true ↔
      user = owner := hput.isSome_owned?_iff howns hcard (id_mem_putCard db (card.row user))
  rw [hfold, hpart]
  by_cases huser : user = owner
  · subst huser
    rw [if_pos (howned.2 rfl), if_pos rfl, if_pos rfl]
    rfl
  · rw [if_neg (mt howned.1 huser), if_neg huser, if_neg huser]

/-- A record that a user puts beside a card of the user goes to the user's part. -/
theorem partOf_putQuiz (howns : OneOwner owns) (hdb : db.Follows owns) {row : QuizRow}
    (hrow : (db.owned? user row.id).isSome = true) (owner : Subject) :
    (db.putQuiz row).partOf owner =
      if user = owner then (db.partOf owner).putQuiz row else db.partOf owner := by
  obtain ⟨card, hcard, hkey⟩ := List.mem_map.1 (db.isSome_owned?_iff.1 hrow)
  obtain ⟨hid, howner⟩ := Prod.mk.inj hkey
  have howned : (db.owned? owner row.id).isSome = true ↔ user = owner :=
    hdb.isSome_owned?_iff howns (hid ▸ howner ▸ hdb.cards card hcard)
      (List.mem_map.2 ⟨card, hcard, hid⟩)
  have hpart : (db.putQuiz row).partOf owner = ⟨(db.partOf owner).cards, (db.partOf owner).tags,
      (upsert (·.id) (fun _ ↦ row) row db.quizzes).filter
        fun quiz ↦ (db.owned? owner quiz.id).isSome⟩ := by
    rw [putQuiz_eq, quizzes_putQuiz]
    rfl
  rw [hpart]
  by_cases huser : user = owner
  · rw [if_pos huser, putQuiz_eq (db.partOf owner), quizzes_putQuiz, filter_upsert_of_kept]
    · rfl
    · exact fun quiz _ hsame ↦ by rw [hsame]
    · exact fun quiz _ hsame ↦ by rw [hsame, howned.2 huser]
    · exact howned.2 huser
  · rw [if_neg huser, filter_upsert_of_left_out]
    · rfl
    · exact fun quiz _ hsame ↦ by rw [hsame]
    · exact fun quiz _ hsame ↦ by rw [hsame, Bool.eq_false_iff.2 (mt howned.1 huser)]
    · exact Bool.eq_false_iff.2 (mt howned.1 huser)

theorem Follows.putQuiz (hdb : db.Follows owns) {row : QuizRow}
    (hrow : (db.owned? user row.id).isSome = true) : (db.putQuiz row).Follows owns := by
  obtain ⟨card, hcard, hkey⟩ := List.mem_map.1 (db.isSome_owned?_iff.1 hrow)
  have hid : row.id ∈ db.cards.map (·.id) :=
    List.mem_map.2 ⟨card, hcard, (Prod.mk.inj hkey).1⟩
  rw [putQuiz_eq]
  refine ⟨hdb.cards, hdb.tags, fun quiz hquiz ↦ ?_⟩
  rcases mem_putQuiz hquiz with rfl | hold
  · exact hid
  · exact hdb.quizzes quiz hold

/-- Operations keep to the owners if cards are added by them. -/
theorem Follows.apply (hdb : db.Follows owns) {op : Operation}
    (hop : ∀ id user, op.addition? = some (id, user) → owns user id) :
    (op.apply db).Follows owns := by
  rcases op.apply_cases db with
    ⟨owner, card, rfl, happly⟩ | ⟨-, happly | ⟨owner, r, howned, happly⟩⟩
  · rw [happly]
    exact hdb.insert (hop _ _ rfl)
  · rw [happly]
    exact hdb
  · rw [happly]
    exact hdb.putQuiz (howned : (db.owned? owner (QuizRow.write r).id).isSome = true)

end Database

end SpacedReview.Store

import SpacedReview.Proofs.Card.Identity
import SpacedReview.Proofs.Store.Additions

/-!
# A user's cards are those that the user gave

What a user sees of the cards can be read off what the same user gave, at any time and whatever
others did: a card is there if the user gave it, with the last English and all the tags that the
user gave for it, and the cards are listed in the order in which each was given first
(`collection`).

This rests on no two cards having one identifier: names without zero characters keep the bytes
behind the identifiers apart, and the hash is taken to keep apart the bytes at hand.

## Main statements

* `cardsOf_eq`: a user's cards are those that the user gave.
* `cards_after`: what a user sees of them after any history.
-/

namespace SpacedReview.Store

open SpacedReview.Query SpacedReview.Review SpacedReview.Time

/-! ### What a user gave -/

/-- What a user gave for a card, from the first time to the last. -/
def givenFor (ops : List Operation) (user : Subject) (kind : CardKind) (item : String) :
    List Database.NewCard :=
  ((given ops).filter fun g ↦ decide (g.1 = user ∧ g.2.kind = kind ∧ g.2.item = item)).map Prod.snd

/-- The cards that a user gave, in the order in which each was given first. -/
def collection (ops : List Operation) (user : Subject) : List (CardKind × String) :=
  (((given ops).filter (·.1 == user)).map fun g ↦ (g.2.kind, g.2.item)).eraseDups

/-- The bytes that identify the cards that were given. -/
def givenBytes (ops : List Operation) : Set (List UInt8) :=
  {bytes | ∃ g ∈ given ops, CardId.preimage g.1 g.2.kind g.2.item = bytes}

variable {ops : List Operation} {user : Subject} {kind : CardKind} {item : String}

theorem mem_collection_iff {c : CardKind × String} : c ∈ collection ops user ↔
    ∃ g ∈ given ops, g.1 = user ∧ (g.2.kind, g.2.item) = c := by
  simp [collection, List.mem_eraseDups, and_assoc]

/-- What a user gives later comes behind. -/
theorem collection_prefix (ops later : List Operation) (user : Subject) :
    collection ops user <+: collection (ops ++ later) user := by
  rw [collection, collection, given_append, List.filter_append, List.map_append,
    List.eraseDups_append]
  exact List.prefix_append _ _

theorem collection_append_of_none {op : Operation} (h : op.given? = none) (ops : List Operation)
    (user : Subject) : collection (ops ++ [op]) user = collection ops user := by
  rw [collection, collection, given_append_of_none h]

theorem collection_append_add (ops : List Operation) (owner : Subject) (card : Database.NewCard)
    (user : Subject) : collection (ops ++ [.add owner card]) user = collection ops user ++
      if owner = user ∧ (card.kind, card.item) ∉ collection ops user then [(card.kind, card.item)]
      else [] := by
  rw [collection, given_append_add, List.filter_append]
  by_cases howner : owner = user
  · rw [List.filter_cons_of_pos (by simpa using howner), List.filter_nil, List.map_append,
      List.map_singleton, eraseDups_concat, collection]
    simp only [howner, true_and, List.mem_eraseDups, ite_not]
  · rw [List.filter_cons_of_neg (by simpa using howner), List.filter_nil, List.append_nil,
      if_neg fun h ↦ howner h.1, List.append_nil, collection]

/-! ### Additions one by one -/

theorem cardsOf_append_of_none {op : Operation} (h : op.given? = none) (ops : List Operation)
    (user : Subject) : cardsOf (ops ++ [op]) user = cardsOf ops user := by
  have hnone : op.addition? = none := by rw [op.addition?_eq, h, Option.map_none]
  simp only [cardsOf, addedCards_append_singleton, firstOwner?_append_singleton, hnone]
  simp

theorem cardsOf_append_add (ops : List Operation) (owner : Subject) (card : Database.NewCard)
    (user : Subject) : cardsOf (ops ++ [.add owner card]) user = cardsOf ops user ++
      if owner = user ∧ givenId (owner, card) ∉ addedCards ops then [givenId (owner, card)]
      else [] := by
  have hadd : (Operation.add owner card).addition? = some (givenId (owner, card), owner) := rfl
  have hold : (addedCards ops).filter (fun id ↦
      decide (firstOwner? (ops ++ [.add owner card]) id = some user)) = cardsOf ops user := by
    refine List.filter_congr fun id hid ↦ ?_
    obtain ⟨first, hfirst⟩ := Option.ne_none_iff_exists'.1 (firstOwner?_ne_none hid)
    rw [firstOwner?_append_singleton, hfirst, Option.some_or]
  rw [cardsOf, addedCards_append_singleton, hadd, List.filter_append, hold]
  congr 1
  by_cases hnew : givenId (owner, card) ∈ addedCards ops
  · simp [hnew]
  · have hfirst : firstOwner? (ops ++ [.add owner card]) (givenId (owner, card)) = some owner := by
      rw [firstOwner?_append_singleton, firstOwner?_eq_none hnew, hadd]
      simp
    by_cases howner : owner = user
    · subst howner
      simp [hnew, hfirst]
    · simp [hnew, hfirst, howner]

/-! ### Rows of cards -/

/-- Cards belong to users who gave some. -/
theorem exists_given_of_mem_after {row : CardRow} (h : row ∈ (Database.empty.after ops).cards) :
    ∃ g ∈ given ops, g.1 = row.owner := by
  have hfirst := firstOwner?_of_mem_after h
  rw [firstOwner?, additions_eq] at hfirst
  obtain ⟨a, ha, howner⟩ := Option.map_eq_some_iff.1 hfirst
  obtain ⟨g, hg, rfl⟩ := List.mem_map.1 (List.mem_of_find?_eq_some ha)
  exact ⟨g, hg, howner⟩

/-- Of the rows with an identifier the first one is found, if it is the user's. -/
theorem Database.owned?_of_find? {db : Database} {id : CardId} {row : CardRow}
    (h : db.cards.find? (·.id == id) = some row) : db.owned? row.owner id = some row := by
  obtain ⟨hid, front, back, hcards, hfront⟩ := List.find?_eq_some_iff_append.1 h
  refine List.find?_eq_some_iff_append.2 ⟨by simpa using hid, front, back, hcards, fun a ha ↦ ?_⟩
  have hne := hfront a ha
  simp only [Bool.not_eq_true'] at hne ⊢
  rw [hne, Bool.false_and]

/-! ### Cards told apart

No name has a zero character in it, and the hash tells the bytes at hand apart: those of the cards
that were given, and of one card that is asked for. -/

section Apart

variable (hnames : ∀ g ∈ given ops, '\x00' ∉ g.1.name.toList)

section OneCard

variable (hhash : Set.InjOn Digest.Blake3.hash
  (insert (CardId.preimage user kind item) (givenBytes ops)))

include hnames hhash

/-- The identifier of a card that a user may have given leads back to it. -/
theorem eq_of_givenId_eq (huser : '\x00' ∉ user.name.toList) {g : Subject × Database.NewCard}
    (hg : g ∈ given ops) (hid : givenId g = CardId.ofCard user kind item) :
    g.1 = user ∧ g.2.kind = kind ∧ g.2.item = item :=
  CardId.eq_of_preimage_eq (hnames g hg) huser
    (hhash (.inr ⟨g, hg, rfl⟩) (.inl rfl) (congrArg CardId.digest hid))

/-- What was given under the identifier of a card of a user was given by the user for this card. -/
theorem map_snd_givenAs (huser : '\x00' ∉ user.name.toList) :
    (givenAs ops (CardId.ofCard user kind item)).map Prod.snd = givenFor ops user kind item := by
  rw [givenAs, givenFor]
  congr 1
  refine List.filter_congr fun g hg ↦ ?_
  rw [Bool.beq_eq_decide_eq]
  refine decide_eq_decide.2 ⟨eq_of_givenId_eq hnames hhash huser hg, ?_⟩
  rintro ⟨howner, hkind, hitem⟩
  rw [givenId, howner, hkind, hitem]

/-- The user's row of a card. -/
theorem owned?_after :
    (Database.empty.after ops).owned? user (CardId.ofCard user kind item) =
      if givenFor ops user kind item = [] then none
      else some ⟨CardId.ofCard user kind item, user, kind.word, item,
        lastEnglish (givenFor ops user kind item)⟩ := by
  by_cases huser : '\x00' ∈ user.name.toList
  · -- such a user gave nothing, although cards of others may have the same identifier
    have hothers : ∀ g ∈ given ops, g.1 ≠ user := fun g hg howner ↦ hnames g hg (howner ▸ huser)
    have hnothing : givenFor ops user kind item = [] := by
      simp only [givenFor, List.map_eq_nil_iff, List.filter_eq_nil_iff, decide_eq_true_eq]
      exact fun g hg h ↦ hothers g hg h.1
    rw [if_pos hnothing, Database.owned?, List.find?_eq_none]
    intro row hrow hkey
    obtain ⟨g, hg, howner⟩ := exists_given_of_mem_after hrow
    have hrowOwner : row.owner = user := by simpa using (Bool.and_eq_true_iff.1 hkey).2
    exact hothers g hg (howner.trans hrowOwner)
  · have hfind := find?_cards_after ops (CardId.ofCard user kind item)
    have hcards := map_snd_givenAs hnames hhash huser
    cases hgs : givenAs ops (CardId.ofCard user kind item) with
    | nil =>
      rw [hgs] at hfind hcards
      rw [← hcards, if_pos List.map_nil, Database.owned?, List.find?_eq_none]
      intro row hrow hkey
      exact List.find?_eq_none.1 hfind row hrow (Bool.and_eq_true_iff.1 hkey).1
    | cons g gs =>
      have hg : g ∈ givenAs ops (CardId.ofCard user kind item) := by rw [hgs]; simp
      obtain ⟨hgiven, hid⟩ := List.mem_filter.1 hg
      obtain ⟨howner, hkind, hitem⟩ :=
        eq_of_givenId_eq hnames hhash huser hgiven (by simpa using hid)
      rw [← hcards, hgs, if_neg (by simp)]
      rw [hgs, mergedRow?, List.head?_cons, Option.map_some, howner, hkind, hitem] at hfind
      exact Database.owned?_of_find? hfind

/-- A card that a user gave, with the last English and all tags. -/
theorem exists_get_after (hgiven : givenFor ops user kind item ≠ []) :
    ∃ tags, (Database.empty.after ops).get user (CardId.ofCard user kind item) =
        .ok (some ⟨CardId.ofCard user kind item, kind, item,
          lastEnglish (givenFor ops user kind item), tags⟩) ∧
      tags.Pairwise (fun s t ↦ CardId.utf8 s < CardId.utf8 t) ∧
      ∀ tag, tag ∈ tags ↔ ∃ card ∈ givenFor ops user kind item, tag ∈ card.tags := by
  have huser : '\x00' ∉ user.name.toList := by
    obtain ⟨card, hcard⟩ := List.exists_mem_of_ne_nil _ hgiven
    obtain ⟨g, hg, -⟩ := List.mem_map.1 hcard
    obtain ⟨hg, howner⟩ := List.mem_filter.1 hg
    exact (of_decide_eq_true howner).1 ▸ hnames g hg
  have hdb : (Database.empty.after ops).WellFormed := Database.WellFormed.empty.after ops
  refine ⟨(Database.empty.after ops).tagsOf (CardId.ofCard user kind item), ?_,
    hdb.pairwise_tagsOf _, fun tag ↦ ?_⟩
  · simp only [Database.get, owned?_after hnames hhash, if_neg hgiven, CardKind.ofWord?_word]
  · rw [Database.mem_tagsOf, mem_tags_after, ← map_snd_givenAs hnames hhash huser]
    constructor
    · rintro ⟨g, hg, htag⟩
      exact ⟨g.2, List.mem_map_of_mem hg, htag⟩
    · rintro ⟨card, hcard, htag⟩
      obtain ⟨g, hg, rfl⟩ := List.mem_map.1 hcard
      exact ⟨g, hg, htag⟩

end OneCard

section AllCards

variable (hhash : Set.InjOn Digest.Blake3.hash (givenBytes ops))

include hnames hhash

/-- A user's cards are those that the user gave, in the order in which each was given first. -/
theorem cardsOf_eq (user : Subject) :
    cardsOf ops user = (collection ops user).map fun c ↦ CardId.ofCard user c.1 c.2 := by
  induction ops using given_induction with
  | nil => rfl
  | other ops op hop ih =>
    have hgiven := given_append_of_none hop ops
    rw [cardsOf_append_of_none hop, collection_append_of_none hop]
    exact ih (hgiven ▸ hnames) (by rwa [givenBytes, hgiven] at hhash)
  | add ops owner card ih =>
    have hgiven := given_append_add ops owner card
    have hbytes : givenBytes (ops ++ [.add owner card]) =
        insert (CardId.preimage owner card.kind card.item) (givenBytes ops) := by
      ext bytes
      simp [givenBytes, hgiven, or_and_right, exists_or, or_comm, eq_comm]
    rw [hbytes] at hhash
    simp only [hgiven, List.forall_mem_append, List.forall_mem_singleton] at hnames
    have ih := ih hnames.1 (hhash.mono (Set.subset_insert _ _))
    have hnew : owner = user → (givenId (owner, card) ∈ addedCards ops ↔
        (card.kind, card.item) ∈ collection ops user) := by
      rintro rfl
      rw [mem_addedCards_iff, additions_eq, List.map_map, List.mem_map, mem_collection_iff]
      refine exists_congr fun g ↦ and_congr_right fun hg ↦ ⟨fun hid ↦ ?_, ?_⟩
      · obtain ⟨howner, hkind, hitem⟩ := eq_of_givenId_eq hnames.1 hhash hnames.2 hg hid
        exact ⟨howner, by rw [hkind, hitem]⟩
      · rintro ⟨howner, hcard⟩
        obtain ⟨hkind, hitem⟩ := Prod.mk.inj hcard
        show givenId g = givenId (owner, card)
        rw [givenId, givenId, howner, hkind, hitem]
    rw [cardsOf_append_add, collection_append_add, List.map_append, ih]
    by_cases howner : owner = user
    · subst howner
      simp only [hnew rfl, true_and]
      split <;> rfl
    · simp only [howner, false_and, if_false, List.map_nil]

/-- The number of cards of a user is that of the cards that the user gave. -/
theorem count_after (user : Subject) :
    (Database.empty.after ops).count user = (collection ops user).length := by
  rw [Database.count, List.countP_eq_length_filter, ← List.length_map (·.id),
    map_id_filter_cards_after, cardsOf_eq hnames hhash, List.length_map]

/-- If all cards of a user match a predicate, then those that are found are listed in the order in
which each was given first. -/
theorem found_all_after (user : Subject) {p : Predicate Filter}
    (hall : ∀ c ∈ collection ops user,
      (Database.empty.after ops).fits user p (CardId.ofCard user c.1 c.2) = true) (limit : Nat) :
    (Database.empty.after ops).found user p limit =
      limited ((collection ops user).map fun c ↦ CardId.ofCard user c.1 c.2)
        (Database.limitOf limit) := by
  rw [Database.found, map_id_filter_cards_after, cardsOf_eq hnames hhash, List.filter_eq_self.2]
  rintro _ hid
  obtain ⟨c, hc, rfl⟩ := List.mem_map.1 hid
  exact hall c hc

end AllCards

end Apart

/-! ### What a user sees -/

/-- What a user sees of cards that are added again and again, after any history. A card is there if
the user gave it, with the last English and all tags that the user gave for it, the tags in the
order of their bytes. The cards are as many as the user gave different ones, and a search that all
of them match lists them in the order in which each was given first, which later operations keep.
Additions change no record, and marks and saved records change no card and no tag. No name has a
zero character in it, and the hash tells the bytes of the added cards, and of the card that is asked
for, apart. A search may be refused as too large, but it lists nothing else. -/
theorem cards_after (ops : List Operation) (user : Subject) (kind : CardKind) (item : String)
    (hnames : ∀ g ∈ given ops, '\x00' ∉ g.1.name.toList)
    (hhash : Set.InjOn Digest.Blake3.hash
      (insert (CardId.preimage user kind item) (givenBytes ops))) :
    let db := Database.empty.after ops
    let id := CardId.ofCard user kind item
    let cards := givenFor ops user kind item
    (cards = [] → db.get user id = .ok none) ∧
    (cards ≠ [] → ∃ tags, db.get user id = .ok (some ⟨id, kind, item, lastEnglish cards, tags⟩) ∧
      tags.Pairwise (fun s t ↦ CardId.utf8 s < CardId.utf8 t) ∧
      ∀ tag, tag ∈ tags ↔ ∃ card ∈ cards, tag ∈ card.tags) ∧
    db.count user = (collection ops user).length ∧
    (∀ (p : Predicate Filter) (limit : Nat), p.AllAtoms Filter.IsBounded →
      (∀ c ∈ collection ops user, db.fits user p (CardId.ofCard user c.1 c.2) = true) →
        let listed := limited ((collection ops user).map fun c ↦ CardId.ofCard user c.1 c.2)
          (Database.limitOf limit)
        (Database.Searchable user p limit → db.search user p limit = .ok listed) ∧
          ∀ found, db.search user p limit = .ok found → found = listed) ∧
    (∀ later, collection ops user <+: collection (ops ++ later) user) ∧
    ∀ op : Operation,
      (op.given? ≠ none → (op.apply db).quizzes = db.quizzes ∧
        ∀ owner id, (op.apply db).load owner id = db.load owner id) ∧
      (op.given? = none → (op.apply db).cards = db.cards ∧ (op.apply db).tags = db.tags) := by
  intro db id cards
  have hgiven : Set.InjOn Digest.Blake3.hash (givenBytes ops) := hhash.mono (Set.subset_insert _ _)
  refine ⟨fun hnone ↦ ?_, exists_get_after hnames hhash, count_after hnames hgiven user,
    fun p limit hp hall ↦ ?_,
    fun later ↦ collection_prefix ops later user,
    fun op ↦ ⟨fun hop ↦ ?_, fun hop ↦ Operation.apply_of_given?_eq_none hop db⟩⟩
  · have howned : db.owned? user id = none := (owned?_after hnames hhash).trans (if_pos hnone)
    simp only [Database.get, howned]
  · have hdb : db.WellFormed := Database.WellFormed.empty.after ops
    rw [← found_all_after hnames hgiven user hall limit]
    refine ⟨fun h ↦ hdb.search_eq hp h, fun found hfound ↦ ?_⟩
    rcases hdb.search_eq_or user hp limit with hok | hfails
    · exact Except.ok.inj (hfound.symm.trans hok)
    · cases hfound.symm.trans hfails
  · obtain ⟨⟨owner, card⟩, hop⟩ := Option.ne_none_iff_exists'.1 hop
    obtain rfl := Operation.eq_add_of_given? hop
    have hfollows : db.Follows fun _ _ ↦ True := Database.Follows.empty.after ops
    rw [Operation.apply_add]
    exact ⟨Database.quizzes_insert db owner card,
      fun user id ↦ hfollows.load_insert owner card user id⟩

/-- The second addition of a card brings a tag and no English, and another user's addition of the
same card brings nothing. -/
theorem cards_after_added_twice :
    let alice : Subject := ⟨"alice"⟩
    let bob : Subject := ⟨"bob"⟩
    let id := CardId.ofCard alice .hanzi "学"
    let ops : List Operation := [.add alice ⟨.hanzi, "学", some "study", ["b", "a"]⟩,
      .add bob ⟨.hanzi, "学", some "learn", ["c"]⟩, .mark .standard (some alice) id .right .epoch,
      .add alice ⟨.hanzi, "学", none, ["a", "ä"]⟩]
    let db := Database.empty.after ops
    (∃ tags, db.get alice id = .ok (some ⟨id, .hanzi, "学", some "study", tags⟩) ∧
      tags.Pairwise (fun s t ↦ CardId.utf8 s < CardId.utf8 t) ∧
        ∀ tag, tag ∈ tags ↔ tag = "b" ∨ tag = "a" ∨ tag = "ä") ∧
      db.count alice = 1 ∧ db.count bob = 1 := by
  intro alice bob id ops db
  have hgiven : given ops = [(alice, ⟨.hanzi, "学", some "study", ["b", "a"]⟩),
      (bob, ⟨.hanzi, "学", some "learn", ["c"]⟩), (alice, ⟨.hanzi, "学", none, ["a", "ä"]⟩)] := rfl
  have hnames : ∀ g ∈ given ops, '\x00' ∉ g.1.name.toList := by simp [hgiven, alice, bob]
  have hapart : Digest.Blake3.hash (CardId.preimage alice .hanzi "学") ≠
      Digest.Blake3.hash (CardId.preimage bob .hanzi "学") := by
    decide +kernel
  have hbytes : givenBytes ops ⊆
      {CardId.preimage alice .hanzi "学", CardId.preimage bob .hanzi "学"} := by
    rintro _ ⟨g, hg, rfl⟩
    simp only [hgiven, List.mem_cons, List.not_mem_nil, or_false] at hg
    rcases hg with rfl | rfl | rfl <;> simp
  have hhash : ∀ {user : Subject}, user = alice ∨ user = bob → Set.InjOn Digest.Blake3.hash
      (insert (CardId.preimage user .hanzi "学") (givenBytes ops)) := by
    intro user huser
    refine (Set.injOn_pair.2 fun hsame ↦ absurd hsame hapart).mono (Set.insert_subset ?_ hbytes)
    rcases huser with rfl | rfl <;> simp
  have hfor : givenFor ops alice .hanzi "学" =
      [⟨.hanzi, "学", some "study", ["b", "a"]⟩, ⟨.hanzi, "学", none, ["a", "ä"]⟩] := by
    simp [givenFor, hgiven, alice, bob]
  obtain ⟨-, hfound, hcount, -⟩ := cards_after ops alice .hanzi "学" hnames (hhash (.inl rfl))
  obtain ⟨-, -, hcount', -⟩ := cards_after ops bob .hanzi "学" hnames (hhash (.inr rfl))
  obtain ⟨tags, hget, hsorted, htags⟩ := hfound (by simp [hfor])
  refine ⟨⟨tags, ?_, hsorted, fun tag ↦ ?_⟩, ?_, ?_⟩
  · rw [hget, hfor]
    rfl
  · rw [htags, hfor]
    simp only [List.mem_cons, List.not_mem_nil, or_false, exists_eq_or_imp, exists_eq_left,
      or_assoc, or_self_left]
  · rw [hcount]
    simp [collection, hgiven, alice, bob, List.eraseDups_cons]
  · rw [hcount']
    simp [collection, hgiven, alice, bob, List.eraseDups_cons]

end SpacedReview.Store

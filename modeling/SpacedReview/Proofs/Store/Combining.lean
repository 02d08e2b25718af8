import SpacedReview.Proofs.Query.Meaning
import SpacedReview.Proofs.Store.Due

/-!
# Searches combine like queries

A search without a limit that leaves cards out is a filter of the user's cards, and the filter of a
condition is true or false of every card. So what is found by two queries with a gap between them is
found by both, what is found with the keyword between them is found by one of them, and what is
found by the negation of a term are the cards that the term does not find. No card is lost on the
way, also where a filter is not supported, or asks for an English or a review record that the card
does not have.

Queries that can be searched for may be beyond the limits of SQL when they are put together, and
then the search fails. What it would find is still told by the two queries, so the laws are stated
for what a query asks for (`Database.matching`), and an answer is either this or a failure
(`Database.Answers`).

## Main statements

* `Database.WellFormed.answers`: a search that does not fail is a filter of the user's cards.
* `searchCards_put_together`: what searches for queries that are put together find.
* `searchCards_fails_put_together`: a query that can be searched for once, but not twice.
-/

namespace SpacedReview.Store

open SpacedReview.Query SpacedReview.Text SpacedReview.Time

namespace Database

variable {db : Database} {owner : Subject} {id : CardId}

/-- Looking up some of the identifiers gives the cards of these. -/
theorem getAll_filter {ids : List CardId} {cards : List Card}
    (h : ids.map (db.get owner) = cards.map fun card ↦ .ok (some card)) (p : CardId → Bool) :
    db.getAll owner (ids.filter p) = .ok (cards.filter fun card ↦ p card.id) := by
  induction ids generalizing cards with
  | nil =>
    obtain rfl : cards = [] := List.map_eq_nil_iff.1 h.symm
    rfl
  | cons id ids ih =>
    obtain ⟨card, cards, rfl, hcard, hcards⟩ := List.map_eq_cons_iff.1 h.symm
    have hid : card.id = id := id_of_get hcard.symm
    cases hp : p id with
    | false =>
      rw [List.filter_cons_of_neg (by simp [hp]), List.filter_cons_of_neg (by simp [hid, hp]),
        ih hcards.symm]
    | true =>
      rw [List.filter_cons_of_pos hp, List.filter_cons_of_pos (by rwa [hid])]
      simp only [getAll, ← hcard, ih hcards.symm, bind, Except.bind]
      rfl

/-- Every card of a user can be read. -/
theorem WellFormed.exists_cards (hdb : db.WellFormed) (owner : Subject) :
    ∃ cards : List Card, ((db.cards.filter (·.owner == owner)).map (·.id)).map (db.get owner) =
      cards.map fun card ↦ .ok (some card) := by
  have howned : ∀ id ∈ (db.cards.filter (·.owner == owner)).map (·.id),
      ∃ card, db.get owner id = .ok (some card) := by
    intro id hid
    obtain ⟨card, hcard, rfl⟩ := List.mem_map.1 hid
    obtain ⟨hmem, howner⟩ := List.mem_filter.1 hcard
    exact hdb.exists_get (Option.isSome_iff_exists.2
      ⟨card, hdb.owned?_eq_some_iff.2 ⟨hmem, rfl, eq_of_beq howner⟩⟩)
  obtain ⟨cards, -, hcards⟩ := exists_getAll howned
  exact ⟨cards, hcards⟩

/-- Every one of the cards that are read is found under its own identifier. -/
theorem get_of_mem {ids : List CardId} {cards : List Card} {card : Card}
    (h : ids.map (db.get owner) = cards.map fun card ↦ .ok (some card)) (hcard : card ∈ cards) :
    db.get owner card.id = .ok (some card) := by
  have hmem : Except.ok (some card) ∈ ids.map (db.get owner) :=
    h ▸ List.mem_map.2 ⟨card, hcard, rfl⟩
  obtain ⟨id, -, hid⟩ := List.mem_map.1 hmem
  rwa [id_of_get hid]

/-- A card that can be read is a card of the user. -/
theorem isSome_owned?_of_get {card : Card} (h : db.get owner id = .ok (some card)) :
    (db.owned? owner id).isSome = true := by
  unfold get at h
  split at h
  · cases h
  · rename_i row hrow
    rw [hrow]
    rfl

/-- A card that can be read is among the cards of the user. -/
theorem WellFormed.mem_of_get (hdb : db.WellFormed) {cards : List Card} {card : Card}
    (h : ((db.cards.filter (·.owner == owner)).map (·.id)).map (db.get owner) =
      cards.map fun card ↦ .ok (some card)) (hcard : db.get owner id = .ok (some card)) :
    card ∈ cards := by
  obtain ⟨row, hrow⟩ := Option.isSome_iff_exists.1 (isSome_owned?_of_get hcard)
  obtain ⟨hmem, rfl, rfl⟩ := hdb.owned?_eq_some_iff.1 hrow
  have hid : row.id ∈ (db.cards.filter (·.owner == row.owner)).map (·.id) :=
    List.mem_map_of_mem (List.mem_filter.2 ⟨hmem, beq_self_eq_true row.owner⟩)
  have hread := List.mem_map_of_mem (f := db.get row.owner) hid
  rw [h, hcard] at hread
  obtain ⟨found, hfound, heq⟩ := List.mem_map.1 hread
  obtain rfl := Option.some.inj (Except.ok.inj heq)
  exact hfound

/-- Whether a condition finds a card is a matter of the card's row. -/
theorem exists_row_fits {card : Card} (h : db.get owner id = .ok (some card)) (now : Instant) :
    ∃ row, ∀ c, db.fits owner ((cardSchema now).compile c).predicate id =
      (cardSchema now).holds (Filter.accepts row) c := by
  obtain ⟨row, hrow⟩ := Option.isSome_iff_exists.1 (isSome_owned?_of_get h)
  refine ⟨db.row row, fun c ↦ ?_⟩
  rw [fits, hrow]
  rfl

/-- The answer to a query is a list of cards or, unless the query can be searched for, a failure. -/
def Answers (db : Database) (owner : Subject) (now : Instant) (limit : Nat) (query : String)
    (cards : List Card) : Prop :=
  db.searchCards (some owner) query now limit = .ok cards ∨
    db.searchCards (some owner) query now limit = .error .database ∧
      ∀ c, Condition.parse query = .ok (some c) →
        ¬ Searchable owner ((cardSchema now).compile c).predicate limit

theorem Answers.eq_ok {query : String} {now : Instant} {limit : Nat} {cards : List Card}
    {c : Condition} (h : db.Answers owner now limit query cards)
    (hparse : Condition.parse query = .ok (some c))
    (hsearchable : Searchable owner ((cardSchema now).compile c).predicate limit) :
    db.searchCards (some owner) query now limit = .ok cards :=
  h.resolve_right fun hfail ↦ hfail.2 c hparse hsearchable

/-- Those among the cards that a query asks for. -/
def matching (db : Database) (owner : Subject) (now : Instant) (cards : List Card)
    (query : String) : List Card :=
  match Condition.parse query with
  | .ok (some c) =>
    cards.filter fun card ↦ db.fits owner ((cardSchema now).compile c).predicate card.id
  | _ => []

theorem matching_of_parse {query : String} {c : Condition}
    (h : Condition.parse query = .ok (some c)) (db : Database) (owner : Subject) (now : Instant)
    (cards : List Card) :
    db.matching owner now cards query =
      cards.filter fun card ↦ db.fits owner ((cardSchema now).compile c).predicate card.id := by
  rw [matching, h]

theorem mem_matching_iff {query : String} {c : Condition} {now : Instant} {cards : List Card}
    {card : Card} (h : Condition.parse query = .ok (some c)) :
    card ∈ db.matching owner now cards query ↔ card ∈ cards ∧
      db.fits owner ((cardSchema now).compile c).predicate card.id = true := by
  rw [matching_of_parse h, List.mem_filter]

/-- What a query asks for can be told by what its condition means on the row of each card. -/
theorem matching_eq_filter {query : String} {c : Condition} {now : Instant} {cards : List Card}
    (hparse : Condition.parse query = .ok (some c))
    (hcards : ∀ card ∈ cards, db.get owner card.id = .ok (some card)) (P : Card → Prop)
    [DecidablePred P] (h : ∀ card ∈ cards, ∀ row,
      (∀ d, db.fits owner ((cardSchema now).compile d).predicate card.id =
        (cardSchema now).holds (Filter.accepts row) d) →
      ((cardSchema now).holds (Filter.accepts row) c = true ↔ P card)) :
    db.matching owner now cards query = cards.filter fun card ↦ decide (P card) := by
  rw [matching_of_parse hparse]
  refine List.filter_congr fun card hcard ↦ ?_
  obtain ⟨row, hrow⟩ := exists_row_fits (hcards card hcard) now
  rw [hrow, Bool.eq_iff_iff, decide_eq_true_iff]
  exact h card hcard row hrow

/-- The answer to a query, if the limit leaves nothing out, is a filter of the user's cards. -/
theorem WellFormed.answers (hdb : db.WellFormed) {cards : List Card}
    (hcards : ((db.cards.filter (·.owner == owner)).map (·.id)).map (db.get owner) =
      cards.map fun card ↦ .ok (some card)) {query : String} {c : Condition}
    (hparse : Condition.parse query = .ok (some c)) (now : Instant) {limit : UInt64}
    (hlimit : db.count owner ≤ limit.toNat) :
    db.Answers owner now limit.toNat query (db.matching owner now cards query) := by
  rw [matching_of_parse hparse]
  have hbounded := allAtoms_isBounded_compile now c
  have hok : db.search owner ((cardSchema now).compile c).predicate limit.toNat =
        .ok (db.found owner ((cardSchema now).compile c).predicate limit.toNat) →
      db.searchCards (some owner) query now limit.toNat = .ok (cards.filter
        fun card ↦ db.fits owner ((cardSchema now).compile c).predicate card.id) := by
    intro h
    rw [searchCards_of_parse hparse, h, found_eq hlimit]
    exact getAll_filter hcards _
  rcases hdb.search_eq_or owner hbounded limit.toNat with h | h
  · exact .inl (hok h)
  · refine .inr ⟨by rw [searchCards_of_parse hparse, h]; rfl, fun d hd hsearchable ↦ ?_⟩
    obtain rfl := Option.some.inj (Except.ok.inj (hparse.symm.trans hd))
    cases h.symm.trans (hdb.search_eq hbounded hsearchable)

end Database

open Database in
/-- Every query finds some of a user's cards, in the order in which they were first added, if it can
be searched for. Two queries with a gap between them find those that both find, and with the keyword
between them, unless one is a conjunction, those that one of them finds; a dash in front of a single
term finds those that the term does not find, and can be searched for if the term can. The limit
leaves no card out. -/
theorem searchCards_put_together (ops : List Operation) (owner : Subject) (now : Instant)
    (limit : UInt64) (hlimit : (Database.empty.after ops).count owner ≤ limit.toNat) :
    let db := Database.empty.after ops
    let answers := db.Answers owner now limit.toNat
    ∃ (cards : List Card) (found : String → List Card), (cardsOf ops owner).Nodup ∧
      (cardsOf ops owner).map (db.get owner) = cards.map (fun card ↦ .ok (some card)) ∧
      (∀ q c, Condition.parse q = .ok (some c) → answers q (found q)) ∧
      (∀ q₁ q₂ w c₁ c₂, Condition.parse q₁ = .ok (some c₁) → Condition.parse q₂ = .ok (some c₂) →
        IsGap w.toList → w ≠ "" →
        answers (q₁ ++ w ++ q₂)
          (cards.filter fun card ↦ decide (card ∈ found q₁ ∧ card ∈ found q₂)) ∧
        ((∀ cs, c₁ ≠ .all cs) → (∀ cs, c₂ ≠ .all cs) →
          answers (q₁ ++ w ++ "OR" ++ w ++ q₂)
            (cards.filter fun card ↦ decide (card ∈ found q₁ ∨ card ∈ found q₂)))) ∧
      ∀ q t c cs, Condition.parse q = .ok (some (.term t)) → q.toList = c :: cs →
        isBlank c = false →
        answers ("-" ++ q) (cards.filter fun card ↦ decide (card ∉ found q)) ∧
          (Searchable owner ((cardSchema now).compile (.term t)).predicate limit.toNat →
            db.searchCards (some owner) ("-" ++ q) now limit.toNat =
              .ok (cards.filter fun card ↦ decide (card ∉ found q))) := by
  intro db answers
  have hdb : db.WellFormed := Database.WellFormed.empty.after ops
  obtain ⟨cards, hcards⟩ := hdb.exists_cards owner
  have hanswers : ∀ q c, Condition.parse q = .ok (some c) →
      answers q (db.matching owner now cards q) :=
    fun _ _ hparse ↦ hdb.answers hcards hparse now hlimit
  have hget : ∀ card ∈ cards, db.get owner card.id = .ok (some card) := fun _ ↦ get_of_mem hcards
  refine ⟨cards, db.matching owner now cards, (nodup_addedCards ops).filter _, ?_, hanswers, ?_, ?_⟩
  · rw [← map_id_filter_cards_after]
    exact hcards
  · intro q₁ q₂ w c₁ c₂ h₁ h₂ hw hne
    refine ⟨?_, fun hc₁ hc₂ ↦ ?_⟩
    · obtain ⟨c, hparse, hmeaning⟩ := Condition.exists_parse_gap h₁ h₂ hw hne
      rw [← matching_eq_filter hparse hget]
      · exact hanswers _ c hparse
      · intro card hcard row hrow
        simp [mem_matching_iff h₁, mem_matching_iff h₂, hrow, hmeaning, hcard]
    · obtain ⟨c, hparse, hmeaning⟩ := Condition.exists_parse_or h₁ h₂ hw hne hc₁ hc₂
      rw [← matching_eq_filter hparse hget]
      · exact hanswers _ c hparse
      · intro card hcard row hrow
        simp [mem_matching_iff h₁, mem_matching_iff h₂, hrow, hmeaning, hcard]
  · intro q t c cs h htext hc
    have hparse := Condition.parse_dash h htext hc
    have hdash : answers ("-" ++ q)
        (cards.filter fun card ↦ decide (card ∉ db.matching owner now cards q)) := by
      rw [← matching_eq_filter hparse hget]
      · exact hanswers _ _ hparse
      · intro card hcard row hrow
        simp [mem_matching_iff h, hrow, Schema.holds_negate, hcard]
    exact ⟨hdash, fun hsearchable ↦ hdash.eq_ok hparse hsearchable.negate⟩

/-- A card without English is found by the negation of a filter on its English, and every card by
the negation of a filter on a field that there is not. -/
theorem searchCards_put_together_without_english :
    let alice : Subject := ⟨"alice"⟩
    let ops : List Operation := [.add alice ⟨.hanzi, "好", none, ["a"]⟩,
      .add alice ⟨.hanzi, "学", some "study", []⟩]
    let db := Database.empty.after ops
    let search (query : String) := db.searchCards (some alice) query .epoch 2
    db.count alice ≤ 2 ∧ ∃ (cards : List Card) (found : String → List Card),
      (cardsOf ops alice).map (db.get alice) = cards.map (fun card ↦ .ok (some card)) ∧
      search "tag:a" = .ok (found "tag:a") ∧
      search "-english:study" = .ok (found "-english:study") ∧
      search ("tag:a" ++ " " ++ "-english:study") = .ok (cards.filter fun card ↦
        decide (card ∈ found "tag:a" ∧ card ∈ found "-english:study")) ∧
      search ("tag:a" ++ " " ++ "OR" ++ " " ++ "-english:study") = .ok (cards.filter fun card ↦
        decide (card ∈ found "tag:a" ∨ card ∈ found "-english:study")) ∧
      search "colour:red" = .ok (found "colour:red") ∧
      search ("-" ++ "colour:red") =
        .ok (cards.filter fun card ↦ decide (card ∉ found "colour:red")) := by
  intro alice ops db search
  have hcount : db.count alice ≤ 2 := by
    refine le_trans List.countP_le_length ?_
    rw [← List.length_map (·.id), map_id_cards_after]
    simp [ops, addedCards, additions, Operation.addition?, List.eraseDups_cons, List.filter_cons]
    split <;> simp [List.eraseDups_cons]
  have htag : Condition.parse "tag:a" = .ok (some (.term (.fielded "tag" .has "a"))) := by
    decide +kernel
  have henglish : Condition.parse "-english:study" =
      .ok (some (.term (Term.fielded "english" .has "study").negate)) := by decide +kernel
  have hcolour : Condition.parse "colour:red" =
      .ok (some (.term (.fielded "colour" .has "red"))) := by decide +kernel
  have hboth : Condition.parse ("tag:a" ++ " " ++ "-english:study") =
      .ok (some (.all [.term (.fielded "tag" .has "a"),
        .term (Term.fielded "english" .has "study").negate])) := by decide +kernel
  have hsome : Condition.parse ("tag:a" ++ " " ++ "OR" ++ " " ++ "-english:study") =
      .ok (some (.any [.term (.fielded "tag" .has "a"),
        .term (Term.fielded "english" .has "study").negate])) := by decide +kernel
  have htagFits : Filter.isShort (.tagged "a") = true ∧ Filter.fits (.tagged "a") = true := by
    decide
  have hstudyFits : Filter.isShort (.contains .english "study") = true ∧
      Filter.fits (.contains .english "study") = true := by decide
  obtain ⟨cards, found, -, hcards, hanswers, htogether, hdash⟩ :=
    searchCards_put_together ops alice .epoch 2 hcount
  obtain ⟨hand, hor⟩ :=
    htogether "tag:a" "-english:study" " " _ _ htag henglish isGap_space (by decide)
  obtain ⟨-, hnot⟩ := hdash "colour:red" _ 'c' ['o', 'l', 'o', 'u', 'r', ':', 'r', 'e', 'd']
    hcolour (by simp) (by decide)
  have hcolourSearchable := Database.searchable_term alice .epoch
    (t := .fielded "colour" .has "red") 2 trivial
  have handSearchable := Database.searchable_compile .epoch (c := .all
    [.term (.fielded "tag" .has "a"), .term (Term.fielded "english" .has "study").negate])
    rfl (by decide) ⟨htagFits, hstudyFits, trivial⟩ alice 2
  have horSearchable := Database.searchable_compile .epoch (c := .any
    [.term (.fielded "tag" .has "a"), .term (Term.fielded "english" .has "study").negate])
    rfl (by decide) ⟨htagFits, hstudyFits, trivial⟩ alice 2
  exact ⟨hcount, cards, found, hcards,
    (hanswers _ _ htag).eq_ok htag (Database.searchable_term alice .epoch 2 htagFits),
    (hanswers _ _ henglish).eq_ok henglish (Database.searchable_term alice .epoch 2 hstudyFits),
    hand.eq_ok hboth handSearchable, (hor (by simp) (by simp)).eq_ok hsome horSearchable,
    (hanswers _ _ hcolour).eq_ok hcolour hcolourSearchable, hnot hcolourSearchable⟩

/-! ### Beyond the limits -/

/-- A query that asks for a letter in the item, again and again. -/
def letterQuery : Nat → String
  | 0 => "entry:a"
  | n + 1 => letterQuery n ++ " " ++ "entry:a"

/-- Only a conjunction has more conjuncts than one. -/
theorem eq_all_of_conjuncts {o : Option Condition} {cs : List Condition}
    (h : Condition.conjuncts o = cs) (hlength : 2 ≤ cs.length) : o = some (.all cs) := by
  rcases o with _ | _ | ds | ds
  · simp [← h, Condition.conjuncts] at hlength
  · simp [← h, Condition.conjuncts] at hlength
  · rw [← h, Condition.conjuncts]
  · simp [← h, Condition.conjuncts] at hlength

theorem exists_parse_letterQuery (n : Nat) : ∃ o, Condition.parse (letterQuery n) = .ok o ∧
    Condition.conjuncts o = List.replicate (n + 1) (.term (.fielded "entry" .has "a")) := by
  have hletter : Condition.parse "entry:a" = .ok (some (.term (.fielded "entry" .has "a"))) := by
    decide +kernel
  induction n with
  | zero => exact ⟨_, hletter, rfl⟩
  | succ n ih =>
    obtain ⟨o, hparse, hconjuncts⟩ := ih
    obtain ⟨o', hparse', hconjuncts'⟩ :=
      Condition.exists_parse_append (w := " ") hparse hletter isGap_space (by decide)
    refine ⟨o', hparse', ?_⟩
    rw [hconjuncts', hconjuncts]
    exact List.replicate_succ'.symm

theorem parse_letterQuery {n : Nat} (hn : 0 < n) :
    Condition.parse (letterQuery n) = .ok (some (letterRow (n + 1))) := by
  obtain ⟨o, hparse, hconjuncts⟩ := exists_parse_letterQuery n
  rw [hparse, eq_all_of_conjuncts hconjuncts (by rw [List.length_replicate]; omega)]
  rfl

/-- A card is found by a query, but not by twice the query, whose conjuncts are too many. -/
theorem searchCards_fails_put_together :
    let alice : Subject := ⟨"alice"⟩
    let id := CardId.ofCard alice .hanzi "a"
    let db := Database.empty.after [.add alice ⟨.hanzi, "a", none, []⟩]
    let search (query : String) := db.searchCards (some alice) query .epoch 1
    let q := letterQuery 599
    db.count alice ≤ 1 ∧ (∃ c, Condition.parse q = .ok (some c)) ∧ IsGap " ".toList ∧
      search q = .ok [⟨id, .hanzi, "a", none, []⟩] ∧ search (q ++ " " ++ q) = .error .database := by
  intro alice id db search q
  let ops : List Operation := [.add alice ⟨.hanzi, "a", none, []⟩]
  have hdb : db = ⟨[⟨id, alice, "hanzi", "a", none⟩], [], []⟩ :=
    Database.after_add alice .hanzi "a" none
  have hwell : db.WellFormed := Database.WellFormed.empty.after ops
  have hcount : db.count alice ≤ (1 : UInt64).toNat := by simp [hdb, Database.count]
  have hparse : Condition.parse q = .ok (some (letterRow 600)) := parse_letterQuery (by omega)
  have hget : db.get alice id = .ok (some ⟨id, .hanzi, "a", none, []⟩) :=
    Database.get_after_add alice .hanzi "a" none
  have hfits := Database.fits_letterRow (Database.owned?_after_add alice .hanzi "a" none) rfl
    .epoch 600
  have hcards : ((db.cards.filter (·.owner == alice)).map (·.id)).map (db.get alice) =
      [(⟨id, .hanzi, "a", none, []⟩ : Card)].map fun card ↦ .ok (some card) := by
    have hids : (db.cards.filter (·.owner == alice)).map (·.id) = [id] := by simp [hdb]
    rw [hids, List.map_singleton, hget, List.map_singleton]
  have hanswers := (hwell.answers hcards hparse .epoch hcount).eq_ok hparse
    (Database.searchable_letterRow (by omega) (by omega) .epoch alice _)
  rw [Database.matching_of_parse hparse, List.filter_cons_of_pos (by exact hfits),
    List.filter_nil] at hanswers
  -- the conjuncts of both copies of the query make up one row
  obtain ⟨o, htwice, hconjuncts⟩ :=
    Condition.exists_parse_append (w := " ") hparse hparse isGap_space (by decide)
  have hrow : o = some (letterRow 1200) := by
    refine eq_all_of_conjuncts (hconjuncts.trans List.replicate_append_replicate) ?_
    rw [List.length_replicate]
    omega
  refine ⟨hcount, ⟨_, hparse⟩, isGap_space, hanswers, ?_⟩
  show db.searchCards (some alice) (q ++ " " ++ q) .epoch 1 = _
  rw [Database.searchCards_of_parse (hrow ▸ htwice), db.search_letterRow alice .epoch (by omega) 1]
  rfl

end SpacedReview.Store

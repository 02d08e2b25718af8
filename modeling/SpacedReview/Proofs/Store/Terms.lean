import SpacedReview.Proofs.Query.Groups
import SpacedReview.Proofs.Store.Due

/-!
# What single terms find

A search is given a predicate, and a query has to be parsed and compiled before its cards are looked
up one by one, but none of that matters to what a single term finds. After any history it finds
those of a user's cards on which the term holds, in their order, and whether it holds is read off
the filters that the schema has for it (`Query.Schema.termHolds`). What is found is said here for
every limit that leaves no card out, both of the search for the condition and of the queries for it.
The texts in the term are not so long that SQL refuses them.

## Main statements

* `Database.Finds`: what the searches for a condition and the queries for it find.
* `finds_term`: what a single term finds after any history.
-/

namespace SpacedReview.Store

open SpacedReview.Query SpacedReview.Text SpacedReview.Time

variable {ops : List Operation} {owner : Subject} {id : CardId}

/-- The search for a condition finds these of a user's cards, and so do the queries for it, whatever
limit leaves none of the user's cards out. -/
def Database.Finds (db : Database) (owner : Subject) (now : Instant) (c : Condition)
    (ids : List CardId) : Prop :=
  ∀ limit : UInt64, db.count owner ≤ limit.toNat →
    db.search owner ((cardSchema now).compile c).predicate limit.toNat = .ok ids ∧
      ∀ query, Condition.parse query = .ok (some c) →
        ∃ cards, db.searchCards (some owner) query now limit.toNat = .ok cards ∧
          cards.map (·.id) = ids

/-- What a condition finds among the cards of a database is what fits it. -/
theorem Database.WellFormed.finds {db : Database} (hdb : db.WellFormed) {owner : Subject}
    {now : Instant} {c : Condition}
    (h : ∀ limit, Searchable owner ((cardSchema now).compile c).predicate limit) :
    db.Finds owner now c (((db.cards.filter (·.owner == owner)).map (·.id)).filter
      (db.fits owner ((cardSchema now).compile c).predicate)) := by
  refine fun limit hlimit ↦ ⟨hdb.search_compile_eq owner now hlimit (h _), fun query hparse ↦ ?_⟩
  obtain ⟨cards, hids, hcards⟩ := hdb.exists_searchCards owner now hlimit (h limit.toNat)
  exact ⟨cards, hcards query hparse, hids⟩

/-- A user's cards are those that are stored as the user's. -/
theorem mem_cardsOf_iff :
    id ∈ cardsOf ops owner ↔ ∃ card, (Database.empty.after ops).owned? owner id = some card := by
  have hdb : (Database.empty.after ops).WellFormed := Database.WellFormed.empty.after ops
  simp only [← map_id_filter_cards_after, List.mem_map, List.mem_filter, beq_iff_eq,
    hdb.owned?_eq_some_iff, and_assoc, and_comm]

/-- Does a term hold on the user's card with an identifier? -/
def Database.termFits (db : Database) (owner : Subject) (now : Instant) (t : Term) (id : CardId) :
    Bool :=
  (db.owned? owner id).any fun card ↦ (cardSchema now).termHolds (Filter.accepts (db.row card)) t

theorem Database.termFits_of_owned {db : Database} {card : CardRow}
    (h : db.owned? owner id = some card) (now : Instant) (t : Term) :
    db.termFits owner now t id =
      (cardSchema now).termHolds (Filter.accepts (db.row card)) t := by
  rw [termFits, h, Option.any_some]

/-- Whether a term finds a user's card is a matter of the card's row. -/
theorem mem_filter_termFits {card : CardRow}
    (h : (Database.empty.after ops).owned? owner id = some card) (now : Instant) (t : Term) :
    id ∈ (cardsOf ops owner).filter ((Database.empty.after ops).termFits owner now t) ↔
      (cardSchema now).termHolds (Filter.accepts ((Database.empty.after ops).row card)) t =
        true := by
  rw [List.mem_filter, and_iff_right (mem_cardsOf_iff.2 ⟨card, h⟩), Database.termFits_of_owned h]

/-- A single term whose texts are not too long finds those of a user's cards, in the order in which
they were first added, on which it holds. -/
theorem finds_term (ops : List Operation) (owner : Subject) {now : Instant} {t : Term}
    (h : ((cardSchema now).compileUnsigned t).predicate.AllAtoms
      fun f ↦ f.isShort = true ∧ f.fits = true) :
    (Database.empty.after ops).Finds owner now (.term t)
      ((cardsOf ops owner).filter ((Database.empty.after ops).termFits owner now t)) := by
  have hfits : (Database.empty.after ops).termFits owner now t =
      (Database.empty.after ops).fits owner ((cardSchema now).compile (.term t)).predicate := by
    funext id
    simp only [Database.termFits, ← Schema.holds_term]
    rfl
  rw [hfits, ← map_id_filter_cards_after]
  exact (Database.WellFormed.empty.after ops).finds fun limit ↦
    Database.searchable_term owner now limit h

end SpacedReview.Store

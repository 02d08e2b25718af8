import SpacedReview.Proofs.Store.Records
import SpacedReview.Proofs.Store.Search
import SpacedReview.Proofs.Time.Order

/-!
# Searching due cards

There are two ways to ask whether a card is due. A search compares the stored text of the next
review with the text of the present time; whoever loads the record of a card compares instants. The
texts are in the order of the instants, cut off after the millisecond, and the stored one has been
cut off anyway, so both ways agree wherever the years have four digits.

## Main statements

* `Database.WellFormed.exists_searchCards`: a query whose limit leaves nothing out.
* `Database.fits_due_iff`: the filter on due cards is about the loaded record.
* `mem_search_due_iff`: the search for due cards finds a card just if its record is due, or it has
  none.
-/

namespace SpacedReview.Store

open SpacedReview.Query SpacedReview.Review SpacedReview.Sql SpacedReview.Text SpacedReview.Time

/-! ### The length of times -/

/-- A character has four bytes at most. -/
theorem utf8ByteSize_le (s : String) : s.utf8ByteSize ≤ 4 * s.toList.length := by
  rw [← String.ofList_toList (s := s), String.utf8ByteSize_ofList, String.toList_ofList]
  induction s.toList with
  | nil => exact Nat.le_refl 0
  | cons c cs ih =>
    have := c.utf8Size_le_four
    simp only [String.utf8Len_cons, List.length_cons]
    omega

namespace Database

/-! ### Searches without a limit -/

theorem limited_limitOf {α : Type} {l : List α} {limit : UInt64} (h : l.length ≤ limit.toNat) :
    limited l (limitOf limit.toNat) = l := by
  rw [limitOf_eq limit.toNat_lt]
  split
  · exact List.take_of_length_le h
  · rfl

/-- A card is found under the identifier that it is looked up by. -/
theorem id_of_get {db : Database} {owner : Subject} {id : CardId} {card : Card}
    (h : db.get owner id = .ok (some card)) : card.id = id := by
  unfold get at h
  split at h
  · cases h
  · split at h
    · cases h
    · obtain rfl := Option.some.inj (Except.ok.inj h)
      rfl

/-- Identifiers that cards are read under are those of the cards. -/
theorem map_id_eq {db : Database} {owner : Subject} {ids : List CardId} {cards : List Card}
    (h : ids.map (db.get owner) = cards.map fun card ↦ .ok (some card)) :
    cards.map (·.id) = ids := by
  induction ids generalizing cards with
  | nil =>
    obtain rfl : cards = [] := List.map_eq_nil_iff.1 h.symm
    rfl
  | cons id ids ih =>
    obtain ⟨card, cards, rfl, hcard, hcards⟩ := List.map_eq_cons_iff.1 h.symm
    rw [List.map_cons, id_of_get hcard.symm, ih hcards.symm]

/-- Under a limit that leaves nothing out, all cards are found on which the predicate holds. -/
theorem found_eq {db : Database} {owner : Subject} {limit : UInt64}
    (hlimit : db.count owner ≤ limit.toNat) (p : Predicate Filter) :
    db.found owner p limit.toNat =
      ((db.cards.filter (·.owner == owner)).map (·.id)).filter (db.fits owner p) := by
  refine limited_limitOf ((List.length_filter_le _ _).trans ?_)
  rwa [List.length_map, ← List.countP_eq_length_filter]

/-- A search whose limit leaves nothing out finds those of a user's cards on which the predicate of
the condition holds. -/
theorem WellFormed.search_compile_eq {db : Database} (hdb : db.WellFormed) (owner : Subject)
    (now : Instant) {c : Condition} {limit : UInt64} (hlimit : db.count owner ≤ limit.toNat)
    (h : Searchable owner ((cardSchema now).compile c).predicate limit.toNat) :
    db.search owner ((cardSchema now).compile c).predicate limit.toNat =
      .ok (((db.cards.filter (·.owner == owner)).map (·.id)).filter
        (db.fits owner ((cardSchema now).compile c).predicate)) := by
  rw [hdb.search_eq (allAtoms_isBounded_compile now c) h, found_eq hlimit]

/-- A query whose limit leaves nothing out gives those of a user's cards on which the predicate of
its condition holds. -/
theorem WellFormed.exists_searchCards {db : Database} (hdb : db.WellFormed) (owner : Subject)
    (now : Instant) {c : Condition} {limit : UInt64} (hlimit : db.count owner ≤ limit.toNat)
    (h : Searchable owner ((cardSchema now).compile c).predicate limit.toNat) :
    ∃ cards : List Card, cards.map (·.id) =
        ((db.cards.filter (·.owner == owner)).map (·.id)).filter
          (db.fits owner ((cardSchema now).compile c).predicate) ∧
      ∀ query, Condition.parse query = .ok (some c) →
        db.searchCards (some owner) query now limit.toNat = .ok cards := by
  obtain ⟨cards, hcards, hmap⟩ :=
    hdb.exists_getAll_found owner ((cardSchema now).compile c).predicate limit.toNat
  rw [found_eq hlimit] at hcards hmap
  refine ⟨cards, map_id_eq hmap, fun query hquery ↦ ?_⟩
  rw [searchCards_of_parse hquery, hdb.search_compile_eq owner now hlimit h]
  exact hcards

/-! ### Due cards -/

theorem compile_due (now : Instant) :
    ((cardSchema now).compile (.term ⟨some "is", .has, "due", false⟩)).predicate =
      .atom (.due now) := rfl

theorem parse_due :
    Condition.parse "is:due" = .ok (some (.term ⟨some "is", .has, "due", false⟩)) := by
  decide +kernel

/-- The search for due cards is within the limits of SQL. -/
theorem searchable_due {now : Instant} (hnow : now.HasFourDigitYear) (owner : Subject)
    (limit : Nat) : Searchable owner (.atom (.due now)) limit := by
  have hstored : now.stored.utf8ByteSize ≤ maxBytes := by
    have hlength := utf8ByteSize_le now.stored
    rw [Instant.stored, String.toList_ofList, Instant.length_printStored hnow] at hlength
    exact hlength.trans (by decide)
  have hfits : (Filter.due now).fits = true := by
    show (decide (now.stored.utf8ByteSize ≤ maxBytes) && true) = true
    rw [Bool.and_true]
    exact decide_eq_true hstored
  have hdue : Predicate.AllAtoms (fun f : Filter ↦ f.isShort = true ∧ f.fits = true)
      (.atom (.due now)) := ⟨rfl, hfits⟩
  exact searchable_of_size_le rfl (Nat.le_of_ble_eq_true rfl) hdue owner limit

/-- A record that was stored with a year of four digits is due if its text is not above that of the
present time. -/
theorem isDue_restored_iff {r : Record} {now : Instant} (hyear : r.nextReview.HasFourDigitYear)
    (hnow : now.HasFourDigitYear) :
    r.restored.isDue now = true ↔ (QuizRow.write r).nextReview ≤ now.stored := by
  show decide (r.nextReview.truncated ≤ now) = true ↔ r.nextReview.stored ≤ now.stored
  rw [decide_eq_true_iff, Instant.stored_le_stored_iff hyear hnow, Instant.truncated_le_iff]

/-- The filter on due cards is about the record that is loaded, where the years have four digits. -/
theorem fits_due_iff {db : Database} {owner : Subject} {id : CardId} {now : Instant}
    (howned : (db.owned? owner id).isSome = true) (hnow : now.HasFourDigitYear)
    (hstored : ∀ quiz ∈ db.quiz? id, ∃ r, quiz = QuizRow.write r ∧
      r.nextReview.HasFourDigitYear) :
    ∃ loaded, db.load owner id = .ok loaded ∧
      (db.fits owner (.atom (.due now)) id = true ↔ loaded.all (·.isDue now) = true) := by
  obtain ⟨card, hcard⟩ := Option.isSome_iff_exists.1 howned
  have hid : card.id = id := by
    have hkey := List.find?_some hcard
    simp only [Bool.and_eq_true, beq_iff_eq] at hkey
    exact hkey.1
  have hfits : db.fits owner (.atom (.due now)) id =
      (db.quiz? id).all fun quiz ↦ decide (quiz.nextReview ≤ now.stored) := by
    simp [fits, hcard, Predicate.holds, Filter.accepts, row, hid]
  rw [load_of_owned howned, hfits]
  cases hquiz : db.quiz? id with
  | none => exact ⟨none, rfl, by simp⟩
  | some quiz =>
    obtain ⟨r, rfl, hyear⟩ := hstored quiz (by simp [hquiz])
    refine ⟨some r.restored, by simp only [QuizRow.read_write hyear]; rfl, ?_⟩
    simp [isDue_restored_iff hyear hnow]

end Database

/-- After any history the search for due cards finds a user's card just if no record is loaded for
it or the loaded record is due, as long as the present time and the stored next review have years of
four digits and the limit leaves no card out. -/
theorem mem_search_due_iff (ops : List Operation) (owner : Subject) (id : CardId) (now : Instant)
    (limit : UInt64) (howned : ((Database.empty.after ops).owned? owner id).isSome = true)
    (hnow : now.HasFourDigitYear)
    (hstored : ∀ quiz ∈ (Database.empty.after ops).quiz? id, ∃ r, quiz = Database.QuizRow.write r ∧
      r.nextReview.HasFourDigitYear)
    (hlimit : (Database.empty.after ops).count owner ≤ limit.toNat) :
    let db := Database.empty.after ops
    ∃ cards loaded, db.searchCards (some owner) "is:due" now limit.toNat = .ok cards ∧
      db.load owner id = .ok loaded ∧
        (id ∈ cards.map (·.id) ↔ loaded.all (·.isDue now) = true) := by
  intro db
  have hdb : db.WellFormed := Database.WellFormed.empty.after ops
  obtain ⟨cards, hids, hcards⟩ := hdb.exists_searchCards owner now
    (c := .term ⟨some "is", .has, "due", false⟩) hlimit (Database.searchable_due hnow owner _)
  obtain ⟨loaded, hload, hdue⟩ := Database.fits_due_iff howned hnow hstored
  have hmem : id ∈ (db.cards.filter (·.owner == owner)).map (·.id) := by
    obtain ⟨card, hcard⟩ := Option.isSome_iff_exists.1 howned
    obtain ⟨hcard, hid, howner⟩ := hdb.owned?_eq_some_iff.1 hcard
    exact List.mem_map.2 ⟨card, List.mem_filter.2 ⟨hcard, by simpa using howner⟩, hid⟩
  refine ⟨cards, loaded, hcards _ Database.parse_due, hload, ?_⟩
  rw [hids, List.mem_filter, and_iff_right hmem, Database.compile_due]
  exact hdue

/-- A card that is due later in the present millisecond, here one of a leap second, is found, and
its record counts as due. -/
theorem mem_search_due_within_millisecond :
    let alice : Subject := ⟨"alice"⟩
    let id := CardId.ofCard alice .hanzi "好"
    let next : Instant := ⟨1483228799, 1000500000, by decide, by decide, by decide, by decide⟩
    let now : Instant := ⟨1483228799, 1000400000, by decide, by decide, by decide, by decide⟩
    let db := Database.empty.after [.add alice ⟨.hanzi, "好", none, []⟩,
      .save (some alice) ⟨id, 0, next, .initial⟩]
    now < next ∧ ∃ cards loaded, db.searchCards (some alice) "is:due" now 10 = .ok cards ∧
      db.load alice id = .ok (some loaded) ∧ id ∈ cards.map (·.id) ∧ loaded.isDue now = true := by
  intro alice id next now db
  let r : Record := ⟨id, 0, next, .initial⟩
  have hdb : db = ⟨[⟨id, alice, "hanzi", "好", none⟩], [], [Database.QuizRow.write r]⟩ :=
    Database.after_add_save alice .hanzi "好" none rfl
  have howned : (db.owned? alice id).isSome = true := by simp [hdb, Database.owned?]
  have hquiz : db.quiz? id = some (Database.QuizRow.write r) := by
    simp [hdb, Database.quiz?, Database.QuizRow.write, r]
  have hcount : db.count alice ≤ (10 : UInt64).toNat := by simp [hdb, Database.count]
  have hyear : r.nextReview.HasFourDigitYear := by decide
  have hnow : now.HasFourDigitYear := by decide
  obtain ⟨cards, loaded, hcards, hload, hmem⟩ := mem_search_due_iff _ alice id now 10 howned hnow
    (fun quiz hmem ↦ ⟨r, (Option.some.inj (hquiz.symm.trans hmem)).symm, hyear⟩) hcount
  have hdue : r.restored.isDue now = true := by decide
  have hrestored : loaded = some r.restored := by
    rw [Database.load_of_owned howned, hquiz] at hload
    simp only [Database.QuizRow.read_write hyear] at hload
    exact (Except.ok.inj hload).symm
  subst hrestored
  exact ⟨by decide, cards, r.restored, hcards, hload, hmem.2 hdue, hdue⟩

end SpacedReview.Store

import SpacedReview.Proofs.Store.Remembering
import SpacedReview.Proofs.Store.Terms

/-!
# Searching by level and by answers

The numbers of a review record are read in two ways. Whoever loads the record decodes the whole row,
and a search takes single numbers out of the row: the level from its column, and how often a card
was answered right or wrong in a row from the JSON text of the statistics, by the names under which
they are stored there. Both find the numbers that were written, and both have zero where there is no
record. So a search by a number is about the record that is loaded.

A value that is no numeral of 64 bits makes the filter match nothing, and its negation everything.

## Main statements

* `Database.exists_load_number`: a row has the numbers of the record that is loaded.
* `finds_number`: what the searches by a number find.
-/

namespace SpacedReview

open SpacedReview.Query SpacedReview.Review SpacedReview.Store SpacedReview.Text SpacedReview.Time

/-! ### Numbers and relations -/

/-- A number in a review record. -/
def Review.Record.number (r : Record) : NumberColumn → Nat
  | .level => r.level
  | .right => r.stat.streak.right.toNat
  | .wrong => r.stat.streak.wrong.toNat

/-- The names of numbers in queries. -/
def NumberColumn.names : List (String × NumberColumn) :=
  [("level", level), ("srsLevel", level), ("right", right), ("wrong", wrong)]

/-- Do two numbers stand in the relation that an operator asks for? What `:` asks of numbers is that
they are equal. -/
def Query.Operator.Relates : Operator → Int → Int → Prop
  | has, m, n | equal, m, n => m = n
  | less, m, n => m < n
  | atMost, m, n => m ≤ n
  | greater, m, n => n < m
  | atLeast, m, n => n ≤ m

theorem Query.Operator.admits_compare_iff {op : Operator} {m n : Int} :
    op.relation.admits (compare m n) = true ↔ op.Relates m n := by
  cases op <;>
    simp [relation, Sql.Relation.admits, Relates, Int.compare_eq_lt, Int.compare_eq_gt,
      Int.isLE_compare, Int.isGE_compare]

instance (op : Operator) (m n : Int) : Decidable (op.Relates m n) :=
  decidable_of_iff _ Operator.admits_compare_iff

namespace Store

/-! ### Two ways to read a record -/

/-- A row with a stored record has the numbers of the record. -/
theorem Row.number_eq_of_write {row : Row} {r : Record}
    (hquiz : row.quiz = some (Database.QuizRow.write r)) (hlevel : r.level < 2 ^ 63)
    (column : NumberColumn) : row.number column = r.number column := by
  cases column with
  | level =>
    simp [number, hquiz, Database.QuizRow.write, Decimal.wrapInt64_of_lt hlevel, Record.number]
  | right =>
    rw [number, counter_eq (n := r.stat.streak.right.toNat) hquiz (by simp [Streak.counters]),
      Record.number]
  | wrong =>
    rw [number, counter_eq (n := r.stat.streak.wrong.toNat) hquiz (by simp [Streak.counters]),
      Record.number]

/-- A row without a record has no numbers but zero. -/
theorem Row.number_eq_zero {row : Row} (hquiz : row.quiz = none) (column : NumberColumn) :
    row.number column = 0 := by
  cases column <;> simp [number, counter, hquiz]

/-- The row of a card has the numbers of the record that is loaded for the card. -/
theorem Database.exists_load_number {db : Database} {owner : Subject} {id : CardId}
    {card : CardRow} (hcard : db.owned? owner id = some card) (hid : card.id = id)
    (hstored : ∀ quiz ∈ db.quiz? id, ∃ r : Record, quiz = QuizRow.write r ∧ r.IsStorable) :
    ∃ loaded, db.load owner id = .ok loaded ∧
      ∀ column, (db.row card).number column = (loaded.elim 0 (·.number column) : Nat) := by
  rw [load_of_owned (Option.isSome_iff_exists.2 ⟨card, hcard⟩)]
  subst hid
  cases hquiz : db.quiz? card.id with
  | none => exact ⟨none, rfl, fun column ↦ Row.number_eq_zero hquiz column⟩
  | some quiz =>
    obtain ⟨r, rfl, hr⟩ := hstored quiz hquiz
    refine ⟨some r.truncated, ?_, fun column ↦ ?_⟩
    · show (QuizRow.read (QuizRow.write r)).map some = _
      rw [QuizRow.read_write hr.nextReview, hr.restored_eq]
      rfl
    · rw [Row.number_eq_of_write hquiz hr.level]
      cases column <;> rfl

/-! ### Searches -/

/-- A term by a number is about the number of the row if its value is a numeral, and else it does
not hold. -/
theorem termHolds_number {name : String} {column : NumberColumn}
    (hname : (name, column) ∈ NumberColumn.names) (now : Instant) (row : Row) (op : Operator)
    (text : String) :
    (cardSchema now).termHolds (Filter.accepts row) (.fielded name op text) =
      (Decimal.int64? text).any fun n ↦ op.relation.admits (compare (row.number column) n) := by
  have hcomparing : (Filter.comparing column op text).any (Filter.accepts row) =
      (Decimal.int64? text).any fun n ↦ op.relation.admits (compare (row.number column) n) := by
    rw [Filter.comparing, Option.any_map]
    rfl
  rw [← hcomparing]
  simp only [NumberColumn.names, List.mem_cons, Prod.mk.injEq, List.not_mem_nil, or_false] at hname
  rcases hname with ⟨rfl, rfl⟩ | ⟨rfl, rfl⟩ | ⟨rfl, rfl⟩ | ⟨rfl, rfl⟩ <;>
    simp [Schema.termHolds, Schema.someFilterHolds, Schema.filterHolds, cardSchema, Term.fielded,
      CardField.ofName?, Filter.ofTerm?]

/-- A term by a number has no long texts. -/
theorem isShort_number {name : String} {column : NumberColumn}
    (hname : (name, column) ∈ NumberColumn.names) (now : Instant) (op : Operator) (text : String) :
    ((cardSchema now).compileUnsigned (.fielded name op text)).predicate.AllAtoms
      fun f ↦ f.isShort = true ∧ f.fits = true := by
  have hcomparing : ∀ field : CardField, Filter.ofTerm? now field op text =
      Filter.comparing column op text →
        ((cardSchema now).compileFilter (.fielded name op text) field).predicate.AllAtoms
          fun f ↦ f.isShort = true ∧ f.fits = true := by
    intro field hfield
    have hatom : (cardSchema now).atom? field op text =
      (Decimal.int64? text).map (Filter.compares column op.relation) := hfield
    cases hn : Decimal.int64? text with
    | none => simp [Schema.compileFilter, Term.fielded, hatom, hn, Predicate.AllAtoms]
    | some n =>
      have hfits : (Filter.compares column op.relation n).fits = true := rfl
      simp [Schema.compileFilter, Term.fielded, hatom, hn, Predicate.AllAtoms, Filter.isShort,
        hfits]
  simp only [NumberColumn.names, List.mem_cons, Prod.mk.injEq, List.not_mem_nil, or_false] at hname
  rcases hname with ⟨rfl, rfl⟩ | ⟨rfl, rfl⟩ | ⟨rfl, rfl⟩ | ⟨rfl, rfl⟩
  · exact hcomparing .level rfl
  · exact hcomparing .level rfl
  · exact hcomparing .right rfl
  · exact hcomparing .wrong rfl

/-- After any history a search by a number with a numeral finds those of a user's cards whose
number, as it is in the record that is loaded for the card, and zero where there is none, stands in
the relation to the numeral. With any other value it finds nothing, and its negation everything. The
records that are stored for the cards are those that a row can hold. -/
theorem finds_number (ops : List Operation) (owner : Subject) (now : Instant) (name : String)
    (column : NumberColumn) (hname : (name, column) ∈ NumberColumn.names) (op : Operator)
    (text : String) :
    let db := Database.empty.after ops
    ∃ found left, db.Finds owner now (.term (.fielded name op text)) found ∧
      db.Finds owner now (.term (Term.fielded name op text).negate) left ∧
      found.Sublist (cardsOf ops owner) ∧
      (∀ id ∈ cardsOf ops owner,
        (∀ quiz ∈ db.quiz? id, ∃ r : Record, quiz = Database.QuizRow.write r ∧ r.IsStorable) →
          ∃ loaded, db.load owner id = .ok loaded ∧
            ∀ n, Decimal.int64? text = some n →
              (id ∈ found ↔ op.Relates (loaded.elim 0 (·.number column) : Nat) n)) ∧
      (Decimal.int64? text = none → found = [] ∧ left = cardsOf ops owner) := by
  intro db
  have hdb : db.WellFormed := Database.WellFormed.empty.after ops
  have hshort := isShort_number hname now op text
  refine ⟨_, _, finds_term ops owner hshort, finds_term ops owner hshort, List.filter_sublist,
    fun id hid hstored ↦ ?_, fun htext ↦ ?_⟩
  · obtain ⟨card, hcard⟩ := mem_cardsOf_iff.1 hid
    obtain ⟨loaded, hload, hnumber⟩ :=
      db.exists_load_number hcard (hdb.owned?_eq_some_iff.1 hcard).2.1 hstored
    refine ⟨loaded, hload, fun n hn ↦ ?_⟩
    rw [mem_filter_termFits hcard, termHolds_number hname, hn, Option.any_some,
      Operator.admits_compare_iff, hnumber column]
  · have hnone : ∀ id ∈ cardsOf ops owner,
        db.termFits owner now (.fielded name op text) id = false ∧
          db.termFits owner now (Term.fielded name op text).negate id = true := by
      intro id hid
      obtain ⟨card, hcard⟩ := mem_cardsOf_iff.1 hid
      simp [db, Database.termFits_of_owned hcard, Schema.termHolds_negate,
        termHolds_number hname, htext]
    exact ⟨List.filter_eq_nil_iff.2 fun id hid ↦ Bool.eq_false_iff.1 (hnone id hid).1,
      List.filter_eq_self.2 fun id hid ↦ (hnone id hid).2⟩

/-- A card on level three that was answered right twice in a row, and a value that is no number. -/
theorem finds_number_of_saved :
    let alice : Subject := ⟨"alice"⟩
    let id := CardId.ofCard alice .hanzi "好"
    let r : Record := ⟨id, 3, .epoch, ⟨⟨2, 0, 2, 1⟩, some .epoch, none⟩⟩
    let db := Database.empty.after [.add alice ⟨.hanzi, "好", none, []⟩, .save (some alice) r]
    db.load alice id = .ok (some r) ∧
      db.Finds alice .epoch (.term (.fielded "srsLevel" .atLeast "3")) [id] ∧
      db.Finds alice .epoch (.term (.fielded "right" .less "+2")) [] ∧
      db.Finds alice .epoch (.term (.fielded "wrong" .has "none")) [] ∧
      db.Finds alice .epoch (.term (Term.fielded "wrong" .has "none").negate) [id] := by
  intro alice id r db
  let ops : List Operation := [.add alice ⟨.hanzi, "好", none, []⟩, .save (some alice) r]
  have hcards : cardsOf ops alice = [id] := cardsOf_of_additions rfl
  have hdb : db = ⟨[⟨id, alice, "hanzi", "好", none⟩], [], [Database.QuizRow.write r]⟩ :=
    Database.after_add_save alice .hanzi "好" none rfl
  have hquiz : db.quiz? id = some (Database.QuizRow.write r) := by
    simp [hdb, Database.quiz?, Database.QuizRow.write, r]
  have hr : r.IsStorable := ⟨by decide, by decide⟩
  have hload : db.load alice id = .ok (some r) := by
    have howned : (db.owned? alice id).isSome = true := by simp [hdb, Database.owned?]
    have htruncated : Instant.epoch.truncated = .epoch := by decide
    rw [Database.load_of_owned howned, hquiz]
    simp only [Database.QuizRow.read_write hr.nextReview, hr.restored_eq, Record.truncated, r,
      htruncated]
    rfl
  have hstored : ∀ quiz ∈ db.quiz? id, ∃ r : Record,
      quiz = Database.QuizRow.write r ∧ r.IsStorable :=
    fun quiz hmem ↦ ⟨r, (Option.some.inj (hquiz.symm.trans hmem)).symm, hr⟩
  have hmem : id ∈ cardsOf ops alice := by simp [hcards]
  obtain ⟨found, -, hfound, -, hsub, hlevel, -⟩ :=
    finds_number ops alice .epoch "srsLevel" .level (by decide) .atLeast "3"
  obtain ⟨found', -, hfound', -, hsub', hright, -⟩ :=
    finds_number ops alice .epoch "right" .right (by decide) .less "+2"
  obtain ⟨found'', left, hfound'', hleft, -, -, hwrong⟩ :=
    finds_number ops alice .epoch "wrong" .wrong (by decide) .has "none"
  obtain ⟨loaded, hloaded, hlevel⟩ := hlevel id hmem hstored
  obtain ⟨loaded', hloaded', hright⟩ := hright id hmem hstored
  obtain rfl := Except.ok.inj (hload.symm.trans hloaded)
  obtain rfl := Except.ok.inj (hload.symm.trans hloaded')
  rw [hcards, List.sublist_singleton] at hsub hsub'
  have hin : id ∈ found := (hlevel 3 (by decide)).2 (by decide)
  have hnotin : id ∉ found' := fun h ↦ absurd ((hright 2 (by decide)).1 h) (by decide)
  obtain rfl : found = [id] := hsub.resolve_left (List.ne_nil_of_mem hin)
  obtain rfl : found' = [] := hsub'.resolve_right fun h ↦ hnotin (h ▸ by simp)
  obtain ⟨rfl, rfl⟩ := hwrong (by decide)
  exact ⟨hload, hfound, hfound', hfound'', hcards ▸ hleft⟩

end Store

end SpacedReview

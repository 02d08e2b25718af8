import Mathlib.Data.List.Nodup
import SpacedReview.Proofs.Query.Meaning
import SpacedReview.Proofs.Store.History
import SpacedReview.Proofs.Store.Limits
import SpacedReview.Proofs.Store.Rows

/-!
# Searches find what they are asked for

A search evaluates a plan of its predicate in the three-valued logic of SQL, row by row, until its
limit is reached. On the databases that histories lead to all of this comes to a filter: the cards
found are those of the user on which the predicate holds, with every filter as `Filter.accepts` has
it, in the order in which the cards were first added.

A search may also fail, since SQL takes no condition that is too high, and compares no pattern that
is too long. So what is found is right if anything is, and a predicate that keeps within the limits
is searched for without failure (`Database.Searchable`).

## Main statements

* `Database.select_isOrFails`: a selection with known truth is a filter with a limit, or it fails.
* `search_after`: what searches find after any history.
* `search_fails_on_long_row`: a thousand conjuncts are too many.
-/

namespace SpacedReview

open SpacedReview.Query SpacedReview.Review SpacedReview.Sql SpacedReview.Text SpacedReview.Time

/-! ### Limits -/

theorem Text.Decimal.wrapInt64_neg {n : Nat} (hn : n < 2 ^ 64) (h : 2 ^ 63 ≤ n) :
    Decimal.wrapInt64 n < 0 := by
  show (n : Int).bmod 18446744073709551616 < 0
  rw [Int.bmod_def]
  split <;> omega

namespace Store

/-- The first elements of a list, up to a limit if there is one. -/
def limited {α : Type} (l : List α) : Option Nat → List α
  | none => l
  | some n => l.take n

namespace Database

/-- A limit of 64 bits that does not fit into a signed number is none. -/
theorem limitOf_eq {limit : Nat} (hlimit : limit < 2 ^ 64) :
    limitOf limit = if limit < 2 ^ 63 then some limit else none := by
  by_cases h : limit < 2 ^ 63
  · rw [limitOf, Decimal.wrapInt64_of_lt h, if_neg (by omega), if_pos h, Int.toNat_natCast]
  · rw [limitOf, if_pos (Decimal.wrapInt64_neg hlimit (by omega)), if_neg h]

/-! ### Rows of the join -/

/-- Among rows with different keys there is one with a given key at most. -/
theorem filter_eq_toList_find? {α κ : Type} [BEq κ] [LawfulBEq κ] {key : α → κ} {l : List α}
    (h : (l.map key).Nodup) (k : κ) :
    l.filter (key · == k) = (l.find? (key · == k)).toList := by
  induction l with
  | nil => rfl
  | cons a l ih =>
    obtain ⟨hnotin, hnodup⟩ := List.nodup_cons.1 h
    by_cases ha : key a = k
    · have hnone : l.filter (key · == k) = [] := by
        refine List.filter_eq_nil_iff.2 fun b hb hkey ↦ hnotin ?_
        rw [ha, ← eq_of_beq hkey]
        exact List.mem_map_of_mem hb
      simp [ha, hnone]
    · simp [ha, ih hnodup]

/-- The join neither drops a card nor has it twice, as no card has two review records. -/
theorem rowsOf_eq {db : Database} (h : (db.quizzes.map (·.id)).Nodup) (card : CardRow) :
    db.rowsOf card = [db.row card] := by
  simp only [rowsOf, filter_eq_toList_find? h, row, quiz?]
  cases db.quizzes.find? (·.id == card.id) <;> rfl

theorem rows_eq {db : Database} (h : (db.quizzes.map (·.id)).Nodup) (owner : Subject) :
    db.rows owner = (db.cards.filter (·.owner == owner)).map db.row := by
  rw [rows, funext (rowsOf_eq h)]
  exact List.flatMap_pure_eq_map db.row _

/-! ### Selections -/

/-- One more row, if the limit is not reached. -/
theorem select_cons {ts : List (ParseTree Filter)} {limit : Option Nat} (h : limit ≠ some 0)
    (row : Row) (rows : List Row) : select ts limit (row :: rows) =
      (ParseTree.allTrue Filter.test (Filter.truth row) ts).bind fun found ↦
        if found then (select ts (limit.map (· - 1)) rows).map (row.card.id :: ·)
        else select ts limit rows := by
  rcases limit with _ | _ | n
  · rfl
  · exact absurd rfl h
  · rfl

theorem limited_cons {α : Type} {limit : Option Nat} (h : limit ≠ some 0) (a : α) (l : List α) :
    limited (a :: l) limit = a :: limited l (limit.map (· - 1)) := by
  rcases limit with _ | _ | n
  · rfl
  · exact absurd rfl h
  · rfl

/-- If it is known of every row whether the conjuncts are true, unless they fail, then a selection
is a filter with a limit, unless it fails. -/
theorem select_isOrFails {E : Failure → Prop} {ts : List (ParseTree Filter)} {known : Row → Bool}
    {rows : List Row} (h : ∀ row ∈ rows,
      IsOrFails E (known row) (ParseTree.allTrue Filter.test (Filter.truth row) ts))
    (limit : Option Nat) :
    IsOrFails E (limited ((rows.filter known).map (·.card.id)) limit) (select ts limit rows) := by
  induction rows generalizing limit with
  | nil => rcases limit with _ | _ | n <;> exact .value
  | cons row rows ih =>
    have ih := ih fun r hr ↦ h r (List.mem_cons_of_mem row hr)
    by_cases hlimit : limit = some 0
    · subst hlimit
      have hlimited : limited (((row :: rows).filter known).map (·.card.id)) (some 0) = [] := by
        simp [limited]
      rw [hlimited, select]
      exact .value
    · rw [select_cons hlimit]
      refine (h row (by simp)).bind ?_
      cases hknown : known row with
      | false => simpa [hknown] using ih limit
      | true =>
        rw [List.filter_cons_of_pos hknown, List.map_cons, limited_cons hlimit]
        exact (ih _).map _

/-! ### Rows of cards -/

/-- A card that is found has the key that it is asked for by. -/
theorem mem_of_owned? {db : Database} {owner : Subject} {id : CardId} {card : CardRow}
    (h : db.owned? owner id = some card) :
    card ∈ db.cards ∧ card.id = id ∧ card.owner = owner :=
  ⟨List.mem_of_find?_eq_some h, by simpa using List.find?_some h⟩

/-- Of the cards with unique identifiers the one with a given key is found. -/
theorem WellFormed.owned?_eq_some_iff {db : Database} (hdb : db.WellFormed) {owner : Subject}
    {id : CardId} {card : CardRow} :
    db.owned? owner id = some card ↔ card ∈ db.cards ∧ card.id = id ∧ card.owner = owner := by
  refine ⟨mem_of_owned?, ?_⟩
  rintro ⟨hcard, rfl, rfl⟩
  cases hfind : db.owned? card.owner card.id with
  | none =>
    have := List.find?_eq_none.1 hfind card hcard
    simp at this
  | some other =>
    obtain ⟨hother, hid, -⟩ := mem_of_owned? hfind
    rw [List.inj_on_of_nodup_map hdb.nodup_cards hother hcard hid]

theorem WellFormed.readable_row {db : Database} (hdb : db.WellFormed) (card : CardRow) :
    (db.row card).Readable :=
  fun quiz hquiz ↦ hdb.written quiz (List.mem_of_find?_eq_some hquiz)

theorem WellFormed.readable_of_mem_rows {db : Database} (hdb : db.WellFormed) {owner : Subject}
    {row : Row} (h : row ∈ db.rows owner) : row.Readable := by
  rw [rows_eq hdb.nodup_quizzes] at h
  obtain ⟨card, -, rfl⟩ := List.mem_map.1 h
  exact hdb.readable_row card

/-! ### Cards -/

/-- A stored card of a user can be read. -/
theorem WellFormed.exists_get {db : Database} (hdb : db.WellFormed) {owner : Subject} {id : CardId}
    (h : (db.owned? owner id).isSome = true) : ∃ card, db.get owner id = .ok (some card) := by
  obtain ⟨row, hrow⟩ := Option.isSome_iff_exists.1 h
  obtain ⟨kind, hkind⟩ := hdb.kinds row (hdb.owned?_eq_some_iff.1 hrow).1
  refine ⟨⟨id, kind, row.item, row.english, db.tagsOf id⟩, ?_⟩
  simp only [get, hrow, hkind, CardKind.ofWord?_word]

/-- Where every card can be read, none is dropped. -/
theorem exists_getAll {db : Database} {owner : Subject} {ids : List CardId}
    (h : ∀ id ∈ ids, ∃ card, db.get owner id = .ok (some card)) :
    ∃ cards, db.getAll owner ids = .ok cards ∧
      ids.map (db.get owner) = cards.map fun card ↦ .ok (some card) := by
  induction ids with
  | nil => exact ⟨[], rfl, rfl⟩
  | cons id ids ih =>
    obtain ⟨card, hcard⟩ := h id (by simp)
    obtain ⟨cards, hcards, hmap⟩ := ih fun i hi ↦ h i (List.mem_cons_of_mem id hi)
    refine ⟨card :: cards, ?_, by rw [List.map_cons, List.map_cons, hcard, hmap]⟩
    simp only [getAll, hcard, hcards, bind, Except.bind]
    rfl

/-! ### Searches -/

/-- Does a predicate hold on the user's card with an identifier? -/
def fits (db : Database) (owner : Subject) (p : Predicate Filter) (id : CardId) : Bool :=
  (db.owned? owner id).any fun card ↦ p.holds (Filter.accepts (db.row card))

/-- The cards of a user on which a predicate holds, in their order and up to the limit. -/
def found (db : Database) (owner : Subject) (p : Predicate Filter) (limit : Nat) : List CardId :=
  limited (((db.cards.filter (·.owner == owner)).map (·.id)).filter (db.fits owner p))
    (limitOf limit)

/-- They are those whose rows of the join the predicate holds on. -/
theorem WellFormed.found_eq_limited_rows {db : Database} (hdb : db.WellFormed) (owner : Subject)
    (p : Predicate Filter) (limit : Nat) : db.found owner p limit =
      limited (((db.rows owner).filter fun row ↦ p.holds (Filter.accepts row)).map (·.card.id))
        (limitOf limit) := by
  rw [found, rows_eq hdb.nodup_quizzes, List.filter_map, List.filter_map, List.map_map]
  refine congrArg (limited · _) (congrArg (List.map _) (List.filter_congr fun card hcard ↦ ?_))
  obtain ⟨hmem, howner⟩ := List.mem_filter.1 hcard
  rw [Function.comp_apply, fits, hdb.owned?_eq_some_iff.2 ⟨hmem, rfl, eq_of_beq howner⟩]
  rfl

/-- Can a predicate be searched for? SQL accepts the search, and no pattern is too long. -/
def Searchable (owner : Subject) (p : Predicate Filter) (limit : Nat) : Prop :=
  (accepted? owner p limit).isSome = true ∧ p.AllAtoms (·.isShort = true)

/-- A predicate with few nodes whose texts are not too long can be searched for. -/
theorem searchable_of_size_le {p : Predicate Filter} (hrows : p.hasEmptyRow = false)
    (hsize : p.size ≤ 932) (hp : p.AllAtoms fun f ↦ f.isShort = true ∧ f.fits = true)
    (owner : Subject) (limit : Nat) : Searchable owner p limit := by
  obtain ⟨t, ht⟩ :=
    exists_accepted? hrows hsize (Predicate.AllAtoms.imp (fun _ ↦ And.right) p hp) owner limit
  exact ⟨Option.isSome_of_eq_some ht, Predicate.AllAtoms.imp (fun _ ↦ And.left) p hp⟩

/-- A search that SQL accepts finds the cards on which the predicate holds, or it fails, which it
only does if a pattern is too long. -/
theorem WellFormed.search_isOrFails {db : Database} (hdb : db.WellFormed) {owner : Subject}
    {p : Predicate Filter} {limit : Nat} {E : Failure → Prop}
    (haccepted : (accepted? owner p limit).isSome = true)
    (hp : p.AllAtoms fun f ↦ f.IsBounded ∧ (f.isShort = false → E .database)) :
    IsOrFails E (db.found owner p limit) (db.search owner p limit) := by
  obtain ⟨t, ht⟩ := Option.isSome_iff_exists.1 haccepted
  have htree : p.tree? Filter.test = some t := (Option.filter_eq_some_iff.1 ht).1
  have htruth : ∀ row : Row, row.Readable → IsOrFails E (p.holds (Filter.accepts row))
      (ParseTree.allTrue Filter.test (Filter.truth row) (t.planned Filter.test)) := by
    intro row hrow
    rw [← Predicate.holds_of_tree? htree]
    refine ParseTree.allTrue_planned
      (Predicate.AllAtoms.tree? (Predicate.AllAtoms.imp ?_ p hp) htree)
    rintro f ⟨hbounded, hshort⟩
    rw [f.truth_eq hrow hbounded]
    cases h : f.isShort with
    | true => exact .value
    | false => exact .failure (hshort h)
  have hsearch : db.search owner p limit =
      select (t.planned Filter.test) (limitOf limit) (db.rows owner) := by
    rw [search, ht]
  rw [hsearch, hdb.found_eq_limited_rows]
  exact select_isOrFails (fun row hrow ↦ htruth row (hdb.readable_of_mem_rows hrow))
    (limitOf limit)

/-- A search finds the cards on which the predicate holds, if it can be searched for. -/
theorem WellFormed.search_eq {db : Database} (hdb : db.WellFormed) {owner : Subject}
    {p : Predicate Filter} {limit : Nat} (hp : p.AllAtoms Filter.IsBounded)
    (h : Searchable owner p limit) : db.search owner p limit = .ok (db.found owner p limit) :=
  (hdb.search_isOrFails h.1
    (Predicate.AllAtoms.and hp (Predicate.AllAtoms.imp (fun _ ↦ by simp +contextual) p h.2))).eq_ok

/-- A search finds these cards or fails, whatever is searched for. -/
theorem WellFormed.search_eq_or {db : Database} (hdb : db.WellFormed) (owner : Subject)
    {p : Predicate Filter} (hp : p.AllAtoms Filter.IsBounded) (limit : Nat) :
    db.search owner p limit = .ok (db.found owner p limit) ∨
      db.search owner p limit = .error .database := by
  cases haccepted : accepted? owner p limit with
  | none => exact .inr (by rw [search, haccepted])
  | some t =>
    exact (hdb.search_isOrFails (Option.isSome_of_eq_some haccepted)
      (Predicate.AllAtoms.imp (fun f hf ↦ ⟨hf, fun _ ↦ rfl⟩) p hp)).eq_or_eq

theorem mem_of_mem_limited {α : Type} {l : List α} {limit : Option Nat} {a : α}
    (h : a ∈ limited l limit) : a ∈ l := by
  cases limit with
  | none => exact h
  | some n => exact List.mem_of_mem_take h

/-- The cards that are found can be read. -/
theorem WellFormed.exists_getAll_found {db : Database} (hdb : db.WellFormed) (owner : Subject)
    (p : Predicate Filter) (limit : Nat) :
    ∃ cards, db.getAll owner (db.found owner p limit) = .ok cards ∧
      (db.found owner p limit).map (db.get owner) = cards.map fun card ↦ .ok (some card) :=
  exists_getAll fun _ hid ↦ hdb.exists_get
    (Option.isSome_of_any (List.mem_filter.1 (mem_of_mem_limited hid)).2)

/-- A query is searched for as the condition that it stands for. -/
theorem searchCards_of_parse {query : String} {c : Condition}
    (h : Condition.parse query = .ok (some c)) (db : Database) (owner : Subject) (now : Instant)
    (limit : Nat) :
    db.searchCards (some owner) query now limit =
      (db.search owner ((cardSchema now).compile c).predicate limit).bind (db.getAll owner) := by
  simp only [searchCards, Session.subject, bind, Except.bind, h]
  rfl

end Database

theorem isBounded_of_comparing {column : NumberColumn} {op : Operator} {value : String} {f : Filter}
    (h : Filter.comparing column op value = some f) : f.IsBounded := by
  obtain ⟨n, hn, rfl⟩ := Option.map_eq_some_iff.1 h
  show Decimal.FitsInt64 n
  exact of_decide_eq_true (Option.filter_eq_some_iff.1 hn).2

theorem isBounded_of_onText {column : TextColumn} {op : Operator} {value : String} {f : Filter}
    (h : Filter.onText column op value = some f) : f.IsBounded := by
  unfold Filter.onText at h
  split at h
  · obtain rfl := Option.some.inj h
    trivial
  · obtain rfl := Option.some.inj h
    trivial
  · cases h

/-- A filter that cards can be searched by compares with numbers of 64 bits. -/
theorem isBounded_of_isFilter {now : Instant} {f : Filter} (h : (cardSchema now).IsFilter f) :
    f.IsBounded := by
  obtain ⟨field, op, value, h⟩ := h
  change Filter.ofTerm? now field op value = some f at h
  cases field with
  | entry | english => exact isBounded_of_onText h
  | level | right | wrong => exact isBounded_of_comparing h
  | tag =>
    simp only [Filter.ofTerm?] at h
    split at h
    · obtain rfl := Option.some.inj h
      trivial
    · cases h
  | kind =>
    simp only [Filter.ofTerm?] at h
    split at h
    · obtain ⟨kind, -, rfl⟩ := Option.map_eq_some_iff.1 h
      trivial
    · cases h
  | state =>
    simp only [Filter.ofTerm?] at h
    split at h
    · split at h
      · obtain rfl := Option.some.inj h
        trivial
      · obtain rfl := Option.some.inj h
        trivial
      · cases h
    · cases h

theorem allAtoms_isBounded_compile (now : Instant) (c : Condition) :
    ((cardSchema now).compile c).predicate.AllAtoms Filter.IsBounded :=
  Predicate.AllAtoms.imp (fun _ ↦ isBounded_of_isFilter) _ ((cardSchema now).compile_allAtoms c)

/-- A query whose rows have members has a predicate whose rows have members. -/
theorem hasEmptyRow_compile (now : Instant) {c : Condition} (hc : c.hasEmptyRow = false) :
    ((cardSchema now).compile c).predicate.hasEmptyRow = false :=
  (cardSchema now).compile_hasEmptyRow (List.cons_ne_nil _ _) c hc

/-- A condition with few filters whose texts are not too long can be searched for. -/
theorem Database.searchable_compile (now : Instant) {c : Condition} (hc : c.hasEmptyRow = false)
    (hsize : ((cardSchema now).compile c).predicate.size ≤ 932)
    (h : ((cardSchema now).compile c).predicate.AllAtoms fun f ↦ f.isShort = true ∧ f.fits = true)
    (owner : Subject) (limit : Nat) :
    Searchable owner ((cardSchema now).compile c).predicate limit :=
  searchable_of_size_le (hasEmptyRow_compile now hc) hsize h owner limit

/-! ### Terms -/

/-- The filters of a term are those of its negation. -/
theorem allAtoms_compile_term {P : Filter → Prop} (now : Instant) (t : Term) :
    ((cardSchema now).compile (.term t)).predicate.AllAtoms P ↔
      ((cardSchema now).compileUnsigned t).predicate.AllAtoms P := by
  rw [Schema.compile, Schema.compileTerm]
  split <;> rfl

theorem size_compile_term_le (now : Instant) (t : Term) :
    ((cardSchema now).compile (.term t)).predicate.size ≤ 4 := by
  have hfilter : ∀ field, ((cardSchema now).compileFilter t field).predicate.size = 1 := by
    intro field
    unfold Schema.compileFilter
    split <;> rfl
  have hunsigned : ((cardSchema now).compileUnsigned t).predicate.size ≤ 3 := by
    unfold Schema.compileUnsigned
    split
    · split
      · exact (hfilter _).le.trans (by decide)
      · exact Nat.le_add_left 1 2
    · simp [cardSchema, Predicate.size, Predicate.sizeRow] at hfilter ⊢
      simp [hfilter]
  rw [Schema.compile, Schema.compileTerm]
  split
  · exact Nat.succ_le_succ hunsigned
  · exact Nat.le_succ_of_le hunsigned

/-- A term can be searched for, whatever limit there is, if its texts are not too long. -/
theorem Database.searchable_term (owner : Subject) (now : Instant) {t : Term} (limit : Nat)
    (h : ((cardSchema now).compileUnsigned t).predicate.AllAtoms
      fun f ↦ f.isShort = true ∧ f.fits = true) :
    Searchable owner ((cardSchema now).compile (.term t)).predicate limit :=
  searchable_compile now rfl ((size_compile_term_le now t).trans (by decide))
    ((allAtoms_compile_term now t).2 h) owner limit

/-- What can be searched for has texts that are not too long. -/
theorem Database.Searchable.allAtoms {owner : Subject} {p : Predicate Filter} {limit : Nat}
    (h : Searchable owner p limit) : p.AllAtoms fun f ↦ f.isShort = true ∧ f.fits = true := by
  obtain ⟨t, ht⟩ := Option.isSome_iff_exists.1 h.1
  have hfits := (Bool.and_eq_true_iff.1 (Option.filter_eq_some_iff.1 ht).2).2
  exact h.2.and (Predicate.allAtoms_fits_iff.2 hfits)

/-- The negation of a term can be searched for if the term can. -/
theorem Database.Searchable.negate {owner : Subject} {now : Instant} {t : Term} {limit : Nat}
    (h : Searchable owner ((cardSchema now).compile (.term t)).predicate limit) :
    Searchable owner ((cardSchema now).compile (.term t.negate)).predicate limit :=
  searchable_term owner now limit
    (show ((cardSchema now).compileUnsigned t).predicate.AllAtoms _ from
      (allAtoms_compile_term now t).1 h.allAtoms)

/-! ### Searches after histories -/

/-- After any history a search finds, among a user's cards in the order in which they were first
added, those on which the predicate of the condition holds, up to the limit; a limit that does not
fit into a signed number is none. A query for the condition gives just these cards. Either of them
may fail instead, but not if the predicate can be searched for. -/
theorem search_after (ops : List Operation) (owner : Subject) (now : Instant) (c : Condition)
    (limit : UInt64) :
    let db := Database.empty.after ops
    let p := ((cardSchema now).compile c).predicate
    let fitting := (cardsOf ops owner).filter (db.fits owner p)
    let ids := if limit.toNat < 2 ^ 63 then fitting.take limit.toNat else fitting
    ∃ cards : List Card, (cardsOf ops owner).Nodup ∧
      ids.map (db.get owner) = cards.map (fun card ↦ .ok (some card)) ∧
      (db.search owner p limit.toNat = .ok ids ∧ (∀ query,
          Condition.parse query = .ok (some c) →
            db.searchCards (some owner) query now limit.toNat = .ok cards) ∨
        db.search owner p limit.toNat = .error .database ∧ ∀ query,
          Condition.parse query = .ok (some c) →
            db.searchCards (some owner) query now limit.toNat = .error .database) ∧
      (Database.Searchable owner p limit.toNat → db.search owner p limit.toNat = .ok ids) ∧
      (c.hasEmptyRow = false → p.size ≤ 932 →
        (p.AllAtoms fun f ↦ f.isShort = true ∧ f.fits = true) →
          Database.Searchable owner p limit.toNat) := by
  intro db p fitting ids
  have hdb : db.WellFormed := Database.WellFormed.empty.after ops
  have hbounded : p.AllAtoms Filter.IsBounded := allAtoms_isBounded_compile now c
  have hids : db.found owner p limit.toNat = ids := by
    rw [Database.found, map_id_filter_cards_after, Database.limitOf_eq limit.toNat_lt]
    by_cases h : limit.toNat < 2 ^ 63
    · simp only [ids, if_pos h, limited]
      rfl
    · simp only [ids, if_neg h, limited]
      rfl
  obtain ⟨cards, hcards, hmap⟩ := hdb.exists_getAll_found owner p limit.toNat
  rw [hids] at hcards hmap
  refine ⟨cards, (nodup_addedCards ops).filter _, hmap, ?_, fun h ↦ ?_, fun hc hsize hp ↦ ?_⟩
  · rcases hdb.search_eq_or owner hbounded limit.toNat with h | h
    · rw [hids] at h
      refine .inl ⟨h, fun query hquery ↦ ?_⟩
      rw [Database.searchCards_of_parse hquery, h]
      exact hcards
    · refine .inr ⟨h, fun query hquery ↦ ?_⟩
      rw [Database.searchCards_of_parse hquery, h]
      rfl
  · rw [← hids]
    exact hdb.search_eq hbounded h
  · exact Database.searchable_compile now hc hsize hp owner limit.toNat

/-- A card that was added twice is found once, also without a limit that fits into a signed
number. -/
theorem search_after_added_twice :
    let alice : Subject := ⟨"alice"⟩
    let ops : List Operation := [.add alice ⟨.hanzi, "好", some "good", ["a"]⟩,
      .add alice ⟨.hanzi, "好", none, []⟩]
    let db := Database.empty.after ops
    let id := CardId.ofCard alice .hanzi "好"
    db.search alice ((cardSchema .epoch).compile (.term (.bare "GOO"))).predicate (2 ^ 64 - 1) =
      .ok [id] ∧
    ∃ card, db.searchCards (some alice) "GOO" .epoch (2 ^ 64 - 1) = .ok [card] ∧
      db.get alice id = .ok (some card) := by
  intro alice ops db id
  have hcards : cardsOf ops alice = [id] := by
    simp [ops, id, cardsOf, addedCards, additions, firstOwner?, Operation.addition?,
      List.eraseDups_cons]
  have hlike : isLike (containing "GOO") "good" = true := by decide +kernel
  have hfits : db.fits alice ((cardSchema .epoch).compile (.term (.bare "GOO"))).predicate id =
      true := by
    simp [db, ops, id, alice, Database.after, Operation.apply, Database.add, Database.insert,
      Database.putCard, Database.putTag, Database.empty, Database.get, Database.owned?,
      Database.begin, Database.Transaction.update, Database.Transaction.commit,
      Database.fits, cardSchema, Schema.compile, Schema.compileTerm, Schema.compileUnsigned,
      Term.bare, Schema.compileFilter, Filter.ofTerm?, Filter.onText, Predicate.holds,
      Predicate.holdsAny, Filter.accepts, Database.row, Row.text, hlike]
  have hparse : Condition.parse "GOO" = .ok (some (.term (.bare "GOO"))) := by decide +kernel
  have hlimit : (18446744073709551615 : UInt64).toNat = 2 ^ 64 - 1 := rfl
  obtain ⟨cards, -, hget, hanswers, hsearch, hsearchable⟩ :=
    search_after ops alice .epoch (.term (.bare "GOO")) 18446744073709551615
  have hok := hsearch (hsearchable rfl (by decide)
    ⟨⟨by decide, by decide⟩, ⟨by decide, by decide⟩, trivial⟩)
  rw [hlimit, if_neg (by omega), hcards, List.filter_cons_of_pos hfits, List.filter_nil] at hok hget
  obtain ⟨card, rfl, hcard⟩ := List.map_eq_singleton_iff.1 hget.symm
  rcases hanswers with ⟨-, hquery⟩ | ⟨hfail, -⟩
  · exact ⟨hok, card, hquery "GOO" hparse, hcard.symm⟩
  · cases hok.symm.trans hfail

/-! ### Beyond the limits -/

/-- A thousand conjuncts are too many for SQL, unless one of them matches nothing. -/
theorem Database.search_long_row (db : Database) (owner : Subject) (now : Instant)
    {cs : List Condition} (hlength : 1000 ≤ cs.length)
    (hcs : ∀ c ∈ cs, ((cardSchema now).compile c).predicate.tree? Filter.test ≠ some .zero)
    (limit : Nat) :
    db.search owner ((cardSchema now).compile (.all cs)).predicate limit = .error .database := by
  have hnone : accepted? owner ((cardSchema now).compile (.all cs)).predicate limit = none := by
    rw [Schema.compile, Schema.predicates_compileRow]
    refine accepted?_eq_none_of_length (by simpa using hlength) (fun p hp ↦ ?_) owner limit
    obtain ⟨c, hc, rfl⟩ := List.mem_map.1 hp
    exact hcs c hc
  rw [search, hnone]

/-- A condition that asks for a letter in the item, so many times. -/
def letterRow (n : Nat) : Condition := .all (List.replicate n (.term (.fielded "entry" .has "a")))

theorem compile_letterRow (now : Instant) (n : Nat) :
    ((cardSchema now).compile (letterRow n)).predicate =
      .all (List.replicate n (.atom (.contains .item "a"))) := by
  rw [letterRow, Schema.compile, Schema.predicates_compileRow, List.map_replicate]
  rfl

theorem hasEmptyRow_letterRow {n : Nat} (hn : 0 < n) : (letterRow n).hasEmptyRow = false := by
  have hterms : Condition.someHasEmptyRow
      (List.replicate n (.term (.fielded "entry" .has "a"))) = false := by
    refine Condition.someHasEmptyRow_eq_false_iff.2 fun c hc ↦ ?_
    rw [List.eq_of_mem_replicate hc]
    rfl
  rw [letterRow, Condition.hasEmptyRow, hterms, Bool.or_false]
  simpa using Nat.pos_iff_ne_zero.1 hn

theorem Database.search_letterRow (db : Database) (owner : Subject) (now : Instant) {n : Nat}
    (hn : 1000 ≤ n) (limit : Nat) :
    db.search owner ((cardSchema now).compile (letterRow n)).predicate limit =
      .error .database := by
  refine db.search_long_row owner now (by rwa [List.length_replicate]) (fun c hc ↦ ?_) limit
  rw [List.eq_of_mem_replicate hc]
  nofun

/-- Less than a thousand such terms can be searched for. -/
theorem Database.searchable_letterRow {n : Nat} (hpos : 0 < n) (hn : n ≤ 931) (now : Instant)
    (owner : Subject) (limit : Nat) :
    Searchable owner ((cardSchema now).compile (letterRow n)).predicate limit := by
  refine searchable_compile now (hasEmptyRow_letterRow hpos) ?_ ?_ owner limit
  · rw [compile_letterRow, Predicate.size, Predicate.sizeRow_eq_sum, List.map_replicate,
      List.sum_replicate_nat, Predicate.size]
    omega
  · rw [compile_letterRow]
    refine Predicate.allAtomsRow_iff.2 fun p hp ↦ ?_
    rw [List.eq_of_mem_replicate hp]
    exact ⟨by decide, by decide⟩

theorem Database.fits_letterRow {db : Database} {owner : Subject} {id : CardId} {card : CardRow}
    (h : db.owned? owner id = some card) (hitem : card.item = "a") (now : Instant) (n : Nat) :
    db.fits owner ((cardSchema now).compile (letterRow n)).predicate id = true := by
  have hlike : isLike (containing "a") "a" = true := by decide +kernel
  rw [fits, h, Option.any_some, compile_letterRow, Predicate.holds, Predicate.holdsAll_eq_all]
  refine List.all_eq_true.2 fun p hp ↦ ?_
  rw [List.eq_of_mem_replicate hp, Predicate.holds, Filter.accepts, Row.text, row, hitem, hlike]

/-- A card on which all conjuncts hold is not found if they are a thousand. -/
theorem search_fails_on_long_row :
    let alice : Subject := ⟨"alice"⟩
    let id := CardId.ofCard alice .hanzi "a"
    let ops : List Operation := [.add alice ⟨.hanzi, "a", none, []⟩]
    let db := Database.empty.after ops
    let p := ((cardSchema .epoch).compile (letterRow 1000)).predicate
    (letterRow 1000).hasEmptyRow = false ∧ cardsOf ops alice = [id] ∧ db.fits alice p id = true ∧
      db.search alice p 10 = .error .database := by
  intro alice id ops db p
  have howned : db.owned? alice id = some ⟨id, alice, "hanzi", "a", none⟩ :=
    Database.owned?_after_add alice .hanzi "a" none
  exact ⟨hasEmptyRow_letterRow (by omega), cardsOf_of_additions rfl,
    Database.fits_letterRow howned rfl .epoch 1000, db.search_letterRow alice .epoch (by omega) 10⟩

end Store

end SpacedReview

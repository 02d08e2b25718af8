import SpacedReview.Proofs.Sql.Containment
import SpacedReview.Proofs.Store.Terms

/-!
# Searching the texts of cards

The filter `:` on a text is the operator `like` with the pattern for a value, and that pattern looks
for the value literally, whatever stands in it. So a search for a value in the entry, in the
English, or in either of them finds the cards that have it as a part of that text.

Characters are compared as `like` sees them. The case of ASCII letters does not count, and the two
code points at the end of the basic plane are one character to it, the replacement character. This
is the one place where a search finds a card that does not have the value.

A pattern that is too long is not compared with anything. A search for such a value fails as soon as
it comes to a card.

## Main statements

* `termHolds_has`: the filter `:` on a text is the pattern for its value.
* `Database.WellFormed.search_long_value`: a search for a value that is too long fails.
* `finds_hasPart`: the texts that the pattern for a value matches, and the cards that searches for
  the value find.
-/

namespace SpacedReview.Store

open SpacedReview.Query SpacedReview.Sql SpacedReview.Time

/-! ### Terms on texts -/

/-- The filter `:` on a text of the card is the pattern for its value. -/
theorem termHolds_has (now : Instant) (row : Row) (v : String) :
    (cardSchema now).termHolds (Filter.accepts row) (.fielded "entry" .has v) =
        isLike (containing v) row.card.item ∧
      (cardSchema now).termHolds (Filter.accepts row) (.fielded "english" .has v) =
        isLike (containing v) (row.card.english.getD "") ∧
      (cardSchema now).termHolds (Filter.accepts row) (.bare v) =
        (isLike (containing v) row.card.item ||
          isLike (containing v) (row.card.english.getD "")) := by
  have hfilter : ∀ column, (Filter.onText column .has v).any (Filter.accepts row) =
      isLike (containing v) (row.text column) := fun _ ↦ rfl
  refine ⟨?_, ?_, ?_⟩ <;>
    simp [Schema.termHolds, Schema.someFilterHolds, Schema.filterHolds, cardSchema, Term.fielded,
      Term.bare, CardField.ofName?, Filter.ofTerm?, hfilter, Row.text]

/-- A card that can be read has the texts of its row. -/
theorem Database.WellFormed.exists_get_texts {db : Database} (hdb : db.WellFormed)
    {owner : Subject} {id : CardId} {row : CardRow} (h : db.owned? owner id = some row) :
    ∃ card, db.get owner id = .ok (some card) ∧ card.item = row.item ∧
      card.english = row.english := by
  obtain ⟨card, hcard⟩ := hdb.exists_get (Option.isSome_iff_exists.2 ⟨row, h⟩)
  refine ⟨card, hcard, ?_⟩
  simp only [get, h] at hcard
  split at hcard
  · cases hcard
  · obtain rfl := Option.some.inj (Except.ok.inj hcard)
    exact ⟨rfl, rfl⟩

/-- The terms that look for a value in a text of the card. -/
def textTerms (v : String) : List Term :=
  [.fielded "entry" .has v, .fielded "english" .has v, .bare v]

/-- The filters of these terms are patterns for the value. -/
theorem compile_textTerms {v : String} {t : Term} (ht : t ∈ textTerms v) (now : Instant) :
    ∃ column, ((cardSchema now).compile (.term t)).predicate =
        .atom (.contains column v) ∨
      ((cardSchema now).compile (.term t)).predicate =
        .any [.atom (.contains column v), .atom (.contains .english v)] := by
  simp only [textTerms, List.mem_cons, List.not_mem_nil, or_false] at ht
  rcases ht with rfl | rfl | rfl
  · exact ⟨.item, .inl rfl⟩
  · exact ⟨.english, .inl rfl⟩
  · exact ⟨.item, .inr rfl⟩

/-! ### Values that are too long -/

variable {v : String} {owner : Subject}

/-- The pattern for a short value is not too long for SQL. -/
theorem isShort_textTerms (hv : (containing v).utf8ByteSize ≤ longestPattern) {t : Term}
    (ht : t ∈ textTerms v) (now : Instant) :
    ((cardSchema now).compileUnsigned t).predicate.AllAtoms
      fun f ↦ f.isShort = true ∧ f.fits = true := by
  have hcontains : ∀ column, (Filter.contains column v).isShort = true ∧
      (Filter.contains column v).fits = true := by
    refine fun column ↦ ⟨decide_eq_true hv, ?_⟩
    show (decide ((containing v).utf8ByteSize ≤ maxBytes) && true) = true
    rw [Bool.and_true]
    exact decide_eq_true (hv.trans (by decide))
  rw [← allAtoms_compile_term]
  obtain ⟨column, hp | hp⟩ := compile_textTerms ht now
  · rw [hp]
    exact hcontains column
  · rw [hp]
    exact ⟨hcontains column, hcontains .english, trivial⟩

/-- A value of so many letters is too long. -/
theorem longestPattern_lt {n : Nat} (hn : longestPattern ≤ n + 1) :
    longestPattern < (containing (String.ofList (List.replicate n 'a'))).utf8ByteSize := by
  have hsize : ∀ n, String.utf8Len (List.replicate n 'a') = n := by
    intro n
    induction n with
    | zero => rfl
    | succ n ih => rw [List.replicate_succ, String.utf8Len_cons, ih]; rfl
  rw [utf8ByteSize_containing, String.utf8ByteSize_ofList, hsize]
  omega

theorem zero_notMem_letters (n : Nat) :
    '\x00' ∉ (String.ofList (List.replicate n 'a')).toList := by
  rw [String.toList_ofList]
  exact fun h ↦ absurd (List.eq_of_mem_replicate h) (by decide)

/-- A selection by a tree that fails on the first row fails. -/
theorem Database.select_of_error {t : ParseTree Filter} (ht : t.conjuncts = [t])
    {limit : Option Nat} (hlimit : limit ≠ some 0) {row : Row} {f : Failure}
    (h : t.truth Filter.test (Filter.truth row) = .error f) (rows : List Row) :
    select (t.planned Filter.test) limit (row :: rows) = .error f := by
  rw [ParseTree.planned_of_conjuncts ht, select_cons hlimit, ParseTree.allTrue, h]
  rfl

/-- A value that is too long is not looked for in any text. -/
theorem Filter.truth_of_long {row : Row} (hrow : row.Readable)
    (hv : longestPattern < (containing v).utf8ByteSize) (column : TextColumn) :
    Filter.truth row (.contains column v) = .error .database := by
  have hbounded : (Filter.contains column v).IsBounded := trivial
  have hlong : (Filter.contains column v).isShort = false := decide_eq_false (Nat.not_le.2 hv)
  rw [Filter.truth_eq hrow hbounded, hlong]
  rfl

/-- A search for a value that is too long fails if there is a card to look at. -/
theorem Database.WellFormed.search_long_value {db : Database} (hdb : db.WellFormed)
    (hv : longestPattern < (containing v).utf8ByteSize) {t : Term} (ht : t ∈ textTerms v)
    (now : Instant) (hcards : db.cards.filter (·.owner == owner) ≠ []) {limit : UInt64}
    (hlimit : limit ≠ 0) :
    db.search owner ((cardSchema now).compile (.term t)).predicate limit.toNat =
      .error .database := by
  obtain ⟨card, cards, hcards⟩ := List.exists_cons_of_ne_nil hcards
  have hrows : db.rows owner = db.row card :: cards.map db.row := by
    rw [rows_eq hdb.nodup_quizzes, hcards, List.map_cons]
  have hlimit : limitOf limit.toNat ≠ some 0 := by
    rw [limitOf_eq limit.toNat_lt]
    split
    · simpa [← UInt64.toNat_inj] using hlimit
    · simp
  have hfails : ∀ column,
      Filter.truth (db.row card) (.contains column v) = .error .database :=
    Filter.truth_of_long (hdb.readable_row card) hv
  rw [search]
  cases haccepted : accepted? owner ((cardSchema now).compile (.term t)).predicate limit.toNat with
  | none => rfl
  | some tree =>
    have htree := (Option.filter_eq_some_iff.1 haccepted).1
    simp only [hrows]
    obtain ⟨column, hp | hp⟩ := compile_textTerms ht now
    · rw [hp] at htree
      obtain rfl := Option.some.inj htree
      refine select_of_error rfl hlimit ?_ _
      exact hfails column
    · rw [hp] at htree
      obtain ⟨_, hfirst, hrow⟩ := Option.bind_eq_some_iff.1 htree
      obtain rfl := Option.some.inj hfirst
      obtain ⟨_, hsecond, -, hrow⟩ := Predicate.row?_cons_eq_some_iff.1 hrow
      obtain rfl := Option.some.inj hsecond
      obtain rfl := Option.some.inj hrow
      refine select_of_error rfl hlimit ?_ _
      -- neither text is looked up, so the first is compared first
      have hlookup : (Filter.test (.contains column v)).uses .lookup = false := by
        cases column <;> rfl
      rw [ParseTree.truth, ParseTree.uses, hlookup, Bool.false_and]
      exact congrArg (ParseTree.sequenced true Truth.or · _) (hfails column)

/-! ### Searches -/

/-- For a value without a zero character whose pattern is not too long, the pattern matches the
texts that have the value as a part. After any history the searches for it in the entry, in the
English, which is empty where there is none, and in both find among a user's cards, in the order in
which they were first added, those whose texts have it as a part, as far as these are without a zero
character. If the pattern is too long, then comparing it with any text fails, and so do these
searches for every user with a card. -/
theorem finds_hasPart (v : String) (hv : '\x00' ∉ v.toList) :
    ((containing v).utf8ByteSize ≤ longestPattern →
      (∀ t : String, '\x00' ∉ t.toList →
        ∃ b, like (containing v) t = .ok b ∧ (b = true ↔ HasPart t v)) ∧
      ∀ (ops : List Operation) (owner : Subject) (now : Instant),
        let db := Database.empty.after ops
        ∃ inEntry inEnglish inEither,
          db.Finds owner now (.term (.fielded "entry" .has v)) inEntry ∧
          db.Finds owner now (.term (.fielded "english" .has v)) inEnglish ∧
          db.Finds owner now (.term (.bare v)) inEither ∧
          inEntry.Sublist (cardsOf ops owner) ∧ inEnglish.Sublist (cardsOf ops owner) ∧
          inEither.Sublist (cardsOf ops owner) ∧
          ∀ id ∈ cardsOf ops owner, ∃ card, db.get owner id = .ok (some card) ∧
            let english := card.english.getD ""
            ('\x00' ∉ card.item.toList → (id ∈ inEntry ↔ HasPart card.item v)) ∧
            ('\x00' ∉ english.toList → (id ∈ inEnglish ↔ HasPart english v)) ∧
            ('\x00' ∉ card.item.toList → '\x00' ∉ english.toList →
              (id ∈ inEither ↔ HasPart card.item v ∨ HasPart english v))) ∧
    (longestPattern < (containing v).utf8ByteSize →
      (∀ t : String, like (containing v) t = .error .database) ∧
      ∀ (ops : List Operation) (owner : Subject) (now : Instant) (limit : UInt64),
        cardsOf ops owner ≠ [] → limit ≠ 0 → ∀ t ∈ textTerms v,
          let db := Database.empty.after ops
          db.search owner ((cardSchema now).compile (.term t)).predicate limit.toNat =
              .error .database ∧
            ∀ query, Condition.parse query = .ok (some (.term t)) →
              db.searchCards (some owner) query now limit.toNat = .error .database) := by
  refine ⟨fun hshort ↦ ⟨fun t ht ↦ ?_, fun ops owner now ↦ ?_⟩,
    fun hlong ↦ ⟨fun t ↦ ?_, fun ops owner now limit hcards hlimit t ht ↦ ?_⟩⟩
  · exact ⟨_, if_pos hshort, isLike_containing_iff hv ht⟩
  · intro db
    have hdb : db.WellFormed := Database.WellFormed.empty.after ops
    have hfinds : ∀ t ∈ textTerms v, db.Finds owner now (.term t)
        ((cardsOf ops owner).filter (db.termFits owner now t)) :=
      fun t ht ↦ finds_term ops owner (isShort_textTerms hshort ht now)
    refine ⟨_, _, _, hfinds _ (by simp [textTerms]), hfinds _ (by simp [textTerms]),
      hfinds _ (by simp [textTerms]), List.filter_sublist, List.filter_sublist,
      List.filter_sublist, fun id hid ↦ ?_⟩
    obtain ⟨row, hrow⟩ := mem_cardsOf_iff.1 hid
    obtain ⟨card, hcard, hitem, henglish⟩ := hdb.exists_get_texts hrow
    obtain ⟨hinEntry, hinEnglish, hinEither⟩ := termHolds_has now (db.row row) v
    refine ⟨card, hcard, fun hi ↦ ?_, fun he ↦ ?_, fun hi he ↦ ?_⟩
    · rw [mem_filter_termFits hrow, hinEntry, ← isLike_containing_iff hv hi, hitem]
      rfl
    · rw [mem_filter_termFits hrow, hinEnglish, ← isLike_containing_iff hv he, henglish]
      rfl
    · rw [mem_filter_termFits hrow, hinEither, Bool.or_eq_true, ← isLike_containing_iff hv hi,
        ← isLike_containing_iff hv he, hitem, henglish]
      rfl
  · exact if_neg (Nat.not_le.2 hlong)
  · intro db
    have hrows : db.cards.filter (·.owner == owner) ≠ [] := by
      intro hnone
      rw [← map_id_filter_cards_after, hnone] at hcards
      exact hcards rfl
    have hsearch :=
      (Database.WellFormed.empty.after ops).search_long_value hlong ht now hrows hlimit
    refine ⟨hsearch, fun query hparse ↦ ?_⟩
    rw [Database.searchCards_of_parse hparse, hsearch]
    rfl

/-- What has a meaning in a pattern has none in a value: a card is found by a part of its entry,
here by the two wildcards and the backslash that stand in it. A value of fifty thousand letters is
not looked for. -/
theorem finds_hasPart_of_wildcards :
    let alice : Subject := ⟨"alice"⟩
    let id := CardId.ofCard alice .vocab "50%\\_X"
    let db := Database.empty.after [.add alice ⟨.vocab, "50%\\_X", none, []⟩]
    like (containing "%\\_x") "50%\\_X" = .ok true ∧
      db.Finds alice .epoch (.term (.fielded "entry" .has "%\\_x")) [id] ∧
      db.Finds alice .epoch (.term (.fielded "english" .has "%\\_x")) [] ∧
      db.Finds alice .epoch (.term (.bare "%\\_x")) [id] ∧
      db.search alice ((cardSchema .epoch).compile
        (.term (.bare (String.ofList (List.replicate 50000 'a'))))).predicate 10 =
          .error .database := by
  intro alice id db
  let ops : List Operation := [.add alice ⟨.vocab, "50%\\_X", none, []⟩]
  have hcards : cardsOf ops alice = [id] := cardsOf_of_additions rfl
  have hget : db.get alice id = .ok (some ⟨id, .vocab, "50%\\_X", none, []⟩) :=
    Database.get_after_add alice .vocab "50%\\_X" none
  obtain ⟨hlike, hsearch⟩ := (finds_hasPart "%\\_x" (by decide)).1 (by decide)
  obtain ⟨inEntry, inEnglish, inEither, hentry, henglish, heither, hentrySub, henglishSub,
    heitherSub, hfound⟩ := hsearch ops alice .epoch
  obtain ⟨card, hcard, hinEntry, hinEnglish, hinEither⟩ := hfound id (by simp [hcards])
  obtain rfl := Option.some.inj (Except.ok.inj (hget.symm.trans hcard))
  rw [hcards, List.sublist_singleton] at hentrySub henglishSub heitherSub
  have hmemEntry : id ∈ inEntry := (hinEntry (by decide)).2 (by decide)
  have hmemEnglish : id ∉ inEnglish := fun h ↦ absurd ((hinEnglish (by decide)).1 h) (by decide)
  have hmemEither : id ∈ inEither := (hinEither (by decide) (by decide)).2 (.inl (by decide))
  obtain rfl : inEntry = [id] := hentrySub.resolve_left (List.ne_nil_of_mem hmemEntry)
  obtain rfl : inEnglish = [] := henglishSub.resolve_right fun h ↦ hmemEnglish (h ▸ by simp)
  obtain rfl : inEither = [id] := heitherSub.resolve_left (List.ne_nil_of_mem hmemEither)
  obtain ⟨b, hlike, hb⟩ := hlike "50%\\_X" (by decide)
  obtain rfl := hb.2 (by decide)
  refine ⟨hlike, hentry, henglish, heither, ?_⟩
  have hbare : ∀ v, .bare v ∈ textTerms v := fun v ↦ by simp [textTerms]
  exact (((finds_hasPart _ (zero_notMem_letters 50000)).2 (longestPattern_lt (by decide))).2
    ops alice .epoch 10 (by simp [hcards]) (by decide) _ (hbare _)).1

/-- A card that does not have the value, up to the case of ASCII letters, is found where `like` does
not tell the two code points at the end of the basic plane apart. A text that has a value, namely
itself, is not compared with it if the value has as many bytes as the longest pattern. -/
theorem finds_other_noncharacter :
    let alice : Subject := ⟨"alice"⟩
    let id := CardId.ofCard alice .hanzi "\uFFFF"
    let db := Database.empty.after [.add alice ⟨.hanzi, "\uFFFF", none, []⟩]
    let long := String.ofList (List.replicate longestPattern 'a')
    ('\x00' ∉ "\uFFFE".toList ∧ '\x00' ∉ "\uFFFF".toList ∧
      (¬ ∃ run, run <:+: "\uFFFF".toList ∧
        run.map Char.toLower = "\uFFFE".toList.map Char.toLower) ∧
      like (containing "\uFFFE") "\uFFFF" = .ok true ∧
      db.Finds alice .epoch (.term (.fielded "entry" .has "\uFFFE")) [id] ∧
      Condition.parse "entry:\uFFFE" = .ok (some (.term (.fielded "entry" .has "\uFFFE")))) ∧
    '\x00' ∉ long.toList ∧ like (containing long) long = .error .database := by
  intro alice id db long
  let ops : List Operation := [.add alice ⟨.hanzi, "\uFFFF", none, []⟩]
  have hcards : cardsOf ops alice = [id] := cardsOf_of_additions rfl
  have howned : db.owned? alice id = some ⟨id, alice, "hanzi", "\uFFFF", none⟩ :=
    Database.owned?_after_add alice .hanzi "\uFFFF" none
  have hlike : isLike (containing "\uFFFE") "\uFFFF" = true :=
    (isLike_containing_iff (by decide) (by decide)).2 (by decide)
  have hother : ¬ ∃ run, run <:+: "\uFFFF".toList ∧
      run.map Char.toLower = "\uFFFE".toList.map Char.toLower := by
    rintro ⟨run, hrun, heq⟩
    exact absurd (heq ▸ hrun.map Char.toLower) (by decide)
  have hfits : db.termFits alice .epoch (.fielded "entry" .has "\uFFFE") id = true := by
    rw [Database.termFits_of_owned howned, (termHolds_has _ _ _).1]
    exact hlike
  have hfinds := finds_term ops alice (isShort_textTerms (v := "\uFFFE")
    (t := .fielded "entry" .has "\uFFFE") (by decide) (by simp [textTerms]) .epoch)
  rw [hcards, List.filter_cons_of_pos hfits, List.filter_nil] at hfinds
  exact ⟨⟨by decide, by decide, hother, congrArg Except.ok hlike, hfinds, by decide +kernel⟩,
    zero_notMem_letters _, if_neg (Nat.not_le.2 (longestPattern_lt (Nat.le_succ _)))⟩

end SpacedReview.Store

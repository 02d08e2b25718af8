import Mathlib.Algebra.Group.Nat.Defs
import Mathlib.Data.String.Basic
import SpacedReview.Proofs.Json.RoundTrip
import SpacedReview.Proofs.Results
import SpacedReview.Store.Search

/-!
# What filters say about a row

A filter is evaluated in SQL, on columns that may hold nothing and on numbers taken out of a stored
JSON text. None of this shows in what a filter says about a row: `Filter.accepts` is about the
texts, the tags and the numbers themselves. It agrees with SQL on every row whose review record, if
there is one, was stored by the program, except that SQL does not look for a text whose pattern is
too long (`Filter.truth_eq`).

Numbers in JSON may be larger than those of SQL, which then rounds them. A filter compares with a
number of 64 bits, and rounding does not bring a larger number back below it.

## Main statements

* `Sql.compareInteger_ofNumeral`: a natural number in JSON compares as itself.
* `Store.Row.counter_eq`: the counters of a row are those of the record it was stored from.
* `Filter.truth_eq`: SQL agrees with `Filter.accepts`, as far as patterns are not too long.
-/

namespace SpacedReview

open SpacedReview.Json SpacedReview.Review SpacedReview.Sql SpacedReview.Store SpacedReview.Text

/-! ### Stored statistics -/

theorem Json.Value.canonical_nat (n : Nat) : (Json.Value.nat n).Canonical := by
  refine ⟨(n : Int), ?_⟩
  simp [Numeral.ofNat, Numeral.ofInt]

theorem Review.Stat.canonical_toJson (s : Stat) : s.toJson.Canonical := by
  obtain ⟨streak, lastRight, lastWrong⟩ := s
  have hstreak : streak.toJson.Canonical :=
    ⟨rfl, Json.Value.canonical_nat _, rfl, Json.Value.canonical_nat _,
      rfl, Json.Value.canonical_nat _, rfl, Json.Value.canonical_nat _, trivial⟩
  cases lastRight <;> cases lastWrong <;>
    simp [toJson, timeMember, Json.Value.Canonical, Json.Value.CanonicalMembers, hstreak,
      Json.Value.text]

/-- Stored statistics are read back as JSON. -/
theorem Review.Stat.parse?_stored (s : Stat) : Json.Value.parse? s.stored = some s.toJson :=
  Json.Value.parse?_compact s.canonical_toJson

/-- The counters of rows of answers and the names that they are stored under. -/
def Review.Streak.counters (s : Streak) : List (String × Nat) :=
  [("right", s.right.toNat), ("wrong", s.wrong.toNat), ("maxRight", s.maxRight.toNat),
    ("maxWrong", s.maxWrong.toNat)]

/-- A counter is found under its name. -/
theorem Review.Stat.descend_counter {s : Stat} {name : String} {n : Nat}
    (h : (name, n) ∈ s.streak.counters) : descend ["streak", name] s.toJson = some (.nat n) := by
  simp only [Streak.counters, List.mem_cons, Prod.mk.injEq, List.not_mem_nil, or_false] at h
  rcases h with ⟨rfl, rfl⟩ | ⟨rfl, rfl⟩ | ⟨rfl, rfl⟩ | ⟨rfl, rfl⟩ <;>
    simp [Stat.toJson, Streak.toJson, descend]

/-! ### Numbers of JSON in SQL -/

/-- Rounding a number does not bring it below a power of two. -/
theorem Sql.pow_le_roundedUnits {k m : Nat} (hk : 52 ≤ k) (h : 2 ^ k ≤ m * unitsPerOne) :
    2 ^ k ≤ roundedUnits m 1 := by
  have hpos : m * unitsPerOne ≠ 0 := by
    have := Nat.two_pow_pos k
    omega
  let exponent := (m * unitsPerOne).log2 - 52
  have hlog : k ≤ (m * unitsPerOne).log2 := (Nat.le_log2 hpos).2 h
  have hsplit : 2 ^ (m * unitsPerOne).log2 = 2 ^ 52 * 2 ^ exponent := by
    rw [← Nat.pow_add]
    congr 1
    omega
  have hself : 2 ^ 52 * 2 ^ exponent ≤ m * unitsPerOne := hsplit ▸ Nat.log2_self_le hpos
  have hquotient : 2 ^ 52 ≤ m * unitsPerOne / 2 ^ exponent :=
    (Nat.le_div_iff_mul_le (Nat.two_pow_pos exponent)).2 hself
  calc
    2 ^ k ≤ 2 ^ (m * unitsPerOne).log2 := Nat.pow_le_pow_right (by omega) hlog
    _ = 2 ^ 52 * 2 ^ exponent := hsplit
    _ ≤ m * unitsPerOne / 2 ^ exponent * 2 ^ exponent := Nat.mul_le_mul_right _ hquotient
    _ ≤ roundedUnits m 1 := by
      simp only [roundedUnits, Nat.div_one, Nat.one_mul, Nat.pow_eq]
      refine Nat.mul_le_mul_right _ ?_
      split
      · exact Nat.le_succ _
      · exact le_rfl

/-- A number beyond 64 bits lies above all numbers of 64 bits. -/
theorem Sql.compareReal_of_large {m : Nat} {n : Int} (hm : 9223372036854775808 ≤ m)
    (hn : Decimal.FitsInt64 n) : compareReal m 0 n = .gt := by
  have hunits : 2 ^ 123 ≤ roundedUnits m 1 :=
    pow_le_roundedUnits (by omega) (by simp only [unitsPerOne]; omega)
  have hgt : ∀ i j : Int, j < i → compare i j = .gt := fun i j h ↦ Int.compare_eq_gt.2 h
  have hpos : ¬ ((m : Int) = 0 ∨ ((Nat.toDigits 10 (m : Int).natAbs).length : Int) + 0 < -323) := by
    omega
  rw [compareReal]
  simp only [if_neg hpos]
  split
  · exact hgt _ _ (by omega)
  · split
    · omega
    · have hnot : ¬ (m : Int) < 0 := by omega
      rw [if_neg hnot]
      refine hgt _ _ ?_
      obtain ⟨-, hlt⟩ := hn
      simp only [Int.natAbs_natCast, Int.toNat_zero, Int.neg_zero, Nat.pow_eq, Nat.pow_zero,
        Nat.mul_one, unitsPerOne]
      omega

/-- A natural number in SQL. -/
theorem Sql.ofNumeral_ofNat (m : Nat) : ofNumeral (.ofNat m) =
    if Decimal.FitsInt64 (m : Int) then .integer m else .real m 0 := by
  simp [ofNumeral, Numeral.ofNat, Nat.ofDigitChars_ten_toDigits]

/-- A natural number in JSON compares with a number of 64 bits as itself, however large it is. -/
theorem Sql.compareInteger_ofNumeral (m : Nat) {n : Int} (hn : Decimal.FitsInt64 n) :
    (ofNumeral (.ofNat m)).compareInteger n = some (compare (m : Int) n) := by
  rw [ofNumeral_ofNat]
  split
  · rfl
  · rename_i hm
    have hlarge : 9223372036854775808 ≤ m := by
      simp only [Decimal.FitsInt64] at hm
      omega
    have hlt : n < m := by
      obtain ⟨-, hn⟩ := hn
      omega
    rw [Value.compareInteger, compareReal_of_large hlarge hn, Int.compare_eq_gt.2 hlt]

/-! ### Texts in SQL -/

theorem Sql.Relation.admits_eq_text {s t : String} :
    Relation.eq.admits (compareOfLessAndEq s t) = decide (s = t) := by
  rw [admits, Bool.eq_iff_iff, decide_eq_true_iff, Ordering.isEq_iff_eq_eq]
  exact compareOfLessAndEq_eq_eq le_refl not_le

theorem Sql.Relation.admits_le_text {s t : String} :
    Relation.le.admits (compareOfLessAndEq s t) = decide (s ≤ t) := by
  rw [admits, Bool.eq_iff_iff, decide_eq_true_iff]
  exact isLE_compareOfLessAndEq le_antisymm not_le le_total

/-! ### Rows -/

/-- The row of a card with its tags and the review record that it has, if it has one. -/
def Store.Database.row (db : Database) (card : CardRow) : Row :=
  ⟨card, db.tagsOf card.id, db.quiz? card.id⟩

namespace Store.Row

/-- A row whose review record, if it has one, was stored by the program. -/
def Readable (row : Row) : Prop := ∀ quiz ∈ row.quiz, ∃ r, quiz = Database.QuizRow.write r

/-- A text of the card. -/
def text (row : Row) : TextColumn → String
  | .item => row.card.item
  | .english => row.card.english.getD ""

/-- A counter of the statistics in the review record; zero without a record. -/
def counter (row : Row) (name : String) : Nat :=
  match row.quiz.bind fun quiz ↦ (Json.Value.parse? quiz.stat).bind (descend ["streak", name]) with
  | some (.number n) => n.toNat?.getD 0
  | _ => 0

/-- A number that is kept about the card; zero without a review record. -/
def number (row : Row) : NumberColumn → Int
  | .level => row.quiz.elim 0 (·.level)
  | .right => row.counter "right"
  | .wrong => row.counter "wrong"

end Store.Row

/-- Is a filter true of a row? -/
def Filter.accepts (row : Row) : Filter → Bool
  | contains column value => isLike (containing value) (row.text column)
  | equals column value => decide (row.text column = value)
  | tagged tag => row.tags.contains tag
  | ofKind kind => decide (row.card.kind = kind.word)
  | due now => row.quiz.all fun quiz ↦ decide (quiz.nextReview ≤ now.stored)
  | unreviewed => row.quiz.isNone
  | compares column relation n => relation.admits (compare (row.number column) n)

/-- A filter that compares with a number of 64 bits, if it compares with a number. -/
def Filter.IsBounded : Filter → Prop
  | compares _ _ n => Decimal.FitsInt64 n
  | _ => True

/-- Is the pattern of a filter short enough to be matched, if it has one? -/
def Filter.isShort : Filter → Bool
  | contains _ value => decide ((containing value).utf8ByteSize ≤ longestPattern)
  | _ => true

/-- A text of a card in SQL. -/
theorem TextColumn.read_scalar (row : Row) (column : TextColumn) :
    column.scalar.read row = .ok (.text (row.text column)) := by
  cases column with
  | item => rfl
  | english =>
    cases h : row.card.english <;>
      simp [scalar, Scalar.read, Column.read, Row.text, h, Sql.Value.ofText?, Sql.Value.coalesce,
        Except.map]

/-- A counter of a stored record is the number in the record. -/
theorem Store.Row.counter_eq {row : Row} {r : Record} {name : String} {n : Nat}
    (hquiz : row.quiz = some (Database.QuizRow.write r))
    (hn : (name, n) ∈ r.stat.streak.counters) : row.counter name = n := by
  simp [counter, hquiz, Database.QuizRow.write, r.stat.parse?_stored, Stat.descend_counter hn,
    Json.Value.nat]

/-- A counter in SQL is the number that was stored. -/
theorem Store.Row.read_counter {row : Row} (h : row.Readable) {name : String}
    (hname : ∀ s : Streak, ∃ n, (name, n) ∈ s.counters) :
    (Scalar.orZero (.extract .stat ["streak", name])).read row =
      .ok (ofNumeral (.ofNat (row.counter name))) := by
  cases hquiz : row.quiz with
  | none =>
    simp only [Scalar.read, Column.read, counter, hquiz, Option.map_none, Option.bind_none]
    rfl
  | some quiz =>
    obtain ⟨r, rfl⟩ := h quiz hquiz
    obtain ⟨n, hn⟩ := hname r.stat.streak
    have hextract : extract ["streak", name] r.stat.stored = .ok (ofNumeral (.ofNat n)) := by
      simp only [extract, readJson?, r.stat.parse?_stored, Stat.descend_counter hn]
      rfl
    have hvalue : ofNumeral (.ofNat n) ≠ .null := by
      rw [ofNumeral_ofNat]
      split <;> simp
    simp [Scalar.read, Column.read, hquiz, Database.QuizRow.write, Sql.Value.ofText?, hextract,
      counter_eq hquiz hn, Except.map, Sql.Value.coalesce, hvalue]

/-- A number in SQL compares with a number of 64 bits as the number that was stored does. -/
theorem NumberColumn.exists_read {row : Row} (h : row.Readable) (column : NumberColumn) :
    ∃ v, column.scalar.read row = .ok v ∧ ∀ n, Decimal.FitsInt64 n →
      v.compareInteger n = some (compare (row.number column) n) := by
  cases column with
  | level =>
    refine ⟨.integer (row.number .level), ?_, fun n _ ↦ rfl⟩
    cases hquiz : row.quiz <;>
      simp [scalar, Scalar.read, Column.read, hquiz, Sql.Value.coalesce, Row.number, Except.map]
  | right =>
    exact ⟨_, Row.read_counter h fun s ↦ ⟨s.right.toNat, by simp [Streak.counters]⟩,
      fun n hn ↦ compareInteger_ofNumeral _ hn⟩
  | wrong =>
    exact ⟨_, Row.read_counter h fun s ↦ ⟨s.wrong.toNat, by simp [Streak.counters]⟩,
      fun n hn ↦ compareInteger_ofNumeral _ hn⟩

/-- SQL agrees with what a filter says about a row, unless the filter has a pattern that is too
long. -/
theorem Filter.truth_eq {row : Row} (h : row.Readable) {f : Filter} (hf : f.IsBounded) :
    f.truth row = if f.isShort then .ok (some (f.accepts row)) else .error .database := by
  cases f with
  | contains column value =>
    show (column.scalar.read row).bind (·.like (containing value)) = _
    rw [column.read_scalar]
    show (like (containing value) (row.text column)).map some = _
    by_cases hshort : (containing value).utf8ByteSize ≤ longestPattern <;>
      simp [like, isShort, hshort, accepts, Except.map]
  | equals column value =>
    show (column.scalar.read row).map _ = _
    rw [column.read_scalar]
    exact congrArg (Except.ok ∘ some) Relation.admits_eq_text
  | tagged tag => rfl
  | ofKind kind => exact congrArg (Except.ok ∘ some) Relation.admits_eq_text
  | due now =>
    -- without a record the first side is true, and with one it is false
    cases hquiz : row.quiz with
    | none =>
      have hnull : Column.reviewed.read row = .null := by simp [Column.read, hquiz, Value.ofText?]
      simp [truth, test, Test.truth, hnull, isShort, accepts, hquiz, bind, Except.bind, pure,
        Except.pure]
    | some quiz =>
      have htext : Column.reviewed.read row ≠ .null := by simp [Column.read, hquiz, Value.ofText?]
      have hcompare : (Column.nextReview.read row).compareText now.stored =
          some (compareOfLessAndEq quiz.nextReview now.stored) := by
        simp [Column.read, hquiz, Value.ofText?, Value.compareText]
      simp [truth, test, Test.truth, htext, Scalar.read, Value.compareParam, hcompare,
        Relation.admits_le_text, isShort, accepts, hquiz, bind, Except.bind, pure, Except.pure,
        Except.map]
      cases decide (quiz.nextReview ≤ now.stored) <;> rfl
  | unreviewed =>
    cases hquiz : row.quiz <;>
      simp [truth, test, Test.truth, Column.read, hquiz, Sql.Value.ofText?, isShort, accepts]
  | compares column relation n =>
    obtain ⟨v, hv, hcompare⟩ := NumberColumn.exists_read h column
    show (column.scalar.read row).map (fun v ↦ (v.compareInteger n).map relation.admits) = _
    rw [hv, Except.map, hcompare n hf]
    rfl

end SpacedReview

import SpacedReview.Proofs.Query.Compiling
import SpacedReview.Proofs.Sql.Binding
import SpacedReview.Store.Search

/-!
# The SQL of a condition means what the condition compiles to

A condition is compiled to a predicate over filters, the predicate is rendered in SQL, and the SQL
is read by the rules of SQL. What is read is the predicate again, with the operands of its filters
in place of the filters. A filter may have more operands than one, such as the two that a card is
due by, and words like `and` within an operand; neither gets mixed up with the rest of the
condition.

To say so of every occurrence of a filter, each operand is read with the number of the filter that
it belongs to. Whatever truth value each occurrence has, the SQL has the value of the predicate;
every question mark is bound to the parameter of the filter that it stands in; and behind the test
of who owns a card the whole condition is the second of two conjuncts.

## Main statements

* `Filter.isFact`: the SQL of a filter can be read, and is about one fact.
* `Query.Predicate.expression_fragment`: which predicates can be read in SQL, and as what.
* `expression_fragment_compile`: the SQL of a compiled condition.
-/

namespace SpacedReview

open SpacedReview.Query

namespace Sql

/-! ### Filters -/

/-- A text with parameters is an expression that is true if all its operands are and false if none
is, and it has a question mark for its parameter, if it has one. -/
structure IsFact (cs : List Char) (params : List Param) : Prop where
  exists_read : ∃ e, read cs params = some e ∧ ∀ b, e.holds (fun _ ↦ b) = b
  count_eq : cs.count '?' = params.length
  length_le : params.length ≤ 1

theorem IsFact.of_holds {cs : List Char} {params : List Param}
    (hread : (read cs params).map (fun e ↦ (e.holds fun _ ↦ true, e.holds fun _ ↦ false)) =
      some (true, false))
    (hcount : cs.count '?' = params.length) (hlength : params.length ≤ 1) : IsFact cs params := by
  obtain ⟨e, he, hholds⟩ := Option.map_eq_some_iff.1 hread
  obtain ⟨htrue, hfalse⟩ := Prod.mk.inj hholds
  refine ⟨⟨e, he, fun b ↦ ?_⟩, hcount, hlength⟩
  cases b
  · exact hfalse
  · exact htrue

end Sql

open SpacedReview.Sql

/-- The texts that are searched. -/
theorem TextColumn.sql_scalar (column : TextColumn) : column.scalar.sql =
    match column with
    | item => "c.item"
    | english => "coalesce(c.english, '')" := by
  cases column <;> rfl

/-- The numbers that are compared. -/
theorem NumberColumn.sql_scalar (column : NumberColumn) : column.scalar.sql =
    match column with
    | level => "coalesce(q.srs_level, 0)"
    | right => "coalesce(json_extract(q.stat, '$.streak.right'), 0)"
    | wrong => "coalesce(json_extract(q.stat, '$.streak.wrong'), 0)" := by
  cases column <;> rfl

/-- The SQL of a filter states one fact. -/
theorem Filter.isFact (f : Filter) : IsFact f.fragment.sql.toList f.fragment.params := by
  cases f with
  | contains column value =>
    show IsFact (column.scalar.sql ++ " like ? escape '\\'").toList _
    rw [TextColumn.sql_scalar]
    cases column <;> rw [String.toList_append, toList_eq rfl, toList_eq rfl]
    all_goals exact .of_holds rfl rfl (Nat.le_refl 1)
  | equals column value =>
    show IsFact (column.scalar.sql ++ " " ++ "=" ++ " ?").toList _
    rw [TextColumn.sql_scalar]
    cases column <;> rw [String.toList_append, String.toList_append, String.toList_append,
      toList_eq rfl, toList_eq rfl, toList_eq rfl, toList_eq rfl]
    all_goals exact .of_holds rfl rfl (Nat.le_refl 1)
  | tagged tag =>
    show IsFact (String.toList
      "exists (select 1 from card_tags t where t.card_id = c.card_id and t.tag = ?)") _
    rw [toList_eq rfl]
    exact .of_holds rfl rfl (Nat.le_refl 1)
  | ofKind kind =>
    show IsFact (String.toList "c.card_type = ?") _
    rw [toList_eq rfl]
    exact .of_holds rfl rfl (Nat.le_refl 1)
  | due now =>
    show IsFact (String.toList "(q.card_id is null or q.next_review <= ?)") _
    rw [toList_eq rfl]
    exact .of_holds rfl rfl (Nat.le_refl 1)
  | unreviewed =>
    show IsFact (String.toList "q.card_id is null") _
    rw [toList_eq rfl]
    exact .of_holds rfl rfl (Nat.zero_le 1)
  | compares column relation number =>
    show IsFact (column.scalar.sql ++ " " ++ relation.sql ++ " ?").toList _
    rw [NumberColumn.sql_scalar]
    cases column <;> cases relation
    all_goals
      rw [Relation.sql, String.toList_append, String.toList_append, String.toList_append,
        toList_eq rfl, toList_eq rfl, toList_eq rfl, toList_eq rfl]
      exact .of_holds rfl rfl (Nat.le_refl 1)

/-- The boolean expression that the SQL of a filter is. -/
def Filter.expression (f : Filter) : Predicate Operand := f.fragment.expression.getD .nothing

theorem Filter.expression_eq (f : Filter) : f.fragment.expression = some f.expression := by
  obtain ⟨e, he, -⟩ := f.isFact.exists_read
  rw [expression, Fragment.expression, he, Option.getD_some]

theorem Filter.holds_expression (f : Filter) (b : Bool) : f.expression.holds (fun _ ↦ b) = b := by
  obtain ⟨e, he, hholds⟩ := f.isFact.exists_read
  rw [expression, Fragment.expression, he, Option.getD_some, hholds]

/-- What the SQL of a filter compares and looks up, from left to right. -/
def Filter.operands (f : Filter) : List Operand := f.expression.atoms

namespace Query.Predicate

/-! ### The condition of a search -/

/-- The expression of a predicate on cards: the operands of the filters, each with the number of the
filter that it belongs to. -/
def expression (p : Predicate Filter) : Predicate (Operand × Nat) :=
  p.numbered.filled fun a ↦ a.1.expression.map (·, a.2)

variable (p : Predicate Filter)

theorem map_expression : p.expression.map Prod.fst = p.filled Filter.expression := by
  have hcancel : ∀ a : Filter × Nat,
      (a.1.expression.map fun o ↦ (o, a.2)).map Prod.fst = (Filter.expression ∘ Prod.fst) a :=
    fun a ↦ map_map_cancel (fun _ ↦ rfl) a.1.expression
  rw [expression, map_filled, funext hcancel, ← filled_map, map_numbered]

theorem atoms_expression : p.expression.atoms =
    p.atoms.zipIdx.flatMap fun a ↦ a.1.operands.map (·, a.2) := by
  rw [expression, atoms_filled, atoms_numbered]
  exact congrArg (p.atoms.zipIdx.flatMap ·) (funext fun a ↦ atoms_map _ a.1.expression)

theorem holds_expression (value : Nat → Bool) :
    (p.expression.holds fun a ↦ value a.2) = p.numbered.holds fun a ↦ value a.2 := by
  rw [expression, holds_filled]
  refine congrArg (p.numbered.holds ·) (funext fun a ↦ ?_)
  rw [holds_map]
  exact a.1.holds_expression (value a.2)

theorem stands_fragment :
    p.fragment.Stands (if p.hasEmptyRow then none else some (p.expression.map Prod.fst)) := by
  rw [map_expression]
  exact Fragment.stands_ofPredicate Filter.expression_eq p

/-- The SQL of a predicate is a boolean expression, just if all rows have members. -/
theorem expression_fragment : p.fragment.expression =
    if p.hasEmptyRow then none else some (p.expression.map Prod.fst) :=
  p.stands_fragment.expression_eq

theorem bindsInOrder_fragment : p.fragment.BindsInOrder (p.atoms.map Filter.fragment) := by
  have hmade := Fragment.madeOf_ofPredicate (p.map Filter.fragment)
  rw [atoms_map] at hmade
  refine hmade.bindsInOrder fun part hpart ↦ ?_
  obtain ⟨f, -, rfl⟩ := List.mem_map.1 hpart
  exact ⟨f.isFact.count_eq, f.isFact.length_le⟩

/-- The operand that the test of the owner is. -/
def ownershipOperand (owner : Subject) : Operand :=
  [.word ['c', '.', 'u', 's', 'e', 'r', '_', 'i', 'd'], .word ['='], .value (.text owner.name)]

theorem stands_ownership (owner : Subject) :
    (Store.Database.ownership owner).Stands (some (.atom (ownershipOperand owner))) := by
  refine ⟨ownershipOperand owner, ?_, ?_, rfl⟩
  · show items (String.toList "c.user_id = ?") _ = _
    rw [toList_eq rfl]
    rfl
  · intro connective i hi
    simp only [ownershipOperand, annotated, List.mem_cons, List.not_mem_nil, or_false] at hi
    rcases hi with rfl | rfl | rfl <;> cases connective <;> rfl

/-- Behind the test of the owner a rendered predicate is one of two conjuncts. -/
theorem expression_condition (hp : p.hasEmptyRow = false) (owner : Subject) :
    (Store.Database.condition owner p).expression =
      some (.all [.atom (ownershipOperand owner), p.expression.map Prod.fst]) := by
  have hstands := p.stands_fragment
  rw [hp] at hstands
  have hchain : (Store.Database.condition owner p).Chains .and
      [some (.atom (ownershipOperand owner)), some (p.expression.map Prod.fst)] :=
    .cons (stands_ownership owner) (.single hstands) (toList_eq rfl)
  rw [hchain.expression_all]
  rfl

end Query.Predicate

/-- The SQL of a compiled condition whose rows have members, as the rows of every query have, is a
boolean expression over the operands of its filters. The operands are those of the filters from left
to right, and the expression is true if the predicate holds, whatever the truth value of each
occurrence of a filter. The question marks are bound to the parameters of the filters that they
stand in. Behind the test of the owner the expression is one of two conjuncts. -/
theorem expression_fragment_compile (now : Time.Instant) {c : Condition}
    (hc : c.hasEmptyRow = false) :
    let p := ((cardSchema now).compile c).predicate
    ∃ e : Predicate (Operand × Nat), p.fragment.expression = some (e.map Prod.fst) ∧
      e.atoms = p.atoms.zipIdx.flatMap (fun a ↦ a.1.operands.map (·, a.2)) ∧
      (∀ value : Nat → Bool, (e.holds fun a ↦ value a.2) = p.numbered.holds fun a ↦ value a.2) ∧
      p.fragment.BindsInOrder (p.atoms.map Filter.fragment) ∧
      ∀ owner, ∃ owned, (Store.Database.ownership owner).expression = some (.atom owned) ∧
        (Store.Database.condition owner p).expression =
          some (.all [.atom owned, e.map Prod.fst]) := by
  intro p
  have hdefaults : (cardSchema now).defaults ≠ [] := List.cons_ne_nil _ _
  have hp : p.hasEmptyRow = false := (cardSchema now).compile_hasEmptyRow hdefaults c hc
  refine ⟨p.expression, ?_, p.atoms_expression, p.holds_expression, p.bindsInOrder_fragment,
    fun owner ↦ ⟨_, (Predicate.stands_ownership owner).expression_eq,
      p.expression_condition hp owner⟩⟩
  rw [p.expression_fragment, hp]
  rfl

/-- The negation of a word, as an alternative to a row of a single filter. -/
theorem expression_fragment_compile_of_negation :
    let now : Time.Instant := .epoch
    let c : Condition :=
      .any [.term ⟨none, .has, "a", true⟩, .all [.term ⟨some "is", .has, "due", false⟩]]
    c.hasEmptyRow = false ∧
      ∃ e : Predicate (Operand × Nat),
        ((cardSchema now).compile c).predicate.fragment.expression = some (e.map Prod.fst) ∧
          ∀ value : Nat → Bool,
            (e.holds fun a ↦ value a.2) = (!(value 0 || value 1) || value 2) := by
  intro now c
  have hc : c.hasEmptyRow = false := rfl
  obtain ⟨e, hread, -, hholds, -⟩ := expression_fragment_compile now hc
  refine ⟨hc, e, hread, fun value ↦ ?_⟩
  rw [hholds]
  show (!(value 0 || (value 1 || false)) || (value 2 && true || false)) = _
  simp

end SpacedReview

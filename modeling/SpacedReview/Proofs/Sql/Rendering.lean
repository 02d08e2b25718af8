import SpacedReview.Proofs.Sql.Expression
import SpacedReview.Sql.Truth

/-!
# The expression of a rendered predicate

Every atom and every row of a predicate is rendered in parentheses, and a negation stands right in
front of its operand. So a rendered predicate is left in one piece by whatever stands beside it
(`Fragment.Stands`), and a rendered row is cut at its separators and nowhere else
(`Fragment.Chains`).

The expression that is read is the predicate itself, with what is read of the atoms filled in. A row
without members leaves a pair of parentheses with nothing between them, and that is the one thing
that keeps a rendered predicate from being read.

## Main statements

* `Fragment.Chains.cons`: one more operand in a row.
* `Fragment.stands_ofPredicate`: what a rendered predicate is read as.
-/

namespace SpacedReview.Sql

open SpacedReview.Query

/-- The characters of a literal. Evaluating `String.toList` on it takes much longer. -/
theorem toList_eq {s : String} {cs : List Char} (h : s = String.ofList cs) : s.toList = cs := by
  rw [h, String.toList_ofList]

/-! ### Fragments as expressions -/

namespace Fragment

/-- The row of items of a fragment. -/
def items (f : Fragment) : Option (List Item) := Sql.items f.sql.toList f.params

/-- A fragment is left in one piece by `and` and `or` beside it, and is an expression, if it is
one. -/
def Stands (f : Fragment) (e : Option (Predicate Operand)) : Prop :=
  ∃ row, f.items = some row ∧ IsOperand (annotated row) e

/-- A fragment is a row of expressions with a connective between neighbours. -/
def Chains (connective : Connective) (f : Fragment) (es : List (Option (Predicate Operand))) :
    Prop :=
  ∃ row, f.items = some row ∧ IsChain connective (annotated row) es

variable {f g : Fragment} {e : Option (Predicate Operand)}
  {es : List (Option (Predicate Operand))} {connective : Connective} {separator : String}

theorem toList_sql_append (f g : Fragment) :
    (f ++ g).sql.toList = f.sql.toList ++ g.sql.toList := String.toList_append

theorem params_append (f g : Fragment) : (f ++ g).params = f.params ++ g.params := rfl

theorem expression_eq {row : List Item} (h : f.items = some row) :
    f.expression = disjunction (annotated row) := by
  rw [expression, read]
  exact congrArg (Option.bind · _) h

/-- Whatever has items can stand in parentheses. -/
theorem Stands.parenthesized {row : List Item} (h : f.items = some row) :
    f.parenthesized.Stands f.expression := by
  rw [expression_eq h]
  refine ⟨[.group row], ?_, .group row⟩
  have hgroup := items_group h
  simpa [items, Fragment.parenthesized, plain, toList_sql_append, params_append] using hgroup

theorem Stands.not (h : f.Stands e) : (plain "not " ++ f).Stands (e.map .not) := by
  obtain ⟨row, hitems, hrow⟩ := h
  have hword : Sql.items ['n', 'o', 't'] [] = some [.word ['n', 'o', 't']] := rfl
  have hnot := items_append hword hitems
  refine ⟨.word ['n', 'o', 't'] :: row, ?_, hrow.not⟩
  simpa [items, plain, toList_sql_append, params_append] using hnot

theorem Stands.nothing : (plain "(0)").Stands (some .nothing) := by
  have hitems : (plain "(0)").items = some [.group [.word ['0']]] := by
    rw [items, plain, toList_eq rfl]
    rfl
  exact ⟨[.group [.word ['0']]], hitems, .group _⟩

/-- Parentheses with nothing between them are no expression. -/
theorem Stands.parenthesized_empty : (plain "").parenthesized.Stands none := by
  have hitems : (plain "").items = some [] := rfl
  have hempty := Stands.parenthesized hitems
  rwa [expression_eq hitems] at hempty

theorem Chains.single (h : f.Stands e) : f.Chains connective [e] := by
  obtain ⟨row, hitems, hrow⟩ := h
  exact ⟨row, hitems, .single hrow⟩

theorem Chains.cons (h : f.Stands e) (h' : g.Chains connective es)
    (hseparator : separator.toList = ' ' :: connective.chars ++ [' ']) :
    (f ++ plain separator ++ g).Chains connective (e :: es) := by
  obtain ⟨row, hitems, hrow⟩ := h
  obtain ⟨rest, hitems', hrest⟩ := h'
  have hword : Sql.items connective.chars [] = some [.word connective.chars] := by
    cases connective <;> rfl
  have hall := items_append hitems (items_append hword hitems')
  refine ⟨row ++ .word connective.chars :: rest, ?_, ?_⟩
  · simpa [items, plain, toList_sql_append, params_append, hseparator] using hall
  · rw [annotated_append]
    exact .cons hrow hrest

theorem Chains.parenthesized (h : f.Chains connective es) :
    f.parenthesized.Stands f.expression := by
  obtain ⟨row, hitems, -⟩ := h
  exact .parenthesized hitems

theorem Chains.expression_all (h : f.Chains .and es) :
    f.expression = (es.mapM id).map (.joined .all) := by
  obtain ⟨row, hitems, hrow⟩ := h
  rw [expression_eq hitems, hrow.conjunction]

theorem Chains.expression_any (h : f.Chains .or es) :
    f.expression = (es.mapM id).map (.joined .any) := by
  obtain ⟨row, hitems, hrow⟩ := h
  rw [expression_eq hitems, hrow.disjunction]

/-- What stands in one piece is the same expression by itself. -/
theorem Stands.expression_eq (h : f.Stands e) : f.expression = e := by
  have hsingle : f.Chains .and [e] := .single h
  rw [hsingle.expression_all]
  cases e <;> rfl

/-! ### Predicates -/

variable {α : Type} {fragment : α → Fragment} {expression : α → Predicate Operand}

/-- What a rendered predicate is read as: the predicate with its atoms filled, unless one of its
rows has no members. -/
def readAs (expression : α → Predicate Operand) (p : Predicate α) : Option (Predicate Operand) :=
  if p.hasEmptyRow then none else some (p.filled expression)

theorem mapM_readAs (ps : List (Predicate α)) :
    (ps.map (readAs expression)).mapM id =
      if Predicate.someHasEmptyRow ps then none else some (Predicate.filledRow expression ps) := by
  induction ps with
  | nil => rfl
  | cons p ps ih =>
    rw [List.map_cons, List.mapM_cons, ih, readAs, Predicate.someHasEmptyRow, Predicate.filledRow]
    cases p.hasEmptyRow <;> cases Predicate.someHasEmptyRow ps <;> rfl

theorem readAs_all (p : Predicate α) (ps : List (Predicate α)) :
    readAs expression (.all (p :: ps)) =
      (((p :: ps).map (readAs expression)).mapM id).map (.joined .all) := by
  rw [mapM_readAs, readAs, Predicate.hasEmptyRow, List.isEmpty_cons, Bool.false_or]
  cases Predicate.someHasEmptyRow (p :: ps) <;> rfl

theorem readAs_any (p : Predicate α) (ps : List (Predicate α)) :
    readAs expression (.any (p :: ps)) =
      (((p :: ps).map (readAs expression)).mapM id).map (.joined .any) := by
  rw [mapM_readAs, readAs, Predicate.hasEmptyRow, List.isEmpty_cons, Bool.false_or]
  cases Predicate.someHasEmptyRow (p :: ps) <;> rfl

theorem readAs_not (p : Predicate α) :
    readAs expression (.not p) = (readAs expression p).map .not := by
  rw [readAs, Predicate.hasEmptyRow, readAs]
  cases p.hasEmptyRow <;> rfl

mutual

/-- A predicate whose atoms are expressions is read as the predicate, with the expressions in place
of its atoms. -/
theorem stands_ofPredicate (h : ∀ a, (fragment a).expression = some (expression a)) :
    (p : Predicate α) → (ofPredicate (p.map fragment)).Stands (readAs expression p)
  | .atom a => by
    obtain ⟨row, hitems, -⟩ := Option.bind_eq_some_iff.1 (h a)
    have hatom := Stands.parenthesized hitems
    rwa [h a] at hatom
  | .all [] | .any [] => .parenthesized_empty
  | .all (p :: ps) => by
    have hseparator : " and ".toList = ' ' :: Connective.and.chars ++ [' '] := toList_eq rfl
    have hrow := chains_ofRow h hseparator (p :: ps) (List.cons_ne_nil _ _)
    rw [readAs_all, ← hrow.expression_all]
    exact hrow.parenthesized
  | .any (p :: ps) => by
    have hseparator : " or ".toList = ' ' :: Connective.or.chars ++ [' '] := toList_eq rfl
    have hrow := chains_ofRow h hseparator (p :: ps) (List.cons_ne_nil _ _)
    rw [readAs_any, ← hrow.expression_any]
    exact hrow.parenthesized
  | .not p => by
    rw [readAs_not]
    exact (stands_ofPredicate h p).not
  | .nothing => .nothing

theorem chains_ofRow (h : ∀ a, (fragment a).expression = some (expression a))
    {connective : Connective} {separator : String}
    (hseparator : separator.toList = ' ' :: connective.chars ++ [' ']) :
    (ps : List (Predicate α)) → ps ≠ [] →
      (ofRow separator (Predicate.mapRow fragment ps)).Chains connective
        (ps.map (readAs expression))
  | [], hne => absurd rfl hne
  | [p], _ => .single (stands_ofPredicate h p)
  | p :: q :: rest, _ => by
    have hrest := chains_ofRow h hseparator (q :: rest) (List.cons_ne_nil _ _)
    exact Chains.cons (stands_ofPredicate h p) hrest hseparator

end

end Fragment

end SpacedReview.Sql

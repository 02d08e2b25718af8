import SpacedReview.Sql.Test
import SpacedReview.Sql.Truth

/-!
# Trees of conditions

SQL reads a condition from left to right and makes a tree of it. A row of operands is a tree that
leans to the left, so every further operand makes it higher by one, and parentheses do not show. A
conjunction with the constant 0 is replaced by the constant, unless a function is called in it. No
tree may be too high, also not one that is replaced later.

A tree is evaluated as far as its value is still open. What is a conjunction with a constant that is
false is false without any evaluation, and of two operands the first is evaluated first, unless it
looks something up and the other one does not.
-/

namespace SpacedReview

namespace Sql

/-- The greatest height of a tree. -/
def maxHeight : Nat := 1000

/-- A condition as SQL reads it. -/
inductive ParseTree (α : Type) where
  | leaf (a : α)
  | zero
  | and (s t : ParseTree α)
  | or (s t : ParseTree α)
  | not (t : ParseTree α)

namespace ParseTree

variable {α ε : Type} (test : α → Test)

/-- Is a tree the constant 0? -/
def isZero : ParseTree α → Bool
  | zero => true
  | _ => false

/-- The height of a tree. -/
def height : ParseTree α → Nat
  | leaf a => (test a).height
  | zero => 1
  | and s t | or s t => max s.height t.height + 1
  | not t => t.height + 1

/-- Is a function called in a tree? -/
def calls : ParseTree α → Bool
  | leaf a => (test a).calls
  | zero => false
  | and s t | or s t => s.calls || t.calls
  | not t => t.calls

/-- Does a tree have a value from the given source? -/
def uses (source : Source) : ParseTree α → Bool
  | leaf a => (test a).uses source
  | zero => false
  | and s t | or s t => s.uses source || t.uses source
  | not t => t.uses source

/-- The same tree with other leaves. -/
def map {β : Type} (f : α → β) : ParseTree α → ParseTree β
  | leaf a => leaf (f a)
  | zero => zero
  | and s t => and (s.map f) (t.map f)
  | or s t => or (s.map f) (t.map f)
  | not t => not (t.map f)

/-- The conjunction of two trees. -/
def conjoin (s t : ParseTree α) : ParseTree α :=
  if (s.isZero || t.isZero) && !(s.calls test || t.calls test) then zero else and s t

/-- A tree, unless it is too high. -/
def checked (t : ParseTree α) : Option (ParseTree α) :=
  if t.height test ≤ maxHeight then some t else none

/-! ### Evaluation -/

/-- Is a tree false whatever its leaves are? -/
def isFalse : ParseTree α → Bool
  | zero => true
  | and s t => s.isFalse || t.isFalse
  | or s t => s.isFalse && t.isFalse
  | leaf _ | not _ => false

/-- The truth of two operands, of which the second is not evaluated if the first settles it. -/
def sequenced (settling : Bool) (join : Truth → Truth → Truth) (first second : Except ε Truth) :
    Except ε Truth := do
  let b ← first
  if b = some settling then return b else return join b (← second)

/-- The truth of a tree whose leaves are evaluated by a reading that may fail. -/
def truth (reading : α → Except ε Truth) : ParseTree α → Except ε Truth
  | leaf a => reading a
  | zero => .ok (some false)
  | and s t =>
    if s.isFalse || t.isFalse then .ok (some false)
    else if s.uses test .lookup && !t.uses test .lookup then
      sequenced false Truth.and (t.truth reading) (s.truth reading)
    else
      sequenced false Truth.and (s.truth reading) (t.truth reading)
  | or s t =>
    if s.uses test .lookup && !t.uses test .lookup then
      sequenced true Truth.or (t.truth reading) (s.truth reading)
    else
      sequenced true Truth.or (s.truth reading) (t.truth reading)
  | not t => (t.truth reading).map Truth.not

/-- Are all trees of a row true? They are evaluated up to the first that is not. -/
def allTrue (reading : α → Except ε Truth) : List (ParseTree α) → Except ε Bool
  | [] => .ok true
  | t :: ts => do
    if (← t.truth test reading) = some true then allTrue reading ts else return false

end ParseTree

end Sql

/-! ### Reading predicates -/

namespace Query.Predicate

open SpacedReview.Sql

variable {α : Type} (test : α → Test)

mutual

/-- The tree of a predicate in SQL. A row without members cannot be read. -/
def tree? : Predicate α → Option (ParseTree α)
  | atom a => some (.leaf a)
  | all [] | any [] => none
  | all (p :: ps) => (tree? p).bind (row? (ParseTree.conjoin test) ps)
  | any (p :: ps) => (tree? p).bind (row? .or ps)
  | not p => (tree? p).bind fun t ↦ t.not.checked test
  | nothing => some .zero

/-- The tree of a row of predicates behind a tree. -/
def row? (join : ParseTree α → ParseTree α → ParseTree α) :
    List (Predicate α) → ParseTree α → Option (ParseTree α)
  | [], front => some front
  | p :: ps, front =>
    (tree? p).bind fun t ↦ ((join front t).checked test).bind (row? join ps)

end

end Query.Predicate

end SpacedReview

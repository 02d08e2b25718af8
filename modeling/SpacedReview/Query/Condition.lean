import SpacedReview.Query.Term

/-!
# Condition trees

A condition is a term, or a row of conditions that must all hold, or a row of which any may hold.
It is written as a query: children of `all` are separated by a space and children of `any` by the
keyword `OR`. A value is quoted when it could not be read back as one word, or when without its
quotes it would be taken for something else: a negation, the keyword, or a filter on a field.
-/

namespace SpacedReview.Query

open SpacedReview.Text

/-- A tree of conditions on an entry. -/
inductive Condition where
  | term (term : Term)
  /-- All children hold. -/
  | all (children : List Condition)
  /-- Some child holds. -/
  | any (children : List Condition)

/-! ### Equality -/

namespace Condition

mutual

/-- Are two conditions the same tree? -/
def same : Condition → Condition → Bool
  | term s, term t => decide (s = t)
  | all cs, all ds => sameRow cs ds
  | any cs, any ds => sameRow cs ds
  | _, _ => false

/-- Are two rows of conditions the same trees in the same order? -/
def sameRow : List Condition → List Condition → Bool
  | [], [] => true
  | c :: cs, d :: ds => same c d && sameRow cs ds
  | _, _ => false

end

mutual

theorem same_iff : (c d : Condition) → (same c d = true ↔ c = d)
  | term s, term t => by simp [same]
  | all cs, all ds => by simp [same, sameRow_iff cs ds]
  | any cs, any ds => by simp [same, sameRow_iff cs ds]
  | term _, all _ | term _, any _ | all _, term _ | all _, any _ | any _, term _
  | any _, all _ => by
    simp [same]

theorem sameRow_iff : (cs ds : List Condition) → (sameRow cs ds = true ↔ cs = ds)
  | [], [] => by simp [sameRow]
  | c :: cs, d :: ds => by simp [sameRow, same_iff c d, sameRow_iff cs ds]
  | [], _ :: _ | _ :: _, [] => by simp [sameRow]

end

instance : DecidableEq Condition := fun c d ↦ decidable_of_iff _ (same_iff c d)

end Condition

/-! ### Writing -/

/-- Does a value need quotes to be read back, in a term on a field or without one? -/
def needsQuotes (value : List Char) (fielded : Bool) : Bool :=
  value.isEmpty || value.head? == some '"' || value.any isBlank ||
    (!fielded && (value.head? == some '-' || value == ['O', 'R'] || looksFielded value))

/-- A value as it stands in a query. -/
def printValue (value : List Char) (fielded : Bool) : List Char :=
  if needsQuotes value fielded then '"' :: value ++ ['"'] else value

/-- A term as it stands in a query. -/
def Term.print (t : Term) : List Char :=
  (if t.negated then ['-'] else []) ++
    match t.field with
    | some name => name.toList ++ t.operator.symbol ++ printValue t.value.toList true
    | none => printValue t.value.toList false

namespace Condition

mutual

/-- The condition as a query. -/
def print : Condition → List Char
  | term t => t.print
  | all children => printRow [' '] children
  | any children => printRow [' ', 'O', 'R', ' '] children

/-- A row of conditions as a query, with a separator between neighbours. -/
def printRow (separator : List Char) : List Condition → List Char
  | [] => []
  | [c] => print c
  | c :: d :: rest => print c ++ separator ++ printRow separator (d :: rest)

end

/-- The text of a condition. -/
def text (c : Condition) : String := String.ofList c.print

end Condition

end SpacedReview.Query

import SpacedReview.Query.Predicate

/-!
# Predicates in SQL

A fragment is a piece of SQL with question marks in it, and the parameters to be bound to them in
order. A predicate over fragments is rendered as one fragment: every atom and every combination
stands in parentheses, and a negation is `not` in front of its operand, so precedence never decides
what the text means. The value that matches nothing is the constant 0.
-/

namespace SpacedReview.Sql

open SpacedReview.Query

/-- A value to be bound to a question mark. -/
inductive Param where
  | text (value : String)
  | integer (value : Int)
  deriving DecidableEq, Repr

/-- A piece of SQL and its parameters. -/
structure Fragment where
  sql : String
  params : List Param
  deriving DecidableEq, Repr

/-- The longest text of SQL, and the longest text that is bound to a question mark, in bytes. -/
def maxBytes : Nat := 1000000000

/-- The greatest number of question marks. -/
def maxMarks : Nat := 32766

/-- Can a value be bound to a question mark? -/
def Param.fits : Param → Bool
  | text value => decide (value.utf8ByteSize ≤ maxBytes)
  | integer _ => true

namespace Fragment

/-- Is the text of a fragment short enough for SQL, and are its question marks few enough? -/
def fits (f : Fragment) : Bool :=
  decide (f.sql.utf8ByteSize ≤ maxBytes) && decide (f.params.length ≤ maxMarks)

/-- One fragment directly behind another. -/
def append (f g : Fragment) : Fragment := ⟨f.sql ++ g.sql, f.params ++ g.params⟩

instance : Append Fragment := ⟨append⟩

/-- A piece of SQL without parameters. -/
def plain (sql : String) : Fragment := ⟨sql, []⟩

/-- A fragment in parentheses. -/
def parenthesized (f : Fragment) : Fragment := plain "(" ++ f ++ plain ")"

mutual

/-- A predicate over fragments as one fragment. -/
def ofPredicate : Predicate Fragment → Fragment
  | .atom f => f.parenthesized
  | .all ps => (ofRow " and " ps).parenthesized
  | .any ps => (ofRow " or " ps).parenthesized
  | .not p => plain "not " ++ ofPredicate p
  | .nothing => plain "(0)"

/-- A row of predicates over fragments, with a separator between neighbours. -/
def ofRow (separator : String) : List (Predicate Fragment) → Fragment
  | [] => plain ""
  | [p] => ofPredicate p
  | p :: q :: rest => ofPredicate p ++ plain separator ++ ofRow separator (q :: rest)

end

end Fragment

end SpacedReview.Sql

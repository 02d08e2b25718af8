import SpacedReview.Sql.Fragment

/-!
# Tests in SQL

The expressions that the conditions of searches are made of. They are about a card `c` and, beside
it, the card's review record `q`, whose columns hold nothing if there is no record. A test is
rendered as a fragment. Its height, the functions that it calls and where it has its value from can
be read off it.

A column is only compared with parameters of its own type, so values are never converted.
-/

namespace SpacedReview.Sql

/-- Where a value comes from. -/
inductive Source where
  | card
  /-- The review record beside the card. -/
  | record
  /-- A table of its own, in which something is looked up. -/
  | lookup
  deriving DecidableEq

/-! ### Values -/

/-- A column of a card or of its review record. -/
inductive Column where
  | owner
  | kind
  | item
  | english
  /-- The card that a review record is about. -/
  | reviewed
  | level
  | nextReview
  | stat
  deriving DecidableEq, Repr

namespace Column

/-- The SQL of a column. -/
def sql : Column → String
  | owner => "c.user_id"
  | kind => "c.card_type"
  | item => "c.item"
  | english => "c.english"
  | reviewed => "q.card_id"
  | level => "q.srs_level"
  | nextReview => "q.next_review"
  | stat => "q.stat"

/-- Where a column belongs. -/
def source : Column → Source
  | owner | kind | item | english => .card
  | reviewed | level | nextReview | stat => .record

/-- The height of a column, which is a name behind the name of its table. -/
def height : Nat := 2

end Column

/-- An expression for a value. -/
inductive Scalar where
  | column (c : Column)
  /-- The part that a row of names leads to in the JSON text of a column. -/
  | extract (c : Column) (names : List String)
  /-- The value of an expression, or the empty text instead of nothing. -/
  | orEmpty (e : Scalar)
  /-- The value of an expression, or zero instead of nothing. -/
  | orZero (e : Scalar)
  deriving DecidableEq, Repr

namespace Scalar

/-- The SQL of an expression. -/
def sql : Scalar → String
  | column c => c.sql
  | extract c names =>
    "json_extract(" ++ c.sql ++ ", '$" ++ String.join (names.map ("." ++ ·)) ++ "')"
  | orEmpty e => "coalesce(" ++ e.sql ++ ", '')"
  | orZero e => "coalesce(" ++ e.sql ++ ", 0)"

/-- Where an expression has its value from. -/
def source : Scalar → Source
  | column c | extract c _ => c.source
  | orEmpty e | orZero e => e.source

/-- The height of an expression. -/
def height : Scalar → Nat
  | column _ => Column.height
  | extract _ _ => Column.height + 1
  | orEmpty e | orZero e => e.height + 1

/-- Is a function called in an expression? -/
def calls : Scalar → Bool
  | column _ => false
  | extract _ _ | orEmpty _ | orZero _ => true

end Scalar

/-! ### Tests -/

/-- How two values compare. -/
inductive Relation where
  | eq
  | lt
  | le
  | gt
  | ge
  deriving DecidableEq, Repr

namespace Relation

/-- Does an order of two values satisfy a relation? -/
def admits : Relation → Ordering → Bool
  | eq, o => o.isEq
  | lt, o => o.isLT
  | le, o => o.isLE
  | gt, o => o.isGT
  | ge, o => o.isGE

/-- The SQL of a relation. -/
def sql : Relation → String
  | eq => "="
  | lt => "<"
  | le => "<="
  | gt => ">"
  | ge => ">="

end Relation

/-- An expression that is true, false or unknown. -/
inductive Test where
  | isNull (c : Column)
  /-- The value compares with the parameter. -/
  | compare (e : Scalar) (relation : Relation) (param : Param)
  /-- The text matches the pattern. -/
  | like (e : Scalar) (pattern : String)
  /-- The card is found with the tag in the table of tags. -/
  | hasTag (tag : String)
  | either (s t : Test)
  deriving DecidableEq, Repr

namespace Test

/-- The SQL of a test. -/
def fragment : Test → Fragment
  | isNull c => ⟨c.sql ++ " is null", []⟩
  | compare e relation param => ⟨e.sql ++ " " ++ relation.sql ++ " ?", [param]⟩
  | like e pattern => ⟨e.sql ++ " like ? escape '\\'", [.text pattern]⟩
  | hasTag tag =>
    ⟨"exists (select 1 from card_tags t where t.card_id = c.card_id and t.tag = ?)", [.text tag]⟩
  | either s t => (s.fragment ++ Fragment.plain " or " ++ t.fragment).parenthesized

/-- Does a test have a value from the given source? -/
def uses (source : Source) : Test → Bool
  | isNull c => c.source == source
  | compare e _ _ | like e _ => e.source == source
  | hasTag _ => source == .lookup || source == .card
  | either s t => s.uses source || t.uses source

/-- The height of the condition of a look-up. -/
def lookupHeight : Nat := 4

/-- The height of a test. The operator `like` is a function of the text, the pattern and the
character that escapes. -/
def height : Test → Nat
  | isNull _ => Column.height + 1
  | compare e _ _ | like e _ => e.height + 1
  | hasTag _ => lookupHeight + 1
  | either s t => max s.height t.height + 1

/-- Is a function called in a test? What is called in a look-up does not count. -/
def calls : Test → Bool
  | isNull _ | hasTag _ => false
  | compare e _ _ => e.calls
  | like _ _ => true
  | either s t => s.calls || t.calls

end Test

end SpacedReview.Sql

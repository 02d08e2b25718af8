import SpacedReview.Card.Kind
import SpacedReview.Query.Schema
import SpacedReview.Sql.Like
import SpacedReview.Sql.Test
import SpacedReview.Text.Decimal
import SpacedReview.Time.Text

/-!
# Filters on cards

The fields that cards can be searched by, the filters those fields support, and the SQL of each
filter. The SQL is about a card `c` and, beside it, the card's review record `q`, which is absent
for a card that was never reviewed: such a card has level zero, no right and wrong answers, and is
due. What a filter looks for only ever stands in the parameters.
-/

namespace SpacedReview

open SpacedReview.Query SpacedReview.Sql SpacedReview.Text SpacedReview.Time

/-! ### Fields -/

/-- A field that cards can be searched by. -/
inductive CardField where
  | entry
  | english
  | tag
  | kind
  | level
  | state
  | right
  | wrong
  deriving DecidableEq, Repr

namespace CardField

/-- The field with a name in queries. -/
def ofName? : String → Option CardField
  | "entry" => some entry
  | "english" => some english
  | "tag" => some tag
  | "type" => some kind
  | "level" | "srsLevel" => some level
  | "is" => some state
  | "right" => some right
  | "wrong" => some wrong
  | _ => none

/-- The word for a field in warnings. -/
def label : CardField → String
  | entry => "Entry"
  | english => "English"
  | tag => "Tag"
  | kind => "Type"
  | level => "Level"
  | state => "Is"
  | right => "Right"
  | wrong => "Wrong"

end CardField

/-! ### Filters -/

/-- A text of a card. -/
inductive TextColumn where
  | item
  /-- The English of a card; without any it counts as empty. -/
  | english
  deriving DecidableEq, Repr

/-- A number that is kept about a card. -/
inductive NumberColumn where
  | level
  | right
  | wrong
  deriving DecidableEq, Repr

/-- A filter on cards. -/
inductive Filter where
  /-- The text has the value in it, up to the case of ASCII letters. -/
  | contains (column : TextColumn) (value : String)
  /-- The text is the value. -/
  | equals (column : TextColumn) (value : String)
  /-- The card has the tag. -/
  | tagged (tag : String)
  | ofKind (kind : CardKind)
  /-- The card is due at an instant. -/
  | due (now : Instant)
  /-- The card was never reviewed. -/
  | unreviewed
  /-- The number of the card compares with the given one. -/
  | compares (column : NumberColumn) (relation : Relation) (number : Int)
  deriving DecidableEq

/-- The relation between numbers that an operator asks for. -/
def Query.Operator.relation : Operator → Relation
  | .has | .equal => .eq
  | .less => .lt
  | .atMost => .le
  | .greater => .gt
  | .atLeast => .ge

namespace Filter

/-- A filter that compares a number with the numeral of a value. -/
def comparing (column : NumberColumn) (op : Operator) (value : String) : Option Filter :=
  (Decimal.int64? value).map (compares column op.relation)

/-- The filter on a text with an operator and a value. -/
def onText (column : TextColumn) (op : Operator) (value : String) : Option Filter :=
  match op with
  | .has => some (contains column value)
  | .equal => some (equals column value)
  | _ => none

/-- The filter with an operator and a value that a field supports. -/
def ofTerm? (now : Instant) (field : CardField) (op : Operator) (value : String) : Option Filter :=
  match field with
  | .entry => onText .item op value
  | .english => onText .english op value
  | .tag => if op = .has ∨ op = .equal then some (tagged value) else none
  | .kind => if op = .has ∨ op = .equal then (CardKind.ofWord? value).map ofKind else none
  | .state =>
    if op = .has ∨ op = .equal then
      match value with
      | "due" => some (due now)
      | "new" => some unreviewed
      | _ => none
    else
      none
  | .level => comparing .level op value
  | .right => comparing .right op value
  | .wrong => comparing .wrong op value

end Filter

/-- What cards can be searched by at an instant. A term without a field is about the item and the
English. -/
def cardSchema (now : Instant) : Schema CardField Filter where
  field? := CardField.ofName?
  defaults := [.entry, .english]
  atom? := Filter.ofTerm? now

/-! ### SQL -/

/-- The text of a card in SQL. -/
def TextColumn.scalar : TextColumn → Scalar
  | item => .column .item
  | english => .orEmpty (.column .english)

/-- The number of a card in SQL. -/
def NumberColumn.scalar : NumberColumn → Scalar
  | level => .orZero (.column .level)
  | right => .orZero (.extract .stat ["streak", "right"])
  | wrong => .orZero (.extract .stat ["streak", "wrong"])

/-- The test that a filter is in SQL. -/
def Filter.test : Filter → Test
  | contains column value => .like column.scalar (containing value)
  | equals column value => .compare column.scalar .eq (.text value)
  | tagged tag => .hasTag tag
  | ofKind kind => .compare (.column .kind) .eq (.text kind.word)
  | due now => .either (.isNull .reviewed) (.compare (.column .nextReview) .le (.text now.stored))
  | unreviewed => .isNull .reviewed
  | compares column relation number => .compare column.scalar relation (.integer number)

/-- The SQL of a filter. -/
def Filter.fragment (f : Filter) : Fragment := f.test.fragment

/-- The SQL of a predicate on cards. -/
def Query.Predicate.fragment (p : Predicate Filter) : Fragment :=
  Fragment.ofPredicate (p.map Filter.fragment)

end SpacedReview

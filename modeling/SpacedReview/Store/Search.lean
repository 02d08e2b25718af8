import SpacedReview.Card.Filter
import SpacedReview.Query.Group
import SpacedReview.Sql.Plan
import SpacedReview.Sql.Value
import SpacedReview.Store.Database

/-!
# Searching cards

A search goes over a user's cards in the order in which they were added. Every card is joined with
its review records, or with nothing where there is none, and the predicate is evaluated on the join
in the three-valued logic of SQL; the cards on which it is true are found, up to a limit. The
limit is stored in a signed 64-bit number, and a negative one is no limit.

SQL refuses a search that is beyond its limits before it looks at any row. Where it does not, a
filter may still fail to be evaluated, and then the search fails.
-/

namespace SpacedReview

open SpacedReview.Query SpacedReview.Sql SpacedReview.Store SpacedReview.Text SpacedReview.Time

/-- A card with its tags, joined with a review record. -/
structure Store.Row where
  card : CardRow
  tags : List String
  quiz : Option QuizRow

/-! ### Filters on rows -/

namespace Sql

/-- The value in a column of a row. -/
def Column.read (row : Row) : Column → Value
  | owner => .text row.card.owner.name
  | kind => .text row.card.kind
  | item => .text row.card.item
  | english => .ofText? row.card.english
  | reviewed => .ofText? (row.quiz.map (·.id.hex))
  | level => row.quiz.elim .null (.integer ·.level)
  | nextReview => .ofText? (row.quiz.map (·.nextReview))
  | stat => .ofText? (row.quiz.map (·.stat))

/-- The value of an expression on a row. -/
def Scalar.read (row : Row) : Scalar → Except Failure Value
  | column c => .ok (c.read row)
  | extract c names =>
    match c.read row with
    | .text s => Sql.extract names s
    | _ => .ok .null
  | orEmpty e => (e.read row).map (·.coalesce (.text ""))
  | orZero e => (e.read row).map (·.coalesce (.integer 0))

/-- The truth of a test on a row. -/
def Test.truth (row : Row) : Test → Except Failure Truth
  | isNull c => .ok (some (decide (c.read row = .null)))
  | compare e relation param =>
    (e.read row).map fun v ↦ (v.compareParam param).map relation.admits
  | like e pattern => (e.read row).bind (·.like pattern)
  | hasTag tag => .ok (some (row.tags.contains tag))
  | either s t => do
    let b ← s.truth row
    if b = some true then return b else return b.or (← t.truth row)

end Sql

/-- The truth of a filter on a row. -/
def Filter.truth (row : Row) (f : Filter) : Except Failure Truth := f.test.truth row

/-! ### The SQL of a search -/

namespace Store.Database

/-- The test that a card is a user's. -/
def ownershipTest (owner : Subject) : Test := .compare (.column .owner) .eq (.text owner.name)

/-- That a card is a user's, in SQL. -/
def ownership (owner : Subject) : Fragment := (ownershipTest owner).fragment

/-- The condition of a search in SQL: the card is the user's, and the predicate is true of it. -/
def condition (owner : Subject) (p : Predicate Filter) : Fragment :=
  ownership owner ++ Fragment.plain " and " ++ p.fragment

/-- A search in SQL. -/
def statement (owner : Subject) (p : Predicate Filter) (limit : Nat) : Fragment :=
  Fragment.plain "select c.card_id from cards c left outer join quiz q on q.card_id = c.card_id where "
    ++ condition owner p ++ ⟨" order by c.rowid limit ?;", [.integer (Decimal.wrapInt64 limit)]⟩

/-- The tree of the condition of a search. -/
def conditionTree (owner : Subject) (t : ParseTree Filter) : ParseTree Test :=
  .conjoin id (.leaf (ownershipTest owner)) (t.map Filter.test)

/-- The tree of a predicate, if SQL takes a search for it. -/
def accepted? (owner : Subject) (p : Predicate Filter) (limit : Nat) : Option (ParseTree Filter) :=
  (p.tree? Filter.test).filter fun t ↦
    (conditionTree owner t).isAccepted && (statement owner p limit).fits &&
      p.fragment.params.all Param.fits

/-! ### Search -/

/-- The rows of the join that a card is in: with its review records or, if it has none, without. -/
def rowsOf (db : Database) (card : CardRow) : List Row :=
  match db.quizzes.filter (·.id == card.id) with
  | [] => [⟨card, db.tagsOf card.id, none⟩]
  | quizzes => quizzes.map fun quiz ↦ ⟨card, db.tagsOf card.id, some quiz⟩

/-- The rows of the join that a user's cards are in. -/
def rows (db : Database) (owner : Subject) : List Row :=
  (db.cards.filter (·.owner == owner)).flatMap db.rowsOf

/-- The cards of the rows on which a row of conjuncts is true, up to a limit. -/
def select (ts : List (ParseTree Filter)) : Option Nat → List Row → Except Failure (List CardId)
  | some 0, _ | _, [] => .ok []
  | limit, row :: rows => do
    if ← ParseTree.allTrue Filter.test (Filter.truth row) ts then
      return row.card.id :: (← select ts (limit.map (· - 1)) rows)
    else
      select ts limit rows

/-- The number of rows that an unsigned 64-bit limit stands for. -/
def limitOf (limit : Nat) : Option Nat :=
  let n := Decimal.wrapInt64 limit
  if n < 0 then none else some n.toNat

/-- The identifiers of a user's cards on which a predicate is true, oldest first. -/
def search (db : Database) (owner : Subject) (p : Predicate Filter) (limit : Nat) :
    Except Failure (List CardId) :=
  match accepted? owner p limit with
  | some t => select (t.planned Filter.test) (limitOf limit) (db.rows owner)
  | none => .error .database

/-- The cards with the given identifiers that are a user's. -/
def getAll (db : Database) (owner : Subject) : List CardId → Except Failure (List Card)
  | [] => .ok []
  | id :: ids => do
    let card ← db.get owner id
    return card.toList ++ (← getAll db owner ids)

/-- The cards of the user who is logged in that a condition is true of. -/
def searchCondition (db : Database) (owner : Subject) (c : Condition) (now : Instant)
    (limit : Nat) : Except Failure (List Card) := do
  db.getAll owner (← db.search owner ((cardSchema now).compile c).predicate limit)

/-- The cards of the user who is logged in that a query asks for. A blank query finds nothing. -/
def searchCards (db : Database) (session : Session) (query : String) (now : Instant)
    (limit : Nat) : Except Failure (List Card) := do
  let owner ← session.subject
  match Condition.parse query with
  | .error m => .error (.malformedQuery m)
  | .ok none => .ok []
  | .ok (some c) => db.searchCondition owner c now limit

end Store.Database

end SpacedReview

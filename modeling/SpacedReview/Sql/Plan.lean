import SpacedReview.Sql.ParseTree

/-!
# The order of evaluation

A filter may ask for something that cannot be read, and then a whole search fails. Whether a filter
is evaluated at all depends on what stands before it, so the order of evaluation shows.

The conjuncts of a search, however they are nested, are taken in stages: first those without any
filter, then those about the card alone, then those among them that look something up, then those
about its review record, and at last the conjuncts that are a mere look-up. The last ones become
parts of the join, as long as it has room for their tables.
-/

namespace SpacedReview.Sql

/-- The number of tables that the join of a search has room for behind the first two. -/
def maxJoined : Nat := 62

namespace ParseTree

variable {α : Type} (test : α → Test)

/-- The conjuncts of a tree from left to right. -/
def conjuncts : ParseTree α → List (ParseTree α)
  | and s t => s.conjuncts ++ t.conjuncts
  | t => [t]

/-- Is a conjunct a mere look-up? -/
def isLookup : ParseTree α → Bool
  | leaf a => (test a).uses .lookup
  | _ => false

/-- The stage at which a conjunct is evaluated that does not become a part of the join. -/
def stage (t : ParseTree α) : Nat :=
  if t.uses test .record then 3
  else if t.uses test .lookup then 2
  else if t.uses test .card then 1
  else 0

/-- A row of conjuncts, each with the stage at which it is evaluated. The join has room for so many
tables. -/
def staged : Nat → List (ParseTree α) → List (Nat × ParseTree α)
  | _, [] => []
  | 0, t :: ts => (t.stage test, t) :: staged 0 ts
  | room + 1, t :: ts =>
    if t.isLookup test then (4, t) :: staged room ts
    else (t.stage test, t) :: staged (room + 1) ts

/-- The conjuncts of a tree in the order of evaluation. -/
def planned (t : ParseTree α) : List (ParseTree α) :=
  -- The sort is stable, so conjuncts of one stage keep their order.
  ((staged test maxJoined t.conjuncts).mergeSort fun s t ↦ decide (s.1 ≤ t.1)).map Prod.snd

/-! ### Limits -/

/-- The height of the condition of the join. -/
def joinHeight : Nat := 3

/-- Does SQL take a search with this condition? The condition of the join and those of the look-ups
that become parts of it are added to the condition, and the condition of a look-up counts on top of
all. -/
def isAccepted (t : ParseTree Test) : Bool :=
  let height := max (t.height id) joinHeight + 1
  let joined := min (t.conjuncts.countP (isLookup id)) maxJoined
  decide (height + joined ≤ maxHeight) &&
    decide (height + (if t.uses id .lookup then Test.lookupHeight else 0) ≤ maxHeight)

end ParseTree

end SpacedReview.Sql

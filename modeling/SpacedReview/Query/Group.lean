import SpacedReview.Query.Condition
import SpacedReview.Query.Token

/-!
# From tokens to conditions

The keyword `OR` binds tighter than juxtaposition: it joins the terms on both of its sides into a
group of alternatives, and a condition asks that every group has an alternative that holds. So a
row of tokens is read as a row of groups, and an `OR` at the start of a group or without a term
behind it is a fault, reported at the first place where one occurs.

A row of one group is that group, and a group of one term is that term, so the trees read from
queries have no node with fewer than two children.
-/

namespace SpacedReview.Query

/-- The terms joined by one chain of `OR` keywords, of which there is at least one. -/
structure Group where
  first : Term
  others : List Term

namespace Group

/-- The terms of a group, from left to right. -/
def terms (g : Group) : List Term := g.first :: g.others

/-- The group with another alternative at its end. -/
def push (g : Group) (t : Term) : Group := ⟨g.first, g.others ++ [t]⟩

/-- The condition that some alternative holds. -/
def condition (g : Group) : Condition :=
  match g.others with
  | [] => .term g.first
  | _ => .any (g.terms.map .term)

end Group

/-- An `OR` without a term on both sides. -/
def danglingOr (position : Nat) : Malformed := ⟨.danglingOr, position, "OR"⟩

/-- The groups of a row of tokens that goes on behind a term of the group `g`. -/
def groupsBehind (g : Group) : List Placed → Except Malformed (List Group)
  | [] => .ok [g]
  | ⟨.term t, _⟩ :: rest => do
    let groups ← groupsBehind ⟨t, []⟩ rest
    return g :: groups
  | ⟨.or, _⟩ :: ⟨.term t, _⟩ :: rest => groupsBehind (g.push t) rest
  | ⟨.or, _⟩ :: ⟨.or, position⟩ :: _ => .error (danglingOr position)
  | [⟨.or, position⟩] => .error (danglingOr position)

/-- The groups of a row of tokens. -/
def groups : List Placed → Except Malformed (List Group)
  | [] => .ok []
  | ⟨.term t, _⟩ :: rest => groupsBehind ⟨t, []⟩ rest
  | ⟨.or, position⟩ :: _ => .error (danglingOr position)

namespace Condition

/-- The condition that every group of a row asks for, if there is a group at all. -/
def ofGroups : List Group → Option Condition
  | [] => none
  | [g] => some g.condition
  | gs => some (.all (gs.map Group.condition))

/-- The condition that a query asks for, or nothing for a blank query. -/
def parse (query : String) : Except Malformed (Option Condition) := do
  let groups ← groups (← tokens query)
  return ofGroups groups

end Condition

end SpacedReview.Query

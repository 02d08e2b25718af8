/-!
# Three-valued truth

A condition in SQL is true, false or unknown; unknown is what a comparison with an absent value
gives.
-/

namespace SpacedReview.Sql

/-- True, false, or, without a value, unknown. -/
abbrev Truth := Option Bool

namespace Truth

/-- The conjunction: false if one side is, else unknown if one side is. -/
def and : Truth → Truth → Truth
  | some false, _ | _, some false => some false
  | some true, t => t
  | none, _ => none

/-- The disjunction: true if one side is, else unknown if one side is. -/
def or : Truth → Truth → Truth
  | some true, _ | _, some true => some true
  | some false, t => t
  | none, _ => none

/-- The negation: unknown stays unknown. -/
def not (t : Truth) : Truth := t.map (!·)

end Truth

end SpacedReview.Sql

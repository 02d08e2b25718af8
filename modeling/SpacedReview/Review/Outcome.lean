import SpacedReview.Failure

/-!
# Outcomes of a review

A card that was recalled is promoted by one level, a card that was forgotten is demoted by one, and
a card that is to be asked again stays at its level.
-/

namespace SpacedReview.Review

/-- How a review of a card went. -/
inductive Outcome where
  | right
  | wrong
  | again
  deriving DecidableEq, Repr

namespace Outcome

/-- The number of levels that a card rises by. -/
def delta : Outcome → Int
  | right => 1
  | wrong => -1
  | again => 0

/-- The word for an outcome. -/
def word : Outcome → String
  | right => "right"
  | wrong => "wrong"
  | again => "repeat"

/-- The outcome that a word stands for. -/
def ofWord? (s : String) : Option Outcome := [right, wrong, again].find? (·.word == s)

/-- Reads an outcome. -/
def parse (s : String) : Except Failure Outcome :=
  match ofWord? s with
  | some o => .ok o
  | none => .error (.badOutcome s)

end Outcome

end SpacedReview.Review

import SpacedReview.Failure
import SpacedReview.Time.Text

/-!
# Instants in operations

Reading an instant that a user gave, and moving one by a duration, with the failures that these
end in.
-/

namespace SpacedReview.Time.Instant

/-- Reads an instant in the stored form. -/
def parse (s : String) : Except Failure Instant :=
  match ofStored? s with
  | some t => .ok t
  | none => .error (.badTime s)

/-- The instant that a duration leads to. -/
def after (t : Instant) (d : Duration) : Except Failure Instant :=
  match t.add d with
  | some t => .ok t
  | none => .error .timeOverflow

end SpacedReview.Time.Instant

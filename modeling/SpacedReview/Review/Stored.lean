import SpacedReview.Json.Read
import SpacedReview.Review.Record
import SpacedReview.Time.Text

/-!
# Records as JSON

Records and their statistics are written as JSON objects. A time that was never set is left out.

Statistics are also read back. A reader accepts what older writers left: a part that is missing has
its initial value, a part it does not know is passed over, and an array gives the parts by position.
A part that is there has to be right: a counter is a whole number below 2^32 without sign, fraction
or exponent, a time is a text in the exact form, and no part may be given twice.
-/

namespace SpacedReview.Review

open SpacedReview.Json SpacedReview.Time

/-! ### Writing -/

/-- A part that holds a time, if the time is set. -/
def timeMember (name : String) : Option Instant → List (Option String × Value)
  | some t => [(some name, .text t.exact)]
  | none => []

/-- The current and longest rows of answers. -/
def Streak.toJson (s : Streak) : Value :=
  .object [(some "right", .nat s.right.toNat), (some "wrong", .nat s.wrong.toNat),
    (some "maxRight", .nat s.maxRight.toNat), (some "maxWrong", .nat s.maxWrong.toNat)]

/-- The statistics of a card. -/
def Stat.toJson (s : Stat) : Value :=
  .object ((some "streak", s.streak.toJson) ::
    (timeMember "lastRight" s.lastRight ++ timeMember "lastWrong" s.lastWrong))

/-- The stored form of statistics. -/
def Stat.stored (s : Stat) : String := s.toJson.compact

/-- The whole record. -/
def Record.toJson (r : Record) : Value :=
  .object [(some "cardId", .text r.card.hex), (some "srsLevel", .nat r.level),
    (some "nextReview", .text r.nextReview.exact), (some "stat", r.stat.toJson)]

/-! ### Reading -/

/-- The parts with the given names in an object or, by position, in an array. Each is at most once
there, and an array has no further items. -/
def parts? (names : List String) : Value → Option (List (Option Value))
  | .object members =>
    if members.any (·.1.isNone) then none
    else names.mapM fun name ↦
      match members.filter (·.1 == some name) with
      | [] => some none
      | [(_, v)] => some (some v)
      | _ => none
  | .array items =>
    if items.length ≤ names.length then
      some (items.map some ++ List.replicate (names.length - items.length) none)
    else
      none
  | _ => none

/-- A counter; one that is missing is zero. -/
def counter? : Option Value → Option UInt32
  | none => some 0
  | some (.number n) =>
    (n.toNat?.filter fun n ↦ decide (n < Text.Decimal.count32)).map UInt32.ofNat
  | some _ => none

/-- A time that may be missing. -/
def time? : Option Value → Option (Option Instant)
  | none | some .null => some none
  | some (.string (some s)) => (Instant.ofExact? s).map some
  | some _ => none

/-- Reads the current and longest rows of answers. -/
def Streak.ofJson? (v : Value) : Option Streak := do
  match ← parts? ["right", "wrong", "maxRight", "maxWrong"] v with
  | [right, wrong, maxRight, maxWrong] =>
    return ⟨← counter? right, ← counter? wrong, ← counter? maxRight, ← counter? maxWrong⟩
  | _ => none

/-- Rows of answers that may be missing. -/
def streak? : Option Value → Option Streak
  | none => some .initial
  | some v => Streak.ofJson? v

/-- Reads statistics. -/
def Stat.ofJson? (v : Value) : Option Stat := do
  match ← parts? ["streak", "lastRight", "lastWrong"] v with
  | [streak, lastRight, lastWrong] =>
    return ⟨← streak? streak, ← time? lastRight, ← time? lastWrong⟩
  | _ => none

/-- Reads the stored form of statistics. -/
def Stat.parse (s : String) : Except Failure Stat :=
  match (Value.parse? s).bind Stat.ofJson? with
  | some stat => .ok stat
  | none => .error .badJson

end SpacedReview.Review

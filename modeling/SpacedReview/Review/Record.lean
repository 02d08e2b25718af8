import SpacedReview.Card.Id
import SpacedReview.Review.Outcome
import SpacedReview.Text.Decimal
import SpacedReview.Time.Parse

/-!
# Review records

The record of a card holds its level, when it is next due, and statistics: how many right and wrong
answers came in a row, the longest such rows, and when the last of each was given.

Marking a card always brings its level into the range of the table, which may have become shorter
since the level was reached. Only a right answer moves the time at which the card is next due.

Counters have 32 bits and start over from zero behind the last of them. A level is moved as a signed
64-bit number, and the highest of these is followed by the lowest.
-/

namespace SpacedReview.Review

open SpacedReview.Text SpacedReview.Time

/-- Rows of equal answers: the current ones, of which one is empty, and the longest so far. -/
structure Streak where
  right : UInt32
  wrong : UInt32
  maxRight : UInt32
  maxWrong : UInt32
  deriving DecidableEq, Repr

/-- The statistics of a card. -/
structure Stat where
  streak : Streak
  lastRight : Option Instant
  lastWrong : Option Instant
  deriving DecidableEq

/-- No answers yet. -/
def Streak.initial : Streak := ⟨0, 0, 0, 0⟩

/-- The statistics of a card that was never reviewed. -/
def Stat.initial : Stat := ⟨.initial, none, none⟩

/-- The statistics after one more answer. -/
def Stat.count (stat : Stat) (outcome : Outcome) (now : Instant) : Stat :=
  let streak := stat.streak
  match outcome with
  | .right =>
    { stat with
      streak := ⟨streak.right + 1, 0, max streak.maxRight (streak.right + 1), streak.maxWrong⟩
      lastRight := some now }
  | .wrong =>
    { stat with
      streak := ⟨0, streak.wrong + 1, streak.maxRight, max streak.maxWrong (streak.wrong + 1)⟩
      lastWrong := some now }
  | .again => stat

/-- The scheduling state of a card. -/
structure Record where
  card : CardId
  level : Nat
  nextReview : Instant
  stat : Stat
  deriving DecidableEq

namespace LevelTable

/-- The interval of a level. -/
def interval (table : LevelTable) (level : Nat) : Except Failure Duration :=
  match table.interval? level with
  | some i => .ok i
  | none => .error (.noSuchLevel level table.size)

/-- When a card of a level is next due if it is reviewed now. -/
def nextReview (table : LevelTable) (level : Nat) (now : Instant) : Except Failure Instant := do
  now.after (← table.interval level)

end LevelTable

namespace Record

/-- The record of a card that was never reviewed: level zero, and due again after a delay. -/
def fresh (card : CardId) (now : Instant) (delay : Duration) : Except Failure Record := do
  return ⟨card, 0, ← now.after delay, .initial⟩

/-- The level that an outcome leads to. -/
def levelAfter (r : Record) (outcome : Outcome) (table : LevelTable) : Nat :=
  table.clamp (Decimal.wrapInt64 (Decimal.wrapInt64 r.level + outcome.delta))

/-- The record after a review. -/
def mark (r : Record) (outcome : Outcome) (table : LevelTable) (now : Instant) :
    Except Failure Record := do
  let level := r.levelAfter outcome table
  let nextReview ← if outcome = .right then table.nextReview level now else pure r.nextReview
  return ⟨r.card, level, nextReview, r.stat.count outcome now⟩

/-- Is the card due? -/
def isDue (r : Record) (now : Instant) : Bool := decide (r.nextReview ≤ now)

end Record

end SpacedReview.Review

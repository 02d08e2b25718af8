import SpacedReview.Query.Token
import SpacedReview.Review.Levels

/-!
# Failures

Everything that can go wrong, by its cause, with the words for it in one place. Two causes are
broken promises of a caller and not conditions to be handled, so a program stops when one of them
arises (`Failure.isFatal`).
-/

namespace SpacedReview

open SpacedReview.Query SpacedReview.Review

/-- Why an operation failed. -/
inductive Failure where
  /-- The operation needs a user, and there is none. -/
  | notLoggedIn
  | malformedQuery (malformed : Malformed)
  | badTime (text : String)
  | badCardId (text : String)
  | badCardType (text : String)
  | badOutcome (text : String)
  | badLevels (flaw : LevelTable.Flaw)
  /-- A configuration that does not have the form of one. -/
  | badConfig
  /-- A failure on reading the file at a path. -/
  | inFile (path : String) (cause : Failure)
  /-- A stored text that is not the JSON it should be. -/
  | badJson
  /-- The file system refused. -/
  | files
  /-- The database refused, or holds something that cannot be read. -/
  | database
  /-- The user has no card with this identifier. -/
  | noSuchCard (id : String)
  /-- A card that was added does not belong to the user who added it. -/
  | vanished (id : String)
  /-- A store of records refused, in its own words. -/
  | refused (reason : String)
  /-- A level was asked for that the table does not have. -/
  | noSuchLevel (level size : Nat)
  /-- An instant beyond the range of time was asked for. -/
  | timeOverflow
  deriving DecidableEq

namespace Failure

/-- The words for a failure. -/
def message : Failure → String
  | notLoggedIn => "not logged in"
  | malformedQuery m => "invalid query: " ++ m.message
  | badTime text => "invalid timestamp '" ++ text ++ "'"
  | badCardId text => "invalid card ID: " ++ text
  | badCardType text => "Invalid card type: " ++ text
  | badOutcome text => "Invalid outcome: " ++ text
  | badLevels flaw => flaw.message
  | badConfig => "failed to parse config"
  | inFile path cause => path ++ ": " ++ cause.message
  | badJson => "JSON error"
  | files => "I/O error"
  | database => "database error"
  | noSuchCard id => "no such card: " ++ id
  | vanished id => "card " ++ id ++ " vanished after insert"
  | refused reason => reason
  | noSuchLevel level size =>
    "SRS level " ++ toString level ++ " out of range: the table has " ++ toString size ++ " levels"
  | timeOverflow => "`DateTime + TimeDelta` overflowed"

/-- Does the failure stop the program? -/
def isFatal : Failure → Bool
  | noSuchLevel _ _ | timeOverflow => true
  | _ => false

end Failure

end SpacedReview

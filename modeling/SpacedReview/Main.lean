import SpacedReview.CommandLine.Run
import SpacedReview.Store.File
import Std.Time.DateTime.Timestamp

/-!
# The program

The command line over real files, the real clock and the real environment.
-/

namespace SpacedReview.CommandLine

open SpacedReview.Store SpacedReview.Time

/-- The text of a file, or nothing if there is no file, or if it cannot be read as text. -/
def readSource (path : String) : IO Config.Source := do
  try
    match String.fromUTF8? (← IO.FS.readBinFile path) with
    | some content => return .text content
    | none => return .unreadable
  catch
    | .noFileOrDirectory .. => return .missing
    | _ => return .unreadable

/-- The database at a path, which is made if there is none. -/
def openFile (path : String) : IO (Except Failure Database) := do
  match ← readSource path with
  | .text content =>
    match Database.ofText? content with
    | some db => return .ok db
    | none => return .error .database
  | .unreadable => return .error .database
  | .missing =>
    try
      IO.FS.writeFile path ""
      return .ok .empty
    catch _ => return .error .database

/-- Real files. -/
def fileHost : Host IO where
  read := readSource
  openDatabase := openFile
  keep path db := IO.FS.writeFile path db.toText

/-- The instant that the clock shows. -/
def readClock : IO Instant := do
  let now ← Std.Time.Timestamp.now
  return (Instant.ofParts? now.val.second.val now.val.nano.val.toNat).getD .epoch

end SpacedReview.CommandLine

open SpacedReview.CommandLine

/-- Carries out what the arguments ask for. -/
def main (arguments : List String) : IO UInt32 := do
  let choice ← IO.rand 0 999999999
  let report ← run fileHost arguments (← IO.getEnv "ZHQUIZ_USER") (← readClock) choice
  let exit := report.exit
  IO.print exit.output
  IO.eprint exit.errors
  return exit.code.toUInt32

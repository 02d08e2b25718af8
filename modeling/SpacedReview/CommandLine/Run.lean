import SpacedReview.CommandLine.Arguments
import SpacedReview.Config
import SpacedReview.Store.Search
import SpacedReview.Text.Quoted

/-!
# Carrying out commands

A command is carried out for the user named in the arguments, else in the environment, else in the
configuration. It gets by with three things of the world around it, collected in a `Host`: reading
the configuration file, opening a database, and keeping a database that has changed. What commands
do in between is decided here and is the same for every host.

Adding, learning and showing cards need a user before a database is opened; marking and searching
open it first.
-/

namespace SpacedReview.CommandLine

open SpacedReview.Query SpacedReview.Review SpacedReview.Store SpacedReview.Text SpacedReview.Time

/-- What a command does in the world around it. -/
structure Host (m : Type → Type) where
  /-- What is found at a path. -/
  read : String → m Config.Source
  /-- The database at a path. -/
  openDatabase : String → m (Except Failure Database)
  /-- Puts a database in the place of the older one at a path. -/
  keep : String → Database → m Unit

/-- What came of the arguments. -/
inductive Report where
  | stopped (stop : Stop)
  /-- The command was carried out, and this is what it prints. -/
  | done (output : String)
  | failed (failure : Failure)

/-! ### Output -/

/-- A card on one line. -/
def cardLine (c : Card) : String :=
  c.id.hex ++ "  " ++ c.item ++ (c.english.elim "" fun e ↦ "  " ++ e) ++ "\n"

/-- A card as JSON. -/
def cardJson (c : Card) : Json.Value :=
  .object [(some "id", .text c.id.hex), (some "card_type", .text c.kind.word),
    (some "item", .text c.item), (some "english", c.english.elim .null .text),
    (some "tags", .array (c.tags.map .text))]

/-- A card, its record, and whether it is due. -/
def shownJson (c : Card) (record : Option Record) (now : Instant) : Json.Value :=
  .object [(some "card", cardJson c), (some "quiz", record.elim .null Record.toJson),
    (some "due", .bool (record.all (·.isDue now)))]

/-- A parameter of an SQL statement. -/
def paramText : Sql.Param → String
  | .text s => "Text(" ++ quoted s ++ ")"
  | .integer n => "Integer(" ++ String.ofList (Decimal.ofInt n) ++ ")"

/-- How a query is read and compiled. -/
def parsedText (query : String) (now : Instant) : Except Failure String :=
  match Condition.parse query with
  | .error m => .error (.malformedQuery m)
  | .ok none => .ok "(empty query)\n"
  | .ok (some c) =>
    let f := ((cardSchema now).compile c).predicate.fragment
    .ok (c.text ++ "\n" ++ f.sql ++ "\n[" ++ ", ".intercalate (f.params.map paramText) ++ "]\n")

/-! ### Commands -/

/-- Does the command need a user before a database is opened? -/
def Command.needsUserFirst : Command → Bool
  | add .. | learn _ | showCard _ => true
  | _ => false

/-- What a command does to a database and prints, for a session at an instant. The choice decides
which of several cards is learned. -/
def Command.run (db : Database) (session : Session) (scheduler : Scheduler) (now : Instant)
    (choice : Nat) : Command → Except Failure String × Database
  | add kind item english tags =>
    match session.subject with
    | .error f => (.error f, db)
    | .ok owner =>
      let (card, db) := db.add owner ⟨kind, item, english, tags⟩
      (card.map fun c ↦ c.id.hex ++ "\n", db)
  | mark card outcome =>
    let (record, db) := scheduler.mark Database.store db session card outcome now
    (record.map fun r ↦
      "Level " ++ toString r.level ++ ", next review at " ++ r.nextReview.stored ++ ".\n", db)
  | learn kind =>
    let output : Except Failure String := do
      let card ← db.pick (← session.subject) kind choice
      return card.elim "No new cards.\n" cardLine
    (output, db)
  | showCard id =>
    let output : Except Failure String := do
      let owner ← session.subject
      match ← db.get owner id with
      | none => throw (.noSuchCard id.hex)
      | some card => return (shownJson card (← db.load owner id) now).pretty ++ "\n"
    (output, db)
  | search query limit =>
    let output : Except Failure String := do
      return String.join ((← db.searchCards session query now limit).map cardLine)
    (output, db)
  | parse query => (parsedText query now, db)

/-- Carries out a command on the database at a path. -/
def Command.perform {m : Type → Type} [Monad m] (host : Host m) (command : Command)
    (path : String) (session : Session) (scheduler : Scheduler) (now : Instant) (choice : Nat) :
    m (Except Failure String) := do
  match command with
  | .parse query => return parsedText query now
  | _ =>
    if command.needsUserFirst && session.isNone then return .error .notLoggedIn
    match ← host.openDatabase path with
    | .error f => return .error f
    | .ok db =>
      let (output, changed) := command.run db session scheduler now choice
      -- A command that fails may still have changed something before it did.
      host.keep path changed
      return output

/-- Carries out what the arguments ask for, with the user of the environment if it names one. -/
def run {m : Type → Type} [Monad m] (host : Host m) (arguments : List String)
    (environmentUser : Option String) (now : Instant) (choice : Nat) : m Report := do
  match Invocation.parse arguments with
  | .error stop => return .stopped stop
  | .ok invocation =>
    let path := invocation.config.getD Config.standardPath
    match Config.load path (← host.read path) with
    | .error f => return .failed f
    | .ok config =>
      let user := (invocation.user.or environmentUser).or config.user
      let database := invocation.database.getD config.database
      match config.scheduler with
      | .error f => return .failed f
      | .ok scheduler =>
        match ← invocation.command.perform host database (user.map Subject.mk) scheduler now choice
        with
        | .ok output => return .done output
        | .error f => return .failed f

/-! ### The end of a run -/

/-- The exit code of a run, and what it leaves on the two streams. -/
structure Exit where
  code : UInt8
  output : String
  errors : String

/-- The name and the version of the program. -/
def versionText : String := "zhquiz 0.1.0\n"

/-- What the arguments can be. -/
def usageText : String :=
  "Usage: zhquiz [--config PATH] [--db PATH] [--user NAME] COMMAND\n\n" ++
  "  add ITEM [--type TYPE] [--english TEXT] [--tag TAG]...\n" ++
  "  mark CARD right|wrong|repeat\n" ++
  "  learn [--type TYPE]\n" ++
  "  show CARD\n" ++
  "  search QUERY [--limit COUNT]\n" ++
  "  parse QUERY\n"

/-- How a run ends. -/
def Report.exit : Report → Exit
  | stopped .help => ⟨0, usageText, ""⟩
  | stopped .version => ⟨0, versionText, ""⟩
  | stopped .usage => ⟨2, "", usageText⟩
  | done output => ⟨0, output, ""⟩
  | failed f => ⟨1, "", "zhquiz: " ++ f.message ++ "\n"⟩

end SpacedReview.CommandLine

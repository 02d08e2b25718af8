import SpacedReview.Review.Scheduler
import SpacedReview.Toml.Read

/-!
# Configuration

A configuration is a TOML document with three settings, all of them optional: where the database
is, which user to act as, and the table `srs` with the intervals of the levels in hours and the
delay for cards that were never reviewed in minutes. A setting that is not known, or has the wrong
form, is refused, and so are intervals that make no table of levels; the numbers have 32 bits.

The table `srs` may also be given as an array, which has its settings in the order above.
-/

namespace SpacedReview

open SpacedReview.Review

/-- The settings of the schedule. -/
structure ScheduleConfig where
  intervalsHours : List Nat
  repeatMinutes : Nat
  deriving DecidableEq, Repr

/-- The settings. -/
structure Config where
  database : String
  user : Option String
  srs : ScheduleConfig
  deriving DecidableEq, Repr

/-- The usual schedule. -/
def ScheduleConfig.standard : ScheduleConfig := ⟨LevelTable.standardHours, 10⟩

namespace Config

/-- The settings that hold where none are given. -/
def standard : Config := ⟨"zhquiz.sqlite3", none, .standard⟩

/-- The file that the configuration is read from if no other is named. -/
def standardPath : String := "zhquiz.toml"

/-! ### Settings -/

/-- A setting that is a text. -/
def text? : Toml.Value → Option String
  | .string s => some s
  | _ => none

/-- A setting that is a number of 32 bits without sign. -/
def number? : Toml.Value → Option Nat
  | .integer n => if 0 ≤ n ∧ n < Text.Decimal.count32 then some n.toNat else none
  | _ => none

/-- A setting that is an array of such numbers. -/
def numbers? : Toml.Value → Option (List Nat)
  | .array items => items.mapM number?
  | _ => none

/-- The schedule with one more setting. -/
def addSchedule (config : ScheduleConfig) : String × Toml.Value → Option ScheduleConfig
  | ("intervals_hours", v) => (numbers? v).map fun hours ↦ { config with intervalsHours := hours }
  | ("repeat_minutes", v) => (number? v).map fun minutes ↦ { config with repeatMinutes := minutes }
  | _ => none

/-- The settings of the schedule in the form of a table or an array. -/
def schedule? : Toml.Value → Option ScheduleConfig
  | .table _ entries => entries.foldlM addSchedule .standard
  | .array [] => some .standard
  | .array [hours] => addSchedule .standard ("intervals_hours", hours)
  | .array (hours :: minutes :: _) => do
    addSchedule (← addSchedule .standard ("intervals_hours", hours)) ("repeat_minutes", minutes)
  | _ => none

/-- The configuration with one more setting. -/
def add (config : Config) : String × Toml.Value → Option Config
  | ("database", v) => (text? v).map fun path ↦ { config with database := path }
  | ("user", v) => (text? v).map fun name ↦ { config with user := some name }
  | ("srs", v) => (schedule? v).map fun srs ↦ { config with srs := srs }
  | _ => none

/-! ### Reading -/

/-- The scheduler that a configuration asks for. -/
def scheduler (config : Config) : Except Failure Scheduler :=
  match LevelTable.ofHours config.srs.intervalsHours with
  | .ok levels => .ok ⟨levels, .minutes config.srs.repeatMinutes⟩
  | .error flaw => .error (.badLevels flaw)

/-- Reads a configuration. -/
def parse (s : String) : Except Failure Config :=
  match (Toml.parse? s).bind fun entries ↦ entries.foldlM add standard with
  | none => .error .badConfig
  | some config => do
    let _ ← config.scheduler
    return config

/-- What is found at the path of a file. -/
inductive Source where
  | missing
  /-- A file that cannot be read as text. -/
  | unreadable
  | text (content : String)

/-- Loads a configuration from the file at a path. A missing file means the usual settings. -/
def load (path : String) : Source → Except Failure Config
  | .missing => .ok standard
  | .unreadable => .error .files
  | .text content => (parse content).mapError (.inFile path)

end Config

end SpacedReview

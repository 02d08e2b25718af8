/-!
# TOML values

A TOML document is a table, built up statement by statement: a header names the table that the
assignments behind it belong to, and an assignment gives a value to a key, which may be dotted and
then leads through tables of its own. How a table came to be decides what may still be added to it:

* a table named by a header is never named again, but may be led through;
* a table that only a longer header led through may still be named;
* a table made by dotted keys takes further dotted keys, and no header;
* a table written out as a value is closed.

Nothing is ever given twice.
-/

namespace SpacedReview.Toml

/-- How a table came to be. -/
inductive Origin where
  /-- Written out as a value. -/
  | closed
  /-- Led through by a longer header. -/
  | implicit
  /-- Named by a header. -/
  | header
  /-- Led through by a dotted key. -/
  | dotted
  deriving DecidableEq, Repr

/-- A value of a document. -/
inductive Value where
  | string (s : String)
  | integer (n : Int)
  /-- A truth value or a number with a point or an exponent. -/
  | other
  /-- An array written out as a value. -/
  | array (items : List Value)
  /-- An array of tables, each named by a header, the last one first. -/
  | tables (items : List (List (String × Value)))
  | table (origin : Origin) (entries : List (String × Value))

/-- The keys of a table and their values. -/
abbrev Entries := List (String × Value)

namespace Entries

/-- Changes the value of a key, if the change is allowed. -/
def alter (key : String) (change : Option Value → Option Value) : Entries → Option Entries
  | [] => (change none).map fun v ↦ [(key, v)]
  | (k, v) :: rest =>
    if k = key then (change (some v)).map fun v ↦ (k, v) :: rest
    else (alter key change rest).map ((k, v) :: ·)

/-- Gives a value to a dotted key. -/
def assign (value : Value) : List String → Entries → Option Entries
  | [], _ => none
  | [key], entries =>
    entries.alter key fun
      | none => some value
      | some _ => none
  | key :: path, entries =>
    entries.alter key fun
      | none => (assign value path []).map (.table .dotted)
      | some (.table .dotted inner) => (assign value path inner).map (.table .dotted)
      | some _ => none

/-- Changes the table that a header names. -/
def within (change : Entries → Option Entries) : List String → Entries → Option Entries
  | [], entries => change entries
  | key :: path, entries =>
    entries.alter key fun
      | some (.table .closed _) => none
      | some (.table origin inner) => (within change path inner).map (.table origin)
      | some (.tables (last :: before)) => (within change path last).map (.tables <| · :: before)
      | _ => none

/-- Changes the value of the last key of a header, whose other keys lead to it. -/
def atHeader (change : Option Value → Option Value) : List String → Entries → Option Entries
  | [], _ => none
  | [key], entries => entries.alter key change
  | key :: path, entries =>
    entries.alter key fun
      | none => (atHeader change path []).map (.table .implicit)
      | some (.table .closed _) => none
      | some (.table origin inner) => (atHeader change path inner).map (.table origin)
      | some (.tables (last :: before)) => (atHeader change path last).map (.tables <| · :: before)
      | some _ => none

/-- A header that names a table. -/
def openTable : Option Value → Option Value
  | none => some (.table .header [])
  | some (.table .implicit inner) => some (.table .header inner)
  | some _ => none

/-- A header that adds a table to an array. -/
def openElement : Option Value → Option Value
  | none => some (.tables [[]])
  | some (.tables before) => some (.tables ([] :: before))
  | some _ => none

end Entries

/-! ### Documents -/

/-- A statement of a document. -/
inductive Statement where
  | table (path : List String)
  | element (path : List String)
  | assign (path : List String) (value : Value)

/-- The table that a row of statements builds, behind the header that names `current`. -/
def build (current : List String) (root : Entries) : List Statement → Option Entries
  | [] => some root
  | .table path :: rest => do build path (← root.atHeader Entries.openTable path) rest
  | .element path :: rest => do build path (← root.atHeader Entries.openElement path) rest
  | .assign path value :: rest => do
    build current (← root.within (Entries.assign value path) current) rest

end SpacedReview.Toml

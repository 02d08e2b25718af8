import SpacedReview.Json.Read
import SpacedReview.Store.Database

/-!
# Databases in files

A database is kept in a file as a JSON object with one array for each table, and each row is an
array of the row's columns. An empty file holds an empty database.
-/

namespace SpacedReview.Store

open SpacedReview.Json

/-! ### Writing -/

/-- A row of the table of cards. -/
def CardRow.toJson (row : CardRow) : Value :=
  .array [.text row.id.hex, .text row.owner.name, .text row.kind, .text row.item,
    row.english.elim .null .text]

/-- A row of the table of tags. -/
def TagRow.toJson (row : TagRow) : Value := .array [.text row.id.hex, .text row.tag]

/-- A row of the table of review records. -/
def QuizRow.toJson (row : QuizRow) : Value :=
  .array [.text row.id.hex, .number (.ofInt row.level), .text row.nextReview, .text row.stat]

/-- The text of a database. -/
def Database.toText (db : Database) : String :=
  (Value.object [(some "cards", .array (db.cards.map CardRow.toJson)),
    (some "tags", .array (db.tags.map TagRow.toJson)),
    (some "quizzes", .array (db.quizzes.map QuizRow.toJson))]).compact

/-! ### Reading -/

/-- A column that holds a text or nothing. -/
def english? : Value → Option (Option String)
  | .null => some none
  | .string (some s) => some (some s)
  | _ => none

/-- Reads a row of the table of cards. -/
def CardRow.ofJson? : Value → Option CardRow
  | .array [.string (some id), .string (some owner), .string (some kind), .string (some item), e] =>
    do return ⟨⟨← Digest.ofHex? id⟩, ⟨owner⟩, kind, item, ← english? e⟩
  | _ => none

/-- Reads a row of the table of tags. -/
def TagRow.ofJson? : Value → Option TagRow
  | .array [.string (some id), .string (some tag)] => do return ⟨⟨← Digest.ofHex? id⟩, tag⟩
  | _ => none

/-- Reads a row of the table of review records. -/
def QuizRow.ofJson? : Value → Option QuizRow
  | .array [.string (some id), .number level, .string (some nextReview), .string (some stat)] =>
    do return ⟨⟨← Digest.ofHex? id⟩, ← level.toInt?, nextReview, stat⟩
  | _ => none

/-- Reads a database. -/
def Database.ofJson? : Value → Option Database
  | .object [(some "cards", .array cards), (some "tags", .array tags),
      (some "quizzes", .array quizzes)] =>
    do return ⟨← cards.mapM CardRow.ofJson?, ← tags.mapM TagRow.ofJson?,
      ← quizzes.mapM QuizRow.ofJson?⟩
  | _ => none

/-- Reads the text of a database. -/
def Database.ofText? (s : String) : Option Database :=
  if s = "" then some .empty else (Value.parse? s).bind ofJson?

end SpacedReview.Store

import SpacedReview.Review.Scheduler
import SpacedReview.Review.Stored

/-!
# The database

Three tables: cards, their tags, and their review records. A card belongs to the user who added it,
and the tables are keyed by the card's identifier alone, so everything that is asked for a user
tests who owns the card. Rows are kept in the order of their first insertion.

What is stored may be older than the program, or damaged, so the rows hold texts: the kind of a
card, the time a card is next due, and the statistics are read when they are needed, and reading
them can fail. Levels are stored as signed 64-bit numbers and read back as zero if negative.
-/

namespace SpacedReview

open SpacedReview.Review SpacedReview.Time

/-- A card as a user sees it. Its scheduling state is kept apart. -/
structure Card where
  id : CardId
  kind : CardKind
  item : String
  english : Option String
  tags : List String
  deriving DecidableEq

namespace Store

open SpacedReview.Text

/-- A row of the table of cards. -/
structure CardRow where
  id : CardId
  owner : Subject
  kind : String
  item : String
  english : Option String
  deriving DecidableEq

/-- A row of the table of tags. -/
structure TagRow where
  id : CardId
  tag : String
  deriving DecidableEq

/-- A row of the table of review records. -/
structure QuizRow where
  id : CardId
  level : Int
  nextReview : String
  stat : String
  deriving DecidableEq

/-- The tables. -/
structure Database where
  cards : List CardRow
  tags : List TagRow
  quizzes : List QuizRow
  deriving DecidableEq

namespace Database

/-- Tables without rows. -/
def empty : Database := ⟨[], [], []⟩

/-! ### Looking up -/

/-- The card with an identifier, if the user owns it. -/
def owned? (db : Database) (owner : Subject) (id : CardId) : Option CardRow :=
  db.cards.find? fun row ↦ row.id == id && row.owner == owner

/-- The review record of a card. -/
def quiz? (db : Database) (id : CardId) : Option QuizRow := db.quizzes.find? (·.id == id)

/-- The tags of a card, in order. -/
def tagsOf (db : Database) (id : CardId) : List String :=
  ((db.tags.filter (·.id == id)).map (·.tag)).mergeSort fun s t ↦ decide (s ≤ t)

/-- One of a user's cards. -/
def get (db : Database) (owner : Subject) (id : CardId) : Except Failure (Option Card) :=
  match db.owned? owner id with
  | none => .ok none
  | some row =>
    match CardKind.ofWord? row.kind with
    | none => .error .database
    | some kind => .ok (some ⟨id, kind, row.item, row.english, db.tagsOf id⟩)

/-- The number of a user's cards. -/
def count (db : Database) (owner : Subject) : Nat := db.cards.countP (·.owner == owner)

/-! ### Transactions -/

/-- Changes to the tables that are not made for good yet. -/
structure Transaction where
  before : Database
  tables : Database

/-- Begins to change the tables. -/
def begin (db : Database) : Transaction := ⟨db, db⟩

namespace Transaction

/-- One more change to the tables. -/
def update (transaction : Transaction) (change : Database → Database) : Transaction :=
  { transaction with tables := change transaction.tables }

/-- Makes the changes for good. -/
def commit (transaction : Transaction) : Database := transaction.tables

/-- Takes the changes back. -/
def abandon (transaction : Transaction) : Database := transaction.before

end Transaction

/-! ### Adding cards -/

/-- A card to be added. -/
structure NewCard where
  kind : CardKind
  item : String
  english : Option String
  tags : List String

/-- Adds a card, or gives an existing one new English if there is any. -/
def putCard (db : Database) (row : CardRow) : Database :=
  if db.cards.any (·.id == row.id) then
    { db with
      cards := db.cards.map fun old ↦
        if old.id = row.id then { old with english := row.english.or old.english } else old }
  else
    { db with cards := db.cards ++ [row] }

/-- Gives a card a tag, unless it has it already. -/
def putTag (db : Database) (row : TagRow) : Database :=
  if row ∈ db.tags then db else { db with tags := db.tags ++ [row] }

/-- The tables after a user adds a card. -/
def insert (db : Database) (owner : Subject) (card : NewCard) : Database :=
  let id := CardId.ofCard owner card.kind card.item
  card.tags.foldl (fun db tag ↦ db.putTag ⟨id, tag⟩)
    (db.putCard ⟨id, owner, card.kind.word, card.item, card.english⟩)

/-- Adds a card for a user: the card as it then is, and the tables. The card is looked up again
after the transaction, so the tables stay changed even if that fails. -/
def add (db : Database) (owner : Subject) (card : NewCard) : Except Failure Card × Database :=
  let id := CardId.ofCard owner card.kind card.item
  let db := (db.begin.update fun tables ↦ tables.insert owner card).commit
  match db.get owner id with
  | .ok (some card) => (.ok card, db)
  | .ok none => (.error (.vanished id.hex), db)
  | .error f => (.error f, db)

/-! ### Cards to learn -/

/-- The cards of a user, of one kind if asked for, that were never reviewed. -/
def candidates (db : Database) (owner : Subject) (kind : Option CardKind) : List CardId :=
  let fits (row : CardRow) : Bool :=
    row.owner == owner && kind.all (fun k ↦ row.kind == k.word) && (db.quiz? row.id).isNone
  (db.cards.filter fits).map (·.id)

/-- The card to learn that a choice among the candidates falls on. -/
def pick (db : Database) (owner : Subject) (kind : Option CardKind) (choice : Nat) :
    Except Failure (Option Card) :=
  let ids := db.candidates owner kind
  match ids[choice % ids.length]? with
  | some id => db.get owner id
  | none => .ok none

/-! ### Review records -/

/-- Puts a review record in the place of an older one of the same card. -/
def putQuiz (db : Database) (row : QuizRow) : Database :=
  if db.quizzes.any (·.id == row.id) then
    { db with quizzes := db.quizzes.map fun old ↦ if old.id = row.id then row else old }
  else
    { db with quizzes := db.quizzes ++ [row] }

/-- Reads a row of the table of review records. -/
def QuizRow.read (row : QuizRow) : Except Failure Record :=
  match Instant.ofStored? row.nextReview with
  | none => .error .database
  | some nextReview => do
    return ⟨row.id, row.level.toNat, nextReview, ← Stat.parse row.stat⟩

/-- The row that a record is stored in. -/
def QuizRow.write (r : Record) : QuizRow :=
  ⟨r.card, Decimal.wrapInt64 r.level, r.nextReview.stored, r.stat.stored⟩

/-- A user's record of a card, if the user owns the card and ever reviewed it. -/
def load (db : Database) (owner : Subject) (id : CardId) : Except Failure (Option Record) :=
  match db.quiz? id, db.owned? owner id with
  | some row, some _ => (QuizRow.read row).map some
  | _, _ => .ok none

/-- Stores a user's record of a card that the user owns. Who owns it is asked within the
transaction, which is abandoned if it is not the user. -/
def save (db : Database) (owner : Subject) (record : Record) : Except Failure Unit × Database :=
  let transaction := db.begin
  match transaction.tables.owned? owner record.card with
  | none => (.error (.noSuchCard record.card.hex), transaction.abandon)
  | some _ => (.ok (), (transaction.update (·.putQuiz (QuizRow.write record))).commit)

/-- The store of records in the database. -/
def store : RecordStore Database := ⟨load, save⟩

end Database

end Store

end SpacedReview

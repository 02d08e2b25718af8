import SpacedReview.Review.Scheduler

/-!
# Records in memory

A store that keeps the records of every user apart, in a row of entries of which no two are about
the same card of the same user.
-/

namespace SpacedReview.Store

open SpacedReview.Review

/-- A user's record of a card. -/
structure Entry where
  owner : Subject
  record : Record

/-- Records of cards by user. -/
structure Memory where
  entries : List Entry

namespace Memory

/-- No records. -/
def empty : Memory := ⟨[]⟩

/-- Is an entry the one about a card of a user? -/
def isAbout (owner : Subject) (card : CardId) (e : Entry) : Bool :=
  e.owner == owner && e.record.card == card

/-- A user's record of a card. -/
def find? (m : Memory) (owner : Subject) (card : CardId) : Option Record :=
  (m.entries.find? (isAbout owner card)).map Entry.record

/-- Puts a user's record of a card in the place of an older one. -/
def insert (m : Memory) (owner : Subject) (record : Record) : Memory :=
  ⟨⟨owner, record⟩ :: m.entries.filter fun e ↦ !isAbout owner record.card e⟩

/-- The number of records. -/
def size (m : Memory) : Nat := m.entries.length

/-! ### Laws -/

@[simp] theorem find?_empty (owner : Subject) (card : CardId) : empty.find? owner card = none := rfl

theorem isAbout_iff {owner : Subject} {card : CardId} {e : Entry} :
    isAbout owner card e = true ↔ e.owner = owner ∧ e.record.card = card := by
  simp [isAbout]

/-- What is found is about the card that is asked for. -/
theorem card_of_find? {m : Memory} {owner : Subject} {card : CardId} {record : Record}
    (h : m.find? owner card = some record) : record.card = card := by
  obtain ⟨e, he, rfl⟩ := Option.map_eq_some_iff.1 h
  exact (isAbout_iff.1 (List.find?_some he)).2

/-- What was put in is found. -/
@[simp] theorem find?_insert_self (m : Memory) (owner : Subject) (record : Record) :
    (m.insert owner record).find? owner record.card = some record := by
  simp [find?, insert, isAbout]

/-- Other records are not touched. -/
theorem find?_insert_of_ne (m : Memory) {owner owner' : Subject} {record : Record} {card : CardId}
    (h : owner' ≠ owner ∨ card ≠ record.card) :
    (m.insert owner record).find? owner' card = m.find? owner' card := by
  have hne : isAbout owner' card ⟨owner, record⟩ = false := by
    rcases h with h | h <;> simp [isAbout, Ne.symm h]
  have hkeep : ∀ e : Entry,
      isAbout owner' card e = true → (!isAbout owner record.card e) = true := by
    intro e he
    obtain ⟨ho, hc⟩ := isAbout_iff.1 he
    rcases h with h | h <;> simp [isAbout, ho, hc, h]
  simp only [find?, insert, List.find?_cons, hne, List.find?_filter]
  congr 2
  funext e
  cases he : isAbout owner' card e with
  | false => simp
  | true => simpa using hkeep e he

/-- The store of records in memory. -/
def store : RecordStore Memory where
  load m owner card := .ok (m.find? owner card)
  save m owner record := (.ok (), m.insert owner record)

end Memory

end SpacedReview.Store

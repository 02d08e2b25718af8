import SpacedReview.Review.Record

/-!
# Marking cards

The scheduler marks a card for the user who is logged in: it loads the card's record from a store,
or starts a fresh one if there is none, applies the outcome, and saves the result. A failure of any
step is the failure of the whole, and no later step is taken.

A store is given by how records are loaded from and saved to some kind of state. What is saved may
change the state also where saving fails, so the state that it leaves stands beside the failure.
Records belong to users, and a store never mixes those of two.
-/

namespace SpacedReview

/-- Who is logged in, if anyone. -/
abbrev Session := Option Subject

/-- The user who is logged in. -/
def Session.subject (session : Session) : Except Failure Subject :=
  match session with
  | some s => .ok s
  | none => .error .notLoggedIn

namespace Review

open SpacedReview.Time

/-- How records are kept in a state. -/
structure RecordStore (σ : Type) where
  /-- A user's record of a card, if the user ever reviewed it. -/
  load : σ → Subject → CardId → Except Failure (Option Record)
  /-- Puts a user's record of a card in the place of an older one. The state is the one that is
  left. -/
  save : σ → Subject → Record → Except Failure Unit × σ

namespace RecordStore

variable {σ : Type}

/-- A store that refuses to load or to save, for the given reasons. -/
def refusing (store : RecordStore σ) (load save : Option String) : RecordStore σ where
  load state owner card :=
    match load with
    | some reason => .error (.refused reason)
    | none => store.load state owner card
  save state owner record :=
    match save with
    | some reason => (.error (.refused reason), state)
    | none => store.save state owner record

/-- Loads a record for the user who is logged in. -/
def loadFor (store : RecordStore σ) (state : σ) (session : Session) (card : CardId) :
    Except Failure (Option Record) := do
  store.load state (← session.subject) card

/-- Saves a record for the user who is logged in. -/
def saveFor (store : RecordStore σ) (state : σ) (session : Session) (record : Record) :
    Except Failure Unit × σ :=
  match session.subject with
  | .error f => (.error f, state)
  | .ok owner => store.save state owner record

end RecordStore

/-- The levels of cards, and the delay after which a card that was never reviewed is first due. -/
structure Scheduler where
  levels : LevelTable
  delay : Duration

namespace Scheduler

/-- The usual levels, and a delay of ten minutes. -/
def standard : Scheduler := ⟨.standard, .minutes 10⟩

/-- The record of a card after a review, given the record it had before, if it had one. -/
def review (scheduler : Scheduler) (loaded : Option Record) (card : CardId) (outcome : Outcome)
    (now : Instant) : Except Failure Record := do
  let record ← match loaded with
    | some record => pure record
    | none => Record.fresh card now scheduler.delay
  record.mark outcome scheduler.levels now

/-- Marks a card for the user who is logged in. Gives the new record, and the state that is left. -/
def mark {σ : Type} (scheduler : Scheduler) (store : RecordStore σ) (state : σ) (session : Session)
    (card : CardId) (outcome : Outcome) (now : Instant) : Except Failure Record × σ :=
  match session.subject with
  | .error f => (.error f, state)
  | .ok owner =>
    match (store.load state owner card).bind (scheduler.review · card outcome now) with
    | .error f => (.error f, state)
    | .ok record =>
      let (saved, state) := store.save state owner record
      (saved.map fun _ ↦ record, state)

end Scheduler

end Review

end SpacedReview

import SpacedReview.Time.Instant

/-!
# Level tables

Each level of a card has the interval after which the card is asked again. A table of levels has at
least one of them, no interval is negative or longer than a hundred years, and no level has a
shorter interval than the one below it. `LevelTable.ofIntervals` is the only way to a table, and it
says which of these fails. It compares neighbours; that the whole table ascends then follows.
-/

namespace SpacedReview.Review

open SpacedReview.Time

/-- A hundred years. -/
def longestInterval : Duration := .days 36525

/-- The intervals of the levels, from level zero up. -/
structure LevelTable where
  intervals : List Duration
  ne_nil : intervals ≠ []
  nonneg : ∀ i ∈ intervals, 0 ≤ i
  le_longest : ∀ i ∈ intervals, i ≤ longestInterval
  ascending : intervals.Pairwise (· ≤ ·)
  deriving DecidableEq

namespace LevelTable

/-- What can be wrong with a table. -/
inductive Flaw where
  | noLevels
  | negative
  | tooLong
  | descending
  deriving DecidableEq, Repr

/-- The words for a flaw. -/
def Flaw.message : Flaw → String
  | noLevels => "the SRS level table must have at least one level."
  | negative => "SRS intervals must not be negative."
  | tooLong => "SRS intervals must not exceed a hundred years."
  | descending => "SRS intervals must be non-decreasing."

/-- Is no interval shorter than the one in front of it? -/
def neighboursAscend : List Duration → Bool
  | i :: j :: rest => decide (i ≤ j) && neighboursAscend (j :: rest)
  | _ => true

theorem pairwise_of_neighboursAscend {is : List Duration} (h : neighboursAscend is = true) :
    is.Pairwise (· ≤ ·) := by
  induction is with
  | nil => exact .nil
  | cons i is ih =>
    cases is with
    | nil => exact List.pairwise_singleton _ _
    | cons j rest =>
      simp only [neighboursAscend, Bool.and_eq_true, decide_eq_true_eq] at h
      have htail := ih h.2
      refine List.pairwise_cons.2 ⟨fun k hk ↦ ?_, htail⟩
      rcases List.mem_cons.1 hk with rfl | hk
      · exact h.1
      · exact Duration.le_trans h.1 ((List.pairwise_cons.1 htail).1 k hk)

theorem neighboursAscend_of_pairwise {is : List Duration} (h : is.Pairwise (· ≤ ·)) :
    neighboursAscend is = true := by
  induction is with
  | nil => rfl
  | cons i is ih =>
    cases is with
    | nil => rfl
    | cons j rest =>
      have hcons := List.pairwise_cons.1 h
      simp [neighboursAscend, hcons.1 j (by simp), ih hcons.2]

/-- The table of a row of intervals. -/
def ofIntervals (intervals : List Duration) : Except Flaw LevelTable :=
  if hne : intervals = [] then .error .noLevels
  else if hneg : intervals.any (fun i ↦ decide (i < 0)) then .error .negative
  else if hlong : intervals.any (fun i ↦ decide (longestInterval < i)) then .error .tooLong
  else if hasc : neighboursAscend intervals then
    .ok ⟨intervals, hne, by simpa using hneg, by simpa using hlong,
      pairwise_of_neighboursAscend hasc⟩
  else .error .descending

/-- The table of a row of intervals in hours. -/
def ofHours (hours : List Nat) : Except Flaw LevelTable :=
  ofIntervals (hours.map fun (h : Nat) ↦ .hours h)

/-- The usual intervals, in hours: four and eight hours, one and three days, and one, two, four and
sixteen weeks. -/
def standardHours : List Nat := [4, 8, 24, 72, 168, 336, 672, 2688]

/-- The table of the usual intervals. -/
def standard : LevelTable where
  intervals := standardHours.map fun (h : Nat) ↦ .hours h
  ne_nil := by decide
  nonneg := by decide
  le_longest := by decide
  ascending := by decide

instance : Inhabited LevelTable := ⟨standard⟩

variable (table : LevelTable)

/-- The number of levels. -/
def size : Nat := table.intervals.length

theorem size_pos : 0 < table.size := List.length_pos_iff.2 table.ne_nil

/-- The highest level. -/
def top : Nat := table.size - 1

/-- The level of the table that is nearest to a number. -/
def clamp (level : Int) : Nat := (max 0 (min level table.top)).toNat

theorem clamp_lt_size (level : Int) : table.clamp level < table.size := by
  have := table.size_pos
  simp only [clamp, top]
  omega

/-- The interval of a level, if the table has the level. -/
def interval? (level : Nat) : Option Duration := table.intervals[level]?

end LevelTable

end SpacedReview.Review

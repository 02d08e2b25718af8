import SpacedReview.Time.Date
import SpacedReview.Time.Duration

/-!
# Instants

A point in time in UTC: whole seconds from 1970-01-01, and nanoseconds into that second. A leap
second is kept as part of the last second of its minute, so there the nanoseconds run on to two
thousand million. Instants are ordered by the second and then by the nanoseconds, which puts a leap
second behind the second it prolongs.

The range is that of whole days from the year -262143 to the year 262142.
-/

namespace SpacedReview.Time

/-- The first second of the range. -/
def firstSecond : Int := -8334601228800

/-- The last second of the range. -/
def lastSecond : Int := 8210266876799

example : firstSecond = (⟨-262143, 1, 1⟩ : Date).dayNumber * 86400 := by decide

example : lastSecond = (⟨262142, 12, 31⟩ : Date).dayNumber * 86400 + 86399 := by decide

/-- The nanoseconds of a second. -/
abbrev nanosPerSecond : Nat := 1000000000

/-- A point in time in UTC. -/
structure Instant where
  seconds : Int
  nanos : Nat
  first_le : firstSecond ≤ seconds
  le_last : seconds ≤ lastSecond
  nanos_lt : nanos < 2 * nanosPerSecond
  /-- Only the last second of a minute is prolonged by a leap second. -/
  leap : nanosPerSecond ≤ nanos → seconds % 60 = 59
  deriving DecidableEq

namespace Instant

/-- The instant with the given parts, if it exists. -/
def ofParts? (seconds : Int) (nanos : Nat) : Option Instant :=
  if h : (firstSecond ≤ seconds ∧ seconds ≤ lastSecond) ∧ nanos < 2 * nanosPerSecond ∧
      (nanosPerSecond ≤ nanos → seconds % 60 = 59) then
    some ⟨seconds, nanos, h.1.1, h.1.2, h.2.1, h.2.2⟩
  else
    none

/-- Is the instant within a leap second? -/
def isLeap (t : Instant) : Bool := decide (nanosPerSecond ≤ t.nanos)

/-- 1970-01-01T00:00:00Z -/
def epoch : Instant := ⟨0, 0, by decide, by decide, by decide, by decide⟩

instance : Inhabited Instant := ⟨epoch⟩

/-! ### Order -/

/-- Is an instant earlier than another? -/
def lt (s t : Instant) : Prop :=
  s.seconds < t.seconds ∨ s.seconds = t.seconds ∧ s.nanos < t.nanos

/-- Is an instant no later than another? -/
def le (s t : Instant) : Prop :=
  s.seconds < t.seconds ∨ s.seconds = t.seconds ∧ s.nanos ≤ t.nanos

instance : LT Instant := ⟨lt⟩

instance : LE Instant := ⟨le⟩

instance (s t : Instant) : Decidable (s < t) := inferInstanceAs (Decidable (_ ∨ _ ∧ _))

instance (s t : Instant) : Decidable (s ≤ t) := inferInstanceAs (Decidable (_ ∨ _ ∧ _))

theorem lt_def {s t : Instant} :
    s < t ↔ s.seconds < t.seconds ∨ s.seconds = t.seconds ∧ s.nanos < t.nanos := Iff.rfl

theorem le_def {s t : Instant} :
    s ≤ t ↔ s.seconds < t.seconds ∨ s.seconds = t.seconds ∧ s.nanos ≤ t.nanos := Iff.rfl

theorem ext_iff' {s t : Instant} : s = t ↔ s.seconds = t.seconds ∧ s.nanos = t.nanos := by
  cases s
  cases t
  simp

theorem le_antisymm {s t : Instant} (h : s ≤ t) (h' : t ≤ s) : s = t := by
  rw [le_def] at h h'
  exact ext_iff'.2 ⟨by omega, by omega⟩

theorem lt_iff_not_le {s t : Instant} : s < t ↔ ¬t ≤ s := by
  rw [lt_def, le_def]
  omega

/-- How an instant lies to another. -/
def compare (s t : Instant) : Ordering :=
  if s < t then .lt else if s = t then .eq else .gt

/-! ### Moving in time -/

/-- The instant that a duration leads to. A duration that leaves a leap second in either direction
counts it as a second of its own, and one that stays within the second that a leap second prolongs
keeps to it. Outside the range there is no instant. -/
def add (t : Instant) (d : Duration) : Option Instant :=
  let seconds := d.nanos.tdiv nanosPerSecond
  let nanos := d.nanos.tmod nanosPerSecond
  let normal (second : Int) (nano : Int) : Option Instant :=
    let sum := nano + nanos
    ofParts? (second + seconds + sum / nanosPerSecond) (sum % nanosPerSecond).toNat
  if t.isLeap then
    -- Forward out of the leap second: it is over, so the second it prolongs goes on from its start.
    if 0 < seconds ∨ (0 < nanos ∧ 2 * nanosPerSecond ≤ t.nanos + nanos) then
      normal t.seconds (t.nanos - nanosPerSecond)
    -- Backward out of it: the leap second is left as if it were the next second.
    else if seconds < 0 then
      normal (t.seconds + 1) (t.nanos - nanosPerSecond)
    else
      ofParts? t.seconds (t.nanos + nanos).toNat
  else
    normal t.seconds t.nanos

end Instant

end SpacedReview.Time

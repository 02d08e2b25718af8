/-!
# Durations

A length of time in nanoseconds. A negative one leads back in time.
-/

namespace SpacedReview.Time

/-- A length of time. -/
structure Duration where
  nanos : Int
  deriving DecidableEq, Repr

namespace Duration

instance : OfNat Duration 0 := ⟨⟨0⟩⟩

instance : LE Duration := ⟨fun d e ↦ d.nanos ≤ e.nanos⟩

instance : LT Duration := ⟨fun d e ↦ d.nanos < e.nanos⟩

instance (d e : Duration) : Decidable (d ≤ e) := inferInstanceAs (Decidable (d.nanos ≤ e.nanos))

instance (d e : Duration) : Decidable (d < e) := inferInstanceAs (Decidable (d.nanos < e.nanos))

theorem le_def {d e : Duration} : d ≤ e ↔ d.nanos ≤ e.nanos := Iff.rfl

theorem lt_def {d e : Duration} : d < e ↔ d.nanos < e.nanos := Iff.rfl

theorem nonneg_iff {d : Duration} : 0 ≤ d ↔ 0 ≤ d.nanos := Iff.rfl

@[simp] theorem nanos_zero : (0 : Duration).nanos = 0 := rfl

theorem ext_iff' {d e : Duration} : d = e ↔ d.nanos = e.nanos := by
  cases d
  cases e
  simp

@[simp] theorem not_lt {d e : Duration} : ¬ d < e ↔ e ≤ d := Int.not_lt

theorem le_refl (d : Duration) : d ≤ d := Int.le_refl _

theorem le_trans {d e f : Duration} (h : d ≤ e) (h' : e ≤ f) : d ≤ f := Int.le_trans h h'

theorem lt_or_eq_of_le {d e : Duration} (h : d ≤ e) : d < e ∨ d = e := by
  rw [ext_iff', lt_def]
  exact Int.lt_or_eq_of_le h

/-- A number of milliseconds. -/
def millis (n : Int) : Duration := ⟨n * 1000000⟩

/-- A number of minutes. -/
def minutes (n : Int) : Duration := ⟨n * 60000000000⟩

/-- A number of hours. -/
def hours (n : Int) : Duration := ⟨n * 3600000000000⟩

/-- A number of days. -/
def days (n : Int) : Duration := ⟨n * 86400000000000⟩

/-- The whole milliseconds of a duration; what is left has the same sign. -/
def toMillis (d : Duration) : Int := d.nanos.tdiv 1000000

end Duration

end SpacedReview.Time

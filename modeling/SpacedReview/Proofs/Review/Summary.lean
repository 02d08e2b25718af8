import Mathlib.Data.List.DropRight
import Mathlib.Data.List.Induction
import Mathlib.Order.Bounds.Basic
import SpacedReview.Proofs.Review.Marks

/-!
# A record sums up its history

A record is changed by one mark after the other, and each mark only looks at the record. What the
parts of the record come to can be said of the whole row of marks instead: how many answers of a
kind there were since the last of the other kind, the most that this number ever was, when the last
answer of a kind was given, and when the last right answer asked for the card again
(`Record.SumsUp`). What the record started with counts where the marks say nothing. The statistics
that it started with may be anything, also such as no row of marks leads to.

The tables may change from mark to mark, and with them the highest level. So the interval that a
right answer asks for is not known from the outcomes alone, and the summary takes it from the level
that the record had just then.

A counter of 32 bits starts over behind the last number that it can hold, so the number of answers
is told up to a multiple of 2^32. A time can leave its range, and this is the only thing that a row
of marks can fail on.

## Main statements

* `Record.current_afterMarks`, `Record.isGreatest_longest`, `Record.last_afterMarks`: the
  statistics.
* `Record.sumsUp_afterMarks_iff`: a row of marks leads to a record that sums it up, just if no next
  review leaves the range of time.
-/

namespace SpacedReview.Review

open SpacedReview.Text SpacedReview.Time

/-! ### Rows of marks -/

/-- A review of a card: how it went, by which table of levels, and when. -/
structure Mark where
  outcome : Outcome
  table : LevelTable
  now : Instant

namespace Record

variable {r q marked : Record} {marks front back : List Mark} {m : Mark} {o : Outcome}

/-- The record after a row of marks. -/
def afterMarks (r : Record) (marks : List Mark) : Except Failure Record :=
  marks.foldlM (fun r m ↦ r.mark m.outcome m.table m.now) r

theorem afterMarks_append (r : Record) (front back : List Mark) :
    r.afterMarks (front ++ back) = (r.afterMarks front).bind fun q ↦ q.afterMarks back :=
  List.foldlM_append

theorem afterMarks_singleton (r : Record) (m : Mark) :
    r.afterMarks [m] = r.mark m.outcome m.table m.now :=
  bind_pure _

/-- A row of marks goes as far as its front, and then on. -/
theorem afterMarks_append_eq_ok_iff : r.afterMarks (front ++ back) = .ok marked ↔
    ∃ q, r.afterMarks front = .ok q ∧ q.afterMarks back = .ok marked := by
  rw [afterMarks_append, bind_eq_ok_iff]

/-- A row of marks goes as far as one mark, and then on. -/
theorem afterMarks_concat_eq_ok_iff : r.afterMarks (marks ++ [m]) = .ok marked ↔
    ∃ q, r.afterMarks marks = .ok q ∧ q.mark m.outcome m.table m.now = .ok marked := by
  simp only [afterMarks_append_eq_ok_iff, afterMarks_singleton]

/-- A row of marks that leads to a record grows by marks that do. -/
@[elab_as_elim]
theorem afterMarks_induction {r : Record}
    {motive : ∀ marks marked, r.afterMarks marks = .ok marked → Prop} (nil : motive [] r rfl)
    (concat : ∀ marks m q marked (hq : r.afterMarks marks = .ok q)
      (hm : q.mark m.outcome m.table m.now = .ok marked), motive marks q hq →
        motive (marks ++ [m]) marked (afterMarks_concat_eq_ok_iff.2 ⟨q, hq, hm⟩))
    (marks : List Mark) (marked : Record) (h : r.afterMarks marks = .ok marked) :
    motive marks marked h := by
  induction marks using List.reverseRecOn generalizing marked with
  | nil =>
    obtain rfl := Except.ok.inj h
    exact nil
  | append_singleton marks m ih =>
    obtain ⟨q, hq, hm⟩ := afterMarks_concat_eq_ok_iff.1 h
    exact concat marks m q marked hq hm (ih q hq)

theorem exists_afterMarks_of_append (h : r.afterMarks (front ++ m :: back) = .ok marked) :
    ∃ q next, r.afterMarks front = .ok q ∧ q.mark m.outcome m.table m.now = .ok next ∧
      next.afterMarks back = .ok marked := by
  obtain ⟨q, hq, h⟩ := afterMarks_append_eq_ok_iff.1 h
  rw [← List.singleton_append] at h
  obtain ⟨next, hnext, h⟩ := afterMarks_append_eq_ok_iff.1 h
  exact ⟨q, next, hq, afterMarks_singleton q m ▸ hnext, h⟩

end Record

/-! ### Answers of a kind

The statistics keep the same three numbers for right and for wrong answers, and each answer of one
kind ends the row of the other. So the kind is a parameter here. -/

/-- The answer that ends a row of equal answers. -/
def Outcome.opposite : Outcome → Outcome
  | right => wrong
  | wrong => right
  | again => again

namespace Stat

variable (stat : Stat) (o outcome : Outcome) (now : Instant)

/-- The current row of answers of a kind. -/
def current : Outcome → Nat
  | .right => stat.streak.right.toNat
  | .wrong => stat.streak.wrong.toNat
  | .again => 0

/-- The longest row of answers of a kind so far. -/
def longest : Outcome → Nat
  | .right => stat.streak.maxRight.toNat
  | .wrong => stat.streak.maxWrong.toNat
  | .again => 0

/-- When the last answer of a kind was given. -/
def last : Outcome → Option Instant
  | .right => stat.lastRight
  | .wrong => stat.lastWrong
  | .again => none

theorem current_lt : stat.current o < Decimal.count32 := by
  cases o with
  | again => exact Nat.succ_pos _
  | right => exact stat.streak.right.toNat_lt
  | wrong => exact stat.streak.wrong.toNat_lt

theorem current_count : (stat.count outcome now).current o =
    if outcome = o.opposite then 0
    else if outcome = o then (stat.current o + 1) % Decimal.count32 else stat.current o := by
  cases o <;> cases outcome <;> rfl

theorem longest_count : (stat.count outcome now).longest o =
    if outcome = o then max (stat.longest o) ((stat.count outcome now).current o)
    else stat.longest o := by
  cases o <;> cases outcome <;> first | rfl | exact UInt32.toNat_max _ _

theorem last_count {o : Outcome} (h : o ≠ .again) : (stat.count outcome now).last o =
    if outcome = o then some now else stat.last o := by
  cases o with
  | again => exact absurd rfl h
  | right => cases outcome <;> rfl
  | wrong => cases outcome <;> rfl

end Stat

/-- The number of answers of a kind since the last of the opposite kind. The number that a record
started with is added if there was none of the opposite kind. -/
def inRow (o : Outcome) (start : Nat) (marks : List Mark) : Nat :=
  (marks.rtakeWhile fun m ↦ decide (m.outcome ≠ o.opposite)).countP
      (fun m ↦ decide (m.outcome = o)) +
    if ∃ m ∈ marks, m.outcome = o.opposite then 0 else start

/-- When the last answer of a kind was given; the time that a record started with if there was
none. -/
def lastTime (o : Outcome) (start : Option Instant) (marks : List Mark) : Option Instant :=
  ((marks.filter fun m ↦ decide (m.outcome = o)).getLast?.map (·.now)).or start

theorem inRow_concat (o : Outcome) (start : Nat) (marks : List Mark) (m : Mark) :
    inRow o start (marks ++ [m]) =
      if m.outcome = o.opposite then 0
      else if m.outcome = o then inRow o start marks + 1 else inRow o start marks := by
  by_cases hends : m.outcome = o.opposite
  · rw [if_pos hends, inRow, List.rtakeWhile_concat_neg _ _ _ (by simpa using hends),
      if_pos ⟨m, by simp, hends⟩, List.countP_nil]
  · have hsame : (∃ m' ∈ marks ++ [m], m'.outcome = o.opposite) ↔
        ∃ m' ∈ marks, m'.outcome = o.opposite := by
      simp [or_and_right, exists_or, hends]
    rw [if_neg hends, inRow, List.rtakeWhile_concat_pos _ _ _ (by simpa using hends),
      List.countP_append, List.countP_singleton, inRow]
    simp only [hsame, decide_eq_true_eq]
    split <;> omega

example : inRow .right 5 ([.right, .wrong, .right, .again, .right].map (⟨·, .standard, .epoch⟩)) =
    2 := by
  decide

theorem lastTime_concat (o : Outcome) (start : Option Instant) (marks : List Mark) (m : Mark) :
    lastTime o start (marks ++ [m]) =
      if m.outcome = o then some m.now else lastTime o start marks := by
  by_cases hkind : m.outcome = o <;> simp [lastTime, List.filter_append, hkind]

namespace Record

variable {r q marked : Record} {marks front back : List Mark} {m : Mark} {o : Outcome}

/-! ### Statistics -/

/-- What the current row of answers of a kind came to just after each of these answers. -/
def peaks (r : Record) (o : Outcome) (marks : List Mark) : Set Nat :=
  {n | ∃ front m q, front ++ [m] <+: marks ∧ m.outcome = o ∧
    r.afterMarks (front ++ [m]) = .ok q ∧ q.stat.current o = n}

/-- One more mark brings one more such number, or none. -/
theorem peaks_concat (h : r.afterMarks (marks ++ [m]) = .ok marked) :
    r.peaks o (marks ++ [m]) =
      if m.outcome = o then insert (marked.stat.current o) (r.peaks o marks)
      else r.peaks o marks := by
  have hsplit : ∀ n, n ∈ r.peaks o (marks ++ [m]) ↔
      (m.outcome = o ∧ marked.stat.current o = n) ∨ n ∈ r.peaks o marks := by
    intro n
    constructor
    · rintro ⟨front, m', q, hprefix, hkind, hq, hn⟩
      rcases List.prefix_concat_iff.1 hprefix with heq | hprefix
      · obtain ⟨rfl, hlast⟩ := List.append_inj' heq rfl
        obtain rfl := List.singleton_inj.1 hlast
        obtain rfl := Except.ok.inj (hq.symm.trans h)
        exact .inl ⟨hkind, hn⟩
      · exact .inr ⟨front, m', q, hprefix, hkind, hq, hn⟩
    · rintro (⟨hkind, hn⟩ | ⟨front, m', q, hprefix, hkind, hq, hn⟩)
      · exact ⟨marks, m, marked, List.prefix_refl _, hkind, h, hn⟩
      · exact ⟨front, m', q, hprefix.trans (List.prefix_append _ _), hkind, hq, hn⟩
  ext n
  rw [hsplit]
  split
  · rename_i hkind
    simp [hkind, eq_comm]
  · rename_i hkind
    simp [hkind]

/-- The current row of answers of a kind. -/
theorem current_afterMarks (h : r.afterMarks marks = .ok marked) (o : Outcome) :
    marked.stat.current o = inRow o (r.stat.current o) marks % Decimal.count32 := by
  induction marks, marked, h using afterMarks_induction with
  | nil => simp [inRow, Nat.mod_eq_of_lt (r.stat.current_lt o)]
  | concat marks m q marked hq hm ih =>
    obtain ⟨-, -, hstat, -⟩ := mark_eq_ok_iff.1 hm
    rw [hstat, Stat.current_count, inRow_concat, ih]
    split
    · rfl
    · split
      · exact Nat.mod_add_mod _ _ _
      · rfl

/-- The longest row of answers of a kind. -/
theorem isGreatest_longest (h : r.afterMarks marks = .ok marked) (o : Outcome) :
    IsGreatest (insert (r.stat.longest o) (r.peaks o marks)) (marked.stat.longest o) := by
  induction marks, marked, h using afterMarks_induction with
  | nil =>
    have hnone : r.peaks o [] = ∅ := by simp [peaks]
    rw [hnone, insert_empty_eq]
    exact isGreatest_singleton
  | concat marks m q marked hq hm ih =>
    obtain ⟨-, -, hstat, -⟩ := mark_eq_ok_iff.1 hm
    have hlongest := q.stat.longest_count o m.outcome m.now
    rw [← hstat] at hlongest
    rw [peaks_concat (afterMarks_concat_eq_ok_iff.2 ⟨q, hq, hm⟩), hlongest]
    split
    · rw [Set.insert_comm, max_comm]
      exact ih.insert _
    · exact ih

/-- When the last answer of a kind was given. -/
theorem last_afterMarks (h : r.afterMarks marks = .ok marked) (o : Outcome) (ho : o ≠ .again) :
    marked.stat.last o = lastTime o (r.stat.last o) marks := by
  induction marks, marked, h using afterMarks_induction with
  | nil => simp [lastTime]
  | concat marks m q marked hq hm ih =>
    obtain ⟨-, -, hstat, -⟩ := mark_eq_ok_iff.1 hm
    rw [hstat, Stat.last_count _ _ _ ho, lastTime_concat, ih]

/-! ### Next reviews -/

/-- Only right answers move the next review. -/
theorem nextReview_afterMarks (h : r.afterMarks marks = .ok marked)
    (hmarks : ∀ m ∈ marks, m.outcome ≠ .right) : marked.nextReview = r.nextReview := by
  induction marks, marked, h using afterMarks_induction with
  | nil => rfl
  | concat marks m q marked hq hm ih =>
    obtain ⟨-, -, -, hnext⟩ := mark_eq_ok_iff.1 hm
    rw [if_neg (hmarks m (by simp))] at hnext
    rw [hnext, ih fun m' hm' ↦ hmarks m' (List.mem_append_left _ hm')]

/-- Do all next reviews that right answers ask for lie in the range of time? -/
def StaysInRange (r : Record) (marks : List Mark) : Prop :=
  ∀ front m back q i, marks = front ++ m :: back → m.outcome = .right →
    r.afterMarks front = .ok q → m.table.interval? (q.levelAfter .right m.table) = some i →
      (m.now.add i).isSome = true

/-- A row of marks leads to a record just if it stays in the range of time. -/
theorem exists_afterMarks_iff :
    (∃ marked, r.afterMarks marks = .ok marked) ↔ r.StaysInRange marks := by
  constructor
  · rintro ⟨marked, h⟩ front m back q i rfl hright hq hi
    obtain ⟨q', next, hq', hnext, -⟩ := exists_afterMarks_of_append h
    obtain rfl := Except.ok.inj (hq.symm.trans hq')
    obtain ⟨-, hlevel, -, hdue⟩ := mark_eq_ok_iff.1 hnext
    rw [if_pos hright, hlevel, hright, hi] at hdue
    obtain ⟨i', hi', hdue⟩ := hdue
    rw [Option.some.inj hi', hdue]
    rfl
  · intro h
    induction marks using List.reverseRecOn with
    | nil => exact ⟨r, rfl⟩
    | append_singleton marks m ih =>
      obtain ⟨q, hq⟩ := ih fun front m' back q i hmarks ↦
        h front m' (back ++ [m]) q i (by rw [hmarks, List.append_assoc, List.cons_append])
      cases hm : q.mark m.outcome m.table m.now with
      | ok marked => exact ⟨marked, afterMarks_concat_eq_ok_iff.2 ⟨q, hq, hm⟩⟩
      | error f =>
        obtain ⟨hright, -, i, hi, hnone⟩ := mark_eq_error_iff.1 hm
        have hsome := h marks m [] q i rfl hright hq (hright ▸ hi)
        rw [hnone] at hsome
        cases hsome

/-- More than a hundred years before the end of time no mark leaves the range. -/
theorem staysInRange_of_lt
    (h : ∀ m ∈ marks, m.now.seconds + LevelTable.secondsOfCentury < lastSecond) :
    r.StaysInRange marks := by
  rintro front m back q i rfl - - hi
  have hnow := h m (by simp)
  have hmem := List.mem_of_getElem? hi
  have hlongest : i.nanos ≤ longestInterval.nanos := m.table.le_longest i hmem
  simp only [longestInterval, Duration.days, LevelTable.secondsOfCentury] at hnow hlongest
  obtain ⟨due, hdue, -⟩ := Instant.exists_add (t := m.now) (m.table.nonneg i hmem) (by omega)
  rw [hdue]
  rfl

/-! ### The summary -/

/-- A record that sums up a row of marks. -/
structure SumsUp (marked r : Record) (marks : List Mark) : Prop where
  card : marked.card = r.card
  /-- A counter that would overflow starts over from zero. -/
  right : marked.stat.streak.right.toNat =
    inRow .right r.stat.streak.right.toNat marks % Decimal.count32
  wrong : marked.stat.streak.wrong.toNat =
    inRow .wrong r.stat.streak.wrong.toNat marks % Decimal.count32
  maxRight : IsGreatest (insert r.stat.streak.maxRight.toNat (r.peaks .right marks))
    marked.stat.streak.maxRight.toNat
  maxWrong : IsGreatest (insert r.stat.streak.maxWrong.toNat (r.peaks .wrong marks))
    marked.stat.streak.maxWrong.toNat
  lastRight : marked.stat.lastRight = lastTime .right r.stat.lastRight marks
  lastWrong : marked.stat.lastWrong = lastTime .wrong r.stat.lastWrong marks
  /-- The last right answer asks for the card again after the interval of the level that it led
  to. -/
  nextReview_of_right : ∀ front m back, marks = front ++ m :: back → m.outcome = .right →
    (∀ m' ∈ back, m'.outcome ≠ .right) → ∃ q i, r.afterMarks (front ++ [m]) = .ok q ∧
      m.table.interval? q.level = some i ∧ m.now.add i = some marked.nextReview
  nextReview_of_no_right : (∀ m ∈ marks, m.outcome ≠ .right) → marked.nextReview = r.nextReview
  /-- A review that is to be repeated changes none of this. -/
  again : ∀ front m back, marks = front ++ m :: back → m.outcome = .again → ∃ q next,
    r.afterMarks front = .ok q ∧ r.afterMarks (front ++ [m]) = .ok next ∧ next.stat = q.stat ∧
      next.nextReview = q.nextReview

theorem card_afterMarks (h : r.afterMarks marks = .ok marked) : marked.card = r.card := by
  induction marks, marked, h using afterMarks_induction with
  | nil => rfl
  | concat marks m q marked hq hm ih => rw [(mark_eq_ok_iff.1 hm).1, ih]

/-- A row of marks, by tables that may change from one to the next, leads to a record that sums it
up, just if no next review that it asks for leaves the range of time. The record that it starts from
may be any. -/
theorem sumsUp_afterMarks_iff (r : Record) (marks : List Mark) :
    (∃ marked, r.afterMarks marks = .ok marked ∧ marked.SumsUp r marks) ↔
      r.StaysInRange marks := by
  rw [← exists_afterMarks_iff]
  refine exists_congr fun marked ↦ ⟨And.left, fun h ↦ ⟨h, ?_⟩⟩
  refine ⟨card_afterMarks h, current_afterMarks h .right, current_afterMarks h .wrong,
    isGreatest_longest h .right, isGreatest_longest h .wrong, last_afterMarks h .right (by decide),
    last_afterMarks h .wrong (by decide), ?_, nextReview_afterMarks h, ?_⟩
  · rintro front m back rfl hright hback
    obtain ⟨q, next, hq, hnext, hlast⟩ := exists_afterMarks_of_append h
    obtain ⟨-, -, -, hdue⟩ := mark_eq_ok_iff.1 hnext
    rw [if_pos hright] at hdue
    obtain ⟨i, hi, hdue⟩ := hdue
    refine ⟨next, i, afterMarks_concat_eq_ok_iff.2 ⟨q, hq, hnext⟩, hi, ?_⟩
    rw [hdue, nextReview_afterMarks hlast hback]
  · rintro front m back rfl hagain
    obtain ⟨q, next, hq, hnext, -⟩ := exists_afterMarks_of_append h
    obtain ⟨-, -, hstat, hdue⟩ := mark_eq_ok_iff.1 hnext
    rw [hagain] at hstat
    rw [if_neg (by rw [hagain]; decide)] at hdue
    exact ⟨q, next, hq, afterMarks_concat_eq_ok_iff.2 ⟨q, hq, hnext⟩, hstat, hdue⟩

end Record

end SpacedReview.Review

import SpacedReview.Proofs.Review.Summary

/-!
# A lead is never lost

Two records that are marked alike stay in their order: the one whose level was not above that of the
other is never ahead of it later, however the tables change from mark to mark, and even if a level
that it started with is beyond all of them. A mark keeps the order because a level is clamped after
it was moved, and the clamp only brings levels together. The next reviews come into the same order
with the first right answer, since a table has no shorter interval for a higher level.

So the record that is ahead is the only one that can be due beyond the range of time, and the other
one follows it through every row of marks (`Record.Trails.afterMarks`). Right answers in a row lead
both to the top of a table that is not changed meanwhile, and from there on they are on one level.

## Main statements

* `Record.Trails.mark`: what one mark does to two records.
* `Record.not_overtaken`: what a row of marks does to them.
-/

namespace SpacedReview.Review

open SpacedReview.Time

variable {r r' q q' marked : Record} {outcome : Outcome} {table : LevelTable} {now : Instant}
  {marks run : List Mark}

theorem LevelTable.clamp_le_clamp {lower level : Int} (h : lower ≤ level) :
    table.clamp lower ≤ table.clamp level := by
  simp only [clamp]
  omega

namespace Record

/-- A record that is not ahead of another. The levels are those that a mark can still raise. -/
structure Trails (r q : Record) : Prop where
  level_le : r.level ≤ q.level
  level_lt : q.level < 2 ^ 63 - 1

/-! ### One mark -/

/-- A table leads to levels that a mark can raise again, as it has fewer than 2^63 of them. -/
theorem level_lt_of_mark (hsize : table.size < 2 ^ 63)
    (h : q.mark outcome table now = .ok marked) : marked.level < 2 ^ 63 - 1 := by
  obtain ⟨-, hlevel, -⟩ := mark_eq_ok_iff.1 h
  have hlt := q.levelAfter_lt_size outcome table
  omega

theorem Trails.levelAfter_le (h : r.Trails q) (outcome : Outcome) (table : LevelTable) :
    r.levelAfter outcome table ≤ q.levelAfter outcome table := by
  obtain ⟨hle, hlt⟩ := h
  rw [levelAfter_eq (by omega), levelAfter_eq (by omega)]
  exact LevelTable.clamp_le_clamp (by omega)

/-- Where the record that is ahead can be marked, so can the other. Their order stays, and right
answers bring the next reviews into it as well. -/
theorem Trails.mark (h : r.Trails q) (hsize : table.size < 2 ^ 63)
    (hq : q.mark outcome table now = .ok q') :
    ∃ r', r.mark outcome table now = .ok r' ∧ r'.Trails q' ∧
      if outcome = .right then r'.nextReview ≤ q'.nextReview
      else r'.nextReview = r.nextReview ∧ q'.nextReview = q.nextReview := by
  have hlt := level_lt_of_mark hsize hq
  obtain ⟨-, hlevel, -, hnext⟩ := mark_eq_ok_iff.1 hq
  have hle : r.levelAfter outcome table ≤ q'.level := by
    rw [hlevel]
    exact h.levelAfter_le outcome table
  generalize hlower : r.levelAfter outcome table = lower at hle
  by_cases hright : outcome = .right
  · rw [if_pos hright] at hnext
    obtain ⟨i, hi, hnext⟩ := hnext
    obtain ⟨j, hj, hforward, hji⟩ := LevelTable.exists_interval_le hle hi
    obtain ⟨due, hdue, hearlier⟩ := Instant.exists_add_of_le hforward hji hnext
    refine ⟨⟨r.card, lower, due, r.stat.count outcome now⟩,
      mark_eq_ok_iff.2 ⟨rfl, hlower.symm, rfl, ?_⟩, ⟨hle, hlt⟩, ?_⟩
    · rw [if_pos hright]
      exact ⟨j, hj, hdue⟩
    · rw [if_pos hright]
      exact hearlier
  · rw [if_neg hright] at hnext
    refine ⟨⟨r.card, lower, r.nextReview, r.stat.count outcome now⟩,
      mark_eq_ok_iff.2 ⟨rfl, hlower.symm, rfl, ?_⟩, ⟨hle, hlt⟩, ?_⟩
    · rw [if_neg hright]
    · rw [if_neg hright]
      exact ⟨rfl, hnext⟩

/-! ### Rows of marks -/

/-- The record that is behind follows the one that is ahead. -/
theorem Trails.afterMarks (h : r.Trails q) (hsizes : ∀ m ∈ marks, m.table.size < 2 ^ 63)
    (hq : q.afterMarks marks = .ok q') :
    ∃ r', r.afterMarks marks = .ok r' ∧ r'.Trails q' ∧
      ((∃ m ∈ marks, m.outcome = .right) → r'.nextReview ≤ q'.nextReview) := by
  induction marks, q', hq using afterMarks_induction with
  | nil => exact ⟨r, rfl, h, fun ⟨_, hm, _⟩ ↦ absurd hm List.not_mem_nil⟩
  | concat marks m q' next hq hm ih =>
    obtain ⟨r', hr, htrails, hdue⟩ := ih fun m hm ↦ hsizes m (List.mem_append_left _ hm)
    obtain ⟨r'', hr', htrails', hnext⟩ := htrails.mark (hsizes m (by simp)) hm
    refine ⟨r'', afterMarks_concat_eq_ok_iff.2 ⟨r', hr, hr'⟩, htrails', fun hsome ↦ ?_⟩
    -- the last right answer is this mark, or one of those that the next reviews have come from
    by_cases hright : m.outcome = .right
    · rwa [if_pos hright] at hnext
    · rw [if_neg hright] at hnext
      rw [hnext.1, hnext.2]
      refine hdue ?_
      simpa [or_and_right, exists_or, hright] using hsome

/-- Levels that a mark can raise lead to such levels. -/
theorem level_afterMarks_lt (h : r.level < 2 ^ 63 - 1)
    (hsizes : ∀ m ∈ marks, m.table.size < 2 ^ 63) (hr : r.afterMarks marks = .ok marked) :
    marked.level < 2 ^ 63 - 1 := by
  obtain ⟨_, hmarked, htrails, -⟩ := Trails.afterMarks ⟨le_rfl, h⟩ hsizes hr
  exact htrails.level_lt

/-- Right answers by one table raise the level by their number, up to the top of the table. -/
theorem level_afterMarks_of_rights (h : r.level < 2 ^ 63 - 1) (hsize : table.size < 2 ^ 63)
    (hrights : ∀ m ∈ run, m.outcome = .right ∧ m.table = table) (hne : run ≠ [])
    (hr : r.afterMarks run = .ok marked) :
    marked.level = min (r.level + run.length) table.top := by
  induction run, marked, hr using afterMarks_induction with
  | nil => exact absurd rfl hne
  | concat run m q marked hq hm ih =>
    have hfront : ∀ m ∈ run, m.outcome = .right ∧ m.table = table :=
      fun m hm ↦ hrights m (List.mem_append_left _ hm)
    obtain ⟨hright, htable⟩ := hrights m (by simp)
    have hlt := level_afterMarks_lt h (fun m hm ↦ (hfront m hm).2 ▸ hsize) hq
    obtain ⟨-, hlevel, -⟩ := mark_eq_ok_iff.1 hm
    rw [levelAfter_eq (by omega), hright, htable, LevelTable.clamp, Outcome.delta] at hlevel
    rw [List.length_append, List.length_singleton]
    rcases eq_or_ne run [] with rfl | hne'
    · obtain rfl := Except.ok.inj hq
      simp only [List.length_nil]
      omega
    · have hq := ih hfront hne'
      omega

/-- As many right answers as a table has levels lead to the top of it. -/
theorem level_eq_top_of_rights (h : r.level < 2 ^ 63 - 1) (hsize : table.size < 2 ^ 63)
    (hrights : ∀ m ∈ run, m.outcome = .right ∧ m.table = table) (hlength : run.length = table.size)
    (hr : r.afterMarks run = .ok marked) : marked.level = table.top := by
  have hpos := table.size_pos
  have hne : run ≠ [] := List.length_pos_iff.1 (hlength ▸ hpos)
  rw [level_afterMarks_of_rights h hsize hrights hne hr, LevelTable.top]
  omega

/-- Records on one level stay on one level. -/
theorem level_afterMarks_eq (heq : r.level = q.level) (h : q.level < 2 ^ 63 - 1)
    (hsizes : ∀ m ∈ marks, m.table.size < 2 ^ 63) (hr : r.afterMarks marks = .ok r')
    (hq : q.afterMarks marks = .ok q') : r'.level = q'.level := by
  obtain ⟨r'', hr'', hle, -⟩ := Trails.afterMarks ⟨heq.le, h⟩ hsizes hq
  obtain ⟨q'', hq'', hge, -⟩ := Trails.afterMarks ⟨heq.ge, heq ▸ h⟩ hsizes hr
  obtain rfl := Except.ok.inj (hr.symm.trans hr'')
  obtain rfl := Except.ok.inj (hq.symm.trans hq'')
  exact le_antisymm hle.level_le hge.level_le

/-- As many right answers in a row as a table has levels bring all records to one level, and what
comes after them does not part them. -/
theorem level_eq_of_rights (hlevelr : r.level < 2 ^ 63 - 1) (hlevelq : q.level < 2 ^ 63 - 1)
    (hsizes : ∀ m ∈ marks, m.table.size < 2 ^ 63) (hrun : run <:+: marks)
    (hrights : ∀ m ∈ run, m.outcome = .right ∧ m.table = table) (hlength : run.length = table.size)
    (hr : r.afterMarks marks = .ok r') (hq : q.afterMarks marks = .ok q') :
    r'.level = q'.level := by
  obtain ⟨front, back, rfl⟩ := hrun
  simp only [List.mem_append] at hsizes
  have hsize : table.size < 2 ^ 63 := by
    obtain ⟨m, hm⟩ := List.exists_mem_of_length_pos (hlength ▸ table.size_pos)
    exact (hrights m hm).2 ▸ hsizes m (.inl (.inr hm))
  -- both records are followed to the start of the run, to its end, and through what is left
  have htop : ∀ {p p' : Record}, p.level < 2 ^ 63 - 1 →
      p.afterMarks (front ++ run ++ back) = .ok p' →
        ∃ top : Record, top.level = table.top ∧ top.level < 2 ^ 63 - 1 ∧
          top.afterMarks back = .ok p' := by
    intro p p' hlevel hp
    obtain ⟨top, hp, hback⟩ := afterMarks_append_eq_ok_iff.1 hp
    obtain ⟨start, hfront, hrun⟩ := afterMarks_append_eq_ok_iff.1 hp
    have hstart := level_afterMarks_lt hlevel (fun m hm ↦ hsizes m (.inl (.inl hm))) hfront
    exact ⟨top, level_eq_top_of_rights hstart hsize hrights hlength hrun,
      level_afterMarks_lt hstart (fun m hm ↦ hsizes m (.inl (.inr hm))) hrun, hback⟩
  obtain ⟨s, hs, -, hback⟩ := htop hlevelr hr
  obtain ⟨t, ht, hlt, hback'⟩ := htop hlevelq hq
  exact level_afterMarks_eq (hs.trans ht.symm) hlt (fun m hm ↦ hsizes m (.inr hm)) hback hback'

/-- What a row of marks does to two records, if the one that is ahead is never due beyond the range
of time. After every mark it is still not behind, and once an answer was right it is not due before
the other. As many right answers in a row as their table has levels bring both to one level for
good. The levels that the records start with may be beyond the tables, and the tables may change; in
memory a table has fewer than 2^63 levels. -/
theorem not_overtaken (hle : r.level ≤ q.level) (hlt : q.level < 2 ^ 63 - 1)
    (hsizes : ∀ m ∈ marks, m.table.size < 2 ^ 63) (hrange : q.StaysInRange marks) :
    ∀ front, front <+: marks → ∃ r' q', r.afterMarks front = .ok r' ∧
      q.afterMarks front = .ok q' ∧ r'.level ≤ q'.level ∧
        ((∃ m ∈ front, m.outcome = .right) → r'.nextReview ≤ q'.nextReview) ∧
          ∀ table run, run <:+: front → run.length = table.size →
            (∀ m ∈ run, m.outcome = .right ∧ m.table = table) → r'.level = q'.level := by
  rintro front ⟨back, rfl⟩
  have hfront : ∀ m ∈ front, m.table.size < 2 ^ 63 :=
    fun m hm ↦ hsizes m (List.mem_append_left _ hm)
  obtain ⟨_, hall⟩ := exists_afterMarks_iff.2 hrange
  obtain ⟨q', hq, -⟩ := afterMarks_append_eq_ok_iff.1 hall
  obtain ⟨r', hr, htrails, hdue⟩ := Trails.afterMarks ⟨hle, hlt⟩ hfront hq
  refine ⟨r', q', hr, hq, htrails.level_le, hdue, fun table run hrun hlength hrights ↦ ?_⟩
  exact level_eq_of_rights (by omega) hlt hfront hrun hrights hlength hr hq

/-- Two right answers in a row bring a fresh record and one whose level is beyond all tables to the
top of a table with two levels. -/
theorem not_overtaken_beyond_table :
    let card := CardId.ofCard ⟨"alice"⟩ .hanzi "学"
    let now : Instant := ⟨1717200000, 0, by decide, by decide, by decide, by decide⟩
    let later : Instant := ⟨1717300000, 0, by decide, by decide, by decide, by decide⟩
    let short : LevelTable := ⟨[.hours 1, .hours 4], by decide, by decide, by decide, by decide⟩
    let r : Record := ⟨card, 0, now, .initial⟩
    let q : Record := ⟨card, 40, .epoch, .initial⟩
    let marks : List Mark := [⟨.wrong, .standard, now⟩, ⟨.right, short, now⟩,
      ⟨.right, short, later⟩, ⟨.again, .standard, later⟩]
    ∃ r' q', r.afterMarks marks = .ok r' ∧ q.afterMarks marks = .ok q' ∧ r'.level = q'.level ∧
      r'.nextReview ≤ q'.nextReview := by
  intro card now later short r q marks
  have hsizes : ∀ m ∈ marks, m.table.size < 2 ^ 63 := by
    simp only [marks, List.forall_mem_cons]
    decide
  have hrange : q.StaysInRange marks := by
    refine staysInRange_of_lt ?_
    simp only [marks, List.forall_mem_cons]
    decide
  obtain ⟨r', q', hr, hq, -, hdue, hlevel⟩ :=
    not_overtaken (by decide : r.level ≤ q.level) (by decide) hsizes hrange marks List.prefix_rfl
  have hrun : [⟨.right, short, now⟩, ⟨.right, short, later⟩] <:+: marks :=
    ⟨[⟨.wrong, .standard, now⟩], [⟨.again, .standard, later⟩], rfl⟩
  exact ⟨r', q', hr, hq, hlevel short _ hrun rfl (by simp), hdue (by simp [marks])⟩

end Record

end SpacedReview.Review

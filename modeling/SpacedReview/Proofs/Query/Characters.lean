import Mathlib.Data.List.TakeWhile
import SpacedReview.Query.Token

/-!
# Classes of characters and runs

What the readers of queries need to know about characters: a blank is no part of a field name and no
part of an operator, and an operator is no part of a field name. The tables of the classes are
independent of each other, so that blanks and letters are disjoint is a fact about their entries; it
is settled by going through the code points of the small table.

On top of it stand the runs that queries are made of, and how far such a run reaches: a text is cut
where its run of one class ends, and a run without blanks ends at the latest at the next blank.
-/

namespace SpacedReview

open SpacedReview.Text

/-! ### Code points of a table -/

/-- The code points in the ranges of a table, one by one. -/
def Text.Ranges.codePoints (rs : Ranges) : List Nat :=
  rs.flatMap fun r ↦ List.range' r.1 (r.2 + 1 - r.1)

theorem Text.Ranges.mem_codePoints_of_contains {rs : Ranges} {n : Nat}
    (h : rs.contains n = true) : n ∈ rs.codePoints := by
  obtain ⟨r, hr, hfirst, hlast⟩ := exists_mem_of_contains h
  refine List.mem_flatMap.2 ⟨r, hr, List.mem_range'_1.2 ⟨hfirst, ?_⟩⟩
  omega

/-- No blank is a letter or a number. -/
theorem Text.contains_eq_false_of_mem_blankRanges :
    ∀ n ∈ blankRanges.codePoints,
      letterRanges.contains n = false ∧ numberRanges.contains n = false := by
  decide +kernel

namespace Query

/-! ### Characters -/

theorem isNameChar_of_isNameStart {c : Char} (h : isNameStart c = true) : isNameChar c = true := by
  rw [isNameStart, Bool.or_eq_true] at h
  rcases h with h | h <;> simp [isNameChar, h]

/-- A blank is no part of a field name. -/
theorem isNameChar_eq_false_of_isBlank {c : Char} (h : isBlank c = true) :
    isNameChar c = false := by
  have hmem := Ranges.mem_codePoints_of_contains h
  obtain ⟨hletter, hnumber⟩ := contains_eq_false_of_mem_blankRanges c.toNat hmem
  have hmark : c ≠ '_' ∧ c ≠ '.' := by
    constructor <;> rintro rfl <;> exact absurd h (by decide)
  simp [isNameChar, isLetter, isNumber, hletter, hnumber, hmark]

theorem isBlank_eq_false_of_isNameChar {c : Char} (h : isNameChar c = true) :
    isBlank c = false := by
  by_contra hb
  rw [isNameChar_eq_false_of_isBlank (by simpa using hb)] at h
  exact absurd h (by simp)

/-- An operator has neither blanks nor characters of a field name in it. -/
theorem Operator.not_nameChar_of_mem_symbol {op : Operator} {c : Char} (h : c ∈ op.symbol) :
    isNameChar c = false ∧ isBlank c = false := by
  cases op <;> simp only [symbol, List.mem_cons, List.not_mem_nil, or_false] at h <;>
    rcases h with rfl | rfl <;> decide

/-! ### Runs -/

/-- A run of blanks, which may be empty. -/
def IsGap (w : List Char) : Prop := ∀ c ∈ w, isBlank c = true

theorem isGap_nil : IsGap [] := nofun

theorem isGap_space : IsGap [' '] := by
  intro c hc
  obtain rfl := List.mem_singleton.1 hc
  decide

/-- A run without blanks, which is not empty. -/
def IsWord (w : List Char) : Prop := w ≠ [] ∧ ∀ c ∈ w, isBlank c = false

/-- A field name: a letter or `_`, then letters, numbers, `_` and `.`. -/
def IsName (name : List Char) : Prop :=
  ∃ c cs, name = c :: cs ∧ isNameStart c = true ∧ ∀ d ∈ cs, isNameChar d = true

theorem IsGap.append {v w : List Char} (hv : IsGap v) (hw : IsGap w) : IsGap (v ++ w) := by
  intro c hc
  rcases List.mem_append.1 hc with hc | hc
  · exact hv c hc
  · exact hw c hc

/-- A text is a gap, or goes on behind the gap that it starts with. -/
theorem isGap_or_exists_cons (cs : List Char) :
    IsGap cs ∨ ∃ w c ds, cs = w ++ c :: ds ∧ IsGap w ∧ isBlank c = false := by
  have hgap : IsGap (cs.takeWhile isBlank) := fun c hc ↦ List.mem_takeWhile_imp hc
  have hhead := List.head?_dropWhile_not isBlank cs
  cases hdrop : cs.dropWhile isBlank with
  | nil => exact .inl (List.dropWhile_eq_nil_iff.1 hdrop)
  | cons c ds =>
    refine .inr ⟨cs.takeWhile isBlank, c, ds, ?_, hgap, by simpa [hdrop] using hhead⟩
    rw [← hdrop, List.takeWhile_append_dropWhile]

theorem IsName.all_isNameChar {name : List Char} (h : IsName name) :
    ∀ c ∈ name, isNameChar c = true := by
  obtain ⟨d, cs, rfl, hd, hcs⟩ := h
  intro c hc
  rcases List.mem_cons.1 hc with rfl | hc
  · exact isNameChar_of_isNameStart hd
  · exact hcs c hc

/-! ### Boundaries -/

/-- A text ends at a boundary if it goes on with a gap that is not empty. -/
theorem atBoundary_append {w cs : List Char} (hw : IsGap w) (hne : w ≠ []) :
    atBoundary (w ++ cs) = true := by
  obtain ⟨c, w, rfl⟩ := List.exists_cons_of_ne_nil hne
  exact hw c (by simp)

theorem IsGap.atBoundary {w : List Char} (hw : IsGap w) : atBoundary w = true := by
  cases w with
  | nil => rfl
  | cons c w => exact hw c (by simp)

/-- A text that starts with a character other than a blank goes on. -/
theorem atBoundary_cons {c : Char} {cs : List Char} (hc : isBlank c = false) :
    atBoundary (c :: cs) = false := hc

/-- Cutting a text behind a run of one class, where the class is left. -/
theorem span_append {p : Char → Bool} {v w : List Char} (hv : ∀ c ∈ v, p c = true)
    (hw : ∀ c ∈ w.head?, p c = false) :
    (v ++ w).takeWhile p = v ∧ (v ++ w).dropWhile p = w := by
  rw [List.takeWhile_append_of_pos hv, List.dropWhile_append_of_pos hv]
  cases w with
  | nil => simp
  | cons c w =>
    have hc : ¬ p c = true := by simp [hw c (by simp)]
    simp [List.takeWhile_cons_of_neg hc, List.dropWhile_cons_of_neg hc]

theorem isBlank_eq_true_of_atBoundary {rest : List Char} (h : atBoundary rest = true) :
    ∀ c ∈ rest.head?, isBlank c = true := by
  cases rest with
  | nil => simp
  | cons c rest =>
    intro d hd
    obtain rfl : c = d := by simpa using hd
    exact h

/-- What stands in front of a boundary without blanks has no part behind the boundary. -/
theorem prefix_of_prefix_append {xs v rest : List Char} (hxs : ∀ c ∈ xs, isBlank c = false)
    (hrest : atBoundary rest = true) (h : xs <+: v ++ rest) : xs <+: v := by
  rcases List.prefix_or_prefix_of_prefix h (List.prefix_append v rest) with h' | ⟨ys, rfl⟩
  · exact h'
  · cases ys with
    | nil => simp
    | cons c ys =>
      obtain ⟨zs, hzs⟩ := (List.prefix_append_right_inj v).1 h
      have hblank := isBlank_eq_true_of_atBoundary hrest c (by simp [← hzs])
      rw [hxs c (by simp)] at hblank
      exact absurd hblank (by simp)

end Query

end SpacedReview

import Mathlib.Algebra.Group.Nat.Defs
import Mathlib.Data.List.Basic
import SpacedReview.Text.Decimal

/-!
# Numerals of a fixed width

A number that is filled up with zeros has just the width asked for, unless it is too large for it.
Among the numbers that fit, the numerals are in the order of the numbers, whatever stands behind
them: this is what makes texts put together from such numerals compare part by part.

A width of zero is of no use here, as the numeral of zero has a digit; so widths are successors.

## Main statements

* `length_padded`: a numeral that fits has the width.
* `lt_length_padded`: one that does not fit is wider.
* `padded_append_lt`: numerals that fit compare like their numbers.
-/

namespace SpacedReview.Text.Decimal

theorem isDigit_of_mem_padded {width n : Nat} {c : Char} (h : c ∈ padded width n) :
    c.isDigit = true := by
  rcases List.mem_append.1 h with h | h
  · rw [List.eq_of_mem_replicate h]
    decide
  · exact Nat.isDigit_of_mem_toDigits (by decide) (by decide) h

theorem padded_ne_nil (width n : Nat) : padded width n ≠ [] := by
  simp [padded, Nat.toDigits_ne_nil]

/-- A number with one digit. -/
theorem padded_one {n : Nat} (hn : n < 10) : padded 1 n = [n.digitChar] := by
  simp [padded, Nat.toDigits_of_lt_base hn]

/-- The last digit of a numeral stands by itself. -/
theorem padded_succ (width n : Nat) :
    padded (width + 2) n = padded (width + 1) (n / 10) ++ [(n % 10).digitChar] := by
  by_cases hn : n < 10
  · have hdiv : n / 10 = 0 := by omega
    have hmod : n % 10 = n := by omega
    have hzero : List.replicate (width + 1) '0' = List.replicate width '0' ++ ['0'] :=
      List.replicate_succ'
    simp [padded, Nat.toDigits_of_lt_base hn, hdiv, hmod, hzero]
  · rw [padded, padded, Nat.toDigits_of_base_le (by decide) (by omega), List.length_append,
      List.length_singleton, Nat.add_sub_add_right (width + 1) 1, List.append_assoc]

/-- A numeral that fits has the width. -/
theorem length_padded (width : Nat) {n : Nat} (hn : n < 10 ^ (width + 1)) :
    (padded (width + 1) n).length = width + 1 := by
  have hdigits : (Nat.toDigits 10 n).length ≤ width + 1 :=
    (Nat.length_toDigits_le_iff (by decide) (by omega)).2 hn
  simp only [padded, List.length_append, List.length_replicate]
  omega

/-- A numeral that does not fit is wider. -/
theorem lt_length_padded (width : Nat) {n : Nat} (hn : 10 ^ (width + 1) ≤ n) :
    width + 1 < (padded (width + 1) n).length := by
  have hdigits : ¬ (Nat.toDigits 10 n).length ≤ width + 1 := fun h ↦
    absurd ((Nat.length_toDigits_le_iff (by decide) (by omega)).1 h) (Nat.not_lt.2 hn)
  simp only [padded, List.length_append]
  omega

theorem digitChar_lt {m n : Nat} (h : m < n) (hn : n < 10) : m.digitChar < n.digitChar := by
  have hall : ∀ n < 10, ∀ m < n, m.digitChar < n.digitChar := by decide
  exact hall n hn m h

/-- Numerals that fit compare like their numbers, whatever stands behind them. -/
theorem padded_append_lt {width m n : Nat} (h : m < n) (hn : n < 10 ^ (width + 1))
    (cs ds : List Char) : padded (width + 1) m ++ cs < padded (width + 1) n ++ ds := by
  induction width generalizing m n cs ds with
  | zero =>
    have hn : n < 10 := by simpa using hn
    rw [padded_one hn, padded_one (by omega)]
    exact List.cons_lt_cons_iff.2 (.inl (digitChar_lt h hn))
  | succ width ih =>
    rw [padded_succ, padded_succ, List.append_assoc, List.append_assoc]
    rw [Nat.pow_succ] at hn
    rcases Nat.lt_or_ge (m / 10) (n / 10) with hlead | hlead
    · exact ih hlead (by omega) _ _
    · have heq : m / 10 = n / 10 := by omega
      rw [heq]
      exact List.append_left_lt
        (List.cons_lt_cons_iff.2 (.inl (digitChar_lt (by omega) (by omega))))

/-- Behind numerals that fit, and a separator, the rest decides only between equal numbers. -/
theorem padded_append_cons_lt {width m n : Nat} {c : Char} {cs ds : List Char}
    (h : m < n ∨ m = n ∧ cs < ds) (hn : n < 10 ^ (width + 1)) :
    padded (width + 1) m ++ c :: cs < padded (width + 1) n ++ c :: ds := by
  rcases h with hlt | ⟨rfl, hrest⟩
  · exact padded_append_lt hlt hn _ _
  · exact List.append_left_lt (List.cons_lt_cons_iff.2 (.inr ⟨rfl, hrest⟩))

end SpacedReview.Text.Decimal

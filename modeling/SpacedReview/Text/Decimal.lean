/-!
# Decimal numerals

Reading and writing whole numbers in ASCII decimal digits. A numeral that is read may carry a sign
and leading zeros; a numeral that is written has the digits of `Nat.toDigits`, filled up with zeros
on the left where a format asks for a fixed width.
-/

namespace SpacedReview.Text.Decimal

/-! ### Ranges -/

/-- The number of numbers with 32 bits. -/
abbrev count32 : Nat := 4294967296

/-- The number of numbers with 64 bits. -/
abbrev count64 : Nat := 18446744073709551616

/-- Is the number within the signed 64-bit range? -/
def FitsInt64 (n : Int) : Prop := -9223372036854775808 ≤ n ∧ n < 9223372036854775808

instance (n : Int) : Decidable (FitsInt64 n) := inferInstanceAs (Decidable (_ ∧ _))

/-- The signed 64-bit number with the same last 64 bits. -/
def wrapInt64 (n : Int) : Int := Int.bmod n count64

/-! ### Reading -/

/-- The value of a non-empty run of decimal digits. -/
def nat? (cs : List Char) : Option Nat :=
  if cs ≠ [] ∧ cs.all Char.isDigit then some (Nat.ofDigitChars 10 cs 0) else none

/-- The value of a run of digits that may be led by one sign. -/
def int? : List Char → Option Int
  | '-' :: cs => (nat? cs).map fun n ↦ -(n : Int)
  | '+' :: cs => (nat? cs).map fun n ↦ (n : Int)
  | cs => (nat? cs).map fun n ↦ (n : Int)

/-- A signed numeral within the 64-bit range. -/
def int64? (s : String) : Option Int :=
  (int? s.toList).filter fun n ↦ decide (FitsInt64 n)

/-! ### Writing -/

/-- The digits of a number, filled up with zeros to at least the given width. -/
def padded (width n : Nat) : List Char :=
  let ds := Nat.toDigits 10 n
  List.replicate (width - ds.length) '0' ++ ds

/-- The digits of a number behind a minus sign if it is negative. -/
def ofInt (n : Int) : List Char :=
  if n < 0 then '-' :: Nat.toDigits 10 n.natAbs else Nat.toDigits 10 n.natAbs

/-! ### Laws -/

theorem all_isDigit_toDigits (n : Nat) : (Nat.toDigits 10 n).all Char.isDigit = true := by
  simp only [List.all_eq_true]
  exact fun c hc ↦ Nat.isDigit_of_mem_toDigits (by decide) (by decide) hc

/-- Written digits read back as the number. -/
@[simp] theorem nat?_toDigits (n : Nat) : nat? (Nat.toDigits 10 n) = some n := by
  simp [nat?, Nat.toDigits_ne_nil, Nat.ofDigitChars_ten_toDigits,
    all_isDigit_toDigits]

/-- Filling up with zeros does not change what is read. -/
@[simp] theorem nat?_padded (width n : Nat) : nat? (padded width n) = some n := by
  have hall : (padded width n).all Char.isDigit = true := by
    simp only [padded, List.all_append, all_isDigit_toDigits, Bool.and_true, List.all_eq_true]
    intro c hc
    rw [List.eq_of_mem_replicate hc]
    decide
  have hne : padded width n ≠ [] := by simp [padded, Nat.toDigits_ne_nil]
  rw [nat?, if_pos ⟨hne, hall⟩]
  simp [padded, Nat.ofDigitChars_append, Nat.ofDigitChars_ten_toDigits]

end SpacedReview.Text.Decimal

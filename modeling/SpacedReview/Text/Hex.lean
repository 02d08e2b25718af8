/-!
# Hexadecimal digits

Digits are written in lower case and read in either case.
-/

namespace SpacedReview.Text

/-- The hexadecimal digit of a number below sixteen. -/
def hexDigit (n : Nat) : Char := Nat.digitChar n

/-- The value of a hexadecimal digit. -/
def hexValue? (c : Char) : Option Nat :=
  if c.isDigit then some (c.toNat - '0'.toNat)
  else if 'a' ≤ c ∧ c ≤ 'f' then some (c.toNat - 'a'.toNat + 10)
  else if 'A' ≤ c ∧ c ≤ 'F' then some (c.toNat - 'A'.toNat + 10)
  else none

/-- The value of a run of hexadecimal digits, read behind digits with the given value. -/
def hexNat? (value : Nat) : List Char → Option Nat
  | [] => some value
  | c :: cs => do hexNat? (16 * value + (← hexValue? c)) cs

end SpacedReview.Text

import SpacedReview.Text.Hex

/-!
# JSON values

The values of the format, as they are read from a text and written to one. A number keeps its
numeral, since its reader decides what kind of number it takes. A string that holds one half of a
surrogate pair without the other half stands for no text; it is a string all the same.

Objects keep their members in order, and may name one key twice.
-/

namespace SpacedReview.Json

open SpacedReview.Text

/-- A number as it is written. -/
structure Numeral where
  negative : Bool
  whole : List Char
  fraction : Option (List Char)
  exponent : Option Int
  deriving DecidableEq, Repr

namespace Numeral

/-- The numeral of a natural number. -/
def ofNat (n : Nat) : Numeral := ⟨false, Nat.toDigits 10 n, none, none⟩

/-- The numeral of an integer. -/
def ofInt (n : Int) : Numeral := ⟨decide (n < 0), Nat.toDigits 10 n.natAbs, none, none⟩

/-- The integer that a numeral without fraction and exponent stands for. -/
def toInt? (n : Numeral) : Option Int :=
  match n with
  | ⟨negative, whole, none, none⟩ =>
    let magnitude : Int := Nat.ofDigitChars 10 whole 0
    some (if negative then -magnitude else magnitude)
  | _ => none

/-- The natural number that a numeral without sign, fraction and exponent stands for. -/
def toNat? (n : Numeral) : Option Nat :=
  match n with
  | ⟨false, whole, none, none⟩ => some (Nat.ofDigitChars 10 whole 0)
  | _ => none

@[simp] theorem toNat?_ofNat (n : Nat) : (ofNat n).toNat? = some n := by
  simp [toNat?, ofNat, Nat.ofDigitChars_ten_toDigits]

@[simp] theorem toInt?_ofInt (n : Int) : (ofInt n).toInt? = some n := by
  simp only [toInt?, ofInt, Nat.ofDigitChars_ten_toDigits, decide_eq_true_eq, Option.some.injEq]
  split <;> omega

end Numeral

/-- A value of the format. -/
inductive Value where
  | null
  | bool (b : Bool)
  | number (n : Numeral)
  | string (s : Option String)
  | array (items : List Value)
  | object (members : List (Option String × Value))

namespace Value

/-- The string of a text. -/
def text (s : String) : Value := string (some s)

/-- The number of a natural number. -/
def nat (n : Nat) : Value := number (.ofNat n)

/-! ### Writing -/

/-- A character as it stands in a written string. -/
def printChar (c : Char) : List Char :=
  if c = '"' then ['\\', '"']
  else if c = '\\' then ['\\', '\\']
  else if c = '\n' then ['\\', 'n']
  else if c = '\r' then ['\\', 'r']
  else if c = '\t' then ['\\', 't']
  else if c = '\x08' then ['\\', 'b']
  else if c = '\x0c' then ['\\', 'f']
  else if c.toNat < 32 then
    ['\\', 'u', '0', '0', hexDigit (c.toNat / 16), hexDigit (c.toNat % 16)]
  else [c]

/-- A text as a written string. -/
def printText (s : String) : List Char := '"' :: s.toList.flatMap printChar ++ ['"']

/-- A string that may stand for no text; without one it is written empty. -/
def printString (s : Option String) : List Char := printText (s.getD "")

/-- A numeral as it is written. -/
def printNumeral (n : Numeral) : List Char :=
  (if n.negative then ['-'] else []) ++ n.whole ++
    (match n.fraction with
      | some ds => '.' :: ds
      | none => []) ++
    match n.exponent with
    | some e => 'e' :: (toString e).toList
    | none => []

/-- How a value is laid out: what stands behind an opening bracket, between two neighbours and in
front of a closing bracket at a depth, and what stands behind the colon of a member. -/
structure Layout where
  opening : Nat → List Char
  between : Nat → List Char
  closing : Nat → List Char
  colon : List Char

/-- Everything on one line without blanks. -/
def Layout.compact : Layout := ⟨fun _ ↦ [], fun _ ↦ [','], fun _ ↦ [], [':']⟩

/-- A line of its own for every part, two spaces further in at each depth. -/
def Layout.pretty : Layout where
  opening d := '\n' :: List.replicate (2 * (d + 1)) ' '
  between d := ',' :: '\n' :: List.replicate (2 * (d + 1)) ' '
  closing d := '\n' :: List.replicate (2 * d) ' '
  colon := [':', ' ']

mutual

/-- A value at a depth as it is written. -/
def print (layout : Layout) (depth : Nat) : Value → List Char
  | null => "null".toList
  | bool true => "true".toList
  | bool false => "false".toList
  | number n => printNumeral n
  | string s => printString s
  | array [] => ['[', ']']
  | array (v :: vs) =>
    '[' :: layout.opening depth ++ print layout (depth + 1) v ++ printItems layout depth vs ++
      layout.closing depth ++ [']']
  | object [] => ['\x7b', '\x7d']
  | object ((key, v) :: ms) =>
    '\x7b' :: layout.opening depth ++ printString key ++ layout.colon ++
      print layout (depth + 1) v ++ printMembers layout depth ms ++ layout.closing depth ++ ['\x7d']

/-- The items behind the first one of an array. -/
def printItems (layout : Layout) (depth : Nat) : List Value → List Char
  | [] => []
  | v :: vs => layout.between depth ++ print layout (depth + 1) v ++ printItems layout depth vs

/-- The members behind the first one of an object. -/
def printMembers (layout : Layout) (depth : Nat) : List (Option String × Value) → List Char
  | [] => []
  | (key, v) :: ms =>
    layout.between depth ++ printString key ++ layout.colon ++ print layout (depth + 1) v ++
      printMembers layout depth ms

end

/-- A value on one line. -/
def compact (v : Value) : String := String.ofList (print .compact 0 v)

/-- A value over several lines. -/
def pretty (v : Value) : String := String.ofList (print .pretty 0 v)

end Value

end SpacedReview.Json

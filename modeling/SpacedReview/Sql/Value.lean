import SpacedReview.Json.Relaxed
import SpacedReview.Sql.Fragment
import SpacedReview.Sql.Like
import SpacedReview.Sql.Truth
import SpacedReview.Text.Decimal

/-!
# Values in SQL

A column holds nothing, a number or a text. Numbers come before texts in the order of values, texts
are in the order of their bytes, and a comparison with nothing is unknown. A number that is not
whole has 53 significant binary digits, to which it is rounded.

A part of a stored JSON text is taken out by the names that lead to it. The text may make use of all
the liberties of JSON5, and ends at its first zero character; a text that is no JSON even so has no
parts at all, and asking for one fails.
-/

namespace SpacedReview.Sql

open SpacedReview.Json

/-- A value of a column or of an expression. -/
inductive Value where
  | null
  | integer (n : Int)
  /-- The number `mantissa * 10 ^ exponent`. -/
  | real (mantissa exponent : Int)
  | text (s : String)
  deriving DecidableEq

/-- The number of units in one: `2 ^ 60`. -/
abbrev unitsPerOne : Nat := 1152921504606846976

/-- A positive number `num / den`, rounded to 53 significant binary digits and a tie to the even
neighbour, in units. The number is large enough that it has as many of them. -/
def roundedUnits (num den : Nat) : Nat :=
  let units := num * unitsPerOne
  -- The last of the 53 digits has this value.
  let step := Nat.pow 2 ((units / den).log2 - 52)
  let n := units / (den * step)
  let rest := 2 * (units % (den * step))
  let up := den * step < rest || (rest == den * step && n % 2 == 1)
  (if up then n + 1 else n) * step

/-- How `mantissa * 10 ^ exponent`, rounded, lies to a 64-bit number. A number with more than
nineteen digits before the point is beyond all of those, one below a tenth is between zero and one,
and one too small for its exponent to be stored is zero. -/
def compareReal (mantissa exponent n : Int) : Ordering :=
  let digits : Int := (Nat.toDigits 10 mantissa.natAbs).length
  let negative := mantissa < 0
  if mantissa = 0 ∨ digits + exponent < -323 then compare 0 n
  else if 19 < digits + exponent then compare mantissa 0
  else if digits + exponent < 0 then
    if negative then (if 0 ≤ n then .lt else .gt) else (if n ≤ 0 then .gt else .lt)
  else
    let units := roundedUnits (mantissa.natAbs * Nat.pow 10 exponent.toNat)
      (Nat.pow 10 (-exponent).toNat)
    compare (if negative then -(units : Int) else units) (n * unitsPerOne)

namespace Value

/-- The first value unless it is nothing. -/
def coalesce (v default : Value) : Value := if v = null then default else v

/-- How a value lies to a number. -/
def compareInteger (v : Value) (n : Int) : Option Ordering :=
  match v with
  | null => none
  | integer m => some (compare m n)
  | real mantissa exponent => some (compareReal mantissa exponent n)
  | text _ => some .gt

/-- The value of a text that may be absent. -/
def ofText? : Option String → Value
  | some s => text s
  | none => null

/-- How a value lies to a text. -/
def compareText (v : Value) (s : String) : Option Ordering :=
  match v with
  | null => none
  | text r => some (compareOfLessAndEq r s)
  | _ => some .lt

/-- How a value lies to a parameter. -/
def compareParam (v : Value) : Param → Option Ordering
  | .text s => v.compareText s
  | .integer n => v.compareInteger n

/-- Does a value match a pattern? -/
def like (v : Value) (pattern : String) : Except Failure Truth :=
  match v with
  | null => .ok none
  | text s => (Sql.like pattern s).map some
  | _ => .ok (some false)

end Value

/-! ### Parts of JSON texts -/

/-- The number that a numeral stands for: an integer if it is written as one and has 64 bits. -/
def ofNumeral (n : Numeral) : Value :=
  let fraction := n.fraction.getD []
  let magnitude : Int := Nat.ofDigitChars 10 (n.whole ++ fraction) 0
  let mantissa := if n.negative then -magnitude else magnitude
  if n.fraction = none ∧ n.exponent = none ∧ Text.Decimal.FitsInt64 mantissa then
    .integer mantissa
  else
    .real mantissa (n.exponent.getD 0 - fraction.length)

/-- The value in SQL of a JSON value. -/
def ofJson : Json.Value → Value
  | .null => .null
  | .bool b => .integer (if b then 1 else 0)
  | .number n => ofNumeral n
  | .string s => .text (s.getD "")
  | v => .text v.compact

/-- The value that a row of names leads to from a JSON value; of two members with one name the
first counts. -/
def descend : List String → Json.Value → Option Json.Value
  | [], v => some v
  | name :: names, .object members =>
    match members.find? (·.1 == some name) with
    | some (_, v) => descend names v
    | none => none
  | _ :: _, _ => none

/-- The JSON value of a text. -/
def readJson? (s : String) : Option Json.Value :=
  match Json.Value.parse? s with
  | some v => some v
  | none => Json.Relaxed.parse? (untilZero s.toList)

/-- The value that a row of names leads to in a JSON text. -/
def extract (names : List String) (s : String) : Except Failure Value :=
  match readJson? s with
  | none => .error .database
  | some v =>
    match descend names v with
    | some v => .ok (ofJson v)
    | none => .ok .null

end SpacedReview.Sql

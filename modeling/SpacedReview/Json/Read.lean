import SpacedReview.Json.Value

/-!
# Reading JSON

A reader of the format as the standard has it: four kinds of blanks, no leading zeros, no raw
control characters in strings, nothing behind the value but blanks. Nothing is refused for being
large or deep.

Strings are read in two steps. A literal is first cut into pieces, each a character or one half of
a surrogate pair, and the halves are then joined; only the second step can fail to give a text.
-/

namespace SpacedReview.Json

open SpacedReview.Text

/-- Is this one of the blanks between the parts of a value? -/
def isSpace (c : Char) : Bool := c == ' ' || c == '\n' || c == '\r' || c == '\t'

/-- The text behind its leading blanks. -/
def skip (cs : List Char) : List Char := cs.dropWhile isSpace

/-! ### Strings -/

/-- A part of a string literal. -/
inductive Piece where
  | char (c : Char)
  /-- One half of a surrogate pair. -/
  | half (n : Nat)

/-- The piece that an escaped code unit stands for. -/
def Piece.ofUnit (n : Nat) : Piece :=
  if 0xD800 ≤ n ∧ n < 0xE000 then half n else char (Char.ofNat n)

/-- The character that a letter behind a backslash stands for. -/
def escape? : Char → Option Char
  | '"' => some '"'
  | '\\' => some '\\'
  | '/' => some '/'
  | 'b' => some '\x08'
  | 'f' => some '\x0c'
  | 'n' => some '\n'
  | 'r' => some '\r'
  | 't' => some '\t'
  | _ => none

/-- The pieces of the literal that goes on here, and the text behind its closing quote. -/
def pieces : List Char → Option (List Piece × List Char)
  | [] => none
  | '"' :: cs => some ([], cs)
  | '\\' :: 'u' :: a :: b :: c :: d :: cs => do
    let n ← hexNat? 0 [a, b, c, d]
    let (ps, cs) ← pieces cs
    return (.ofUnit n :: ps, cs)
  | '\\' :: c :: cs => do
    let c ← escape? c
    let (ps, cs) ← pieces cs
    return (.char c :: ps, cs)
  | c :: cs => do
    guard (32 ≤ c.toNat)
    let (ps, cs) ← pieces cs
    return (.char c :: ps, cs)

/-- The characters of a row of pieces, if every half is part of a pair. -/
def join : List Piece → Option (List Char)
  | [] => some []
  | .char c :: ps => (join ps).map (c :: ·)
  | .half high :: .half low :: ps =>
    if high < 0xDC00 ∧ 0xDC00 ≤ low then
      (join ps).map (Char.ofNat (0x10000 + 0x400 * (high - 0xD800) + (low - 0xDC00)) :: ·)
    else
      none
  | [.half _] => none
  | .half _ :: .char _ :: _ => none

/-- The string literal behind its opening quote. -/
def stringBehind (cs : List Char) : Option (Option String × List Char) :=
  (pieces cs).map fun (ps, cs) ↦ ((join ps).map String.ofList, cs)

/-! ### Numbers -/

/-- A non-empty run of digits, and the text behind it. -/
def digits? (cs : List Char) : Option (List Char × List Char) :=
  let ds := cs.takeWhile Char.isDigit
  if ds = [] then none else some (ds, cs.dropWhile Char.isDigit)

/-- The whole part of a number: a zero, or digits that do not start with one. -/
def whole? : List Char → Option (List Char × List Char)
  | '0' :: cs => some (['0'], cs)
  | cs => digits? cs

/-- The fraction of a number, if it has one. -/
def fraction? : List Char → Option (Option (List Char) × List Char)
  | '.' :: cs => (digits? cs).map fun (ds, cs) ↦ (some ds, cs)
  | cs => some (none, cs)

/-- The exponent of a number behind its letter. -/
def exponentBehind : List Char → Option (Int × List Char)
  | '-' :: cs => (digits? cs).map fun (ds, cs) ↦ (-(Nat.ofDigitChars 10 ds 0 : Int), cs)
  | '+' :: cs => (digits? cs).map fun (ds, cs) ↦ ((Nat.ofDigitChars 10 ds 0 : Int), cs)
  | cs => (digits? cs).map fun (ds, cs) ↦ ((Nat.ofDigitChars 10 ds 0 : Int), cs)

/-- The exponent of a number, if it has one. -/
def exponent? : List Char → Option (Option Int × List Char)
  | 'e' :: cs | 'E' :: cs => (exponentBehind cs).map fun (e, cs) ↦ (some e, cs)
  | cs => some (none, cs)

/-- A number behind its sign. -/
def unsigned? (negative : Bool) (cs : List Char) : Option (Numeral × List Char) := do
  let (whole, cs) ← whole? cs
  let (fraction, cs) ← fraction? cs
  let (exponent, cs) ← exponent? cs
  return (⟨negative, whole, fraction, exponent⟩, cs)

/-- A number. -/
def numeral? : List Char → Option (Numeral × List Char)
  | '-' :: cs => unsigned? true cs
  | cs => unsigned? false cs

/-! ### Values -/

mutual

/-- A value behind any blanks, and the text behind the value. The first argument bounds the number
of values and brackets that are met on the way into the text. -/
def value? : Nat → List Char → Option (Value × List Char)
  | 0, _ => none
  | n + 1, cs =>
    match skip cs with
    | 'n' :: 'u' :: 'l' :: 'l' :: cs => some (.null, cs)
    | 't' :: 'r' :: 'u' :: 'e' :: cs => some (.bool true, cs)
    | 'f' :: 'a' :: 'l' :: 's' :: 'e' :: cs => some (.bool false, cs)
    | '"' :: cs => (stringBehind cs).map fun (s, cs) ↦ (.string s, cs)
    | '[' :: cs =>
      match skip cs with
      | ']' :: cs => some (.array [], cs)
      | cs => (items? n cs).map fun (vs, cs) ↦ (.array vs, cs)
    | '\x7b' :: cs =>
      match skip cs with
      | '\x7d' :: cs => some (.object [], cs)
      | cs => (members? n cs).map fun (ms, cs) ↦ (.object ms, cs)
    | cs => (numeral? cs).map fun (n, cs) ↦ (.number n, cs)

/-- The items of an array up to its closing bracket. -/
def items? : Nat → List Char → Option (List Value × List Char)
  | 0, _ => none
  | n + 1, cs => do
    let (v, cs) ← value? n cs
    match skip cs with
    | ',' :: cs =>
      let (vs, cs) ← items? n cs
      return (v :: vs, cs)
    | ']' :: cs => return ([v], cs)
    | _ => none

/-- The members of an object up to its closing bracket. -/
def members? : Nat → List Char → Option (List (Option String × Value) × List Char)
  | 0, _ => none
  | n + 1, cs =>
    match skip cs with
    | '"' :: cs => do
      let (key, cs) ← stringBehind cs
      match skip cs with
      | ':' :: cs =>
        let (v, cs) ← value? n cs
        match skip cs with
        | ',' :: cs =>
          let (ms, cs) ← members? n cs
          return ((key, v) :: ms, cs)
        | '\x7d' :: cs => return ([(key, v)], cs)
        | _ => none
      | _ => none
    | _ => none

end

/-- The value that a text consists of. -/
def Value.parse? (s : String) : Option Value := do
  let cs := s.toList
  let (v, cs) ← value? (2 * cs.length + 2) cs
  if (skip cs).isEmpty then some v else none

end SpacedReview.Json

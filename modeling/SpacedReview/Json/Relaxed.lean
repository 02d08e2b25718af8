import SpacedReview.Json.Read
import SpacedReview.Text.Blank
import SpacedReview.Text.Decimal

/-!
# Reading JSON5

A reader of the format as people write it by hand. On top of what the standard has, it admits
comments, all kinds of blanks, keys without quotes, single quotes, more escapes, raw control
characters in strings, a comma behind the last part, a sign or a point at either end of a number,
hexadecimal numbers, infinity, and the words for what is no number, which stand for null.
-/

namespace SpacedReview.Json.Relaxed

open SpacedReview.Text

/-! ### Blanks and comments -/

/-- Is this one of the blanks between the parts of a value? The byte order mark is one, the next
line character is none. -/
def isSpace (c : Char) : Bool := (isBlank c && c != '\x85') || c == '\uFEFF'

/-- Does this character end a line? -/
def isLineEnd (c : Char) : Bool := c == '\n' || c == '\r' || c == '\u2028' || c == '\u2029'

/-- Where a text starts: between the parts of a value, or within a comment. -/
inductive Place where
  | between
  | line
  | block

/-- The text behind blanks and comments, unless a comment has no end. -/
def gap : Place → List Char → Option (List Char)
  | .block, [] => none
  | _, [] => some []
  | .block, '*' :: '/' :: cs => gap .between cs
  | .block, _ :: cs => gap .block cs
  | .line, c :: cs => gap (if isLineEnd c then .between else .line) cs
  | .between, '/' :: '*' :: cs => gap .block cs
  | .between, '/' :: '/' :: cs => gap .line cs
  | .between, c :: cs => if isSpace c then gap .between cs else some (c :: cs)

/-! ### Strings and keys -/

/-- The character that a letter behind a backslash stands for. -/
def escape? : Char → Option Char
  | '\'' => some '\''
  | 'v' => some '\x0b'
  | '0' => some '\x00'
  | c => Json.escape? c

/-- The pieces of a literal up to the given quote, and the text behind it. A backslash at the end of
a line takes the line break away. -/
def pieces (quote : Char) : List Char → Option (List Piece × List Char)
  | [] => none
  | '\\' :: '\r' :: '\n' :: cs => pieces quote cs
  | '\\' :: 'u' :: a :: b :: c :: d :: cs => do
    let n ← hexNat? 0 [a, b, c, d]
    let (ps, cs) ← pieces quote cs
    return (.ofUnit n :: ps, cs)
  | '\\' :: 'x' :: a :: b :: cs => do
    let n ← hexNat? 0 [a, b]
    let (ps, cs) ← pieces quote cs
    return (.ofUnit n :: ps, cs)
  | '\\' :: c :: cs =>
    if isLineEnd c then pieces quote cs else do
      guard !(c == '0' && cs.head?.any Char.isDigit)
      let c ← escape? c
      let (ps, cs) ← pieces quote cs
      return (.char c :: ps, cs)
  | c :: cs =>
    if c = quote then some ([], cs) else do
      let (ps, cs) ← pieces quote cs
      return (.char c :: ps, cs)

/-- The string that pieces stand for. -/
def stringOf (ps : List Piece) : Option String := (join ps).map String.ofList

/-- May this character stand in a key without quotes? -/
def isKeyChar (c : Char) : Bool :=
  c.isAlphanum || c == '_' || c == '$' || (128 ≤ c.toNat && !isSpace c)

/-- The pieces of a key without quotes, and the text behind it. -/
def keyPieces : List Char → List Piece × List Char
  | '\\' :: 'u' :: a :: b :: c :: d :: cs =>
    match hexNat? 0 [a, b, c, d] with
    | some n =>
      let (ps, cs) := keyPieces cs
      (.ofUnit n :: ps, cs)
    | none => ([], '\\' :: 'u' :: a :: b :: c :: d :: cs)
  | c :: cs =>
    if isKeyChar c then
      let (ps, cs) := keyPieces cs
      (.char c :: ps, cs)
    else
      ([], c :: cs)
  | [] => ([], [])

/-! ### Words and numbers -/

/-- The value that a word stands for. Only the words of the standard have to be in lower case. -/
def ofWord? (word : List Char) : Option Value :=
  match String.ofList word with
  | "null" => some .null
  | "true" => some (.bool true)
  | "false" => some (.bool false)
  | _ =>
    match String.ofList (word.map Char.toLower) with
    | "nan" | "qnan" | "snan" => some .null
    | "inf" | "infinity" => some (.number ⟨false, ['9'], none, some 999⟩)
    | _ => none

/-- The run of letters and digits that a text starts with. -/
def word (cs : List Char) : List Char := cs.takeWhile Char.isAlphanum

/-- A whole number in hexadecimal digits behind their mark; it has 64 bits at most. -/
def hexadecimal? (negative : Bool) (cs : List Char) : Option (Numeral × List Char) := do
  let isHex (c : Char) : Bool := (hexValue? c).isSome
  let ds := cs.takeWhile isHex
  guard (ds != [])
  let n ← hexNat? 0 ds
  guard (n < Decimal.count64)
  return (⟨negative, Nat.toDigits 10 n, none, none⟩, cs.dropWhile isHex)

/-- A number in decimal digits behind its sign. The digits on one side of the point may be missing,
and so may the point. -/
def decimal? (negative : Bool) (cs : List Char) : Option (Numeral × List Char) := do
  let whole := cs.takeWhile Char.isDigit
  guard (whole.length ≤ 1 ∨ whole.head? ≠ some '0')
  let (fraction, cs) := match cs.dropWhile Char.isDigit with
    | '.' :: cs => (some (cs.takeWhile Char.isDigit), cs.dropWhile Char.isDigit)
    | cs => (none, cs)
  guard (whole ≠ [] ∨ fraction.getD [] ≠ [])
  let (exponent, cs) ← exponent? cs
  return (⟨negative, whole, fraction, exponent⟩, cs)

/-- A number behind its sign. -/
def unsigned? (negative : Bool) : List Char → Option (Numeral × List Char)
  | '0' :: 'x' :: cs | '0' :: 'X' :: cs => hexadecimal? negative cs
  | cs => decimal? negative cs

/-- A number behind a sign that is written, or infinity. -/
def signed? (negative : Bool) (cs : List Char) : Option (Value × List Char) :=
  match ofWord? (word cs) with
  | some (.number n) => some (.number { n with negative }, cs.drop (word cs).length)
  | _ => (unsigned? negative cs).map fun (n, cs) ↦ (.number n, cs)

/-- A number or a word. -/
def plain? : List Char → Option (Value × List Char)
  | '-' :: cs => signed? true cs
  | '+' :: cs => signed? false cs
  | cs =>
    match ofWord? (word cs) with
    | some v => some (v, cs.drop (word cs).length)
    | none => (unsigned? false cs).map fun (n, cs) ↦ (.number n, cs)

/-- A key. Without quotes it starts with no digit and with none of the words. -/
def key? : List Char → Option (Option String × List Char)
  | '"' :: cs => (pieces '"' cs).map fun (ps, cs) ↦ (stringOf ps, cs)
  | '\'' :: cs => (pieces '\'' cs).map fun (ps, cs) ↦ (stringOf ps, cs)
  | cs => do
    guard (!cs.head?.any Char.isDigit && (ofWord? (word cs)).isNone)
    let (ps, rest) := keyPieces cs
    guard (rest.length < cs.length)
    return (stringOf ps, rest)

/-! ### Values -/

mutual

/-- A value behind any blanks, and the text behind the value. The first argument bounds the number
of values and brackets that are met on the way into the text. -/
def value? : Nat → List Char → Option (Value × List Char)
  | 0, _ => none
  | n + 1, cs => do
    match ← gap .between cs with
    | '"' :: cs => (pieces '"' cs).map fun (ps, cs) ↦ (.string (stringOf ps), cs)
    | '\'' :: cs => (pieces '\'' cs).map fun (ps, cs) ↦ (.string (stringOf ps), cs)
    | '[' :: cs => (items? n cs).map fun (vs, cs) ↦ (.array vs, cs)
    | '\x7b' :: cs => (members? n cs).map fun (ms, cs) ↦ (.object ms, cs)
    | cs => plain? cs

/-- The items of an array up to its closing bracket. -/
def items? : Nat → List Char → Option (List Value × List Char)
  | 0, _ => none
  | n + 1, cs => do
    match ← gap .between cs with
    | ']' :: cs => return ([], cs)
    | cs =>
      let (v, cs) ← value? n cs
      match ← gap .between cs with
      | ',' :: cs =>
        let (vs, cs) ← items? n cs
        return (v :: vs, cs)
      | ']' :: cs => return ([v], cs)
      | _ => none

/-- The members of an object up to its closing bracket. -/
def members? : Nat → List Char → Option (List (Option String × Value) × List Char)
  | 0, _ => none
  | n + 1, cs => do
    match ← gap .between cs with
    | '\x7d' :: cs => return ([], cs)
    | cs =>
      let (key, cs) ← key? cs
      match ← gap .between cs with
      | ':' :: cs =>
        let (v, cs) ← value? n cs
        match ← gap .between cs with
        | ',' :: cs =>
          let (ms, cs) ← members? n cs
          return ((key, v) :: ms, cs)
        | '\x7d' :: cs => return ([(key, v)], cs)
        | _ => none
      | _ => none

end

/-- The value that a text consists of. -/
def parse? (cs : List Char) : Option Value := do
  let (v, cs) ← value? (2 * cs.length + 2) cs
  if (← gap .between cs).isEmpty then some v else none

end SpacedReview.Json.Relaxed

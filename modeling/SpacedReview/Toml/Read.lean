import SpacedReview.Text.Hex
import SpacedReview.Toml.Value

/-!
# Reading TOML

A document is read line by line into statements, which are then put together. A line holds a
header, an assignment or nothing, and may end in a comment; a value that is an array or a table may
go on over several lines. There are four kinds of strings, with and without escapes, on one line or
over several; in those over several lines a line break is one character however it was written.

Dates and times are not read: no setting is one.
-/

namespace SpacedReview.Toml

open SpacedReview.Text

/-! ### Blanks, comments and lines -/

/-- Is this a blank within a line? -/
def isSpace (c : Char) : Bool := c == ' ' || c == '\t'

/-- The text behind its leading blanks. -/
def skip (cs : List Char) : List Char := cs.dropWhile isSpace

/-- May this character stand in a comment or in a string on one line? -/
def isPrintable (c : Char) : Bool := c == '\t' || (32 ≤ c.toNat && c.toNat != 127)

/-- The text behind blanks, line breaks and comments. The first argument says whether the text
starts within a comment. -/
def gap : Bool → List Char → Option (List Char)
  | _, [] => some []
  | _, '\n' :: cs => gap false cs
  | _, '\r' :: '\n' :: cs => gap false cs
  | true, c :: cs => if isPrintable c then gap true cs else none
  | false, '#' :: cs => gap true cs
  | false, c :: cs => if isSpace c then gap false cs else some (c :: cs)

/-- The text behind the end of a line on which nothing follows but a comment. -/
def lineEnd (inComment : Bool) : List Char → Option (List Char)
  | [] => some []
  | '\n' :: cs | '\r' :: '\n' :: cs => some cs
  | '#' :: cs => lineEnd true cs
  | c :: cs =>
    if isSpace c || (inComment && isPrintable c) then lineEnd inComment cs else none

/-! ### Strings -/

/-- The character with a hexadecimal number, if there is one. -/
def charOfHex? (digits : List Char) : Option Char := do
  let n ← hexNat? 0 digits
  if h : n.isValidChar then some (Char.ofNatAux n h) else none

/-- The character that an escape behind its backslash stands for, and the text behind it. -/
def escape? : List Char → Option (Char × List Char)
  | 'b' :: cs => some ('\x08', cs)
  | 't' :: cs => some ('\t', cs)
  | 'n' :: cs => some ('\n', cs)
  | 'f' :: cs => some ('\x0c', cs)
  | 'r' :: cs => some ('\r', cs)
  | 'e' :: cs => some ('\x1b', cs)
  | '"' :: cs => some ('"', cs)
  | '\\' :: cs => some ('\\', cs)
  | 'x' :: a :: b :: cs => (charOfHex? [a, b]).map (·, cs)
  | 'u' :: a :: b :: c :: d :: cs => (charOfHex? [a, b, c, d]).map (·, cs)
  | 'U' :: a :: b :: c :: d :: e :: f :: g :: h :: cs =>
    (charOfHex? [a, b, c, d, e, f, g, h]).map (·, cs)
  | _ => none

/-- A string that was read, and the text behind it. -/
abbrev Text := List Char × List Char

/-- A string that goes on with a character. -/
def Text.cons (c : Char) (t : Text) : Text := (c :: t.1, t.2)

/-- The text behind the line break and all blanks that a backslash at the end of a line takes away,
if the line ends here. -/
def continuation? (cs : List Char) : Option (List Char) :=
  match skip cs with
  | '\n' :: cs | '\r' :: '\n' :: cs =>
    some (cs.dropWhile fun c ↦ isSpace c || c == '\n' || c == '\r')
  | _ => none

/-- The text behind a line break directly behind an opening delimiter. -/
def skipBreak : List Char → List Char
  | '\n' :: cs | '\r' :: '\n' :: cs => cs
  | cs => cs

/-- A literal string up to its closing quote. -/
def literal : List Char → Option Text
  | [] => none
  | '\'' :: cs => some ([], cs)
  | c :: cs => if isPrintable c then (literal cs).map (.cons c) else none

/-- A literal string over several lines up to its closing quotes, before which up to two quotes may
stand as part of it. -/
def longLiteral : List Char → Option Text
  | [] => none
  | '\'' :: '\'' :: '\'' :: '\'' :: '\'' :: cs => some (['\'', '\''], cs)
  | '\'' :: '\'' :: '\'' :: '\'' :: cs => some (['\''], cs)
  | '\'' :: '\'' :: '\'' :: cs => some ([], cs)
  | '\r' :: '\n' :: cs => (longLiteral cs).map (.cons '\n')
  | c :: cs => if isPrintable c || c == '\n' then (longLiteral cs).map (.cons c) else none

/-- A string up to its closing quote. The first argument bounds the number of its parts. -/
def basic : Nat → List Char → Option Text
  | 0, _ | _, [] => none
  | _, '"' :: cs => some ([], cs)
  | n + 1, '\\' :: cs => do
    let (c, cs) ← escape? cs
    return (← basic n cs).cons c
  | n + 1, c :: cs => if isPrintable c then (basic n cs).map (.cons c) else none

/-- A string over several lines up to its closing quotes, before which up to two quotes may stand
as part of it. The first argument bounds the number of its parts. -/
def longBasic : Nat → List Char → Option Text
  | 0, _ | _, [] => none
  | _, '"' :: '"' :: '"' :: '"' :: '"' :: cs => some (['"', '"'], cs)
  | _, '"' :: '"' :: '"' :: '"' :: cs => some (['"'], cs)
  | _, '"' :: '"' :: '"' :: cs => some ([], cs)
  | n + 1, '\\' :: cs =>
    match continuation? cs with
    | some cs => longBasic n cs
    | none => do
      let (c, cs) ← escape? cs
      return (← longBasic n cs).cons c
  | n + 1, '\r' :: '\n' :: cs => (longBasic n cs).map (.cons '\n')
  | n + 1, c :: cs => if isPrintable c || c == '\n' then (longBasic n cs).map (.cons c) else none

/-- A string on one line, for a key. -/
def shortString? : List Char → Option Text
  | '\'' :: cs => literal cs
  | '"' :: cs => basic (cs.length + 1) cs
  | _ => none

/-- A string of any kind. -/
def string? : List Char → Option Text
  | '\'' :: '\'' :: '\'' :: cs => longLiteral (skipBreak cs)
  | '"' :: '"' :: '"' :: cs => longBasic (cs.length + 1) (skipBreak cs)
  | cs => shortString? cs

/-! ### Keys -/

/-- May this character stand in a key without quotes? -/
def isKeyChar (c : Char) : Bool := c.isAlphanum || c == '_' || c == '-'

/-- One part of a key. -/
def keyPart? (cs : List Char) : Option (String × List Char) :=
  match cs.takeWhile isKeyChar with
  | [] => (shortString? cs).map fun (key, cs) ↦ (String.ofList key, cs)
  | key => some (String.ofList key, cs.dropWhile isKeyChar)

/-- A key with its dots, and the text behind the blanks that follow it. The first argument bounds
the number of its parts. -/
def key? : Nat → List Char → Option (List String × List Char)
  | 0, _ => none
  | n + 1, cs => do
    let (part, cs) ← keyPart? (skip cs)
    match skip cs with
    | '.' :: cs =>
      let (path, cs) ← key? n cs
      return (part :: path, cs)
    | cs => return ([part], cs)

/-! ### Numbers and truth values -/

/-- The digits of a numeral, which may have an underscore between any two. -/
def digits? (isDigit : Char → Bool) : List Char → Option (List Char)
  | [] => none
  | [c] => if isDigit c then some [c] else none
  | c :: '_' :: cs => if isDigit c then (digits? isDigit cs).map (c :: ·) else none
  | c :: cs => if isDigit c then (digits? isDigit cs).map (c :: ·) else none

/-- The value of digits to a base. -/
def ofDigits (base : Nat) (cs : List Char) : Nat :=
  cs.foldl (fun n c ↦ base * n + (hexValue? c).getD 0) 0

/-- The digits of a whole number to base ten, without leading zeros. -/
def decimal? (cs : List Char) : Option (List Char) :=
  (digits? Char.isDigit cs).filter fun ds ↦ ds.length == 1 || ds.head? != some '0'

/-- A run of characters split at its sign. -/
def sign : List Char → Bool × List Char
  | '-' :: cs => (true, cs)
  | '+' :: cs => (false, cs)
  | cs => (false, cs)

/-- A whole number. -/
def integer? (word : List Char) : Option Int :=
  match word with
  | '0' :: 'x' :: cs => (digits? (fun c ↦ (hexValue? c).isSome) cs).map fun ds ↦ ofDigits 16 ds
  | '0' :: 'o' :: cs => (digits? (fun c ↦ '0' ≤ c && c ≤ '7') cs).map fun ds ↦ ofDigits 8 ds
  | '0' :: 'b' :: cs => (digits? (fun c ↦ c == '0' || c == '1') cs).map fun ds ↦ ofDigits 2 ds
  | _ =>
    let (negative, cs) := sign word
    (decimal? cs).map fun ds ↦ if negative then -(ofDigits 10 ds : Int) else ofDigits 10 ds

/-- Is this a number with a point or an exponent, an infinity or no number at all? -/
def isFloat (word : List Char) : Bool :=
  let (_, cs) := sign word
  if cs = "inf".toList ∨ cs = "nan".toList then true
  else
    let isExponent (c : Char) : Bool := c == 'e' || c == 'E'
    let number := cs.takeWhile (!isExponent ·)
    let exponent := (cs.dropWhile (!isExponent ·)).drop 1
    let hasExponent := number.length != cs.length
    let whole := number.takeWhile (· != '.')
    let fraction := (number.dropWhile (· != '.')).drop 1
    let hasFraction := whole.length != number.length
    (decimal? whole).isSome && (hasFraction || hasExponent) &&
      (!hasFraction || (digits? Char.isDigit fraction).isSome) &&
      (!hasExponent || (digits? Char.isDigit (sign exponent).2).isSome)

/-- May this character stand in a number or a truth value? -/
def isWordChar (c : Char) : Bool := isKeyChar c || c == '+' || c == '.'

/-- A number or a truth value, and the text behind it. -/
def word? (cs : List Char) : Option (Value × List Char) :=
  let word := cs.takeWhile isWordChar
  let rest := cs.dropWhile isWordChar
  match integer? word with
  | some n => some (.integer n, rest)
  | none =>
    if word = "true".toList ∨ word = "false".toList ∨ isFloat word then some (.other, rest)
    else none

/-! ### Values -/

mutual

/-- A value, and the text behind it. The first argument bounds the number of values and brackets
that are met on the way into the text. -/
def value? : Nat → List Char → Option (Value × List Char)
  | 0, _ => none
  | n + 1, cs =>
    match cs with
    | '"' :: _ | '\'' :: _ => (string? cs).map fun (s, cs) ↦ (.string (String.ofList s), cs)
    | '[' :: cs => (items? n cs).map fun (vs, cs) ↦ (.array vs, cs)
    | '\x7b' :: cs => (entries? n [] cs).map fun (es, cs) ↦ (.table .closed es, cs)
    | cs => word? cs

/-- The items of an array up to its closing bracket. -/
def items? : Nat → List Char → Option (List Value × List Char)
  | 0, _ => none
  | n + 1, cs => do
    match ← gap false cs with
    | ']' :: cs => return ([], cs)
    | cs =>
      let (v, cs) ← value? n cs
      match ← gap false cs with
      | ',' :: cs =>
        let (vs, cs) ← items? n cs
        return (v :: vs, cs)
      | ']' :: cs => return ([v], cs)
      | _ => none

/-- The entries of a table behind those given, up to its closing bracket. -/
def entries? : Nat → Entries → List Char → Option (Entries × List Char)
  | 0, _, _ => none
  | n + 1, es, cs => do
    match ← gap false cs with
    | '\x7d' :: cs => return (es, cs)
    | cs =>
      match ← key? (cs.length + 1) cs with
      | (path, '=' :: cs) =>
        let (v, cs) ← value? n (skip cs)
        let es ← es.assign v path
        match ← gap false cs with
        | ',' :: cs => entries? n es cs
        | '\x7d' :: cs => return (es, cs)
        | _ => none
      | _ => none

end

/-! ### Documents -/

/-- The statement on a line, and the text behind it. -/
def statement? (cs : List Char) : Option (Statement × List Char) :=
  match cs with
  | '[' :: '[' :: cs => do
    match ← key? (cs.length + 1) cs with
    | (path, ']' :: ']' :: cs) => return (.element path, cs)
    | _ => none
  | '[' :: cs => do
    match ← key? (cs.length + 1) cs with
    | (path, ']' :: cs) => return (.table path, cs)
    | _ => none
  | cs => do
    match ← key? (cs.length + 1) cs with
    | (path, '=' :: cs) =>
      let (v, cs) ← value? (2 * cs.length + 2) (skip cs)
      return (.assign path v, cs)
    | _ => none

/-- The statements of a text. The first argument bounds their number. -/
def statements? : Nat → List Char → Option (List Statement)
  | 0, _ => none
  | n + 1, cs => do
    match ← gap false cs with
    | [] => return []
    | cs =>
      let (s, cs) ← statement? cs
      return s :: (← statements? n (← lineEnd false cs))

/-- The table that a text describes. A byte order mark in front of it does not count. -/
def parse? (s : String) : Option Entries := do
  let cs := match s.toList with
    | '\uFEFF' :: cs => cs
    | cs => cs
  build [] [] (← statements? (cs.length + 1) cs)

end SpacedReview.Toml

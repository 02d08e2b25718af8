import SpacedReview.Text.Blank
import SpacedReview.Text.Decimal
import SpacedReview.Time.Instant

/-!
# Written instants

An instant is written as an RFC 3339 date and time in UTC. There are two written forms: the stored
form always has three digits of the second's fraction, cut off and not rounded, so that texts of
one width compare like times; the exact form has none, three, six or nine digits, the fewest that
lose nothing. A leap second is written as second 60, and a year outside 0 to 9999 with its sign.

There are two readers to match. `Instant.ofStored?` admits the fixed layout alone: four digits of
the year, two of everything else, an offset with its colon. `Instant.ofExact?` is generous, as it
reads signed and longer years, single digits, and blanks between the parts.
-/

namespace SpacedReview.Time

open SpacedReview.Text

/-! ### Writing -/

/-- A year: four digits, or a sign and at least four digits outside 0 to 9999. -/
def printYear (year : Int) : List Char :=
  if 0 ≤ year ∧ year ≤ 9999 then
    Decimal.padded 4 year.toNat
  else
    (if year < 0 then '-' else '+') :: Decimal.padded 4 year.natAbs

/-- A date, from the year to the day. -/
def Date.print (d : Date) : List Char :=
  printYear d.year ++ '-' :: Decimal.padded 2 d.month ++ '-' :: Decimal.padded 2 d.day

namespace Instant

/-- The date of an instant. -/
def date (t : Instant) : Date := Date.ofDayNumber (t.seconds / 86400)

/-- The nanoseconds of an instant within its second, a leap second being a second of its own. -/
def subsecond (t : Instant) : Nat := t.nanos % nanosPerSecond

/-- Date and time up to the whole second. -/
def printSeconds (t : Instant) : List Char :=
  let ofDay := (t.seconds % 86400).toNat
  let second := ofDay % 60 + if t.isLeap then 1 else 0
  t.date.print ++ 'T' :: Decimal.padded 2 (ofDay / 3600) ++ ':' ::
    Decimal.padded 2 (ofDay / 60 % 60) ++ ':' :: Decimal.padded 2 second

/-- The stored form: the fraction is cut off after three digits. -/
def printStored (t : Instant) : List Char :=
  t.printSeconds ++ '.' :: Decimal.padded 3 (t.subsecond / 1000000) ++ ['Z']

/-- The fraction of the exact form, with the fewest digits that lose nothing. -/
def printFraction (nanos : Nat) : List Char :=
  if nanos = 0 then []
  else if nanos % 1000000 = 0 then '.' :: Decimal.padded 3 (nanos / 1000000)
  else if nanos % 1000 = 0 then '.' :: Decimal.padded 6 (nanos / 1000)
  else '.' :: Decimal.padded 9 nanos

/-- The exact form. -/
def printExact (t : Instant) : List Char :=
  t.printSeconds ++ printFraction t.subsecond ++ ['Z']

/-- The stored form as a text. -/
def stored (t : Instant) : String := String.ofList t.printStored

/-- The exact form as a text. -/
def exact (t : Instant) : String := String.ofList t.printExact

/-- The instant of a date and a time of day that are an offset, in seconds, ahead of UTC. Second 60
stands for the leap second at the end of its minute. -/
def ofClock? (date : Date) (hour minute second nanos : Nat) (offset : Int) : Option Instant :=
  let clock := 3600 * hour + 60 * minute + min second 59
  let here := date.dayNumber * 86400 + clock
  if date.Valid ∧ hour < 24 ∧ minute < 60 ∧ second ≤ 60 ∧ nanos < nanosPerSecond ∧
      firstSecond ≤ here ∧ here ≤ lastSecond then
    ofParts? (here - offset) (if second = 60 then nanos + nanosPerSecond else nanos)
  else
    none

end Instant

/-! ### Reading the stored form -/

/-- The value of two digits. -/
def twoDigits? (a b : Char) : Option Nat := Decimal.nat? [a, b]

/-- The nanoseconds that the digits of a fraction stand for; those behind the ninth do not count. -/
def fractionNanos (digits : List Char) : Nat :=
  let counted := digits.take 9
  Nat.ofDigitChars 10 counted 0 * Nat.pow 10 (9 - counted.length)

/-- A fraction at the start of a text, in nanoseconds, and the text behind it. -/
def fraction? : List Char → Option (Nat × List Char)
  | '.' :: cs =>
    let digits := cs.takeWhile Char.isDigit
    if digits = [] then none else some (fractionNanos digits, cs.dropWhile Char.isDigit)
  | cs => some (0, cs)

/-- Is an offset with this sign behind UTC? The minus sign may be the hyphen or U+2212. -/
def offsetSign? : Char → Option Bool
  | '+' => some false
  | '-' | '−' => some true
  | _ => none

/-- An offset in seconds. -/
def offset (behind : Bool) (hours minutes : Nat) : Int :=
  let seconds : Int := 3600 * hours + 60 * minutes
  if behind then -seconds else seconds

/-- The offset that a text consists of. -/
def zone? : List Char → Option Int
  | ['Z'] | ['z'] => some 0
  | [sign, h, h', ':', m, m'] => do
    let behind ← offsetSign? sign
    let hours ← twoDigits? h h'
    let minutes ← twoDigits? m m'
    if hours < 24 ∧ minutes < 60 then some (offset behind hours minutes) else none
  | _ => none

/-- Does this character separate a date from the time of day? -/
def isDateEnd (c : Char) : Bool := c == 'T' || c == 't' || c == ' '

/-- Reads the stored form. -/
def Instant.ofStored? (s : String) : Option Instant :=
  match s.toList with
  | y :: y' :: y'' :: y''' :: '-' :: mo :: mo' :: '-' :: d :: d' :: sep ::
      h :: h' :: ':' :: mi :: mi' :: ':' :: se :: se' :: behind => do
    guard (isDateEnd sep)
    let year ← Decimal.nat? [y, y', y'', y''']
    let month ← twoDigits? mo mo'
    let day ← twoDigits? d d'
    let hour ← twoDigits? h h'
    let minute ← twoDigits? mi mi'
    let second ← twoDigits? se se'
    let (nanos, behind) ← fraction? behind
    let offset ← zone? behind
    Instant.ofClock? ⟨year, month, day⟩ hour minute second nanos offset
  | _ => none

/-! ### Reading the exact form -/

/-- The text behind its leading blanks. -/
def skipBlank (cs : List Char) : List Char := cs.dropWhile isBlank

/-- A number of at most `width` digits at the start of a text, and the text behind it. -/
def digits? (width : Nat) (cs : List Char) : Option (Nat × List Char) :=
  let digits := (cs.take width).takeWhile Char.isDigit
  (Decimal.nat? digits).map fun n ↦ (n, cs.drop digits.length)

/-- A year: four digits at the most, or any number of digits behind a sign. -/
def year? (cs : List Char) : Option (Int × List Char) :=
  match skipBlank cs with
  | '-' :: cs => (digits? cs.length cs).map fun (n, cs) ↦ (-(n : Int), cs)
  | '+' :: cs => (digits? cs.length cs).map fun (n, cs) ↦ ((n : Int), cs)
  | cs => (digits? 4 cs).map fun (n, cs) ↦ ((n : Int), cs)

/-- A number of one or two digits behind any blanks. -/
def number? (cs : List Char) : Option (Nat × List Char) := digits? 2 (skipBlank cs)

/-- The text behind a mark and any blanks in front of it. -/
def mark? (mark : Char) (cs : List Char) : Option (List Char) :=
  match skipBlank cs with
  | c :: cs => if c = mark then some cs else none
  | [] => none

/-- An offset at the start of a text, or a name of UTC itself, and the text behind it. -/
def zonePart? : List Char → Option (Int × List Char)
  | 'Z' :: cs | 'z' :: cs => some (0, cs)
  | sign :: h :: h' :: cs =>
    if [sign, h, h'].map Char.toUpper = ['U', 'T', 'C'] then some (0, cs) else do
    let behind ← offsetSign? sign
    let hours ← twoDigits? h h'
    match cs.dropWhile fun c ↦ c == ':' || isBlank c with
    | m :: m' :: cs =>
      let minutes ← twoDigits? m m'
      if hours < 24 ∧ minutes < 60 then some (offset behind hours minutes, cs) else none
    | _ => none
  | _ => none

/-- Reads the exact form. -/
def Instant.ofExact? (s : String) : Option Instant := do
  let (year, cs) ← year? s.toList
  let (month, cs) ← number? (← mark? '-' cs)
  let (day, cs) ← number? (← mark? '-' cs)
  match cs with
  | [] => none
  | sep :: cs =>
    guard (isDateEnd sep)
    let (hour, cs) ← number? cs
    let (minute, cs) ← number? (← mark? ':' cs)
    let (second, cs) ← number? (← mark? ':' cs)
    let (nanos, cs) ← fraction? cs
    let (offset, cs) ← zonePart? (skipBlank cs)
    guard (cs.all isBlank)
    Instant.ofClock? ⟨year, month, day⟩ hour minute second nanos offset

end SpacedReview.Time

import SpacedReview.Failure

/-!
# Pattern matching in SQL

The operator `like` compares a text with a pattern in which `%` stands for any run of characters,
`_` for any one character, and a backslash takes the meaning from the character behind it. The case
of ASCII letters does not count. Both sides end at their first zero character, and the two code
points that are no characters at the end of the basic plane are read as the replacement character. A
pattern that is too long is not matched with anything.

`containing` writes the pattern that looks for a text anywhere, whatever characters the text has.
-/

namespace SpacedReview.Sql

/-- The character that `like` sees in place of another. -/
def likeFold (c : Char) : Char :=
  if c = '\uFFFE' ∨ c = '\uFFFF' then '\uFFFD' else c.toLower

/-- Does a text match a pattern? -/
def likeChars : List Char → List Char → Bool
  | [], cs => cs.isEmpty
  | '%' :: ps, [] => likeChars ps []
  | '%' :: ps, c :: cs => likeChars ps (c :: cs) || likeChars ('%' :: ps) cs
  | '_' :: ps, _ :: cs => likeChars ps cs
  | '\\' :: p :: ps, c :: cs => likeFold p == likeFold c && likeChars ps cs
  | ['\\'], _ => false
  | p :: ps, c :: cs => likeFold p == likeFold c && likeChars ps cs
  | _ :: _, [] => false
termination_by ps cs => ps.length + cs.length

/-- A text up to its first zero character. -/
def untilZero (cs : List Char) : List Char := cs.takeWhile (· != '\x00')

/-- Is a text like a pattern? -/
def isLike (pattern text : String) : Bool :=
  likeChars (untilZero pattern.toList) (untilZero text.toList)

/-- The longest pattern that is matched, in bytes. -/
def longestPattern : Nat := 50000

/-- Matches a text with a pattern. -/
def like (pattern text : String) : Except Failure Bool :=
  if pattern.utf8ByteSize ≤ longestPattern then .ok (isLike pattern text) else .error .database

/-- A text as part of a pattern that means just this text. -/
def escaped : List Char → List Char
  | [] => []
  | c :: cs => if c = '%' ∨ c = '_' ∨ c = '\\' then '\\' :: c :: escaped cs else c :: escaped cs

/-- The pattern that matches every text with the given text in it. -/
def containing (text : String) : String := String.ofList ('%' :: escaped text.toList ++ ['%'])

end SpacedReview.Sql

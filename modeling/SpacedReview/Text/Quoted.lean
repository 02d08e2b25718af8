import SpacedReview.Text.Hidden

/-!
# Quoted texts

A text in quotes, in a form that shows every character: quotes, backslashes and the usual control
characters have short escapes, and a character that has no visible form of its own is spelled out
by its hexadecimal number.
-/

namespace SpacedReview.Text

/-- A character as it stands in a quoted text. -/
def quotedChar (c : Char) : List Char :=
  match c with
  | '\x00' => ['\\', '0']
  | '\t' => ['\\', 't']
  | '\n' => ['\\', 'n']
  | '\r' => ['\\', 'r']
  | '"' => ['\\', '"']
  | '\\' => ['\\', '\\']
  | c =>
    if isHidden c then ['\\', 'u', '\x7b'] ++ Nat.toDigits 16 c.toNat ++ ['\x7d'] else [c]

/-- A text in quotes. -/
def quoted (s : String) : String := String.ofList ('"' :: s.toList.flatMap quotedChar ++ ['"'])

end SpacedReview.Text

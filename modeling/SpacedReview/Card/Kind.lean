import SpacedReview.Failure

/-!
# Kinds of cards

A card is about a single character, a word or a sentence. The kind is written as one lower case
word, in queries and commands as in stored cards.
-/

namespace SpacedReview

/-- What a card is about. -/
inductive CardKind where
  | hanzi
  | vocab
  | sentence
  deriving DecidableEq, Repr

namespace CardKind

/-- The word for a kind. -/
def word : CardKind → String
  | hanzi => "hanzi"
  | vocab => "vocab"
  | sentence => "sentence"

/-- The kind that a word stands for. -/
def ofWord? (s : String) : Option CardKind := [hanzi, vocab, sentence].find? (·.word == s)

/-- Reads a kind. -/
def parse (s : String) : Except Failure CardKind :=
  match ofWord? s with
  | some k => .ok k
  | none => .error (.badCardType s)

@[simp] theorem ofWord?_word (k : CardKind) : ofWord? k.word = some k := by cases k <;> decide

/-- A word stands for a kind only if it is the word for it. -/
theorem eq_word_of_ofWord? {s : String} {k : CardKind} (h : ofWord? s = some k) : s = k.word := by
  have := List.find?_some (p := fun k ↦ word k == s) h
  simpa using (beq_iff_eq.1 this).symm

end CardKind

end SpacedReview

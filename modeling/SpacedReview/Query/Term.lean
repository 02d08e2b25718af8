import SpacedReview.Text.Blank
import SpacedReview.Text.Letter
import SpacedReview.Text.Number

/-!
# Terms of a query

A term is one filter of a query: a value, optionally led by a field name and an operator, optionally
negated. This module also holds the words a term is written with: which characters form a field
name, how the longest operator at a place is found, and when a text would be read as a filter on a
field. The reader and the printer of queries both rest on these, so they cannot drift apart.
-/

namespace SpacedReview.Query

open SpacedReview.Text

/-- The relation that a filter asks for between a field and its value. -/
inductive Operator where
  /-- `:`, contains or matches. -/
  | has
  /-- `=` -/
  | equal
  /-- `<` -/
  | less
  /-- `<=` -/
  | atMost
  /-- `>` -/
  | greater
  /-- `>=` -/
  | atLeast
  deriving DecidableEq, Repr

namespace Operator

/-- The characters an operator is written with. -/
def symbol : Operator → List Char
  | has => [':']
  | equal => ['=']
  | less => ['<']
  | atMost => ['<', '=']
  | greater => ['>']
  | atLeast => ['>', '=']

/-- The operator that a text starts with, the longer one where two would do. -/
def atStart? : List Char → Option Operator
  | '<' :: '=' :: _ => some atMost
  | '>' :: '=' :: _ => some atLeast
  | ':' :: _ => some has
  | '=' :: _ => some equal
  | '<' :: _ => some less
  | '>' :: _ => some greater
  | _ => none

theorem symbol_ne_nil (op : Operator) : op.symbol ≠ [] := by cases op <;> simp [symbol]

/-- An operator that is found is what the text starts with. -/
theorem symbol_append_drop_of_atStart? {cs : List Char} {op : Operator}
    (h : atStart? cs = some op) : op.symbol ++ cs.drop op.symbol.length = cs := by
  unfold atStart? at h
  split at h
  case h_7 => cases h
  all_goals
    obtain rfl := Option.some.inj h
    rfl

/-- A symbol is found in front of a text that does not prolong it. -/
theorem atStart?_symbol_append {op : Operator} {cs : List Char} (h : cs.head? ≠ some '=') :
    atStart? (op.symbol ++ cs) = some op := by
  cases op <;> cases cs <;> simp_all [symbol, atStart?]

end Operator

/-- A single filter. Without a field it is about the default fields of what is searched. -/
structure Term where
  field : Option String
  operator : Operator
  value : String
  negated : Bool
  deriving DecidableEq, Repr

namespace Term

/-- A value looked for in the default fields. -/
def bare (value : String) : Term := ⟨none, .has, value, false⟩

/-- A filter on one field. -/
def fielded (field : String) (operator : Operator) (value : String) : Term :=
  ⟨some field, operator, value, false⟩

/-- The term with its negation flipped. -/
def negate (t : Term) : Term := { t with negated := !t.negated }

@[simp] theorem negate_negate (t : Term) : t.negate.negate = t := by simp [negate]

end Term

/-! ### Field names -/

/-- Can a field name start with this character? -/
def isNameStart (c : Char) : Bool := isLetter c || c == '_'

/-- Can a field name go on with this character? -/
def isNameChar (c : Char) : Bool := isLetter c || isNumber c || c == '_' || c == '.'

/-- A field name and the operator directly behind it, with the text after both. -/
structure FieldLead where
  name : List Char
  operator : Operator
  rest : List Char

/-- The longest field name at the start of a text, if an operator follows it directly. -/
def fieldLead? : List Char → Option FieldLead
  | [] => none
  | c :: cs =>
    if isNameStart c then
      let name := c :: cs.takeWhile isNameChar
      let behind := cs.dropWhile isNameChar
      (Operator.atStart? behind).map fun op ↦ ⟨name, op, behind.drop op.symbol.length⟩
    else
      none

/-- Would this text be read as a filter on a field? -/
def looksFielded (cs : List Char) : Bool := (fieldLead? cs).isSome

/-- The parts of a field lead make up the text it was read from, and the name is not empty. -/
theorem eq_of_fieldLead? {cs : List Char} {lead : FieldLead} (h : fieldLead? cs = some lead) :
    cs = lead.name ++ (lead.operator.symbol ++ lead.rest) ∧ lead.name ≠ [] := by
  cases cs with
  | nil => simp [fieldLead?] at h
  | cons c cs =>
    simp only [fieldLead?] at h
    split at h
    · obtain ⟨op, hop, rfl⟩ := Option.map_eq_some_iff.1 h
      simp [Operator.symbol_append_drop_of_atStart? hop, List.takeWhile_append_dropWhile]
    · simp at h

end SpacedReview.Query

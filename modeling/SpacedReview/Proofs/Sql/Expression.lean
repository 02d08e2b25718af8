import SpacedReview.Proofs.Query.Occurrences
import SpacedReview.Sql.Fragment

/-!
# Reading conditions in SQL

The text of a fragment is read back as a boolean expression, by the rules of SQL and with no regard
to how the text came about. It is cut into words, parentheses and question marks, where a blank
within quotes is part of a word. Question marks are bound to the parameters in order, and
parentheses put what is between them into a group. In what is left, a row of words and groups, `or`
binds weakest, then `and`, then `not`; what none of them is in is an operand, unless it is a group
alone, which stands for the expression in it.

Operands are not read any further: a group in an operand, such as an inner query, may have
conditions of its own. Only an operand of `between` or `case` is refused, since `and` may be part of
these. A reading also fails on a quote or a parenthesis that is not closed, on too few or too many
parameters, and where an operand is missing.

A text that is complete in itself is read alike wherever it stands, so the reading of a text is put
together of the readings of its pieces, between blanks and in parentheses.

## Main statements

* `items_append`, `items_group`: the items of texts side by side, and of a text in parentheses.
* `IsChain.conjunction`, `IsChain.disjunction`: the expression of a row of operands.
-/

namespace SpacedReview.Sql

open SpacedReview.Query

/-! ### Lexemes -/

/-- What a text is cut into. -/
inductive Lexeme where
  | opening
  | closing
  /-- A question mark. -/
  | mark
  /-- What stands between blanks, with all that is in quotes. -/
  | word (chars : List Char)
  deriving DecidableEq

/-- The lexemes of a character that ends a word. -/
def separator? : Char → Option (List Lexeme)
  | ' ' => some []
  | '(' => some [.opening]
  | ')' => some [.closing]
  | '?' => some [.mark]
  | _ => none

/-- A word, unless it is empty. -/
def wordOf (chars : List Char) : List Lexeme := if chars = [] then [] else [.word chars]

/-- The lexemes of a text behind the beginning of a word, which may end within quotes. -/
def lexemes : List Char → Bool → List Char → Option (List Lexeme)
  | word, false, [] => some (wordOf word)
  | _, true, [] => none
  | word, true, c :: cs => lexemes (word ++ [c]) (c != '\'') cs
  | word, false, c :: cs =>
    match separator? c with
    | some ls => (lexemes [] false cs).map fun rest ↦ wordOf word ++ (ls ++ rest)
    | none => lexemes (word ++ [c]) (c == '\'') cs

/-- A text is cut at a character that ends a word. -/
theorem lexemes_append {cs : List Char} {word : List Char} {quoted : Bool} {ls : List Lexeme}
    (h : lexemes word quoted cs = some ls) {c : Char} {end' : List Lexeme}
    (hc : separator? c = some end') (rest : List Char) :
    lexemes word quoted (cs ++ c :: rest) =
      (lexemes [] false rest).map fun rest ↦ ls ++ (end' ++ rest) := by
  induction cs generalizing word quoted ls with
  | nil =>
    cases quoted with
    | true => cases h
    | false =>
      obtain rfl := Option.some.inj h
      rw [List.nil_append, lexemes, hc]
  | cons d cs ih =>
    cases quoted with
    | true => exact ih h
    | false =>
      rw [List.cons_append, lexemes]
      rw [lexemes] at h
      cases hd : separator? d with
      | none =>
        simp only [hd] at h
        exact ih h
      | some ls' =>
        simp only [hd] at h
        obtain ⟨ls'', hcs, rfl⟩ := Option.map_eq_some_iff.1 h
        simp only [ih hcs, Option.map_map, Function.comp_def, List.append_assoc]

/-! ### Groups -/

/-- A word, a bound parameter, or what stands in a pair of parentheses. -/
inductive Item where
  | word (chars : List Char)
  | value (param : Param)
  | group (row : List Item)

/-- The row of items of a text, given the rows that are open, the innermost first, and the
parameters that are not bound yet. -/
def assemble : List Lexeme → List (List Item) → List Param → Option (List Item)
  | [], rows, params =>
    match rows, params with
    | [row], [] => some row
    | _, _ => none
  | .opening :: ls, rows, params => assemble ls ([] :: rows) params
  | .closing :: ls, rows, params =>
    match rows with
    | row :: outer :: rows => assemble ls ((outer ++ [.group row]) :: rows) params
    | _ => none
  | .mark :: ls, rows, params =>
    match rows, params with
    | row :: rows, param :: params => assemble ls ((row ++ [.value param]) :: rows) params
    | _, _ => none
  | .word chars :: ls, rows, params =>
    match rows with
    | row :: rows => assemble ls ((row ++ [.word chars]) :: rows) params
    | [] => none

/-- The row of items of a text with parameters. -/
def items (cs : List Char) (params : List Param) : Option (List Item) :=
  (lexemes [] false cs).bind fun ls ↦ assemble ls [[]] params

/-- What is read of a text does not depend on the rows around it. -/
theorem assemble_append {ls : List Lexeme} {opened : List (List Item)} {row result : List Item}
    {params : List Param} (h : assemble ls (opened ++ [row]) params = some result)
    (rest : List Lexeme) (before : List Item) (outer : List (List Item)) (params' : List Param) :
    assemble (ls ++ rest) (opened ++ (before ++ row) :: outer) (params ++ params') =
      assemble rest ((before ++ result) :: outer) params' := by
  -- the rows that the text opens lie above the row that it began in, and this one above the others
  induction ls generalizing opened row params with
  | nil =>
    cases opened with
    | nil =>
      cases params with
      | nil =>
        obtain rfl := Option.some.inj h
        rfl
      | cons param params => cases h
    | cons inner opened => cases opened <;> cases h
  | cons l ls ih =>
    cases l with
    | opening => exact @ih ([] :: opened) row params h
    | closing =>
      match opened with
      | [] => cases h
      | [inner] =>
        have hrest := @ih [] (row ++ [Item.group inner]) params h
        rwa [← List.append_assoc] at hrest
      | inner :: next :: opened => exact @ih ((next ++ [Item.group inner]) :: opened) row params h
    | mark =>
      cases params with
      | nil => cases opened <;> cases h
      | cons param params =>
        cases opened with
        | nil =>
          have hrest := @ih [] (row ++ [Item.value param]) params h
          rwa [← List.append_assoc] at hrest
        | cons inner opened => exact @ih ((inner ++ [Item.value param]) :: opened) row params h
    | word chars =>
      cases opened with
      | nil =>
        have hrest := @ih [] (row ++ [Item.word chars]) params h
        rwa [← List.append_assoc] at hrest
      | cons inner opened => exact @ih ((inner ++ [Item.word chars]) :: opened) row params h

variable {cs cs' : List Char} {params params' : List Param} {row row' : List Item}

/-- A text that is complete in itself is the same row of items wherever it stands. -/
theorem assemble_complete {ls : List Lexeme} (h : assemble ls [[]] params = some row)
    (rest : List Lexeme) (before : List Item) (outer : List (List Item)) (params' : List Param) :
    assemble (ls ++ rest) (before :: outer) (params ++ params') =
      assemble rest ((before ++ row) :: outer) params' := by
  have happend := @assemble_append ls [] [] row params h rest before outer params'
  rwa [List.nil_append, List.append_nil] at happend

theorem items_eq_some_iff : items cs params = some row ↔
    ∃ ls, lexemes [] false cs = some ls ∧ assemble ls [[]] params = some row :=
  Option.bind_eq_some_iff

/-- Texts with a blank between them are rows side by side. -/
theorem items_append (h : items cs params = some row) (h' : items cs' params' = some row') :
    items (cs ++ ' ' :: cs') (params ++ params') = some (row ++ row') := by
  obtain ⟨ls, hls, hrow⟩ := items_eq_some_iff.1 h
  obtain ⟨ls', hls', hrow'⟩ := items_eq_some_iff.1 h'
  refine items_eq_some_iff.2 ⟨ls ++ ls', ?_, ?_⟩
  · rw [lexemes_append hls rfl, hls']
    rfl
  · have hlast := assemble_complete hrow' [] row [] []
    rw [List.append_nil, List.append_nil] at hlast
    exact (assemble_complete hrow ls' [] [] params').trans hlast

/-- A text in parentheses is a group. -/
theorem items_group (h : items cs params = some row) :
    items ('(' :: cs ++ [')']) params = some [.group row] := by
  obtain ⟨ls, hls, hrow⟩ := items_eq_some_iff.1 h
  refine items_eq_some_iff.2 ⟨.opening :: (ls ++ [.closing]), ?_, ?_⟩
  · show (lexemes [] false (cs ++ [')'])).map (fun rest ↦ wordOf [] ++ ([.opening] ++ rest)) = _
    rw [lexemes_append hls rfl]
    rfl
  · have hinner := assemble_complete hrow [.closing] [] [[]] []
    rw [List.append_nil] at hinner
    exact hinner

/-! ### Expressions -/

/-- A row of items that compares something, or looks something up. -/
abbrev Operand := List Item

/-- Is an item a keyword, in letters of either case? -/
def Item.is (keyword : List Char) : Item → Bool
  | word chars => chars.map Char.toLower == keyword
  | _ => false

/-- What stands between expressions. -/
inductive Connective where
  | and
  | or
  deriving DecidableEq

/-- The keyword of a connective. -/
def Connective.chars : Connective → List Char
  | and => ['a', 'n', 'd']
  | or => ['o', 'r']

/-- The expression of a row of items without keywords, each with the expression of its group. -/
def primary : List (Item × Option (Predicate Operand)) → Option (Predicate Operand)
  | [] => none
  | [(.group _, e)] => e
  | [(.word ['0'], _)] => some .nothing
  | row =>
    if row.any (·.1.is ['b', 'e', 't', 'w', 'e', 'e', 'n']) || row.any (·.1.is ['c', 'a', 's', 'e'])
    then none
    else some (.atom (row.map Prod.fst))

/-- The expression of a row of items with `not` as the only keyword. -/
def negation : List (Item × Option (Predicate Operand)) → Option (Predicate Operand)
  | [] => none
  | i :: row => if i.1.is ['n', 'o', 't'] then (negation row).map .not else primary (i :: row)

/-- The expression of a row of items with the keywords `and` and `not`. -/
def conjunction (row : List (Item × Option (Predicate Operand))) : Option (Predicate Operand) :=
  ((row.splitOnP (·.1.is Connective.and.chars)).mapM negation).map (.joined .all)

/-- The expression of a row of items. -/
def disjunction (row : List (Item × Option (Predicate Operand))) : Option (Predicate Operand) :=
  ((row.splitOnP (·.1.is Connective.or.chars)).mapM conjunction).map (.joined .any)

mutual

/-- The expression in a group. -/
def Item.inner : Item → Option (Predicate Operand)
  | .group row => disjunction (annotated row)
  | _ => none

/-- The items of a row, each with the expression of its group. -/
def annotated : List Item → List (Item × Option (Predicate Operand))
  | [] => []
  | i :: row => (i, i.inner) :: annotated row

end

/-- The boolean expression that a text with parameters is. -/
def read (cs : List Char) (params : List Param) : Option (Predicate Operand) :=
  (items cs params).bind fun row ↦ disjunction (annotated row)

/-- The boolean expression that a fragment is. -/
def Fragment.expression (f : Fragment) : Option (Predicate Operand) := read f.sql.toList f.params

@[simp] theorem annotated_append (row row' : List Item) :
    annotated (row ++ row') = annotated row ++ annotated row' := by
  induction row with
  | nil => rfl
  | cons i row ih => rw [List.cons_append, annotated, ih, annotated, List.cons_append]

/-! ### Operands in a row -/

/-- A row of items that `and` and `or` leave in one piece, and the expression that it is, if it is
one. -/
structure IsOperand (row : List (Item × Option (Predicate Operand)))
    (e : Option (Predicate Operand)) : Prop where
  not_is : ∀ connective : Connective, ∀ i ∈ row, i.1.is connective.chars = false
  negation_eq : negation row = e

/-- A row of items that a connective cuts into operands, and what these are. -/
inductive IsChain (connective : Connective) :
    List (Item × Option (Predicate Operand)) → List (Option (Predicate Operand)) → Prop
  | single {row e} : IsOperand row e → IsChain connective row [e]
  | cons {row rest e es} : IsOperand row e → IsChain connective rest es →
      IsChain connective (row ++ (.word connective.chars, none) :: rest) (e :: es)

variable {parts : List (Item × Option (Predicate Operand))} {e : Option (Predicate Operand)}
  {es : List (Option (Predicate Operand))} {connective : Connective}

/-- A connective is no other keyword than its own. -/
theorem Connective.is_chars_iff {connective other : Connective} :
    (Item.word connective.chars).is other.chars = true ↔ connective = other := by
  cases connective <;> cases other <;> decide

/-- Whatever stands in parentheses is an operand. -/
theorem IsOperand.group (row : List Item) :
    IsOperand (annotated [.group row]) (disjunction (annotated row)) := by
  refine ⟨fun connective i hi ↦ ?_, rfl⟩
  obtain rfl := List.mem_singleton.1 hi
  rfl

/-- So is the negation of an operand. -/
theorem IsOperand.not (h : IsOperand parts e) :
    IsOperand ((.word ['n', 'o', 't'], none) :: parts) (e.map .not) := by
  refine ⟨fun connective i hi ↦ ?_, ?_⟩
  · rcases List.mem_cons.1 hi with rfl | hi
    · cases connective <;> rfl
    · exact h.not_is connective i hi
  · show (negation parts).map Predicate.not = _
    rw [h.negation_eq]

/-- A row is cut at its connective into the operands. -/
theorem IsChain.mapM_splitOnP (h : IsChain connective parts es)
    {read : List (Item × Option (Predicate Operand)) → Option (Predicate Operand)}
    (hread : ∀ row e, IsOperand row e → read row = e) :
    (parts.splitOnP (·.1.is connective.chars)).mapM read = es.mapM id := by
  induction h with
  | @single row e hrow =>
    rw [List.splitOnP_eq_singleton (hrow.not_is connective)]
    simp [hread row e hrow]
  | @cons row rest e es hrow _ ih =>
    have hcut : (Item.word connective.chars).is connective.chars = true :=
      Connective.is_chars_iff.2 rfl
    rw [List.splitOnP_append_cons_of_forall_mem (hrow.not_is connective) _ hcut]
    simp [hread row e hrow, ih]

/-- Neither the operands of a row nor its connective are the other connective. -/
theorem IsChain.not_is {other : Connective} (hne : connective ≠ other)
    (h : IsChain connective parts es) : ∀ i ∈ parts, i.1.is other.chars = false := by
  induction h with
  | single hrow => exact hrow.not_is other
  | cons hrow _ ih =>
    intro i hi
    rcases List.mem_append.1 hi with hi | hi
    · exact hrow.not_is other i hi
    · rcases List.mem_cons.1 hi with rfl | hi
      · exact Bool.eq_false_iff.2 fun his ↦ hne (Connective.is_chars_iff.1 his)
      · exact ih i hi

/-- A row of operands with `and` between them is their conjunction. -/
theorem IsChain.conjunction (h : IsChain .and parts es) :
    disjunction parts = (es.mapM id).map (.joined .all) := by
  have hor : ∀ i ∈ parts, i.1.is Connective.or.chars = false := h.not_is (by decide)
  have hand : Sql.conjunction parts = (es.mapM id).map (.joined .all) :=
    congrArg (Option.map _) (h.mapM_splitOnP fun row e hrow ↦ hrow.negation_eq)
  rw [Sql.disjunction, List.splitOnP_eq_singleton hor, ← hand]
  cases hparts : Sql.conjunction parts <;> simp [hparts, Predicate.joined]

/-- A row of operands with `or` between them is their disjunction. -/
theorem IsChain.disjunction (h : IsChain .or parts es) :
    disjunction parts = (es.mapM id).map (.joined .any) := by
  -- every alternative is a conjunction of a single conjunct
  have hread : ∀ row e, IsOperand row e → Sql.conjunction row = e := by
    intro row e hrow
    rw [Sql.conjunction, List.splitOnP_eq_singleton (hrow.not_is .and)]
    cases e <;> simp [hrow.negation_eq, Predicate.joined]
  rw [Sql.disjunction, h.mapM_splitOnP hread]

example : read "not a and b or c".toList [] =
    some (.any [.all [.not (.atom [.word ['a']]), .atom [.word ['b']]], .atom [.word ['c']]]) := by
  rfl

end SpacedReview.Sql

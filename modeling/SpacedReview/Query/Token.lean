import SpacedReview.Query.Term
import SpacedReview.Text.Utf8

/-!
# Tokens of a query

A query is a row of items with blanks between them, and each item is read as one token: a term, or
the keyword `OR`. An item is any number of dashes, each flipping the negation, and then one of

* a quoted literal, whose text is taken verbatim up to the next quote;
* a field name, an operator and a value, which is a quoted literal or a run without blanks;
* a run without blanks, which is the keyword if it is `OR` and has no dash in front.

A closing quote has to end the item. Positions are byte offsets into the query, and every reading
function returns the characters it consumed (`text`) beside those it left (`rest`), so that the
position of the next item is found by adding up what was consumed.

## Main statements

* `Item.text_append_rest`: what an item consumed and what it left are the text it was read from.
* `Item.text_ne_nil`: an item that starts with a character other than a blank consumes something,
  which is why `tokensFrom` ends.
-/

namespace SpacedReview.Query

open SpacedReview.Text

/-! ### Malformed queries -/

/-- What can be wrong with a query. -/
inductive Fault where
  /-- A quoted literal without its closing quote. -/
  | unterminatedQuote
  /-- An operator with nothing behind it. -/
  | missingValue
  /-- Dashes without a term behind them. -/
  | danglingNegation
  /-- An `OR` without a term on both sides. -/
  | danglingOr
  /-- A closing quote that does not end its item. -/
  | textAfterQuote
  deriving DecidableEq, Repr

/-- The words for a fault. -/
def Fault.message : Fault → String
  | unterminatedQuote => "unterminated quote"
  | missingValue => "operator without a value"
  | danglingNegation => "'-' without a term"
  | danglingOr => "'OR' without a term on both sides"
  | textAfterQuote => "text directly after a closing quote"

/-- A malformed query: the fault, where the offending token starts, and the token. -/
structure Malformed where
  fault : Fault
  position : Nat
  token : String
  deriving DecidableEq, Repr

/-- The words for a malformed query. -/
def Malformed.message (m : Malformed) : String :=
  m.fault.message ++ " at position " ++ toString m.position ++ ": " ++ m.token

/-! ### Tokens -/

/-- One item of a query. -/
inductive Token where
  | term (term : Term)
  | or
  deriving DecidableEq, Repr

/-- A token and the byte offset its item starts at. -/
structure Placed where
  token : Token
  position : Nat
  deriving DecidableEq, Repr

/-- Does the text end here, or go on with a blank? -/
def atBoundary : List Char → Bool
  | [] => true
  | c :: _ => isBlank c

/-! ### Values -/

/-- A value that was read, the characters it was read from, and the text behind them. -/
structure Reading where
  value : List Char
  text : List Char
  rest : List Char

/-- The run of characters up to the next blank. -/
def word (cs : List Char) : Reading :=
  ⟨cs.takeWhile (!isBlank ·), cs.takeWhile (!isBlank ·), cs.dropWhile (!isBlank ·)⟩

/-- The literal whose opening quote stands at `position`, in front of the given text. -/
def quoted (position : Nat) (cs : List Char) : Except Malformed Reading :=
  let body := cs.takeWhile (· != '"')
  match cs.dropWhile (· != '"') with
  | [] => .error ⟨.unterminatedQuote, position, String.ofList ('"' :: cs)⟩
  | _ :: rest =>
    if atBoundary rest then
      -- The quotes belong to the text of the literal, not to its value.
      .ok ⟨body, '"' :: body ++ ['"'], rest⟩
    else
      .error ⟨.textAfterQuote, position,
        String.ofList ('"' :: body ++ '"' :: rest.takeWhile (!isBlank ·))⟩

/-- The value of a filter on a field, at `position`. -/
def fieldValue (position : Nat) : List Char → Except Malformed Reading
  | '"' :: cs => quoted position cs
  | cs => .ok (word cs)

/-! ### Items -/

/-- A token that was read, the characters of its item, and the text behind them. -/
structure Item where
  token : Token
  text : List Char
  rest : List Char

/-- A term behind a run of dashes: each dash flips its negation. -/
def signed (dashes : List Char) (t : Term) : Term :=
  if dashes.length % 2 = 1 then t.negate else t

/-- The item at `position` whose dashes have been read, in front of its body. -/
def itemBehind (position : Nat) (dashes body : List Char) : Except Malformed Item :=
  let start := position + byteLength dashes
  match body with
  | '"' :: behind => do
    let r ← quoted start behind
    return ⟨.term (signed dashes (.bare (String.ofList r.value))), dashes ++ r.text, r.rest⟩
  | _ =>
    match fieldLead? body with
    | some lead =>
      let leadText := lead.name ++ lead.operator.symbol
      if atBoundary lead.rest then
        .error ⟨.missingValue, position, String.ofList (dashes ++ leadText)⟩
      else do
        let r ← fieldValue (start + byteLength leadText) lead.rest
        let t := Term.fielded (String.ofList lead.name) lead.operator (String.ofList r.value)
        return ⟨.term (signed dashes t), dashes ++ (leadText ++ r.text), r.rest⟩
    | none =>
      let r := word body
      let token :=
        -- A dash turns the keyword into an ordinary word.
        if dashes = [] ∧ r.value = ['O', 'R'] then .or
        else .term (signed dashes (.bare (String.ofList r.value)))
      .ok ⟨token, dashes ++ r.text, r.rest⟩

/-- The item that starts at `position` with the first character of the text. -/
def item (position : Nat) (cs : List Char) : Except Malformed Item :=
  let dashes := cs.takeWhile (· == '-')
  let body := cs.dropWhile (· == '-')
  if dashes ≠ [] ∧ atBoundary body then
    .error ⟨.danglingNegation, position, String.ofList dashes⟩
  else
    itemBehind position dashes body

/-! ### What is consumed -/

@[simp] theorem word_text_append_rest (cs : List Char) : (word cs).text ++ (word cs).rest = cs := by
  simp [word, List.takeWhile_append_dropWhile]

theorem quoted_text_append_rest {position : Nat} {cs : List Char} {r : Reading}
    (h : quoted position cs = .ok r) : r.text ++ r.rest = '"' :: cs := by
  have hcs : cs.takeWhile (· != '"') ++ cs.dropWhile (· != '"') = cs :=
    List.takeWhile_append_dropWhile
  have hquote := List.head?_dropWhile_not (fun c : Char ↦ c != '"') cs
  simp only [quoted] at h
  split at h
  · simp at h
  · rename_i c rest hdrop
    rw [hdrop] at hcs hquote
    split at h
    · simp only [Except.ok.injEq] at h
      subst h
      have : c = '"' := by simpa using hquote
      subst this
      simpa using hcs
    · simp at h

theorem quoted_text {position : Nat} {cs : List Char} {r : Reading}
    (h : quoted position cs = .ok r) : ∃ body, r.text = '"' :: body := by
  simp only [quoted] at h
  split at h
  · simp at h
  · split at h
    · simp only [Except.ok.injEq] at h
      subst h
      exact ⟨_, rfl⟩
    · simp at h

theorem fieldValue_text_append_rest {position : Nat} {cs : List Char} {r : Reading}
    (h : fieldValue position cs = .ok r) : r.text ++ r.rest = cs := by
  unfold fieldValue at h
  split at h
  · exact quoted_text_append_rest h
  · simp only [Except.ok.injEq] at h
    subst h
    simp

theorem itemBehind_text_append_rest {position : Nat} {dashes body : List Char} {it : Item}
    (h : itemBehind position dashes body = .ok it) :
    ∃ text, it.text = dashes ++ text ∧ text ++ it.rest = body := by
  simp only [itemBehind] at h
  split at h
  · rename_i behind
    cases hq : quoted (position + byteLength dashes) behind with
    | error e => simp [hq, bind, Except.bind] at h
    | ok r =>
      simp only [hq, bind, Except.bind, pure, Except.pure, Except.ok.injEq] at h
      subst h
      exact ⟨r.text, rfl, quoted_text_append_rest hq⟩
  · split at h
    · rename_i lead hlead
      split at h
      · cases h
      · cases hv : fieldValue (position + byteLength dashes +
            byteLength (lead.name ++ lead.operator.symbol)) lead.rest with
        | error e => simp only [hv, bind, Except.bind] at h; cases h
        | ok r =>
          simp only [hv, bind, Except.bind, pure, Except.pure, Except.ok.injEq] at h
          subst h
          refine ⟨_, rfl, ?_⟩
          rw [List.append_assoc, fieldValue_text_append_rest hv, List.append_assoc]
          exact (eq_of_fieldLead? hlead).1.symm
    · simp only [Except.ok.injEq] at h
      subst h
      exact ⟨_, rfl, word_text_append_rest body⟩

/-- What an item consumed and what it left are the text it was read from. -/
theorem Item.text_append_rest {position : Nat} {cs : List Char} {it : Item}
    (h : item position cs = .ok it) : it.text ++ it.rest = cs := by
  simp only [item] at h
  split at h
  · cases h
  · obtain ⟨text, htext, hrest⟩ := itemBehind_text_append_rest h
    rw [htext, List.append_assoc, hrest, List.takeWhile_append_dropWhile]

/-- An item without dashes consumes something, unless its body is empty or starts with a blank. -/
theorem itemBehind_text_ne_nil {position : Nat} {c : Char} {cs : List Char} {it : Item}
    (h : itemBehind position [] (c :: cs) = .ok it) (hc : isBlank c = false) : it.text ≠ [] := by
  simp only [itemBehind] at h
  split at h
  · rename_i behind hbody
    cases hq : quoted (position + byteLength []) behind with
    | error e => simp only [hq, bind, Except.bind] at h; cases h
    | ok r =>
      simp only [hq, bind, Except.bind, pure, Except.pure, Except.ok.injEq] at h
      subst h
      obtain ⟨body, hr⟩ := quoted_text hq
      simp [hr]
  · split at h
    · rename_i lead hlead
      split at h
      · cases h
      · cases hv : fieldValue (position + byteLength [] +
            byteLength (lead.name ++ lead.operator.symbol)) lead.rest with
        | error e => simp only [hv, bind, Except.bind] at h; cases h
        | ok r =>
          simp only [hv, bind, Except.bind, pure, Except.pure, Except.ok.injEq] at h
          subst h
          simp [(eq_of_fieldLead? hlead).2]
    · simp only [Except.ok.injEq] at h
      subst h
      simp [word, hc]

/-- An item that starts with a character other than a blank consumes something. -/
theorem Item.text_ne_nil {position : Nat} {c : Char} {cs : List Char} {it : Item}
    (h : item position (c :: cs) = .ok it) (hc : isBlank c = false) : it.text ≠ [] := by
  simp only [item] at h
  split at h
  · cases h
  · by_cases hd : (c :: cs).takeWhile (· == '-') = []
    · have hcs : (c :: cs).dropWhile (· == '-') = c :: cs := by
        have := List.takeWhile_append_dropWhile (p := (· == '-')) (l := c :: cs)
        rwa [hd] at this
      rw [hd, hcs] at h
      exact itemBehind_text_ne_nil h hc
    · obtain ⟨text, htext, -⟩ := itemBehind_text_append_rest h
      simp [htext, hd]

/-! ### The row of tokens -/

/-- Skipping blanks and reading an item shortens the text. -/
theorem Item.rest_length_lt {position : Nat} {c : Char} {cs behind : List Char} {it : Item}
    (hcs : cs.dropWhile isBlank = c :: behind) (h : item position (c :: behind) = .ok it) :
    it.rest.length < cs.length := by
  have hblank : isBlank c = false := by
    have := List.head?_dropWhile_not isBlank cs
    rw [hcs] at this
    simpa using this
  have htext := List.length_pos_iff.2 (Item.text_ne_nil h hblank)
  have hitem := congrArg List.length (Item.text_append_rest h)
  have hdrop := (List.dropWhile_sublist isBlank (l := cs)).length_le
  rw [List.length_append] at hitem
  rw [hcs] at hdrop
  omega

/-- The tokens of a text that starts at a byte offset of the query. -/
def tokensFrom (position : Nat) (cs : List Char) : Except Malformed (List Placed) :=
  match hcs : cs.dropWhile isBlank with
  | [] => .ok []
  | c :: behind =>
    let start := position + byteLength (cs.takeWhile isBlank)
    match h : item start (c :: behind) with
    | .error e => .error e
    | .ok it => do
      have : it.rest.length < cs.length := Item.rest_length_lt hcs h
      let tokens ← tokensFrom (start + byteLength it.text) it.rest
      return ⟨it.token, start⟩ :: tokens
termination_by cs.length

/-- The tokens of a query. -/
def tokens (query : String) : Except Malformed (List Placed) :=
  tokensFrom 0 query.toList

end SpacedReview.Query

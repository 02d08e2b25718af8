import Mathlib.Data.List.TakeWhile
import SpacedReview.Proofs.Query.Characters

/-!
# The grammar of queries

What a well-formed query is, said without reading one. A `Layout` is a query taken apart: a row of
parts, each a gap and an item behind it, and a gap at the end. An item is a number of dashes and a
body, and a body is a literal in quotes, a filter on a field, or a word. The pieces carry the proofs
of their form, so there are no ill-formed layouts, and `Layout.text` and `Layout.tokens` are all
that has to be said about what a layout looks like and what it means.

Two demands in the grammar are about the longest choice: a field name and an operator in front of a
value must be the longest that stand there (`IsLead`). The first demand takes care of itself, as no
operator starts with a character of a field name; the second one matters for `<` and `>` in front of
a value that starts with `=` (`isLead_iff`).
-/

namespace SpacedReview.Query

open SpacedReview.Text

/-! ### Operators -/

/-- The operator that is found is the longest that the text starts with. -/
theorem Operator.atStart?_eq_some_iff {cs : List Char} {op : Operator} :
    atStart? cs = some op ↔
      op.symbol <+: cs ∧ ∀ longer : Operator, longer.symbol <+: cs →
        longer.symbol.length ≤ op.symbol.length := by
  constructor
  · intro h
    refine ⟨⟨_, symbol_append_drop_of_atStart? h⟩, fun longer hlonger ↦ ?_⟩
    obtain ⟨rest, rfl⟩ := hlonger
    by_contra hlt
    -- a longer symbol has two characters, and is found itself
    have htwo : longer = atMost ∨ longer = atLeast := by
      cases longer <;> cases op <;> simp [symbol] at hlt ⊢
    rcases htwo with rfl | rfl <;>
      · simp only [symbol, List.cons_append, List.nil_append, atStart?, Option.some.injEq] at h
        subst h
        exact hlt le_rfl
  · rintro ⟨⟨rest, rfl⟩, hlongest⟩
    by_cases hrest : rest.head? = some '='
    · obtain ⟨rest, rfl⟩ := List.head?_eq_some_iff.1 hrest
      cases op with
      | less =>
        have := hlongest atMost ⟨rest, by simp [symbol]⟩
        simp [symbol] at this
      | greater =>
        have := hlongest atLeast ⟨rest, by simp [symbol]⟩
        simp [symbol] at this
      | has | equal | atMost | atLeast => rfl
    · exact atStart?_symbol_append hrest

/-- Some operator is found in front of every text with one. -/
theorem Operator.atStart?_symbol_append_isSome (op : Operator) (cs : List Char) :
    (atStart? (op.symbol ++ cs)).isSome = true := by
  by_cases h : cs.head? = some '='
  · obtain ⟨rest, rfl⟩ := List.head?_eq_some_iff.1 h
    cases op <;> rfl
  · simp [atStart?_symbol_append h]

/-- An operator that becomes another one with a `=` behind it. -/
def Operator.IsStrict (op : Operator) : Prop := op = less ∨ op = greater

/-- Only a `=` behind a strict operator keeps it from being found. -/
theorem Operator.atStart?_symbol_append_eq_self_iff {op : Operator} {cs : List Char} :
    atStart? (op.symbol ++ cs) = some op ↔ ¬ (op.IsStrict ∧ cs.head? = some '=') := by
  by_cases hcs : cs.head? = some '='
  · obtain ⟨rest, rfl⟩ := List.head?_eq_some_iff.1 hcs
    cases op <;> simp [IsStrict, symbol, atStart?]
  · simp [atStart?_symbol_append hcs, hcs]

/-! ### Leads -/

/-- A field name and an operator in front of a text, neither of which could be longer. -/
structure IsLead (name : List Char) (op : Operator) (behind : List Char) : Prop where
  isName : IsName name
  longest_name : ∀ longer, IsName longer → longer <+: name ++ (op.symbol ++ behind) →
    longer.length ≤ name.length
  longest_operator : ∀ longer : Operator, longer.symbol <+: op.symbol ++ behind →
    longer.symbol.length ≤ op.symbol.length

/-- A name that starts a text with a name and an operator ends where that name ends. -/
theorem IsName.length_le {name longer behind : List Char} {op : Operator} (h : IsName longer)
    (hpre : longer <+: name ++ (op.symbol ++ behind)) : longer.length ≤ name.length := by
  rcases List.prefix_or_prefix_of_prefix hpre (List.prefix_append _ _) with h' | ⟨ys, rfl⟩
  · exact h'.length_le
  · cases ys with
    | nil => simp
    | cons c ys =>
      -- the first character behind the shorter name would be one of the operator
      obtain ⟨zs, hzs⟩ := (List.prefix_append_right_inj name).1 hpre
      obtain ⟨d, ds, hsymbol⟩ := List.exists_cons_of_ne_nil op.symbol_ne_nil
      have hcd : c = d := by
        rw [hsymbol] at hzs
        simpa using congrArg List.head? hzs
      have hmem : c ∈ op.symbol := by simp [hsymbol, hcd]
      have hop := (Operator.not_nameChar_of_mem_symbol hmem).1
      rw [h.all_isNameChar c (by simp)] at hop
      exact absurd hop (by simp)

/-- Only the operator can be prolonged by what stands behind it. -/
theorem isLead_iff {name behind : List Char} {op : Operator} :
    IsLead name op behind ↔
      IsName name ∧ Operator.atStart? (op.symbol ++ behind) = some op := by
  constructor
  · intro h
    exact ⟨h.isName, Operator.atStart?_eq_some_iff.2 ⟨List.prefix_append _ _, h.longest_operator⟩⟩
  · rintro ⟨hname, hop⟩
    exact ⟨hname, fun longer hlonger ↦ hlonger.length_le,
      (Operator.atStart?_eq_some_iff.1 hop).2⟩

/-- A lead is the same whatever follows behind what is directly behind it. -/
theorem isLead_append_iff {name v w : List Char} {op : Operator} (hv : v ≠ []) :
    IsLead name op (v ++ w) ↔ IsLead name op v := by
  obtain ⟨c, v, rfl⟩ := List.exists_cons_of_ne_nil hv
  rw [isLead_iff, isLead_iff, Operator.atStart?_symbol_append_eq_self_iff,
    Operator.atStart?_symbol_append_eq_self_iff, List.cons_append, List.head?_cons,
    List.head?_cons]

/-- A name starts with a character that is no blank and no dash. -/
theorem IsName.exists_eq_cons {name : List Char} (h : IsName name) :
    ∃ c cs, name = c :: cs ∧ isBlank c = false ∧ c ≠ '-' := by
  obtain ⟨c, cs, rfl, hc, -⟩ := h
  refine ⟨c, cs, rfl, isBlank_eq_false_of_isNameChar (isNameChar_of_isNameStart hc), ?_⟩
  rintro rfl
  exact absurd hc (by decide)

/-- A text that starts with a name starts with no other character than one of a name. -/
theorem IsName.head?_append_ne {name w : List Char} {c : Char} (h : IsName name)
    (hc : isNameStart c = false) : (name ++ w).head? ≠ some c := by
  obtain ⟨d, ds, rfl, hd, -⟩ := h
  intro hhead
  obtain rfl : d = c := by simpa using hhead
  rw [hc] at hd
  exact absurd hd (by simp)

/-- Does a text start with a field name and an operator directly behind it? -/
def StartsWithLead (cs : List Char) : Prop :=
  ∃ name op behind, IsName name ∧ cs = name ++ (Operator.symbol op ++ behind)

/-! ### Reading a lead -/

/-- Reading stops at the end of a name that has an operator behind it. -/
theorem fieldLead?_append {name behind : List Char} (op : Operator) (h : IsName name) :
    fieldLead? (name ++ (op.symbol ++ behind)) =
      (Operator.atStart? (op.symbol ++ behind)).map fun found ↦
        ⟨name, found, (op.symbol ++ behind).drop found.symbol.length⟩ := by
  obtain ⟨c, cs, rfl, hc, hcs⟩ := h
  have hstop : ∀ d ∈ (op.symbol ++ behind).head?, isNameChar d = false := by
    intro d hd
    obtain ⟨e, es, hsymbol⟩ := List.exists_cons_of_ne_nil op.symbol_ne_nil
    obtain rfl : e = d := by simpa [hsymbol] using hd
    have hmem : e ∈ op.symbol := by simp [hsymbol]
    exact (Operator.not_nameChar_of_mem_symbol hmem).1
  obtain ⟨htake, hdrop⟩ := span_append hcs hstop
  simp only [List.cons_append, fieldLead?, hc, if_true, htake, hdrop]

theorem IsLead.fieldLead? {name behind : List Char} {op : Operator} (h : IsLead name op behind) :
    fieldLead? (name ++ (op.symbol ++ behind)) = some ⟨name, op, behind⟩ := by
  rw [fieldLead?_append op h.isName, (isLead_iff.1 h).2]
  simp

/-- A lead that is read is a longest one. -/
theorem isLead_of_fieldLead? {cs : List Char} {lead : FieldLead} (h : fieldLead? cs = some lead) :
    IsLead lead.name lead.operator lead.rest := by
  cases cs with
  | nil => simp [Query.fieldLead?] at h
  | cons c cs =>
    simp only [Query.fieldLead?] at h
    split at h
    · rename_i hc
      obtain ⟨op, hop, rfl⟩ := Option.map_eq_some_iff.1 h
      have hsplit := Operator.symbol_append_drop_of_atStart? hop
      refine isLead_iff.2 ⟨⟨c, _, rfl, hc, fun d hd ↦ List.mem_takeWhile_imp hd⟩, ?_⟩
      rwa [hsplit]
    · simp at h

/-- No lead is read exactly where the text does not start with one. -/
theorem fieldLead?_eq_none_iff {cs : List Char} : fieldLead? cs = none ↔ ¬ StartsWithLead cs := by
  constructor
  · rintro h ⟨name, op, behind, hname, rfl⟩
    rw [fieldLead?_append op hname, Option.map_eq_none_iff] at h
    have := op.atStart?_symbol_append_isSome behind
    simp [h] at this
  · intro h
    rw [Option.eq_none_iff_forall_ne_some]
    intro lead hlead
    exact h ⟨lead.name, lead.operator, lead.rest, (isLead_of_fieldLead? hlead).isName,
      (eq_of_fieldLead? hlead).1⟩

/-- What stands behind the next blank does not make a lead. -/
theorem startsWithLead_append_iff {v rest : List Char} (hrest : atBoundary rest = true) :
    StartsWithLead (v ++ rest) ↔ StartsWithLead v := by
  constructor
  · rintro ⟨name, op, behind, hname, heq⟩
    have hwords : ∀ c ∈ name ++ op.symbol, isBlank c = false := by
      intro c hc
      rcases List.mem_append.1 hc with hc | hc
      · exact isBlank_eq_false_of_isNameChar (hname.all_isNameChar c hc)
      · exact (Operator.not_nameChar_of_mem_symbol hc).2
    have hpre : name ++ op.symbol <+: v ++ rest := ⟨behind, by rw [heq, List.append_assoc]⟩
    obtain ⟨behind', hv⟩ := prefix_of_prefix_append hwords hrest hpre
    exact ⟨name, op, behind', hname, by simp [← hv]⟩
  · rintro ⟨name, op, behind, hname, rfl⟩
    exact ⟨name, op, behind ++ rest, hname, by simp⟩

/-! ### Values and bodies -/

/-- A value as it is written behind an operator. -/
inductive WrittenValue where
  /-- Any text without quotes, in quotes. -/
  | literal (v : List Char) (unquoted : '"' ∉ v)
  | word (v : List Char) (isWord : IsWord v) (noQuote : v.head? ≠ some '"')

/-- The characters of a value. -/
def WrittenValue.text : WrittenValue → List Char
  | literal v _ => '"' :: v ++ ['"']
  | word v _ _ => v

/-- The value itself. -/
def WrittenValue.value : WrittenValue → List Char
  | literal v _ | word v _ _ => v

/-- The body of an item. -/
inductive Body where
  /-- Any text without quotes, in quotes. -/
  | literal (v : List Char) (unquoted : '"' ∉ v)
  /-- A filter on a field. -/
  | filter (name : List Char) (op : Operator) (value : WrittenValue)
      (isLead : IsLead name op value.text)
  /-- A word that would not be read as anything else. -/
  | word (v : List Char) (isWord : IsWord v) (noQuote : v.head? ≠ some '"')
      (noDash : v.head? ≠ some '-') (noLead : ¬ StartsWithLead v)

namespace Body

/-- The characters of a body. -/
def text : Body → List Char
  | literal v _ => '"' :: v ++ ['"']
  | filter name op value _ => name ++ (op.symbol ++ value.text)
  | word v _ _ _ _ => v

/-- What a body means behind a number of dashes. -/
def token (dashes : Nat) : Body → Token
  | literal v _ => .term ⟨none, .has, String.ofList v, decide (dashes % 2 = 1)⟩
  | filter name op value _ =>
    .term ⟨some (String.ofList name), op, String.ofList value.value, decide (dashes % 2 = 1)⟩
  | word v _ _ _ _ =>
    if dashes = 0 ∧ v = ['O', 'R'] then .or
    else .term ⟨none, .has, String.ofList v, decide (dashes % 2 = 1)⟩

end Body

/-- The keyword is a word. -/
def Body.keyword : Body :=
  .word ['O', 'R'] ⟨by simp, by simpa using ⟨(by decide : isBlank 'O' = false),
    (by decide : isBlank 'R' = false)⟩⟩ (by simp) (by simp)
    (fieldLead?_eq_none_iff.1 (by decide +kernel))

@[simp] theorem Body.text_keyword : keyword.text = ['O', 'R'] := rfl

/-! ### Layouts -/

/-- An item of a query with the gap in front of it. -/
structure Part where
  gap : List Char
  dashes : Nat
  body : Body
  isGap : IsGap gap

namespace Part

/-- The characters of the item. -/
def item (part : Part) : List Char := List.replicate part.dashes '-' ++ part.body.text

/-- The characters of the gap and the item. -/
def text (part : Part) : List Char := part.gap ++ part.item

/-- What the item means. -/
def token (part : Part) : Token := part.body.token part.dashes

/-- The tokens of a row of parts that starts at a byte offset, each placed where its item starts. -/
def placed : Nat → List Part → List Placed
  | _, [] => []
  | position, part :: parts =>
    ⟨part.token, position + byteLength part.gap⟩ ::
      placed (position + byteLength part.text) parts

theorem placed_map_token (position : Nat) (parts : List Part) :
    (placed position parts).map (·.token) = parts.map token := by
  induction parts generalizing position with
  | nil => rfl
  | cons part parts ih => simp [placed, ih]

end Part

/-- A query taken apart: items with gaps in front, and a gap at the end. Only the gaps at both ends
of the query may be empty. -/
structure Layout where
  parts : List Part
  last : List Char
  separated : ∀ part ∈ parts.tail, part.gap ≠ []
  isGap : IsGap last

namespace Layout

/-- The query that is laid out. -/
def text (layout : Layout) : String :=
  String.ofList (layout.parts.flatMap Part.text ++ layout.last)

/-- What the items of a layout mean, with their byte offsets. -/
def tokens (layout : Layout) : List Placed := Part.placed 0 layout.parts

end Layout

end SpacedReview.Query

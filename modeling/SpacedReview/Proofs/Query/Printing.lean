import SpacedReview.Proofs.Query.Trees

/-!
# Printing conditions

When is the text of a condition read back as that condition? The printer puts quotes around every
value that could not be read without them, with one exception: it does not look at the operator in
front of a value. Behind `<` or `>` a value that starts with `=` is taken for the end of a longer
operator. Such a term is called *glued*; it can be asked for, with the value in quotes, but its text
asks for something else.

The text of a condition is the text of its tokens with single spaces between them
(`Condition.print_of_ofGroups`), so it can be gone through from left to right: a token that is not
glued is read back and the rest is read by itself, and a glued one is not read back
(`reads_print_append_iff`).

## Main statements

* `Body.writable`: which terms can be asked for.
* `reads_printTokens_iff`: a row of tokens is read back from its text unless a term in it is glued.
* `parse_text_eq_ok_iff`: so it is with the conditions of queries.
* `parse_text_glued`: there are queries with glued terms.
-/

namespace SpacedReview.Query

open SpacedReview.Text

/-! ### Quotes -/

theorem needsQuotes_fielded_eq_false_iff {v : List Char} :
    needsQuotes v true = false ↔ IsWord v ∧ v.head? ≠ some '"' := by
  simp [needsQuotes, IsWord]
  tauto

theorem needsQuotes_bare_eq_false_iff {v : List Char} :
    needsQuotes v false = false ↔
      IsWord v ∧ v.head? ≠ some '"' ∧ v.head? ≠ some '-' ∧ v ≠ ['O', 'R'] ∧
        ¬ StartsWithLead v := by
  rw [← fieldLead?_eq_none_iff]
  simp [needsQuotes, looksFielded, IsWord]
  tauto

/-! ### Terms -/

/-- A value that a term can have: any text without quotes, or a word, which does not start with a
quote but may have some behind. -/
def IsValue (v : List Char) : Prop := '"' ∉ v ∨ IsWord v ∧ v.head? ≠ some '"'

/-- A value that a term without a field can have. As a word it must not be taken for something
else. -/
def IsBareValue (v : List Char) : Prop :=
  '"' ∉ v ∨ IsWord v ∧ v.head? ≠ some '"' ∧ v.head? ≠ some '-' ∧ ¬ StartsWithLead v

/-- A term whose parts can all be written. -/
def Term.Writable (t : Term) : Prop :=
  match t.field with
  | none => t.operator = .has ∧ IsBareValue t.value.toList
  | some name => IsName name.toList ∧ IsValue t.value.toList

/-- A term whose value, printed without quotes, would be read as the end of its operator. -/
def Term.Glued (t : Term) : Prop :=
  t.field.isSome = true ∧ t.operator.IsStrict ∧ t.value.toList.head? = some '=' ∧
    ∀ c ∈ t.value.toList, isBlank c = false

/-- Every term that is asked for can be written. -/
theorem Body.writable {b : Body} {k : Nat} {t : Term} (h : b.token k = .term t) : t.Writable := by
  cases b with
  | literal v unquoted =>
    obtain rfl := Token.term.inj h
    exact ⟨rfl, .inl (by simpa using unquoted)⟩
  | filter name op value isLead =>
    obtain rfl := Token.term.inj h
    refine ⟨by simpa using isLead.isName, ?_⟩
    cases value with
    | literal v unquoted => exact .inl (by simpa [WrittenValue.value] using unquoted)
    | word v isWord noQuote =>
      exact .inr (by simpa [WrittenValue.value] using ⟨isWord, noQuote⟩)
  | word v isWord noQuote noDash noLead =>
    rw [token] at h
    split at h
    · cases h
    · obtain rfl := Token.term.inj h
      exact ⟨rfl, .inr (by simpa using ⟨isWord, noQuote, noDash, noLead⟩)⟩

/-- The dash in front of a negated term. -/
theorem replicate_negated (negated : Bool) :
    (if negated then ['-'] else []) = List.replicate negated.toNat '-' := by
  cases negated <;> rfl

theorem decide_negated (negated : Bool) : decide (negated.toNat % 2 = 1) = negated := by
  cases negated <;> rfl

/-- A term without a field is printed as an item that asks for it. -/
theorem Term.exists_body_of_bare {value : String} {negated : Bool}
    (hvalue : IsBareValue value.toList) :
    ∃ b : Body, (⟨none, .has, value, negated⟩ : Term).print =
        List.replicate negated.toNat '-' ++ b.text ∧
      b.token negated.toNat = .term ⟨none, .has, value, negated⟩ := by
  cases hquotes : needsQuotes value.toList false with
  | true =>
    have hunquoted : '"' ∉ value.toList := by
      rcases hvalue with hvalue | ⟨hword, hquote, hdash, hlead⟩
      · exact hvalue
      · -- among the words only the keyword needs quotes
        by_cases hkeyword : value.toList = ['O', 'R']
        · simp [hkeyword]
        · have := needsQuotes_bare_eq_false_iff.2 ⟨hword, hquote, hdash, hkeyword, hlead⟩
          rw [hquotes] at this
          exact absurd this (by simp)
    refine ⟨.literal value.toList hunquoted, ?_, ?_⟩
    · simp [print, printValue, hquotes, replicate_negated, Body.text]
    · simp [Body.token, decide_negated]
  | false =>
    obtain ⟨hword, hquote, hdash, hkeyword, hlead⟩ := needsQuotes_bare_eq_false_iff.1 hquotes
    refine ⟨.word value.toList hword hquote hdash hlead, ?_, ?_⟩
    · simp [print, printValue, hquotes, replicate_negated, Body.text]
    · simp [Body.token, decide_negated, hkeyword]

/-- The text of a term with a field, behind its dash. -/
theorem Term.print_fielded (name : String) (op : Operator) (value : String) (negated : Bool) :
    print ⟨some name, op, value, negated⟩ =
      List.replicate negated.toNat '-' ++
        (name.toList ++ (op.symbol ++ printValue value.toList true)) := by
  simp [print, replicate_negated]

/-- The value of a term with a field is printed as it can be written. -/
theorem exists_writtenValue_of_isValue {v : List Char} (hv : IsValue v) :
    ∃ w : WrittenValue, w.text = printValue v true ∧ w.value = v ∧
      (w.text.head? = some '=' → v.head? = some '=' ∧ ∀ c ∈ v, isBlank c = false) := by
  cases hquotes : needsQuotes v true with
  | true =>
    have hunquoted : '"' ∉ v := by
      rcases hv with hv | hword
      · exact hv
      · rw [needsQuotes_fielded_eq_false_iff.2 hword] at hquotes
        exact absurd hquotes (by simp)
    exact ⟨.literal v hunquoted, by simp [printValue, hquotes, WrittenValue.text], rfl,
      by simp [WrittenValue.text]⟩
  | false =>
    obtain ⟨hword, hquote⟩ := needsQuotes_fielded_eq_false_iff.1 hquotes
    exact ⟨.word v hword hquote, by simp [printValue, hquotes, WrittenValue.text], rfl,
      fun h ↦ ⟨h, hword.2⟩⟩

/-- A writable term that is not glued is printed as an item that asks for it. -/
theorem Term.exists_body_of_writable {t : Term} (h : t.Writable) (hglued : ¬ t.Glued) :
    ∃ b : Body, t.print = List.replicate t.negated.toNat '-' ++ b.text ∧
      b.token t.negated.toNat = .term t := by
  obtain ⟨field, op, value, negated⟩ := t
  cases field with
  | none =>
    obtain ⟨rfl, hvalue⟩ := h
    exact exists_body_of_bare hvalue
  | some name =>
    obtain ⟨hname, hvalue⟩ := h
    obtain ⟨w, htext, hw, hhead⟩ := exists_writtenValue_of_isValue hvalue
    have hlead : IsLead name.toList op w.text := by
      rw [isLead_iff, Operator.atStart?_symbol_append_eq_self_iff]
      exact ⟨hname, fun h ↦ hglued ⟨rfl, h.1, hhead h.2⟩⟩
    refine ⟨.filter name.toList op w hlead, ?_, ?_⟩
    · rw [print_fielded, ← htext]
      rfl
    · simp [Body.token, decide_negated, hw]

/-! ### Reading a printed row -/

/-- The text, which starts at a byte offset, is read as the given tokens. -/
def Reads (position : Nat) (cs : List Char) (ts : List Token) : Prop :=
  ∃ placed, tokensFrom position cs = .ok placed ∧ placed.map (·.token) = ts

theorem reads_nil (position : Nat) : Reads position [] [] :=
  ⟨[], tokensFrom_gap isGap_nil, rfl⟩

theorem reads_gap_append_iff {position : Nat} {w cs : List Char} {ts : List Token}
    (hw : IsGap w) :
    Reads position (w ++ cs) ts ↔ Reads (position + byteLength w) cs ts := by
  rw [Reads, Reads, tokensFrom_gap_append_self hw]

/-- An item in front of a boundary is read, and then the rest. -/
theorem reads_item_append_iff {p k : Nat} {b : Body} {rest : List Char} {ts : List Token}
    (hrest : atBoundary rest = true) :
    Reads p (List.replicate k '-' ++ b.text ++ rest) (b.token k :: ts) ↔
      Reads (p + byteLength (List.replicate k '-' ++ b.text)) rest ts := by
  let part : Part := ⟨[], k, b, isGap_nil⟩
  have htext : [part].flatMap Part.text = List.replicate k '-' ++ b.text := by
    simp [part, Part.text, Part.item]
  have hgaps : ∀ q ∈ [part].tail, q.gap ≠ [] := by simp
  rw [Reads, Reads, ← htext, tokensFrom_parts_append hgaps hrest]
  cases tokensFrom (p + byteLength ([part].flatMap Part.text)) rest with
  | error e => simp [Except.map]
  | ok us => simp [Except.map, part, Part.placed, Part.token]

/-- The dashes and the body of a part stand where the text has its dashes. -/
theorem Part.body_text_append {part : Part} {k : Nat} {c : Char} {cs rest : List Char}
    (h : part.text ++ rest = List.replicate k '-' ++ c :: cs) (hc : isBlank c = false)
    (hdash : c ≠ '-') : part.body.text ++ rest = c :: cs := by
  obtain ⟨d, ds, hbody, -, hd⟩ := part.body.exists_text_eq_cons
  have hhead : (part.body.text ++ rest).head? ≠ some '-' := by simpa [hbody] using hd
  have hitem : part.item ++ rest = List.replicate k '-' ++ c :: cs := by
    rw [← (part.span_text rest).2, h]
    cases k with
    | zero => simp [hc]
    | succ k => simp [List.replicate_succ, show isBlank '-' = false by decide]
  rw [Part.item, List.append_assoc] at hitem
  have hdrop := (span_dashes part.dashes hhead).2
  rw [hitem, (span_dashes k (by simpa using hdash)).2] at hdrop
  exact hdrop.symm

/-- What is read as a term with a field is a filter with its name and its operator. -/
theorem Reads.exists_filter {p k : Nat} {c : Char} {cs : List Char} {name value : String}
    {op : Operator} {negated : Bool} {ts : List Token}
    (h : Reads p (List.replicate k '-' ++ c :: cs) (.term ⟨some name, op, value, negated⟩ :: ts))
    (hc : isBlank c = false) (hdash : c ≠ '-') :
    ∃ (w : WrittenValue) (rest : List Char), IsLead name.toList op w.text ∧
      name.toList ++ (op.symbol ++ (w.text ++ rest)) = c :: cs := by
  obtain ⟨placed, hread, htokens⟩ := h
  obtain ⟨parts, last, -, -, hcs, rfl⟩ := exists_parts_of_tokensFrom hread
  rw [Part.placed_map_token] at htokens
  obtain ⟨part, parts, rfl, htoken, -⟩ := List.map_eq_cons_iff.1 htokens
  rw [List.flatMap_cons, List.append_assoc] at hcs
  have hbody := Part.body_text_append hcs.symm hc hdash
  obtain ⟨gap, dashes, body, isGap⟩ := part
  cases body with
  | literal v _ => simp [Part.token, Body.token] at htoken
  | word v _ _ _ _ =>
    rw [Part.token, Body.token] at htoken
    split at htoken <;> simp at htoken
  | filter name' op' w isLead =>
    simp only [Part.token, Body.token, Token.term.injEq, Term.mk.injEq, Option.some.injEq]
      at htoken
    obtain ⟨rfl, rfl, -⟩ := htoken
    refine ⟨w, parts.flatMap Part.text ++ last, by rwa [String.toList_ofList], ?_⟩
    rw [← hbody, Body.text, String.toList_ofList, List.append_assoc, List.append_assoc]

/-- A glued term is not read back. -/
theorem Term.Glued.not_reads {t : Term} (h : t.Glued) (hwritable : t.Writable) {p : Nat}
    {rest : List Char} {ts : List Token} :
    ¬ Reads p (t.print ++ rest) (.term t :: ts) := by
  intro hreads
  obtain ⟨field, op, value, negated⟩ := t
  obtain ⟨hfield, hstrict, hhead, hwords⟩ := h
  obtain ⟨name, rfl⟩ := Option.isSome_iff_exists.1 hfield
  obtain ⟨hname, -⟩ := hwritable
  -- the value is printed as it is
  have hword : IsWord value.toList := ⟨fun hnil ↦ by simp [hnil] at hhead, hwords⟩
  have hquotes : needsQuotes value.toList true = false :=
    needsQuotes_fielded_eq_false_iff.2 ⟨hword, by simp [hhead]⟩
  obtain ⟨c, cs, hcons, hc, hdash⟩ := hname.exists_eq_cons
  have hprint : print ⟨some name, op, value, negated⟩ ++ rest =
      List.replicate negated.toNat '-' ++ c :: (cs ++ (op.symbol ++ (value.toList ++ rest))) := by
    rw [print_fielded, hcons]
    simp [printValue, hquotes]
  rw [hprint] at hreads
  obtain ⟨w, behind, isLead, htext⟩ := hreads.exists_filter hc hdash
  -- so the value that is read starts as the printed one does, behind the same operator
  rw [← List.cons_append, ← hcons, List.append_cancel_left_eq, List.append_cancel_left_eq] at htext
  refine Operator.atStart?_symbol_append_eq_self_iff.1 (isLead_iff.1 isLead).2 ⟨hstrict, ?_⟩
  rw [← List.head?_append_of_ne_nil _ w.text_ne_nil, htext,
    List.head?_append_of_ne_nil _ hword.1, hhead]

/-! ### Printed rows of tokens -/

/-- A token as it stands in a query. -/
def Token.print : Token → List Char
  | .term t => t.print
  | .or => ['O', 'R']

/-- A token that a query can have. -/
def Token.Writable : Token → Prop
  | .term t => t.Writable
  | .or => True

/-- A token that would not be read back. -/
def Token.Glued : Token → Prop
  | .term t => t.Glued
  | .or => False

/-- Tokens behind another token, each with a space in front of it. -/
def printBehind (ts : List Token) : List Char := ts.flatMap fun t ↦ ' ' :: t.print

/-- A row of tokens with single spaces between them. -/
def printTokens : List Token → List Char
  | [] => []
  | t :: ts => t.print ++ printBehind ts

theorem printBehind_append (ts us : List Token) :
    printBehind (ts ++ us) = printBehind ts ++ printBehind us := List.flatMap_append

theorem printBehind_cons (t : Token) (ts : List Token) :
    printBehind (t :: ts) = ' ' :: printTokens (t :: ts) := rfl

theorem atBoundary_printBehind (ts : List Token) : atBoundary (printBehind ts) = true := by
  cases ts <;> rfl

/-- A printed token is read back unless it is glued, and then the rest is read. -/
theorem reads_print_append_iff {p : Nat} {t : Token} {rest : List Char} {ts : List Token}
    (ht : t.Writable) (hrest : atBoundary rest = true) :
    Reads p (t.print ++ rest) (t :: ts) ↔
      ¬ t.Glued ∧ Reads (p + byteLength t.print) rest ts := by
  cases t with
  | or =>
    show Reads p (List.replicate 0 '-' ++ Body.keyword.text ++ rest)
      (Body.keyword.token 0 :: ts) ↔ ¬ False ∧ _
    rw [reads_item_append_iff hrest, not_false_eq_true, true_and]
    rfl
  | term t =>
    show Reads p (t.print ++ rest) (.term t :: ts) ↔
      ¬ t.Glued ∧ Reads (p + byteLength t.print) rest ts
    by_cases hglued : t.Glued
    · simp [hglued, hglued.not_reads ht]
    · obtain ⟨b, hprint, htoken⟩ := Term.exists_body_of_writable ht hglued
      rw [hprint, ← htoken, reads_item_append_iff hrest]
      simp [hglued]

theorem reads_printBehind_iff {p : Nat} {ts : List Token} (hts : ∀ t ∈ ts, t.Writable) :
    Reads p (printBehind ts) ts ↔ ∀ t ∈ ts, ¬ t.Glued := by
  induction ts generalizing p with
  | nil => simp [printBehind, reads_nil]
  | cons t ts ih =>
    have hgap : IsGap [' '] := isGap_space
    rw [printBehind_cons, printTokens, ← List.singleton_append, reads_gap_append_iff hgap,
      reads_print_append_iff (hts t (by simp)) (atBoundary_printBehind ts),
      ih fun u hu ↦ hts u (List.mem_cons_of_mem t hu), List.forall_mem_cons]

/-- A row of tokens is read back from its text unless a term in it is glued. -/
theorem reads_printTokens_iff {p : Nat} {ts : List Token} (hts : ∀ t ∈ ts, t.Writable) :
    Reads p (printTokens ts) ts ↔ ∀ t ∈ ts, ¬ t.Glued := by
  cases ts with
  | nil => simp [printTokens, reads_nil]
  | cons t ts =>
    rw [printTokens, reads_print_append_iff (hts t (by simp)) (atBoundary_printBehind ts),
      reads_printBehind_iff fun u hu ↦ hts u (List.mem_cons_of_mem t hu), List.forall_mem_cons]

/-! ### Printed conditions -/

theorem Condition.printRow_cons (separator : List Char) (c : Condition) (cs : List Condition) :
    printRow separator (c :: cs) = c.print ++ cs.flatMap fun d ↦ separator ++ d.print := by
  induction cs generalizing c with
  | nil => simp [printRow]
  | cons d cs ih => simp [printRow, ih]

theorem Group.print_condition (g : Group) : g.condition.print = printTokens g.tokens := by
  have hothers : printBehind (alternativeTokens g.others) =
      (g.others.map Condition.term).flatMap fun c ↦ [' ', 'O', 'R', ' '] ++ c.print := by
    simp [printBehind, alternativeTokens, List.flatMap_assoc, List.flatMap_map, Token.print,
      Condition.print]
  rcases g.condition_eq with ⟨h, hnone⟩ | ⟨h, -⟩
  · rw [h, tokens, hnone]
    simp [Condition.print, printTokens, Token.print, alternativeTokens, printBehind]
  · rw [h, Condition.print, terms, List.map_cons, Condition.printRow_cons, ← hothers]
    rfl

theorem Group.printTokens_append (g : Group) (ts : List Token) :
    printTokens (g.tokens ++ ts) = printTokens g.tokens ++ printBehind ts := by
  rw [tokens, List.cons_append, printTokens, printTokens, printBehind_append, List.append_assoc]

/-- The text of a condition is that of its tokens. -/
theorem Condition.print_of_ofGroups {gs : List Group} {c : Condition}
    (h : ofGroups gs = some c) : c.print = printTokens (groupTokens gs) := by
  rcases eq_of_ofGroups h with ⟨g, rfl, rfl⟩ | ⟨g, g', gs, rfl, rfl⟩
  · rw [g.print_condition, groupTokens, List.flatMap_singleton]
  · have hbehind : printBehind (groupTokens (g' :: gs)) =
        ((g' :: gs).map Group.condition).flatMap fun c ↦ [' '] ++ c.print := by
      rw [printBehind, groupTokens, List.flatMap_assoc, List.flatMap_map]
      refine List.flatMap_congr fun h _ ↦ ?_
      rw [h.print_condition]
      rfl
    rw [print, List.map_cons, printRow_cons, ← hbehind, g.print_condition,
      ← g.printTokens_append]
    rfl

namespace Condition

mutual

/-- The terms of a condition, from left to right. -/
def terms : Condition → List Term
  | term t => [t]
  | all children => rowTerms children
  | any children => rowTerms children

/-- The terms of a row of conditions. -/
def rowTerms : List Condition → List Term
  | [] => []
  | c :: cs => terms c ++ rowTerms cs

end

theorem mem_rowTerms_iff {t : Term} {cs : List Condition} :
    t ∈ rowTerms cs ↔ ∃ c ∈ cs, t ∈ c.terms := by
  induction cs with
  | nil => simp [rowTerms]
  | cons c cs ih => simp [rowTerms, ih]

end Condition

theorem Group.mem_terms_condition_iff {g : Group} {t : Term} :
    t ∈ g.condition.terms ↔ .term t ∈ g.tokens := by
  have htokens : .term t ∈ g.tokens ↔ t ∈ g.terms := by
    simp [tokens, alternativeTokens, terms]
  rw [htokens]
  rcases g.condition_eq with ⟨h, hnone⟩ | ⟨h, -⟩
  · simp [h, Condition.terms, terms, hnone]
  · simp [h, Condition.terms, Condition.mem_rowTerms_iff]

/-- The terms of a condition are those among its tokens. -/
theorem Condition.mem_terms_of_ofGroups {gs : List Group} {c : Condition}
    (h : ofGroups gs = some c) (t : Term) : t ∈ c.terms ↔ .term t ∈ groupTokens gs := by
  have hgroups : .term t ∈ groupTokens gs ↔ ∃ g ∈ gs, t ∈ g.condition.terms := by
    simp [groupTokens, Group.mem_terms_condition_iff]
  rw [hgroups]
  rcases eq_of_ofGroups h with ⟨g, rfl, rfl⟩ | ⟨g, g', gs, rfl, rfl⟩
  · simp
  · rw [terms, mem_rowTerms_iff]
    simp

/-- The terms of a condition that is asked for can be written. -/
theorem writable_of_layout {layout : Layout} {t : Token} (h : t ∈ layout.items) : t.Writable := by
  obtain ⟨part, -, rfl⟩ := List.mem_map.1 h
  cases htoken : part.token with
  | or => trivial
  | term t => exact Body.writable htoken

/-- The condition that a query asks for is read back from its text just if no term in it is
glued. -/
theorem parse_text_eq_ok_iff {query : String} {c : Condition}
    (h : Condition.parse query = .ok (some c)) :
    Condition.parse c.text = .ok (some c) ↔ ∀ t ∈ c.terms, ¬ t.Glued := by
  obtain ⟨layout, gs, -, hitems, hgs⟩ := Condition.parse_eq_ok_iff.1 h
  have hwritable : ∀ t ∈ groupTokens gs, t.Writable := fun t ht ↦
    writable_of_layout (hitems.symm ▸ ht)
  have hreads : Condition.parse c.text = .ok (some c) ↔ Reads 0 c.print (groupTokens gs) := by
    rw [← hgs, Condition.parse_eq_ok_ofGroups_iff, Query.tokens, Condition.text,
      String.toList_ofList]
    rfl
  rw [hreads, Condition.print_of_ofGroups hgs, reads_printTokens_iff hwritable]
  constructor
  · intro hnone t ht
    exact hnone _ ((Condition.mem_terms_of_ofGroups hgs t).1 ht)
  · rintro hnone (t | _) ht
    · exact hnone t ((Condition.mem_terms_of_ofGroups hgs t).2 ht)
    · exact id

/-- A comparison with a value that starts with `=` is printed as another comparison. -/
theorem parse_text_glued :
    ∃ c, Condition.parse "a<\"=b\"" = .ok (some c) ∧ Condition.parse c.text ≠ .ok (some c) := by
  refine ⟨.term ⟨some "a", .less, "=b", false⟩, by decide +kernel, ?_⟩
  have hread : Condition.parse (Condition.term ⟨some "a", .less, "=b", false⟩).text =
      .ok (some (.term ⟨some "a", .atMost, "b", false⟩)) := by
    decide +kernel
  rw [hread]
  simp

/-- A comparison is read back although its value starts with `=`, if the value has a blank. -/
theorem parse_text_spaced :
    ∃ c, Condition.parse "a<\"= b\" OR -c:=d" = .ok (some c) ∧
      Condition.parse c.text = .ok (some c) := by
  have hread : Condition.parse "a<\"= b\" OR -c:=d" =
      .ok (some (.any [.term ⟨some "a", .less, "= b", false⟩,
        .term ⟨some "c", .has, "=d", true⟩])) := by
    decide +kernel
  refine ⟨_, hread, (parse_text_eq_ok_iff hread).2 ?_⟩
  have hblank : ∃ c ∈ "= b".toList, isBlank c = true := ⟨' ', by simp, by decide⟩
  simpa [Condition.terms, Condition.rowTerms, Term.Glued, Operator.IsStrict] using hblank

end SpacedReview.Query

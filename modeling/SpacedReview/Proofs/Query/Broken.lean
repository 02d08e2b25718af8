import SpacedReview.Proofs.Query.Reading

/-!
# Queries that cannot be read

A query that cannot be read is well-formed up to the first item that is not, and this item is broken
in one of four ways: there is nothing behind its dashes, or nothing behind its operator, or its
quoted literal has no closing quote, or has something else directly behind it. As for well-formed
queries the pieces are said first (`BrokenLiteral`, `Broken`, `BrokenQuery`), with the proofs of
their form in them, and each reading function then gets two facts: it refuses the piece, and what it
refuses is such a piece.

A broken item ends where the reader has seen enough to refuse it. A literal without a closing quote
runs to the end of the query; all others end at a boundary, and whatever stands behind the boundary
they are refused in the same way.

## Main statements

* `tokensFrom_eq_error_iff`: a text is refused just if it is a broken query, with its fault.
-/

namespace SpacedReview.Query

open SpacedReview.Text

/-! ### Literals -/

/-- A quoted literal that cannot be read. -/
inductive BrokenLiteral where
  /-- Without a closing quote. -/
  | unclosed (v : List Char) (unquoted : '"' ∉ v)
  /-- With a word directly behind the closing quote. -/
  | prolonged (v w : List Char) (unquoted : '"' ∉ v) (isWord : IsWord w)

namespace BrokenLiteral

/-- The characters behind the opening quote. -/
def behind : BrokenLiteral → List Char
  | unclosed v _ => v
  | prolonged v w _ _ => v ++ '"' :: w

def fault : BrokenLiteral → Fault
  | unclosed _ _ => .unterminatedQuote
  | prolonged _ _ _ _ => .textAfterQuote

/-- May the literal be all that is seen of it in front of a text? -/
def Ends : BrokenLiteral → List Char → Prop
  | unclosed _ _, rest => rest = []
  | prolonged _ _ _ _, rest => atBoundary rest = true

/-- The literal as it is reported at a byte offset. -/
def malformed (l : BrokenLiteral) (position : Nat) : Malformed :=
  ⟨l.fault, position, String.ofList ('"' :: l.behind)⟩

end BrokenLiteral

theorem quoted_broken (position : Nat) {l : BrokenLiteral} {rest : List Char} (h : l.Ends rest) :
    quoted position (l.behind ++ rest) = .error (l.malformed position) := by
  cases l with
  | unclosed v unquoted =>
    obtain rfl : rest = [] := h
    have hopen : ∀ c ∈ v, (c != '"') = true := fun c hc ↦ bne_iff_ne.2 fun heq ↦ unquoted (heq ▸ hc)
    have hdrop : v.dropWhile (· != '"') = [] := List.dropWhile_eq_nil_iff.2 hopen
    simp only [BrokenLiteral.behind, List.append_nil, quoted, hdrop]
    rfl
  | prolonged v w unquoted isWord =>
    obtain ⟨htake, hdrop⟩ := span_append (p := (· != '"')) (v := v) (w := '"' :: (w ++ rest))
      (fun c hc ↦ bne_iff_ne.2 fun heq ↦ unquoted (heq ▸ hc)) (by simp)
    obtain ⟨c, cs, rfl⟩ := List.exists_cons_of_ne_nil isWord.1
    have hgoes : atBoundary (c :: cs ++ rest) = false := atBoundary_cons (isWord.2 c (by simp))
    have hword : (c :: cs ++ rest).takeWhile (!isBlank ·) = c :: cs :=
      congrArg Reading.value (word_append isWord.2 h)
    simp only [BrokenLiteral.behind, List.append_assoc, List.cons_append] at htake hdrop ⊢
    simp only [quoted, htake, hdrop]
    rw [← List.cons_append, hgoes, hword]
    rfl

/-- What is refused as a literal is a broken one. -/
theorem exists_brokenLiteral {position : Nat} {cs : List Char} {m : Malformed}
    (h : quoted position cs = .error m) :
    ∃ (l : BrokenLiteral) (rest : List Char), l.Ends rest ∧ cs = l.behind ++ rest ∧
      m = l.malformed position := by
  have hcs := List.takeWhile_append_dropWhile (p := (· != '"')) (l := cs)
  have hquote := List.head?_dropWhile_not (fun c : Char ↦ c != '"') cs
  have hunquoted : '"' ∉ cs.takeWhile (· != '"') := fun hmem ↦ by
    simpa using List.mem_takeWhile_imp hmem
  simp only [quoted] at h
  split at h
  · rename_i hdrop
    rw [hdrop, List.append_nil] at hcs
    obtain rfl := Except.error.inj h
    rw [hcs] at hunquoted
    exact ⟨.unclosed cs hunquoted, [], rfl, (List.append_nil cs).symm, rfl⟩
  · rename_i c rest hdrop
    rw [hdrop] at hcs hquote
    obtain rfl : c = '"' := by simpa using hquote
    split at h
    · cases h
    · rename_i hgoes
      obtain rfl := Except.error.inj h
      obtain ⟨c, ds, rfl⟩ : ∃ c ds, rest = c :: ds := by
        cases rest with
        | nil => exact absurd rfl hgoes
        | cons c ds => exact ⟨c, ds, rfl⟩
      have hc : isBlank c = false := by simpa [atBoundary] using hgoes
      refine ⟨.prolonged _ _ hunquoted (isWord_word hc), (word (c :: ds)).rest,
        (word_spec (c :: ds)).2.2, ?_, rfl⟩
      rw [BrokenLiteral.behind, List.append_assoc, List.cons_append, ← (word_spec (c :: ds)).2.1,
        word_text_append_rest, hcs]

/-! ### Items -/

/-- What an item may have in front of a quote: dashes, and a field name with an operator. -/
structure Opening where
  dashes : Nat
  lead : Option (List Char × Operator)
  isName : ∀ l ∈ lead, IsName l.1

/-- The characters in front of the quote. -/
def Opening.text (o : Opening) : List Char :=
  List.replicate o.dashes '-' ++ o.lead.elim [] fun l ↦ l.1 ++ l.2.symbol

/-- An item that cannot be read. -/
inductive Broken where
  /-- Dashes with nothing behind them. -/
  | negation (dashes : Nat) (pos : dashes ≠ 0)
  /-- An operator with nothing behind it. -/
  | filter (dashes : Nat) (name : List Char) (op : Operator) (isName : IsName name)
  | literal (opening : Opening) (literal : BrokenLiteral)

namespace Broken

/-- The characters of the item in front of those that are reported. -/
def inside : Broken → List Char
  | literal o _ => o.text
  | _ => []

/-- The characters that are reported. -/
def token : Broken → List Char
  | negation k _ => List.replicate k '-'
  | filter k name op _ => List.replicate k '-' ++ (name ++ op.symbol)
  | literal _ l => '"' :: l.behind

def fault : Broken → Fault
  | negation _ _ => .danglingNegation
  | filter _ _ _ _ => .missingValue
  | literal _ l => l.fault

/-- May the item be all that is seen of it in front of a text? -/
def Ends : Broken → List Char → Prop
  | literal _ l, rest => l.Ends rest
  | _, rest => atBoundary rest = true

/-- The characters of the item. -/
def text (b : Broken) : List Char := b.inside ++ b.token

/-- The item as it is reported if it starts at a byte offset. -/
def malformed (b : Broken) (start : Nat) : Malformed :=
  ⟨b.fault, start + byteLength b.inside, String.ofList b.token⟩

/-- No blanks stand in front of what is reported. -/
theorem isBlank_of_mem_inside {b : Broken} {c : Char} (hc : c ∈ b.inside) : isBlank c = false := by
  have hdash : ∀ k, c ∈ List.replicate k '-' → isBlank c = false := by
    intro k hk
    rw [List.eq_of_mem_replicate hk]
    decide
  cases b with
  | negation k _ => cases hc
  | filter k name op _ => cases hc
  | literal o l =>
    obtain ⟨dashes, lead, isName⟩ := o
    rcases List.mem_append.1 hc with hc | hc
    · exact hdash _ hc
    · cases lead with
      | none => cases hc
      | some l =>
        rcases List.mem_append.1 hc with hc | hc
        · exact isBlank_eq_false_of_isNameChar ((isName l rfl).all_isNameChar c hc)
        · exact (Operator.not_nameChar_of_mem_symbol hc).2

/-- A broken item starts with a character other than a blank. -/
theorem exists_text_eq_cons (b : Broken) : ∃ c cs, b.text = c :: cs ∧ isBlank c = false := by
  have hdash : isBlank '-' = false := by decide
  rcases hinside : b.inside with _ | ⟨c, cs⟩
  · cases b with
    | negation k pos =>
      obtain ⟨k, rfl⟩ := Nat.exists_eq_succ_of_ne_zero pos
      exact ⟨'-', List.replicate k '-', by simp [text, inside, token, List.replicate_succ], hdash⟩
    | filter k name op isName =>
      cases k with
      | zero =>
        obtain ⟨c, cs, rfl, hc, -⟩ := isName.exists_eq_cons
        exact ⟨c, cs ++ op.symbol, by simp [text, inside, token], hc⟩
      | succ k =>
        exact ⟨'-', List.replicate k '-' ++ (name ++ op.symbol),
          by simp [text, inside, token, List.replicate_succ], hdash⟩
    | literal o l => exact ⟨'"', l.behind, by simp [text, hinside, token], by decide⟩
  · exact ⟨c, cs ++ b.token, by simp [text, hinside],
      isBlank_of_mem_inside (b := b) (by simp [hinside])⟩

end Broken

/-- A lead is found in front of whatever does not start with a `=`. -/
theorem IsName.isLead {name behind : List Char} (h : IsName name) (op : Operator)
    (hbehind : behind.head? ≠ some '=') : IsLead name op behind :=
  isLead_iff.2 ⟨h, Operator.atStart?_symbol_append hbehind⟩

/-- A lead behind dashes is read as such. -/
theorem item_lead (start k : Nat) {name behind : List Char} {op : Operator}
    (h : IsLead name op behind) :
    item start (List.replicate k '-' ++ (name ++ (op.symbol ++ behind))) =
      itemBehind start (List.replicate k '-') (name ++ (op.symbol ++ behind)) := by
  obtain ⟨c, cs, hname, hc, -⟩ := h.isName.exists_eq_cons
  rw [item_dashes start k (h.isName.head?_append_ne (by decide)),
    if_neg (by simp [hname, atBoundary, hc])]

/-- A literal is refused in an item as it is on its own. -/
theorem item_opening (start : Nat) (o : Opening) {cs : List Char} {m : Malformed}
    (h : quoted (start + byteLength o.text) cs = .error m) :
    item start (o.text ++ '"' :: cs) = .error m := by
  have hgoes : atBoundary ('"' :: cs) = false := atBoundary_cons (by decide)
  obtain ⟨k, lead, isName⟩ := o
  cases lead with
  | none =>
    simp only [Opening.text, Option.elim_none, List.append_nil] at h ⊢
    rw [item_dashes start k (by simp), if_neg (by simp [hgoes]), itemBehind_quote, h]
    rfl
  | some l =>
    obtain ⟨name, op⟩ := l
    have hlead : IsLead name op ('"' :: cs) := (isName _ rfl).isLead op (by simp)
    have hvalue : ∀ p, fieldValue p ('"' :: cs) = quoted p cs := fun _ ↦ rfl
    simp only [Opening.text, Option.elim_some, byteLength_append, ← Nat.add_assoc] at h
    simp only [Opening.text, Option.elim_some, List.append_assoc]
    rw [item_lead start k hlead, itemBehind_of_lead (hlead.isName.head?_append_ne (by decide))
      hlead.fieldLead?, if_neg (by simp [hgoes]), hvalue, byteLength_append, ← Nat.add_assoc, h]
    rfl

/-- A broken item is refused wherever it may end. -/
theorem item_broken (start : Nat) {b : Broken} {rest : List Char} (h : b.Ends rest) :
    item start (b.text ++ rest) = .error (b.malformed start) := by
  cases b with
  | negation k pos =>
    have hrest : rest.head? ≠ some '-' := by
      intro hhead
      exact absurd (isBlank_eq_true_of_atBoundary h '-' hhead) (by decide)
    show item start (List.replicate k '-' ++ rest) = _
    rw [item_dashes start k hrest, if_pos ⟨pos, h⟩]
    rfl
  | filter k name op isName =>
    have hends : atBoundary rest = true := h
    have hrest : rest.head? ≠ some '=' := by
      intro hhead
      exact absurd (isBlank_eq_true_of_atBoundary h '=' hhead) (by decide)
    have hlead : IsLead name op rest := isName.isLead op hrest
    have htext : (Broken.filter k name op isName).text ++ rest =
        List.replicate k '-' ++ (name ++ (op.symbol ++ rest)) := by
      simp [Broken.text, Broken.inside, Broken.token]
    rw [htext, item_lead start k hlead, itemBehind_of_lead (isName.head?_append_ne (by decide))
      hlead.fieldLead?, if_pos hends]
    rfl
  | literal o l =>
    have htext : (Broken.literal o l).text ++ rest = o.text ++ '"' :: (l.behind ++ rest) := by
      simp [Broken.text, Broken.inside, Broken.token]
    rw [htext]
    exact item_opening start o (quoted_broken _ h)

/-- A literal that is refused behind an opening is part of a broken item. -/
theorem exists_broken_of_quoted {start : Nat} {cs : List Char} {m : Malformed} (o : Opening)
    (h : quoted (start + byteLength o.text) cs = .error m) :
    ∃ (b : Broken) (rest : List Char), b.Ends rest ∧ o.text ++ '"' :: cs = b.text ++ rest ∧
      m = b.malformed start := by
  obtain ⟨l, rest, hends, rfl, rfl⟩ := exists_brokenLiteral h
  exact ⟨.literal o l, rest, hends, by simp [Broken.text, Broken.inside, Broken.token], rfl⟩

/-- A filter that is refused is a broken item. -/
theorem exists_broken_of_lead {start k : Nat} {body : List Char} {lead : FieldLead} {m : Malformed}
    (h : itemBehind start (List.replicate k '-') body = .error m) (hquote : body.head? ≠ some '"')
    (hlead : fieldLead? body = some lead) :
    ∃ (b : Broken) (rest : List Char), b.Ends rest ∧
      List.replicate k '-' ++ body = b.text ++ rest ∧ m = b.malformed start := by
  have hname := (isLead_of_fieldLead? hlead).isName
  have hcut := (eq_of_fieldLead? hlead).1
  rw [itemBehind_of_lead hquote hlead] at h
  split at h
  · rename_i hends
    obtain rfl := Except.error.inj h
    exact ⟨.filter k lead.name lead.operator hname, lead.rest, hends,
      by simp [hcut, Broken.text, Broken.inside, Broken.token], rfl⟩
  · -- behind the operator only a literal can be refused
    rw [map_eq_error_iff] at h
    obtain ⟨cs, hrest⟩ : ∃ cs, lead.rest = '"' :: cs := by
      by_contra hno
      rw [fieldValue_of_head?_ne _ fun hhead ↦ hno (List.head?_eq_some_iff.1 hhead)] at h
      cases h
    let o : Opening := ⟨k, some (lead.name, lead.operator), by simpa using hname⟩
    have ho : o.text = List.replicate k '-' ++ (lead.name ++ lead.operator.symbol) := rfl
    have hbody : List.replicate k '-' ++ body = o.text ++ '"' :: cs := by
      simp [hcut, hrest, ho]
    rw [hbody]
    rw [hrest, Nat.add_assoc, ← byteLength_append, ← ho] at h
    exact exists_broken_of_quoted o h

/-- What is refused as an item is a broken one. -/
theorem exists_broken {start : Nat} {c : Char} {cs : List Char} {m : Malformed}
    (h : item start (c :: cs) = .error m) (hc : isBlank c = false) :
    ∃ (b : Broken) (rest : List Char), b.Ends rest ∧ c :: cs = b.text ++ rest ∧
      m = b.malformed start := by
  obtain ⟨k, body, hcs, hbody⟩ := exists_dashes (c :: cs)
  rw [hcs, item_dashes start k hbody] at h
  rw [hcs]
  split at h
  · rename_i hends
    obtain rfl := Except.error.inj h
    exact ⟨.negation k hends.1, body, hends.2, rfl, rfl⟩
  · rename_i hgoes
    obtain ⟨d, ds, rfl, -⟩ := exists_eq_cons_of_dashes hcs hc hgoes
    by_cases hquote : d = '"'
    · subst hquote
      rw [itemBehind_quote, map_eq_error_iff] at h
      let o : Opening := ⟨k, none, by simp⟩
      have ho : o.text = List.replicate k '-' := List.append_nil _
      rw [← ho] at h ⊢
      exact exists_broken_of_quoted o h
    · have hhead : (d :: ds).head? ≠ some '"' := by simpa using hquote
      cases hlead : fieldLead? (d :: ds) with
      | some lead => exact exists_broken_of_lead h hhead hlead
      | none =>
        rw [itemBehind_of_word hhead hlead] at h
        cases h

/-! ### Queries -/

/-- A query that cannot be read: parts that can, a gap and a broken item behind it, and a rest that
is not looked at. -/
structure BrokenQuery where
  parts : List Part
  gap : List Char
  item : Broken
  rest : List Char
  separated : ∀ part ∈ parts.tail, part.gap ≠ []
  isGap : IsGap gap
  detached : parts ≠ [] → gap ≠ []
  ends : item.Ends rest

namespace BrokenQuery

/-- What can be read of the query. -/
def front (q : BrokenQuery) : List Char := q.parts.flatMap Part.text ++ q.gap

/-- The characters of the query. -/
def text (q : BrokenQuery) : List Char := q.front ++ (q.item.text ++ q.rest)

/-- The query as it is reported if it starts at a byte offset. -/
def malformed (q : BrokenQuery) (position : Nat) : Malformed :=
  q.item.malformed (position + byteLength q.front)

end BrokenQuery

/-- Behind a gap a broken item is refused. -/
theorem tokensFrom_gap_broken (position : Nat) {gap : List Char} {b : Broken} {rest : List Char}
    (hgap : IsGap gap) (hends : b.Ends rest) :
    tokensFrom position (gap ++ (b.text ++ rest)) =
      .error (b.malformed (position + byteLength gap)) := by
  obtain ⟨c, cs, htext, hc⟩ := b.exists_text_eq_cons
  have hitem := item_broken (position + byteLength gap) hends
  rw [htext, List.cons_append] at hitem ⊢
  rw [tokensFrom_gap_append hgap hc, hitem]
  rfl

/-- A broken query is refused. -/
theorem tokensFrom_brokenQuery (position : Nat) (q : BrokenQuery) :
    tokensFrom position q.text = .error (q.malformed position) := by
  rw [BrokenQuery.text, BrokenQuery.malformed, BrokenQuery.front]
  by_cases hparts : q.parts = []
  · simp only [hparts, List.flatMap_nil, List.nil_append]
    exact tokensFrom_gap_broken position q.isGap q.ends
  · rw [List.append_assoc, tokensFrom_parts_append q.separated
      (atBoundary_append q.isGap (q.detached hparts)), tokensFrom_gap_broken _ q.isGap q.ends,
      byteLength_append, Nat.add_assoc]
    rfl

/-- A part in front of a broken query, where an item may end. -/
theorem BrokenQuery.exists_cons (q : BrokenQuery) (part : Part)
    (hboundary : atBoundary q.text = true) :
    ∃ q' : BrokenQuery, q'.front = part.text ++ q.front ∧ q'.item = q.item ∧ q'.rest = q.rest := by
  obtain ⟨parts, gap, item, rest, separated, isGap, detached, ends⟩ := q
  simp only [text, front, List.append_assoc] at hboundary
  refine ⟨⟨part :: parts, gap, item, rest, fun p hp ↦ ?_, isGap, fun _ ↦ ?_, ends⟩,
    by simp [front], rfl, rfl⟩
  · cases parts with
    | nil => cases hp
    | cons p' parts =>
      rcases List.mem_cons.1 hp with rfl | hp
      · exact Part.gap_ne_nil_of_atBoundary hboundary
      · exact separated p hp
  · cases parts with
    | cons p' parts => exact detached (by simp)
    | nil =>
      rintro rfl
      obtain ⟨c, cs, htext, hc⟩ := item.exists_text_eq_cons
      simp [htext, atBoundary, hc] at hboundary

/-- What is refused is a broken query. -/
theorem exists_brokenQuery {position : Nat} {cs : List Char} {m : Malformed}
    (h : tokensFrom position cs = .error m) :
    ∃ q : BrokenQuery, q.text = cs ∧ q.malformed position = m := by
  induction hn : cs.length using Nat.strong_induction_on generalizing position cs with
  | _ n ih =>
    rcases isGap_or_exists_cons cs with hgap | ⟨w, c, ds, rfl, hgap, hc⟩
    · rw [tokensFrom_gap hgap] at h
      cases h
    · rw [tokensFrom_gap_append hgap hc, bind_eq_error_iff] at h
      rcases h with h | ⟨it, hit, h⟩
      · obtain ⟨b, rest, hends, htext, rfl⟩ := exists_broken h hc
        refine ⟨⟨[], w, b, rest, by simp, hgap, by simp, hends⟩, ?_, rfl⟩
        simp [BrokenQuery.text, BrokenQuery.front, htext]
      · rw [map_eq_error_iff] at h
        obtain ⟨k, b, -, htext, hboundary⟩ := exists_dashes_body hit hc
        have hcut := Item.text_append_rest hit
        have hshorter : it.rest.length < n := by
          have hsome := List.length_pos_iff.2 (Item.text_ne_nil hit hc)
          rw [← hn, ← hcut, List.length_append, List.length_append]
          omega
        obtain ⟨q, hq, rfl⟩ := ih _ hshorter h rfl
        obtain ⟨q', hfront, hitem, hrest⟩ := q.exists_cons ⟨w, k, b, hgap⟩ (hq ▸ hboundary)
        rw [Part.text, Part.item, ← htext] at hfront
        refine ⟨q', ?_, ?_⟩
        · rw [BrokenQuery.text, hfront, hitem, hrest, ← hcut, ← hq, BrokenQuery.text]
          simp only [List.append_assoc]
        · rw [BrokenQuery.malformed, BrokenQuery.malformed, hfront, hitem]
          simp only [byteLength_append, Nat.add_assoc]

/-- A text is refused just if it is a broken query, and its fault is that of the broken item. -/
theorem tokensFrom_eq_error_iff {position : Nat} {cs : List Char} {m : Malformed} :
    tokensFrom position cs = .error m ↔
      ∃ q : BrokenQuery, q.text = cs ∧ q.malformed position = m := by
  constructor
  · exact exists_brokenQuery
  · rintro ⟨q, rfl, rfl⟩
    exact tokensFrom_brokenQuery position q

end SpacedReview.Query

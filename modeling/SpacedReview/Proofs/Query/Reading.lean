import Mathlib.Data.List.Basic
import Mathlib.Data.List.TakeWhile
import SpacedReview.Proofs.Query.Grammar
import SpacedReview.Proofs.Results

/-!
# Reading accepts the grammar

The tokens of a query are those of its layout. Each reading function gets two facts about the
grammar: in front of a boundary it reads a piece that is laid out there, and what it reads is such a
piece. The two meet in the theorem on whole queries, where the first fact is an induction on the
layout and the second one an induction on the reading.

Reading parts never looks behind the boundary they end at, whatever stands there
(`tokensFrom_parts_append`). This is all that is needed to put queries together.

## Main statements

* `tokensFrom_parts_append`: reading a row of parts in front of any text that starts at a boundary.
* `exists_parts_of_tokensFrom`: a text that is read has a layout.
* `tokens_eq_ok_iff_layout`: the tokens of a query are those of its one layout.
-/

namespace SpacedReview.Query

open SpacedReview.Text

/-! ### Values -/

theorem word_append {v rest : List Char} (hv : ∀ c ∈ v, isBlank c = false)
    (hrest : atBoundary rest = true) : word (v ++ rest) = ⟨v, v, rest⟩ := by
  obtain ⟨htake, hdrop⟩ := span_append (p := (!isBlank ·)) (v := v) (w := rest)
    (fun c hc ↦ by simp [hv c hc])
    (fun c hc ↦ by simp [isBlank_eq_true_of_atBoundary hrest c hc])
  rw [word, htake, hdrop]

/-- A run that is read has no blanks and ends at a boundary. -/
theorem word_spec (cs : List Char) :
    (∀ c ∈ (word cs).value, isBlank c = false) ∧ (word cs).text = (word cs).value ∧
      atBoundary (word cs).rest = true := by
  refine ⟨fun c hc ↦ by simpa using List.mem_takeWhile_imp hc, rfl, ?_⟩
  have hhead := List.head?_dropWhile_not (!isBlank ·) cs
  show atBoundary (cs.dropWhile (!isBlank ·)) = true
  cases hrest : cs.dropWhile (!isBlank ·) with
  | nil => rfl
  | cons c rest =>
    rw [hrest] at hhead
    simpa [atBoundary] using hhead

theorem isWord_word {c : Char} {cs : List Char} (hc : isBlank c = false) :
    IsWord (word (c :: cs)).value :=
  ⟨by simp [word, hc], (word_spec (c :: cs)).1⟩

/-- A run starts with the character that the text starts with. -/
theorem head?_word {c : Char} {cs : List Char} (hc : isBlank c = false) :
    (word (c :: cs)).value.head? = some c := by
  simp [word, hc]

theorem quoted_append {v rest : List Char} (position : Nat) (hv : '"' ∉ v)
    (hrest : atBoundary rest = true) :
    quoted position (v ++ '"' :: rest) = .ok ⟨v, '"' :: v ++ ['"'], rest⟩ := by
  obtain ⟨htake, hdrop⟩ := span_append (p := (· != '"')) (v := v) (w := '"' :: rest)
    (fun c hc ↦ bne_iff_ne.2 fun h ↦ hv (h ▸ hc)) (by simp)
  simp only [quoted, htake, hdrop, hrest, if_true]

/-- A literal that is read has no quotes inside and ends at a boundary. -/
theorem quoted_spec {position : Nat} {cs : List Char} {r : Reading}
    (h : quoted position cs = .ok r) :
    '"' ∉ r.value ∧ r.text = '"' :: r.value ++ ['"'] ∧ atBoundary r.rest = true := by
  simp only [quoted] at h
  split at h
  · simp at h
  · split at h
    · rename_i hrest
      obtain rfl := Except.ok.inj h
      refine ⟨fun hmem ↦ ?_, rfl, hrest⟩
      simpa using List.mem_takeWhile_imp hmem
    · simp at h

namespace WrittenValue

/-- A written value starts with a character other than a blank. -/
theorem exists_text_eq_cons (w : WrittenValue) :
    ∃ c cs, w.text = c :: cs ∧ isBlank c = false := by
  cases w with
  | literal v _ => exact ⟨'"', v ++ ['"'], rfl, by decide⟩
  | word v isWord _ =>
    obtain ⟨c, cs, rfl⟩ := List.exists_cons_of_ne_nil isWord.1
    exact ⟨c, cs, rfl, isWord.2 c (by simp)⟩

theorem text_ne_nil (w : WrittenValue) : w.text ≠ [] := by
  obtain ⟨c, cs, h, -⟩ := w.exists_text_eq_cons
  simp [h]

theorem text_injective : Function.Injective text := by
  intro w w' h
  cases w with
  | literal v _ =>
    cases w' with
    | literal v' _ =>
      obtain rfl : v = v' := by simpa [text] using h
      rfl
    | word v' _ noQuote => exact absurd (by simp [← (show _ = v' from h), text]) noQuote
  | word v _ noQuote =>
    cases w' with
    | literal v' _ => exact absurd (by simp [(show v = _ from h), text]) noQuote
    | word v' _ _ =>
      obtain rfl : v = v' := h
      rfl

end WrittenValue

theorem fieldValue_of_head?_ne {cs : List Char} (position : Nat) (h : cs.head? ≠ some '"') :
    fieldValue position cs = .ok (word cs) := by
  unfold fieldValue
  split
  · simp at h
  · rfl

theorem fieldValue_append (position : Nat) (w : WrittenValue) {rest : List Char}
    (hrest : atBoundary rest = true) :
    fieldValue position (w.text ++ rest) = .ok ⟨w.value, w.text, rest⟩ := by
  cases w with
  | literal v unquoted =>
    show fieldValue position ('"' :: ((v ++ ['"']) ++ rest)) = _
    rw [List.append_assoc]
    exact quoted_append position unquoted hrest
  | word v isWord noQuote =>
    have hhead : (v ++ rest).head? ≠ some '"' := by
      rwa [List.head?_append_of_ne_nil _ isWord.1]
    show fieldValue position (v ++ rest) = _
    rw [fieldValue_of_head?_ne position hhead, word_append isWord.2 hrest]
    rfl

/-- What is read behind an operator is a written value. -/
theorem exists_writtenValue {position : Nat} {cs : List Char} {r : Reading}
    (h : fieldValue position cs = .ok r) (hcs : atBoundary cs = false) :
    ∃ w : WrittenValue, r.value = w.value ∧ r.text = w.text ∧ atBoundary r.rest = true := by
  by_cases hhead : cs.head? = some '"'
  · obtain ⟨cs, rfl⟩ := List.head?_eq_some_iff.1 hhead
    obtain ⟨hvalue, htext, hrest⟩ := quoted_spec (show quoted position cs = .ok r from h)
    exact ⟨.literal r.value hvalue, rfl, htext, hrest⟩
  · rw [fieldValue_of_head?_ne position hhead] at h
    obtain rfl := Except.ok.inj h
    cases cs with
    | nil => simp [atBoundary] at hcs
    | cons c cs =>
      refine ⟨.word _ (isWord_word hcs) ?_, rfl, (word_spec (c :: cs)).2.1,
        (word_spec (c :: cs)).2.2⟩
      rwa [head?_word hcs]

/-! ### Items -/

/-- Dashes flip the negation of a term that has none. -/
theorem signed_replicate (k : Nat) (t : Term) (h : t.negated = false) :
    signed (List.replicate k '-') t = { t with negated := decide (k % 2 = 1) } := by
  obtain ⟨field, op, value, negated⟩ := t
  obtain rfl : negated = false := h
  by_cases hk : k % 2 = 1 <;> simp [signed, Term.negate, hk]

namespace Body

/-- A body starts with a character that is no blank and no dash. -/
theorem exists_text_eq_cons (b : Body) :
    ∃ c cs, b.text = c :: cs ∧ isBlank c = false ∧ c ≠ '-' := by
  cases b with
  | literal v _ => exact ⟨'"', v ++ ['"'], rfl, by decide, by decide⟩
  | filter name op value isLead =>
    obtain ⟨c, cs, rfl, hc, hdash⟩ := isLead.isName.exists_eq_cons
    exact ⟨c, cs ++ (op.symbol ++ value.text), rfl, hc, hdash⟩
  | word v isWord _ noDash _ =>
    obtain ⟨c, cs, rfl⟩ := List.exists_cons_of_ne_nil isWord.1
    exact ⟨c, cs, rfl, isWord.2 c (by simp), by simpa using noDash⟩

theorem head?_text_ne_dash (b : Body) : b.text.head? ≠ some '-' := by
  obtain ⟨c, cs, hb, -, hdash⟩ := b.exists_text_eq_cons
  simpa [hb] using hdash

end Body

theorem itemBehind_quote (position : Nat) (dashes behind : List Char) :
    itemBehind position dashes ('"' :: behind) =
      (quoted (position + byteLength dashes) behind).map fun r ↦
        ⟨.term (signed dashes (.bare (String.ofList r.value))), dashes ++ r.text, r.rest⟩ := by
  cases h : quoted (position + byteLength dashes) behind with
  | error e =>
    simp only [itemBehind, h]
    rfl
  | ok r =>
    simp only [itemBehind, h]
    rfl

theorem itemBehind_of_lead {position : Nat} {dashes body : List Char} {lead : FieldLead}
    (hquote : body.head? ≠ some '"') (hlead : fieldLead? body = some lead) :
    itemBehind position dashes body =
      if atBoundary lead.rest then
        .error ⟨.missingValue, position,
          String.ofList (dashes ++ (lead.name ++ lead.operator.symbol))⟩
      else
        (fieldValue (position + byteLength dashes +
          byteLength (lead.name ++ lead.operator.symbol)) lead.rest).map fun r ↦
            ⟨.term (signed dashes
                (.fielded (String.ofList lead.name) lead.operator (String.ofList r.value))),
              dashes ++ (lead.name ++ lead.operator.symbol ++ r.text), r.rest⟩ := by
  unfold itemBehind
  split
  · simp at hquote
  · simp only [hlead]
    split
    · rfl
    · cases fieldValue (position + byteLength dashes +
        byteLength (lead.name ++ lead.operator.symbol)) lead.rest <;> rfl

theorem itemBehind_of_word {position : Nat} {dashes body : List Char}
    (hquote : body.head? ≠ some '"') (hlead : fieldLead? body = none) :
    itemBehind position dashes body =
      .ok ⟨if dashes = [] ∧ (word body).value = ['O', 'R'] then .or
        else .term (signed dashes (.bare (String.ofList (word body).value))),
        dashes ++ (word body).text, (word body).rest⟩ := by
  unfold itemBehind
  split
  · simp at hquote
  · simp only [hlead]

/-- A body is read whatever stands behind the boundary it ends at. -/
theorem itemBehind_body (position k : Nat) (b : Body) {rest : List Char}
    (hrest : atBoundary rest = true) :
    itemBehind position (List.replicate k '-') (b.text ++ rest) =
      .ok ⟨b.token k, List.replicate k '-' ++ b.text, rest⟩ := by
  cases b with
  | literal v unquoted =>
    have hbody : (Body.literal v unquoted).text ++ rest = '"' :: (v ++ '"' :: rest) := by
      simp [Body.text]
    rw [hbody, itemBehind_quote, quoted_append _ unquoted hrest, Except.map,
      signed_replicate k _ rfl]
    rfl
  | filter name op value isLead =>
    obtain ⟨c, cs, hvalue, hc⟩ := value.exists_text_eq_cons
    have hbody : (Body.filter name op value isLead).text ++ rest =
        name ++ (op.symbol ++ (value.text ++ rest)) := by
      simp [Body.text]
    have hlead := ((isLead_append_iff (w := rest) value.text_ne_nil).2 isLead).fieldLead?
    have hquote := isLead.isName.head?_append_ne (w := op.symbol ++ (value.text ++ rest))
      (c := '"') (by decide)
    have hgoes : atBoundary (value.text ++ rest) = false := by
      rw [hvalue]
      exact atBoundary_cons hc
    rw [hbody, itemBehind_of_lead hquote hlead, if_neg (by simp [hgoes]),
      fieldValue_append _ value hrest, Except.map, signed_replicate k _ rfl]
    simp [Body.text, Body.token, Term.fielded]
  | word v isWord noQuote noDash noLead =>
    have hquote : (v ++ rest).head? ≠ some '"' := by
      rwa [List.head?_append_of_ne_nil _ isWord.1]
    have hlead : fieldLead? (v ++ rest) = none :=
      fieldLead?_eq_none_iff.2 fun h ↦ noLead ((startsWithLead_append_iff hrest).1 h)
    show itemBehind position _ (v ++ rest) = _
    rw [itemBehind_of_word hquote hlead, word_append isWord.2 hrest, signed_replicate k _ rfl]
    simp [Body.token, Body.text, Term.bare]

/-- A literal is read as a body. -/
theorem exists_body_of_quote {position k : Nat} {cs : List Char} {it : Item}
    (h : itemBehind position (List.replicate k '-') ('"' :: cs) = .ok it) :
    ∃ b : Body, it.token = b.token k ∧ it.text = List.replicate k '-' ++ b.text ∧
      atBoundary it.rest = true := by
  rw [itemBehind_quote] at h
  obtain ⟨r, hr, rfl⟩ := map_eq_ok_iff.1 h
  obtain ⟨hvalue, htext, hrest⟩ := quoted_spec hr
  exact ⟨.literal r.value hvalue, congrArg Token.term (signed_replicate k _ rfl),
    by simp [htext, Body.text], hrest⟩

/-- A filter is read as a body. -/
theorem exists_body_of_lead {position k : Nat} {body : List Char} {lead : FieldLead} {it : Item}
    (h : itemBehind position (List.replicate k '-') body = .ok it)
    (hquote : body.head? ≠ some '"') (hlead : fieldLead? body = some lead) :
    ∃ b : Body, it.token = b.token k ∧ it.text = List.replicate k '-' ++ b.text ∧
      atBoundary it.rest = true := by
  rw [itemBehind_of_lead hquote hlead] at h
  split at h
  · cases h
  · rename_i hgoes
    obtain ⟨r, hr, rfl⟩ := map_eq_ok_iff.1 h
    obtain ⟨w, hvalue, htext, hrest⟩ := exists_writtenValue hr (by simpa using hgoes)
    have hcut : w.text ++ r.rest = lead.rest := by
      rw [← htext]
      exact fieldValue_text_append_rest hr
    have hisLead : IsLead lead.name lead.operator w.text := by
      rw [← isLead_append_iff (w := r.rest) w.text_ne_nil, hcut]
      exact isLead_of_fieldLead? hlead
    refine ⟨.filter lead.name lead.operator w hisLead, ?_, by simp [htext, Body.text], hrest⟩
    rw [Body.token, ← hvalue]
    exact congrArg Token.term (signed_replicate k _ rfl)

/-- A word is read as a body. -/
theorem exists_body_of_word {position k : Nat} {c : Char} {cs : List Char} {it : Item}
    (h : itemBehind position (List.replicate k '-') (c :: cs) = .ok it)
    (hc : isBlank c = false) (hdash : c ≠ '-') (hquote : (c :: cs).head? ≠ some '"')
    (hlead : fieldLead? (c :: cs) = none) :
    ∃ b : Body, it.token = b.token k ∧ it.text = List.replicate k '-' ++ b.text ∧
      atBoundary it.rest = true := by
  rw [itemBehind_of_word hquote hlead] at h
  obtain rfl := Except.ok.inj h
  obtain ⟨-, htext, hrest⟩ := word_spec (c :: cs)
  have hnoLead : ¬ StartsWithLead (word (c :: cs)).value := by
    rw [← startsWithLead_append_iff hrest, ← htext, word_text_append_rest]
    exact fieldLead?_eq_none_iff.1 hlead
  refine ⟨.word _ (isWord_word hc) ?_ ?_ hnoLead, ?_, ?_, hrest⟩
  · rwa [head?_word hc]
  · rw [head?_word hc]
    simpa using hdash
  · rw [signed_replicate k _ rfl]
    simp [Body.token, Term.bare]
  · rw [htext]
    rfl

/-- What is read behind the dashes of an item is a body. -/
theorem exists_body {position k : Nat} {c : Char} {cs : List Char} {it : Item}
    (h : itemBehind position (List.replicate k '-') (c :: cs) = .ok it)
    (hc : isBlank c = false) (hdash : c ≠ '-') :
    ∃ b : Body, it.token = b.token k ∧ it.text = List.replicate k '-' ++ b.text ∧
      atBoundary it.rest = true := by
  by_cases hquote : c = '"'
  · subst hquote
    exact exists_body_of_quote h
  · have hhead : (c :: cs).head? ≠ some '"' := by simpa using hquote
    cases hlead : fieldLead? (c :: cs) with
    | some lead => exact exists_body_of_lead h hhead hlead
    | none => exact exists_body_of_word h hc hdash hhead hlead

/-- Cutting an item behind its dashes. -/
theorem span_dashes (k : Nat) {body : List Char} (hbody : body.head? ≠ some '-') :
    (List.replicate k '-' ++ body).takeWhile (· == '-') = List.replicate k '-' ∧
      (List.replicate k '-' ++ body).dropWhile (· == '-') = body := by
  refine span_append (fun d hd ↦ by simp [List.eq_of_mem_replicate hd]) fun d hd ↦ ?_
  rw [beq_eq_false_iff_ne]
  rintro rfl
  exact hbody hd

/-- Every text is a number of dashes and something that starts with none. -/
theorem exists_dashes (cs : List Char) :
    ∃ (k : Nat) (body : List Char), cs = List.replicate k '-' ++ body ∧ body.head? ≠ some '-' := by
  have hdashes : cs.takeWhile (· == '-') = List.replicate (cs.takeWhile (· == '-')).length '-' :=
    List.eq_replicate_of_mem fun d hd ↦ by simpa using List.mem_takeWhile_imp hd
  refine ⟨(cs.takeWhile (· == '-')).length, cs.dropWhile (· == '-'), ?_, fun hhead ↦ ?_⟩
  · rw [← hdashes, List.takeWhile_append_dropWhile]
  · have hnot := List.head?_dropWhile_not (· == '-') cs
    simp [hhead] at hnot

/-- An item is read behind its dashes, unless nothing stands there. -/
theorem item_dashes (position k : Nat) {body : List Char} (hbody : body.head? ≠ some '-') :
    item position (List.replicate k '-' ++ body) =
      if k ≠ 0 ∧ atBoundary body = true then
        .error ⟨.danglingNegation, position, String.ofList (List.replicate k '-')⟩
      else itemBehind position (List.replicate k '-') body := by
  obtain ⟨htake, hdrop⟩ := span_dashes k hbody
  simp only [item, htake, hdrop, ne_eq, List.replicate_eq_nil_iff]

/-- Behind dashes that something stands behind, an item goes on. -/
theorem exists_eq_cons_of_dashes {k : Nat} {c : Char} {cs body : List Char}
    (hcs : c :: cs = List.replicate k '-' ++ body) (hc : isBlank c = false)
    (h : ¬ (k ≠ 0 ∧ atBoundary body = true)) : ∃ d ds, body = d :: ds ∧ isBlank d = false := by
  have hgoes : atBoundary body = false := by
    by_contra hboundary
    rw [Bool.not_eq_false] at hboundary
    obtain rfl : k = 0 := by
      by_contra hk
      exact h ⟨hk, hboundary⟩
    obtain rfl : c :: cs = body := hcs
    rw [atBoundary_cons hc] at hboundary
    cases hboundary
  cases body with
  | nil => cases hgoes
  | cons d ds => exact ⟨d, ds, rfl, hgoes⟩

/-- An item is read whatever stands behind the boundary it ends at. -/
theorem item_append (position k : Nat) (b : Body) {rest : List Char}
    (hrest : atBoundary rest = true) :
    item position (List.replicate k '-' ++ (b.text ++ rest)) =
      .ok ⟨b.token k, List.replicate k '-' ++ b.text, rest⟩ := by
  obtain ⟨c, cs, hb, hc, hdash⟩ := b.exists_text_eq_cons
  rw [item_dashes position k (by simpa [hb] using hdash), if_neg (by simp [hb, atBoundary, hc])]
  exact itemBehind_body position k b hrest

/-- What is read as an item is a number of dashes and a body. -/
theorem exists_dashes_body {position : Nat} {c : Char} {cs : List Char} {it : Item}
    (h : item position (c :: cs) = .ok it) (hc : isBlank c = false) :
    ∃ (k : Nat) (b : Body), it.token = b.token k ∧ it.text = List.replicate k '-' ++ b.text ∧
      atBoundary it.rest = true := by
  obtain ⟨k, body, hcs, hbody⟩ := exists_dashes (c :: cs)
  rw [hcs, item_dashes position k hbody] at h
  split at h
  · cases h
  · rename_i hgoes
    obtain ⟨d, ds, rfl, hd⟩ := exists_eq_cons_of_dashes hcs hc hgoes
    exact ⟨k, exists_body h hd (by simpa using hbody)⟩

/-! ### Rows of tokens -/

/-- Nothing is read from a gap. -/
theorem tokensFrom_gap {position : Nat} {w : List Char} (hw : IsGap w) :
    tokensFrom position w = .ok [] := by
  have hdrop : w.dropWhile isBlank = [] := List.dropWhile_eq_nil_iff.2 hw
  rw [tokensFrom]
  split
  · rfl
  · rename_i heq
    rw [hdrop] at heq
    cases heq

/-- Behind a gap an item is read, and then the rest. -/
theorem tokensFrom_gap_append {position : Nat} {w : List Char} {c : Char} {cs : List Char}
    (hw : IsGap w) (hc : isBlank c = false) :
    tokensFrom position (w ++ c :: cs) =
      (item (position + byteLength w) (c :: cs)).bind fun it ↦
        (tokensFrom (position + byteLength w + byteLength it.text) it.rest).map
          (⟨it.token, position + byteLength w⟩ :: ·) := by
  obtain ⟨htake, hdrop⟩ := span_append (w := c :: cs) hw (fun d hd ↦ by
    obtain rfl : c = d := by simpa using hd
    exact hc)
  rw [tokensFrom]
  split
  · rename_i heq
    rw [hdrop] at heq
    cases heq
  · rename_i d ds heq
    rw [hdrop] at heq
    obtain ⟨rfl, rfl⟩ := List.cons.inj heq
    simp only [htake]
    split
    · rename_i e he
      rw [htake] at he
      rw [he]
      rfl
    · rename_i it hit
      rw [htake] at hit
      rw [hit]
      simp only [Except.bind]
      cases tokensFrom (position + byteLength w + byteLength it.text) it.rest <;> rfl

/-- A gap in front of a text only moves the text. -/
theorem tokensFrom_gap_append_self {position : Nat} {w cs : List Char} (hw : IsGap w) :
    tokensFrom position (w ++ cs) = tokensFrom (position + byteLength w) cs := by
  rcases isGap_or_exists_cons cs with hgap | ⟨v, c, ds, rfl, hgap, hc⟩
  · rw [tokensFrom_gap (hw.append hgap), tokensFrom_gap hgap]
  · rw [← List.append_assoc, tokensFrom_gap_append (hw.append hgap) hc,
      tokensFrom_gap_append hgap hc, byteLength_append, Nat.add_assoc]

namespace Part

theorem exists_item_eq_cons (part : Part) :
    ∃ c cs, part.item = c :: cs ∧ isBlank c = false := by
  obtain ⟨c, cs, hb, hc, -⟩ := part.body.exists_text_eq_cons
  cases hk : part.dashes with
  | zero => exact ⟨c, cs, by simp [item, hk, hb], hc⟩
  | succ k => exact ⟨'-', List.replicate k '-' ++ part.body.text,
      by simp [item, hk, List.replicate_succ], by decide⟩

/-- The item of a part is read whatever stands behind the boundary it ends at. -/
theorem read_item (part : Part) (position : Nat) {rest : List Char}
    (hrest : atBoundary rest = true) :
    Query.item position (part.item ++ rest) = .ok ⟨part.token, part.item, rest⟩ := by
  rw [item, List.append_assoc]
  exact item_append position part.dashes part.body hrest

/-- Parts with gaps between them start at a boundary wherever they stop at one. -/
theorem atBoundary_flatMap_text {parts : List Part} {rest : List Char}
    (hgaps : ∀ part ∈ parts, part.gap ≠ []) (hrest : atBoundary rest = true) :
    atBoundary (parts.flatMap text ++ rest) = true := by
  cases parts with
  | nil => exact hrest
  | cons part parts =>
    rw [List.flatMap_cons, text, List.append_assoc, List.append_assoc]
    exact atBoundary_append part.isGap (hgaps part (by simp))

/-- A part behind a boundary has a gap in front. -/
theorem gap_ne_nil_of_atBoundary {part : Part} {parts : List Part} {rest : List Char}
    (h : atBoundary ((part :: parts).flatMap text ++ rest) = true) : part.gap ≠ [] := by
  intro hgap
  obtain ⟨c, cs, hitem, hc⟩ := part.exists_item_eq_cons
  rw [List.flatMap_cons, text, hgap, hitem] at h
  exact absurd h (by simp [atBoundary, hc])

end Part

/-- Parts are read one by one, whatever stands behind the boundary they end at. -/
theorem tokensFrom_parts_append {position : Nat} {parts : List Part} {rest : List Char}
    (hgaps : ∀ part ∈ parts.tail, part.gap ≠ []) (hrest : atBoundary rest = true) :
    tokensFrom position (parts.flatMap Part.text ++ rest) =
      (tokensFrom (position + byteLength (parts.flatMap Part.text)) rest).map
        (Part.placed position parts ++ ·) := by
  induction parts generalizing position with
  | nil =>
    simp only [List.flatMap_nil, List.nil_append, byteLength_nil, Nat.add_zero, Part.placed]
    cases tokensFrom position rest <;> rfl
  | cons part parts ih =>
    obtain ⟨c, cs, hitem, hc⟩ := part.exists_item_eq_cons
    have hbehind : atBoundary (parts.flatMap Part.text ++ rest) = true :=
      Part.atBoundary_flatMap_text hgaps hrest
    have hread := part.read_item (position + byteLength part.gap) hbehind
    rw [hitem, List.cons_append] at hread
    rw [List.flatMap_cons, Part.text, hitem, List.append_assoc, List.append_assoc,
      List.cons_append, tokensFrom_gap_append part.isGap hc, hread]
    simp only [Except.bind]
    rw [ih (fun p hp ↦ hgaps p (List.mem_of_mem_tail hp))]
    have hposition : position + byteLength part.gap + byteLength part.item +
        byteLength (parts.flatMap Part.text) =
          position + byteLength (part.gap ++ part.item ++ parts.flatMap Part.text) := by
      simp [Nat.add_assoc]
    rw [← hitem, hposition]
    cases tokensFrom _ rest with
    | error e => rfl
    | ok ts => simp [Except.map, Part.placed, Part.token, Part.text, Nat.add_assoc]

/-- The first part of a text that is read behind a gap. -/
theorem exists_part_of_tokensFrom {position : Nat} {w : List Char} {c : Char} {cs : List Char}
    {ts : List Placed} (hw : IsGap w) (hc : isBlank c = false)
    (h : tokensFrom position (w ++ c :: cs) = .ok ts) :
    ∃ (part : Part) (rest : List Char) (us : List Placed),
      atBoundary rest = true ∧ w ++ c :: cs = part.text ++ rest ∧
      tokensFrom (position + byteLength part.text) rest = .ok us ∧
      ts = ⟨part.token, position + byteLength part.gap⟩ :: us := by
  rw [tokensFrom_gap_append hw hc] at h
  obtain ⟨it, hit, h⟩ := bind_eq_ok_iff.1 h
  obtain ⟨us, hrest, rfl⟩ := map_eq_ok_iff.1 h
  obtain ⟨k, b, htoken, htext, hboundary⟩ := exists_dashes_body hit hc
  refine ⟨⟨w, k, b, hw⟩, it.rest, us, hboundary, ?_, ?_, ?_⟩
  · rw [Part.text, Part.item, ← htext, List.append_assoc, Item.text_append_rest hit]
  · rw [Part.text, Part.item, ← htext, byteLength_append, ← Nat.add_assoc]
    exact hrest
  · rw [htoken]
    rfl

/-- What is read is laid out: the text is a row of parts with a gap behind it. -/
theorem exists_parts_of_tokensFrom {position : Nat} {cs : List Char} {ts : List Placed}
    (h : tokensFrom position cs = .ok ts) :
    ∃ (parts : List Part) (last : List Char), (∀ part ∈ parts.tail, part.gap ≠ []) ∧ IsGap last ∧
      cs = parts.flatMap Part.text ++ last ∧ ts = Part.placed position parts := by
  induction hn : cs.length using Nat.strong_induction_on generalizing position cs ts with
  | _ n ih =>
    rcases isGap_or_exists_cons cs with hgap | ⟨w, c, ds, rfl, hgap, hc⟩
    · rw [tokensFrom_gap hgap] at h
      exact ⟨[], cs, by simp, hgap, rfl, (Except.ok.inj h).symm⟩
    · obtain ⟨part, rest, us, hboundary, hcut, hus, rfl⟩ := exists_part_of_tokensFrom hgap hc h
      have hshorter : rest.length < n := by
        obtain ⟨d, item, hitem, -⟩ := part.exists_item_eq_cons
        rw [← hn, hcut, Part.text, hitem]
        simp
        omega
      obtain ⟨parts, last, hgaps, hlast, hsplit, rfl⟩ := ih _ hshorter hus rfl
      refine ⟨part :: parts, last, ?_, hlast, ?_, rfl⟩
      · intro p hp
        cases parts with
        | nil => simp at hp
        | cons q qs =>
          rcases List.mem_cons.1 hp with rfl | hp
          · exact Part.gap_ne_nil_of_atBoundary (hsplit ▸ hboundary)
          · exact hgaps p hp
      · rw [hcut, hsplit, List.flatMap_cons, List.append_assoc]

/-! ### One layout -/

theorem Body.text_injective : Function.Injective Body.text := by
  intro b b' h
  cases b with
  | literal v _ =>
    cases b' with
    | literal v' _ =>
      obtain rfl : v = v' := by simpa [text] using h
      rfl
    | filter name op value isLead =>
      exact absurd (congrArg List.head? h).symm (isLead.isName.head?_append_ne (by decide))
    | word v' _ noQuote _ _ => exact absurd (congrArg List.head? h).symm noQuote
  | filter name op value isLead =>
    cases b' with
    | literal v' _ =>
      exact absurd (congrArg List.head? h) (isLead.isName.head?_append_ne (by decide))
    | filter name' op' value' isLead' =>
      have hlead := isLead.fieldLead?
      rw [show name ++ (op.symbol ++ value.text) = _ from h] at hlead
      obtain ⟨rfl, rfl, hvalue⟩ := FieldLead.mk.inj (Option.some.inj
        (isLead'.fieldLead?.symm.trans hlead))
      obtain rfl := WrittenValue.text_injective hvalue
      rfl
    | word v' _ _ _ noLead => exact absurd ⟨name, op, value.text, isLead.isName, h.symm⟩ noLead
  | word v _ noQuote _ noLead =>
    cases b' with
    | literal v' _ => exact absurd (congrArg List.head? h) noQuote
    | filter name op value isLead => exact absurd ⟨name, op, value.text, isLead.isName, h⟩ noLead
    | word v' _ _ _ _ =>
      obtain rfl : v = v' := h
      rfl

/-- An item is made of its dashes and its body in one way. -/
theorem dashes_body_inj {k k' : Nat} {b b' : Body}
    (h : List.replicate k '-' ++ b.text = List.replicate k' '-' ++ b'.text) : k = k' ∧ b = b' := by
  obtain ⟨htake, hdrop⟩ := span_dashes k b.head?_text_ne_dash
  obtain ⟨htake', hdrop'⟩ := span_dashes k' b'.head?_text_ne_dash
  rw [h] at htake hdrop
  have hk : k = k' := by simpa using congrArg List.length (htake.symm.trans htake')
  exact ⟨hk, Body.text_injective (hdrop.symm.trans hdrop')⟩

namespace Part

theorem not_isGap_text_append (part : Part) (rest : List Char) : ¬ IsGap (part.text ++ rest) := by
  obtain ⟨c, cs, hitem, hc⟩ := part.exists_item_eq_cons
  intro h
  have := h c (by simp [text, hitem])
  simp [hc] at this

/-- Cutting a text behind the gap it starts with. -/
theorem span_text (part : Part) (rest : List Char) :
    (part.text ++ rest).takeWhile isBlank = part.gap ∧
      (part.text ++ rest).dropWhile isBlank = part.item ++ rest := by
  obtain ⟨c, cs, hitem, hc⟩ := part.exists_item_eq_cons
  rw [text, List.append_assoc]
  refine span_append part.isGap fun d hd ↦ ?_
  obtain rfl : c = d := by simpa [hitem] using hd
  exact hc

/-- The first parts of two rows with the same text are the same, and so are the texts behind. -/
theorem text_append_inj {part part' : Part} {rest rest' : List Char}
    (hrest : atBoundary rest = true) (hrest' : atBoundary rest' = true)
    (h : part.text ++ rest = part'.text ++ rest') : part = part' ∧ rest = rest' := by
  obtain ⟨htake, hdrop⟩ := part.span_text rest
  obtain ⟨htake', hdrop'⟩ := part'.span_text rest'
  rw [h] at htake hdrop
  have hgap := htake.symm.trans htake'
  have hitems := hdrop.symm.trans hdrop'
  -- an item in front of a boundary is read back, so it is not longer or shorter on one side
  have hread := part.read_item 0 hrest
  rw [hitems, part'.read_item 0 hrest'] at hread
  obtain ⟨-, hitem, hbehind⟩ := Item.mk.inj (Except.ok.inj hread)
  obtain ⟨gap, dashes, body, isGap⟩ := part
  obtain ⟨gap', dashes', body', isGap'⟩ := part'
  obtain ⟨rfl, rfl⟩ := dashes_body_inj hitem
  obtain rfl : gap = gap' := hgap
  exact ⟨rfl, hbehind.symm⟩

/-- Two rows of parts with the same text are the same row. -/
theorem flatMap_text_append_inj {parts parts' : List Part} {last last' : List Char}
    (hgaps : ∀ part ∈ parts.tail, part.gap ≠ []) (hgaps' : ∀ part ∈ parts'.tail, part.gap ≠ [])
    (hlast : IsGap last) (hlast' : IsGap last')
    (h : parts.flatMap text ++ last = parts'.flatMap text ++ last') :
    parts = parts' ∧ last = last' := by
  induction parts generalizing parts' with
  | nil =>
    cases parts' with
    | nil => exact ⟨rfl, h⟩
    | cons part' parts' =>
      rw [List.flatMap_nil, List.nil_append, List.flatMap_cons, List.append_assoc] at h
      exact absurd (h ▸ hlast) (part'.not_isGap_text_append _)
  | cons part parts ih =>
    cases parts' with
    | nil =>
      rw [List.flatMap_nil, List.nil_append, List.flatMap_cons, List.append_assoc] at h
      exact absurd (h ▸ hlast') (part.not_isGap_text_append _)
    | cons part' parts' =>
      rw [List.flatMap_cons, List.flatMap_cons, List.append_assoc, List.append_assoc] at h
      obtain ⟨rfl, hrest⟩ := text_append_inj (atBoundary_flatMap_text hgaps hlast.atBoundary)
        (atBoundary_flatMap_text hgaps' hlast'.atBoundary) h
      obtain ⟨rfl, rfl⟩ := ih (fun p hp ↦ hgaps p (List.mem_of_mem_tail hp))
        (fun p hp ↦ hgaps' p (List.mem_of_mem_tail hp)) hrest
      exact ⟨rfl, rfl⟩

end Part

/-- The text of a layout determines the layout. -/
theorem Layout.text_injective : Function.Injective Layout.text := by
  intro layout layout' h
  obtain ⟨parts, last, hgaps, hlast⟩ := layout
  obtain ⟨parts', last', hgaps', hlast'⟩ := layout'
  obtain ⟨rfl, rfl⟩ := Part.flatMap_text_append_inj hgaps hgaps' hlast hlast'
    (String.ofList_injective h)
  rfl

/-! ### Queries -/

/-- Every layout is read. -/
theorem Layout.tokens_text (layout : Layout) : Query.tokens layout.text = .ok layout.tokens := by
  rw [Query.tokens, text, String.toList_ofList,
    tokensFrom_parts_append layout.separated layout.isGap.atBoundary, tokensFrom_gap layout.isGap]
  simp [Except.map, tokens]

/-- Every query that is read has a layout. -/
theorem exists_layout_of_tokens {query : String} {ts : List Placed} (h : tokens query = .ok ts) :
    ∃ layout : Layout, layout.text = query ∧ layout.tokens = ts := by
  obtain ⟨parts, last, hgaps, hlast, hquery, rfl⟩ := exists_parts_of_tokensFrom h
  exact ⟨⟨parts, last, hgaps, hlast⟩, by simp [Layout.text, ← hquery], rfl⟩

/-- The tokens of a query are those of its layout, of which there is at most one. -/
theorem tokens_eq_ok_iff_layout (query : String) (ts : List Placed) :
    (tokens query = .ok ts ↔ ∃ layout : Layout, layout.text = query ∧ layout.tokens = ts) ∧
      Function.Injective Layout.text := by
  refine ⟨⟨exists_layout_of_tokens, ?_⟩, Layout.text_injective⟩
  rintro ⟨layout, rfl, rfl⟩
  exact layout.tokens_text

end SpacedReview.Query

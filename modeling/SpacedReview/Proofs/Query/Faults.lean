import Mathlib.Data.List.Chain
import SpacedReview.Proofs.Query.Broken
import SpacedReview.Query.Group

/-!
# What faults say

A fault names a byte offset and the text that stands there, and both are honest: the text does stand
there, everything up to the item it is in can be read, and what it looks like is what the fault says
(`Fault.Shows`). Reading stops at the first such item, so nothing that is written behind it, with a
blank in between, changes the fault; only a quote that was never closed could still be.

A query that can be read is refused for one of its keywords. A keyword needs a term in front of it,
and the last one also a term behind it; the first that lacks one is reported (`DanglesAt`).

## Main statements

* `Broken.shows`: a broken item looks like its fault.
* `exists_danglesAt_of_groups`: the keyword that is reported is the first that joins nothing.
* `faults_tell`: what the faults of a query say about it.
-/

namespace SpacedReview.Query

open SpacedReview.Text

/-! ### Broken items -/

/-- What the text that is reported with a fault looks like, and what may stand behind it. -/
def Fault.Shows : Fault → List Char → List Char → Prop
  | unterminatedQuote, token, behind => (∃ v, '"' ∉ v ∧ token = '"' :: v) ∧ behind = []
  | textAfterQuote, token, behind =>
    (∃ v w, '"' ∉ v ∧ IsWord w ∧ token = ('"' :: v ++ ['"']) ++ w) ∧ atBoundary behind = true
  | missingValue, token, behind =>
    (∃ k name op, IsName name ∧ token = List.replicate k '-' ++ (name ++ Operator.symbol op)) ∧
      atBoundary behind = true
  | danglingNegation, token, behind =>
    (∃ k, k ≠ 0 ∧ token = List.replicate k '-') ∧ atBoundary behind = true
  | danglingOr, _, _ => False

namespace Broken

/-- A broken item looks like its fault. -/
theorem shows {b : Broken} {rest : List Char} (h : b.Ends rest) : b.fault.Shows b.token rest := by
  cases b with
  | negation k pos => exact ⟨⟨k, pos, rfl⟩, h⟩
  | filter k name op isName => exact ⟨⟨k, name, op, isName, rfl⟩, h⟩
  | literal o l =>
    cases l with
    | unclosed v unquoted => exact ⟨⟨v, unquoted, rfl⟩, h⟩
    | prolonged v w unquoted isWord =>
      exact ⟨⟨v, w, unquoted, isWord, by simp [token, BrokenLiteral.behind]⟩, h⟩

/-- Where a broken item ends it also ends with a gap and any text behind, unless a quote may still
be closed. -/
theorem Ends.append {b : Broken} {rest : List Char} (h : b.Ends rest)
    (hfault : b.fault ≠ .unterminatedQuote) {w : List Char} (hw : IsGap w) (hne : w ≠ [])
    (cs : List Char) : b.Ends (rest ++ (w ++ cs)) := by
  have hboundary : atBoundary rest = true → atBoundary (rest ++ (w ++ cs)) = true := by
    intro hrest
    cases rest with
    | nil =>
      rw [List.nil_append]
      exact atBoundary_append hw hne
    | cons c rest => exact hrest
  cases b with
  | negation k pos => exact hboundary h
  | filter k name op isName => exact hboundary h
  | literal o l =>
    cases l with
    | unclosed v unquoted => exact absurd rfl hfault
    | prolonged v w unquoted isWord => exact hboundary h

end Broken

/-! ### Broken queries -/

namespace BrokenQuery

/-- In front of the broken item stands a query that can be read. -/
theorem exists_tokens_front (q : BrokenQuery) : ∃ ts, tokens (String.ofList q.front) = .ok ts :=
  ⟨_, Layout.tokens_text ⟨q.parts, q.gap, q.separated, q.isGap⟩⟩

/-- The query in front of the broken item is empty or ends in a blank. -/
theorem front_eq_nil_or (q : BrokenQuery) :
    q.front = [] ∨ ∃ c ∈ q.front.getLast?, isBlank c = true := by
  by_cases hgap : q.gap = []
  · have hparts : q.parts = [] := by
      by_contra hne
      exact q.detached hne hgap
    exact .inl (by simp [front, hparts, hgap])
  · refine .inr ⟨q.gap.getLast hgap, ?_, q.isGap _ (List.getLast_mem hgap)⟩
    simp [front, List.getLast?_append, List.getLast?_eq_some_getLast hgap]

/-- A broken query with a gap and any text behind it is broken in the same way. -/
theorem exists_append (q : BrokenQuery) (hfault : q.item.fault ≠ .unterminatedQuote)
    {w : List Char} (hw : IsGap w) (hne : w ≠ []) (cs : List Char) :
    ∃ q' : BrokenQuery, q'.text = q.text ++ (w ++ cs) ∧
      ∀ position, q'.malformed position = q.malformed position :=
  ⟨{ q with rest := q.rest ++ (w ++ cs), ends := q.ends.append hfault hw hne cs },
    by simp [text, front], fun _ ↦ rfl⟩

end BrokenQuery

/-! ### Keywords -/

/-- Does a row of tokens end in a term? -/
def EndsInTerm (ts : List Placed) : Prop := ∃ p ∈ ts.getLast?, p.token ≠ .or

/-- Every keyword of a row of tokens has a term directly in front: none starts the row, and none
stands behind another. -/
def KeywordsFollow (ts : List Placed) : Prop :=
  (∀ p ∈ ts.head?, p.token ≠ .or) ∧ ts.IsChain fun p p' ↦ p'.token = .or → p.token ≠ .or

/-- The keyword at a byte offset is the first in a row of tokens that has no term in front of it, or
it is the last token and has nothing behind it. -/
def DanglesAt (ts : List Placed) (position : Nat) : Prop :=
  ∃ front behind, ts = front ++ ⟨.or, position⟩ :: behind ∧ KeywordsFollow front ∧
    (¬ EndsInTerm front ∨ behind = [])

/-- A row in front of a term does not change which keyword dangles, if none of its own does. -/
theorem DanglesAt.append {us ts : List Placed} {t : Term} {position q : Nat}
    (h : DanglesAt (⟨.term t, q⟩ :: ts) position) (hus : KeywordsFollow us) (hne : us ≠ []) :
    DanglesAt (us ++ ⟨.term t, q⟩ :: ts) position := by
  obtain ⟨front, behind, hcut, ⟨-, hchain⟩, hdangles⟩ := h
  -- the keyword is not the first token
  obtain ⟨front, rfl⟩ : ∃ front', front = ⟨.term t, q⟩ :: front' := by
    cases front with
    | nil => simp at hcut
    | cons p front => exact ⟨front, by rw [(List.cons.inj hcut).1]⟩
  refine ⟨us ++ ⟨.term t, q⟩ :: front, behind, by simp [hcut], ⟨?_, ?_⟩, ?_⟩
  · rw [List.head?_append_of_ne_nil _ hne]
    exact hus.1
  · refine List.isChain_append.2 ⟨hus.2, hchain, fun p _ p' hp' hor ↦ ?_⟩
    obtain rfl : ⟨.term t, q⟩ = p' := Option.some.inj hp'
    cases hor
  · rwa [EndsInTerm, List.getLast?_append_of_ne_nil _ (List.cons_ne_nil _ _)]

/-- Where the groups behind a term are refused, a keyword dangles. -/
theorem exists_danglesAt_of_groupsBehind {g : Group} {ts : List Placed} {m : Malformed}
    (h : groupsBehind g ts = .error m) (t : Term) (q : Nat) :
    ∃ position, DanglesAt (⟨.term t, q⟩ :: ts) position ∧ m = danglingOr position := by
  have hsingle : ∀ t q, KeywordsFollow [⟨.term t, q⟩] := fun t q ↦ by simp [KeywordsFollow]
  have hpair : ∀ t q p, KeywordsFollow [⟨.term t, q⟩, ⟨.or, p⟩] := fun t q p ↦ by
    simp [KeywordsFollow]
  fun_induction groupsBehind g ts generalizing t q with
  | case1 g => cases h
  | case2 g u p rest ih =>
    rcases bind_eq_error_iff.1 h with h | ⟨gs, -, h⟩
    · obtain ⟨position, hdangles, rfl⟩ := ih h u p
      exact ⟨position, hdangles.append (hsingle t q) (by simp), rfl⟩
    · cases h
  | case3 g p u r rest ih =>
    obtain ⟨position, hdangles, rfl⟩ := ih h u r
    exact ⟨position, hdangles.append (hpair t q p) (by simp), rfl⟩
  | case4 g p position rest =>
    obtain rfl := Except.error.inj h
    exact ⟨position,
      ⟨[⟨.term t, q⟩, ⟨.or, p⟩], rest, rfl, hpair t q p, .inl (by simp [EndsInTerm])⟩, rfl⟩
  | case5 g position =>
    obtain rfl := Except.error.inj h
    exact ⟨position, ⟨[⟨.term t, q⟩], [], rfl, hsingle t q, .inr rfl⟩, rfl⟩

/-- Where the groups of a row of tokens are refused, a keyword dangles. -/
theorem exists_danglesAt_of_groups {ts : List Placed} {m : Malformed} (h : groups ts = .error m) :
    ∃ position, DanglesAt ts position ∧ m = danglingOr position := by
  match ts, h with
  | ⟨.term t, q⟩ :: rest, h => exact exists_danglesAt_of_groupsBehind h t q
  | ⟨.or, position⟩ :: rest, h =>
    obtain rfl := Except.error.inj h
    exact ⟨position, ⟨[], rest, rfl, by simp [KeywordsFollow], .inl (by simp [EndsInTerm])⟩, rfl⟩

/-! ### Keywords in the text -/

namespace Part

/-- A placed token is that of a part, and placed where the item of the part starts. -/
theorem exists_of_mem_placed {position : Nat} {parts : List Part} {p : Placed}
    (h : p ∈ placed position parts) :
    ∃ front part behind, parts = front ++ part :: behind ∧ p.token = part.token ∧
      p.position = position + byteLength (front.flatMap text ++ part.gap) := by
  induction parts generalizing position with
  | nil => cases h
  | cons part parts ih =>
    rcases List.mem_cons.1 h with rfl | h
    · exact ⟨[], part, parts, rfl, rfl, rfl⟩
    · obtain ⟨front, part', behind, rfl, htoken, hposition⟩ := ih h
      refine ⟨part :: front, part', behind, rfl, htoken, ?_⟩
      rw [hposition]
      simp [Nat.add_assoc]

/-- The keyword is written as such. -/
theorem item_of_token_or {part : Part} (h : part.token = .or) : part.item = ['O', 'R'] := by
  obtain ⟨gap, dashes, body, isGap⟩ := part
  cases body with
  | literal v unquoted => cases h
  | filter name op value isLead => cases h
  | word v isWord noQuote noDash noLead =>
    simp only [token, Body.token] at h
    split at h
    · rename_i hkeyword
      simp [item, Body.text, hkeyword.1, hkeyword.2]
    · cases h

end Part

/-- A keyword stands in the query where it is placed. -/
theorem exists_keyword_of_tokens {s : String} {ts : List Placed} {position : Nat}
    (h : tokens s = .ok ts) (hmem : ⟨.or, position⟩ ∈ ts) :
    ∃ before behind, s.toList = before ++ ("OR".toList ++ behind) ∧
      position = byteLength before := by
  obtain ⟨layout, rfl, rfl⟩ := exists_layout_of_tokens h
  obtain ⟨front, part, behind, hparts, htoken, hposition⟩ := Part.exists_of_mem_placed hmem
  have hitem := Part.item_of_token_or htoken.symm
  refine ⟨front.flatMap Part.text ++ part.gap, behind.flatMap Part.text ++ layout.last, ?_, ?_⟩
  · simp [Layout.text, hparts, Part.text, hitem]
  · simpa using hposition

/-! ### Queries -/

/-- A query whose tokens cannot be read is well-formed up to the start of an item, and in this item
stands, at the byte offset that is reported and behind no blank, the text that is reported, which
looks like the fault. Unless the fault is a quote that is not closed, it stays the same whatever is
written behind the query with a gap between. If the tokens can be read, the query can only be
refused for a keyword, and the first one that joins nothing is reported where it stands. -/
theorem faults_tell (s : String) :
    (∀ m, tokens s = .error m →
      (∃ before inside behind, s.toList = before ++ (inside ++ (m.token.toList ++ behind)) ∧
        m.position = byteLength (before ++ inside) ∧
        (before = [] ∨ ∃ c ∈ before.getLast?, isBlank c = true) ∧
        (∃ ts, tokens (String.ofList before) = .ok ts) ∧
        (∃ c ∈ (inside ++ m.token.toList).head?, isBlank c = false) ∧
        (∀ c ∈ inside, isBlank c = false) ∧
        m.fault.Shows m.token.toList behind) ∧
      (m.fault ≠ .unterminatedQuote → ∀ w t : String, IsGap w.toList → w ≠ "" →
        tokens (s ++ w ++ t) = .error m)) ∧
    ∀ ts m, tokens s = .ok ts → Condition.parse s = .error m →
      m.fault = .danglingOr ∧ m.token = "OR" ∧ DanglesAt ts m.position ∧
        ∃ before behind, s.toList = before ++ (m.token.toList ++ behind) ∧
          m.position = byteLength before := by
  refine ⟨fun m h ↦ ?_, fun ts m htokens hparse ↦ ?_⟩
  · obtain ⟨q, htext, rfl⟩ := tokensFrom_eq_error_iff.1 h
    have htoken : (q.malformed 0).token.toList = q.item.token := String.toList_ofList
    refine ⟨⟨q.front, q.item.inside, q.rest, ?_, ?_, q.front_eq_nil_or, q.exists_tokens_front, ?_,
      fun c hc ↦ Broken.isBlank_of_mem_inside hc, ?_⟩, fun hfault w t hw hne ↦ ?_⟩
    · rw [htoken, ← htext, BrokenQuery.text, Broken.text, List.append_assoc]
    · simp [BrokenQuery.malformed, Broken.malformed]
    · obtain ⟨c, cs, hcs, hc⟩ := q.item.exists_text_eq_cons
      refine ⟨c, ?_, hc⟩
      rw [htoken, ← Broken.text, hcs]
      rfl
    · rw [htoken]
      exact q.item.shows q.ends
    · obtain ⟨q', htext', hmalformed⟩ := q.exists_append hfault hw (by simpa using hne) t.toList
      rw [tokens, tokensFrom_eq_error_iff]
      refine ⟨q', ?_, hmalformed 0⟩
      rw [htext', htext, String.toList_append, String.toList_append, List.append_assoc]
  · have hgroups : groups ts = .error m := by
      rcases bind_eq_error_iff.1 hparse with hparse | ⟨ts', hts', hparse⟩
      · rw [htokens] at hparse
        cases hparse
      · obtain rfl := Except.ok.inj (htokens.symm.trans hts')
        rcases bind_eq_error_iff.1 hparse with hparse | ⟨gs, -, hparse⟩
        · exact hparse
        · cases hparse
    obtain ⟨position, hdangles, rfl⟩ := exists_danglesAt_of_groups hgroups
    have hmem : ⟨.or, position⟩ ∈ ts := by
      obtain ⟨front, behind, rfl, -, -⟩ := hdangles
      simp
    exact ⟨rfl, rfl, hdangles, exists_keyword_of_tokens htokens hmem⟩

/-- A literal that goes on is reported inside its item, also if a quote follows that is not closed;
of two keywords in a row the second is reported. Byte offsets count the first character twice. -/
theorem faults_tell_of_prolonged_literal :
    let s := "ä -tag:\"b c\"d"
    let m : Malformed := ⟨.textAfterQuote, 8, "\"b c\"d"⟩
    let ts : List Placed := [⟨.term (.bare "ä"), 0⟩, ⟨.or, 3⟩, ⟨.or, 6⟩, ⟨.term (.bare "b"), 9⟩]
    tokens s = .error m ∧
      (∃ before inside behind, s.toList = before ++ (inside ++ (m.token.toList ++ behind)) ∧
        m.position = byteLength (before ++ inside) ∧ m.fault.Shows m.token.toList behind) ∧
      tokens (s ++ " " ++ "\"e") = .error m ∧
      tokens "ä OR OR b" = .ok ts ∧ Condition.parse "ä OR OR b" = .error ⟨.danglingOr, 6, "OR"⟩ ∧
      DanglesAt ts 6 := by
  intro s m ts
  have hm : tokens s = .error m := by decide +kernel
  have hts : tokens "ä OR OR b" = .ok ts := by decide +kernel
  have hparse : Condition.parse "ä OR OR b" = .error ⟨.danglingOr, 6, "OR"⟩ := by decide +kernel
  obtain ⟨⟨before, inside, behind, hcut, hposition, -, -, -, -, hshows⟩, hlater⟩ :=
    (faults_tell s).1 m hm
  have hspace : IsGap " ".toList := isGap_space
  exact ⟨hm, ⟨before, inside, behind, hcut, hposition, hshows⟩,
    hlater (by decide) " " "\"e" hspace (by decide), hts, hparse,
    ((faults_tell "ä OR OR b").2 ts _ hts hparse).2.2.1⟩

end SpacedReview.Query

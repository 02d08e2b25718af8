import Mathlib.Data.Set.List
import SpacedReview.Proofs.Query.Printing

/-!
# Conditions that can be asked for

A query can ask for a condition if the condition has the shape that grouping gives, and every term
in it can be written down. The shape is that of a group, or of a row of at least two groups, and a
group is a term or a row of at least two (`Condition.hasTwoLevels_iff`). A term can be written down
if its parts can, with one exception: a value with quotes inside has to stand without quotes around
it, and then it may not start with the `=` that would end the operator in front
(`Term.askable_iff`).

The printer never chooses between two ways of writing a value, and puts a value without blanks
behind an operator as it is. So among the conditions that can be asked for, the ones with a glued
term are those that are not read back from their texts, and there are no others that are.

Both facts are about all trees, whatever they look like. A query is only ever read as the condition
of some groups, so a tree of another shape needs no look at its text.

## Main statements

* `exists_parse_eq_iff`: the conditions that queries ask for.
* `parse_text_eq_self_iff`: the conditions that are read back from their texts.
-/

namespace SpacedReview.Query

open SpacedReview.Text

/-! ### Shapes -/

namespace Condition

/-- A term, or a row of at least two terms of which any may hold. -/
def IsGroup : Condition → Prop
  | term _ => True
  | any cs => 2 ≤ cs.length ∧ ∀ c ∈ cs, ∃ t, term t = c
  | all _ => False

/-- A group, or a row of at least two groups that must all hold. -/
def HasTwoLevels : Condition → Prop
  | all cs => 2 ≤ cs.length ∧ ∀ c ∈ cs, c.IsGroup
  | c => c.IsGroup

theorem isGroup_condition (g : Group) : g.condition.IsGroup := by
  rcases g.condition_eq with ⟨h, -⟩ | ⟨h, hothers⟩
  · rw [h]
    trivial
  · rw [h]
    refine ⟨?_, fun c hc ↦ ?_⟩
    · have := List.length_pos_iff.2 hothers
      simp only [Group.terms, List.length_map, List.length_cons]
      omega
    · obtain ⟨t, -, ht⟩ := List.mem_map.1 hc
      exact ⟨t, ht⟩

/-- The groups are the conditions of this form. -/
theorem isGroup_iff {c : Condition} : c.IsGroup ↔ ∃ g : Group, g.condition = c := by
  constructor
  · intro h
    match c, h with
    | term t, _ => exact ⟨⟨t, []⟩, rfl⟩
    | any cs, ⟨hlength, hterms⟩ =>
      obtain ⟨ts, rfl⟩ : cs ∈ Set.range (List.map term) := Set.range_list_map term ▸ hterms
      match ts, hlength with
      | t :: u :: ts, _ => exact ⟨⟨t, u :: ts⟩, rfl⟩
  · rintro ⟨g, rfl⟩
    exact isGroup_condition g

theorem hasTwoLevels_condition (g : Group) : g.condition.HasTwoLevels := by
  have h := isGroup_condition g
  rcases g.condition_eq with ⟨hcondition, -⟩ | ⟨hcondition, -⟩ <;>
    · rw [hcondition] at h ⊢
      exact h

/-- Grouping gives the conditions of two levels. -/
theorem hasTwoLevels_iff {c : Condition} : c.HasTwoLevels ↔ ∃ gs, ofGroups gs = some c := by
  constructor
  · intro h
    match c, h with
    | term t, _ => exact ⟨[⟨t, []⟩], rfl⟩
    | any cs, h =>
      obtain ⟨g, hg⟩ := isGroup_iff.1 (show (any cs).IsGroup from h)
      exact ⟨[g], congrArg some hg⟩
    | all cs, ⟨hlength, hgroups⟩ =>
      have hrange : ∀ c ∈ cs, c ∈ Set.range Group.condition := fun c hc ↦
        isGroup_iff.1 (hgroups c hc)
      obtain ⟨gs, rfl⟩ : cs ∈ Set.range (List.map Group.condition) :=
        Set.range_list_map Group.condition ▸ hrange
      match gs, hlength with
      | g :: g' :: gs, _ => exact ⟨g :: g' :: gs, rfl⟩
  · rintro ⟨gs, hgs⟩
    rcases eq_of_ofGroups hgs with ⟨g, -, rfl⟩ | ⟨g, g', hs, -, rfl⟩
    · exact hasTwoLevels_condition g
    · refine ⟨by simp, fun c hc ↦ ?_⟩
      obtain ⟨h, -, rfl⟩ := List.mem_map.1 hc
      exact isGroup_condition h

/-- What holds of the keyword holds of all tokens of a condition just if it holds of its terms. -/
theorem forall_groupTokens_iff {gs : List Group} {c : Condition} (h : ofGroups gs = some c)
    {P : Token → Prop} (hor : P .or) :
    (∀ t ∈ groupTokens gs, P t) ↔ ∀ t ∈ c.terms, P (.term t) := by
  constructor
  · intro htokens t ht
    exact htokens _ ((mem_terms_of_ofGroups h t).1 ht)
  · rintro hterms (t | _) ht
    · exact hterms t ((mem_terms_of_ofGroups h t).2 ht)
    · exact hor

end Condition

/-! ### Terms -/

/-- A term that can be asked for: its parts can be written, and if there are quotes in its value, so
that no quotes can be put around it, it is not glued. -/
def Term.Askable (t : Term) : Prop := t.Writable ∧ ('"' ∈ t.value.toList → ¬ t.Glued)

/-- Every term that is asked for is of this kind. -/
theorem Body.askable {b : Body} {k : Nat} {t : Term} (h : b.token k = .term t) : t.Askable := by
  refine ⟨Body.writable h, fun hquote hglued ↦ ?_⟩
  obtain ⟨hfield, hstrict, hhead, -⟩ := hglued
  cases b with
  | literal v unquoted =>
    obtain rfl := Token.term.inj h
    cases hfield
  | word v isWord noQuote noDash noLead =>
    rw [token] at h
    split at h
    · cases h
    · obtain rfl := Token.term.inj h
      cases hfield
  | filter name op value isLead =>
    obtain rfl := Token.term.inj h
    cases value with
    | literal v unquoted => exact unquoted (by simpa [WrittenValue.value] using hquote)
    | word v isWord noQuote =>
      refine Operator.atStart?_symbol_append_eq_self_iff.1 (isLead_iff.1 isLead).2 ⟨hstrict, ?_⟩
      simpa [WrittenValue.value, WrittenValue.text] using hhead

/-- A term is askable if some item asks for it. A glued value is written in quotes. -/
theorem Term.askable_iff {t : Term} :
    t.Askable ↔ ∃ (b : Body) (k : Nat), b.token k = .term t := by
  constructor
  · rintro ⟨hwritable, hglued⟩
    by_cases hquote : '"' ∈ t.value.toList
    · obtain ⟨b, -, hb⟩ := exists_body_of_writable hwritable (hglued hquote)
      exact ⟨b, _, hb⟩
    · obtain ⟨field, op, value, negated⟩ := t
      cases field with
      | none =>
        obtain ⟨rfl, -⟩ := hwritable
        exact ⟨.literal value.toList hquote, negated.toNat, by simp [Body.token, decide_negated]⟩
      | some name =>
        obtain ⟨hname, -⟩ := hwritable
        have hlead : IsLead name.toList op (WrittenValue.literal value.toList hquote).text :=
          isLead_iff.2 ⟨hname, Operator.atStart?_symbol_append (by simp [WrittenValue.text])⟩
        exact ⟨.filter name.toList op (.literal value.toList hquote) hlead, negated.toNat,
          by simp [Body.token, decide_negated, WrittenValue.value]⟩
  · rintro ⟨b, k, h⟩
    exact Body.askable h

/-- A token that can be asked for. -/
def Token.Askable : Token → Prop
  | .term t => t.Askable
  | .or => True

/-- A token is askable if some item asks for it. -/
theorem Token.askable_iff {t : Token} : t.Askable ↔ ∃ (b : Body) (k : Nat), b.token k = t := by
  cases t with
  | term t => exact Term.askable_iff
  | or => exact ⟨fun _ ↦ ⟨.keyword, 0, rfl⟩, fun _ ↦ trivial⟩

/-! ### Queries for conditions -/

/-- A row of tokens that can be asked for is laid out with single spaces. -/
theorem exists_layout_iff {ts : List Token} :
    (∃ layout : Layout, layout.items = ts) ↔ ∀ t ∈ ts, t.Askable := by
  constructor
  · rintro ⟨layout, rfl⟩ t ht
    obtain ⟨part, -, rfl⟩ := List.mem_map.1 ht
    exact Token.askable_iff.2 ⟨part.body, part.dashes, rfl⟩
  · intro h
    have hparts : ∃ parts : List Part, parts.map Part.token = ts ∧ ∀ p ∈ parts, p.gap ≠ [] := by
      induction ts with
      | nil => exact ⟨[], rfl, by simp⟩
      | cons t ts ih =>
        obtain ⟨b, k, rfl⟩ := Token.askable_iff.1 (h t (by simp))
        obtain ⟨parts, rfl, hgaps⟩ := ih fun u hu ↦ h u (List.mem_cons_of_mem _ hu)
        have hspace : IsGap [' '] := isGap_space
        exact ⟨⟨[' '], k, b, hspace⟩ :: parts, rfl, List.forall_mem_cons.2 ⟨by simp, hgaps⟩⟩
    obtain ⟨parts, hitems, hgaps⟩ := hparts
    exact ⟨⟨parts, [], fun p hp ↦ hgaps p (List.mem_of_mem_tail hp), isGap_nil⟩, hitems⟩

/-- A condition is asked for by some query just if it is a group or a row of groups, and every term
in it can be asked for. -/
theorem exists_parse_eq_iff (c : Condition) :
    (∃ query, Condition.parse query = .ok (some c)) ↔
      c.HasTwoLevels ∧ ∀ t ∈ c.terms, t.Askable := by
  constructor
  · rintro ⟨query, hparse⟩
    obtain ⟨layout, gs, -, hitems, hgs⟩ := Condition.parse_eq_ok_iff.1 hparse
    refine ⟨Condition.hasTwoLevels_iff.2 ⟨gs, hgs⟩, ?_⟩
    exact (Condition.forall_groupTokens_iff (P := Token.Askable) hgs trivial).1
      (exists_layout_iff.1 ⟨layout, hitems⟩)
  · rintro ⟨hshape, hterms⟩
    obtain ⟨gs, hgs⟩ := Condition.hasTwoLevels_iff.1 hshape
    have hasked := (Condition.forall_groupTokens_iff (P := Token.Askable) hgs trivial).2 hterms
    obtain ⟨layout, hitems⟩ := exists_layout_iff.2 hasked
    exact ⟨layout.text, hgs ▸ layout.parse_text hitems⟩

/-! ### Conditions that are read back -/

/-- What is read can be written. -/
theorem Reads.writable {p : Nat} {cs : List Char} {ts : List Token} (h : Reads p cs ts) :
    ∀ t ∈ ts, t.Writable := by
  obtain ⟨placed, hread, rfl⟩ := h
  obtain ⟨parts, last, -, -, -, rfl⟩ := exists_parts_of_tokensFrom hread
  rw [Part.placed_map_token]
  intro t ht
  obtain ⟨part, -, rfl⟩ := List.mem_map.1 ht
  cases htoken : part.token with
  | or => trivial
  | term t => exact Body.writable htoken

/-- The rows of tokens that are read back from their texts. -/
theorem reads_printTokens_self_iff {p : Nat} {ts : List Token} :
    Reads p (printTokens ts) ts ↔ ∀ t ∈ ts, t.Writable ∧ ¬ t.Glued := by
  constructor
  · intro h t ht
    exact ⟨h.writable t ht, (reads_printTokens_iff h.writable).1 h t ht⟩
  · intro h
    exact (reads_printTokens_iff fun t ht ↦ (h t ht).1).2 fun t ht ↦ (h t ht).2

/-- The condition of a row of groups is read back if the tokens of the groups are. -/
theorem parse_text_iff_reads {gs : List Group} {c : Condition}
    (h : Condition.ofGroups gs = some c) :
    Condition.parse c.text = .ok (some c) ↔
      Reads 0 (printTokens (groupTokens gs)) (groupTokens gs) := by
  rw [← Condition.print_of_ofGroups h, ← h, Condition.parse_eq_ok_ofGroups_iff, Query.tokens,
    Condition.text, String.toList_ofList]
  rfl

/-- A condition is read back from its text just if it is a group or a row of groups, the parts of
every term in it can be written, and no term is glued. -/
theorem parse_text_eq_self_iff (c : Condition) :
    Condition.parse c.text = .ok (some c) ↔
      c.HasTwoLevels ∧ ∀ t ∈ c.terms, t.Writable ∧ ¬ t.Glued := by
  have hgroups : ∀ gs, Condition.ofGroups gs = some c →
      (Condition.parse c.text = .ok (some c) ↔ ∀ t ∈ c.terms, t.Writable ∧ ¬ t.Glued) := by
    intro gs hgs
    rw [parse_text_iff_reads hgs, reads_printTokens_self_iff]
    exact Condition.forall_groupTokens_iff (P := fun t ↦ t.Writable ∧ ¬ t.Glued) hgs
      ⟨trivial, id⟩
  constructor
  · intro hparse
    obtain ⟨-, gs, -, -, hgs⟩ := Condition.exists_groups_of_parse hparse
    exact ⟨Condition.hasTwoLevels_iff.2 ⟨gs, hgs⟩, (hgroups gs hgs).1 hparse⟩
  · rintro ⟨hshape, hterms⟩
    obtain ⟨gs, hgs⟩ := Condition.hasTwoLevels_iff.1 hshape
    exact (hgroups gs hgs).2 hterms

end SpacedReview.Query

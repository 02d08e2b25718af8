import SpacedReview.Proofs.Query.Reading
import SpacedReview.Query.Group

/-!
# From layouts to conditions

A row of groups is written down as a row of tokens, and grouping the tokens is reading that row back
(`groups_eq_ok_iff`): it succeeds exactly on the rows that some groups are written as, and finds
these groups. So a query asks for a condition if its layout is a row of groups, and no more has to
be known about how tokens are grouped.

Every group of a query is a condition that is no conjunction, which makes the groups visible in the
condition again: `Condition.conjuncts` and `Condition.alternatives` take it apart.
-/

namespace SpacedReview.Query

/-! ### Groups as tokens -/

/-- Terms behind another term, each with the keyword in front of it. -/
def alternativeTokens (ts : List Term) : List Token := ts.flatMap fun t ↦ [.or, .term t]

/-- A group as it is written down. -/
def Group.tokens (g : Group) : List Token := .term g.first :: alternativeTokens g.others

/-- A row of groups as it is written down. -/
def groupTokens (gs : List Group) : List Token := gs.flatMap Group.tokens

theorem groupTokens_cons (g : Group) (gs : List Group) :
    groupTokens (g :: gs) = .term g.first :: (alternativeTokens g.others ++ groupTokens gs) := rfl

theorem groupTokens_append (gs hs : List Group) :
    groupTokens (gs ++ hs) = groupTokens gs ++ groupTokens hs := List.flatMap_append

theorem alternativeTokens_append (ts us : List Term) :
    alternativeTokens (ts ++ us) = alternativeTokens ts ++ alternativeTokens us :=
  List.flatMap_append

/-- A placed token and the row behind it. -/
theorem exists_placed_cons {ts : List Placed} {t : Token} {us : List Token}
    (h : ts.map (·.token) = t :: us) :
    ∃ (position : Nat) (rest : List Placed), ts = ⟨t, position⟩ :: rest ∧
      rest.map (·.token) = us := by
  obtain ⟨⟨_, position⟩, rest, rfl, rfl, hrest⟩ := List.map_eq_cons_iff.1 h
  exact ⟨position, rest, rfl, hrest⟩

/-- A group takes up all alternatives that follow it. -/
theorem exists_groupsBehind_alternatives {g : Group} {others : List Term} {ts : List Placed}
    {us : List Token} (h : ts.map (·.token) = alternativeTokens others ++ us) :
    ∃ rest, rest.map (·.token) = us ∧
      groupsBehind g ts = groupsBehind ⟨g.first, g.others ++ others⟩ rest := by
  induction others generalizing g ts with
  | nil => exact ⟨ts, h, by rw [List.append_nil]⟩
  | cons t others ih =>
    obtain ⟨p, ts, rfl, hts⟩ := exists_placed_cons h
    obtain ⟨q, ts, rfl, hothers⟩ := exists_placed_cons hts
    obtain ⟨rest, hrest, heq⟩ := ih (g := g.push t) hothers
    refine ⟨rest, hrest, ?_⟩
    rw [groupsBehind, heq, Group.push, List.append_assoc, List.singleton_append]

/-- A row of groups is read back behind another group. -/
theorem groupsBehind_of_groupTokens {g : Group} {gs : List Group} {ts : List Placed}
    (h : ts.map (·.token) = groupTokens gs) : groupsBehind g ts = .ok (g :: gs) := by
  induction gs generalizing g ts with
  | nil =>
    obtain rfl : ts = [] := List.map_eq_nil_iff.1 h
    rfl
  | cons first gs ih =>
    obtain ⟨p, ts, rfl, hts⟩ := exists_placed_cons h
    obtain ⟨rest, hrest, heq⟩ := exists_groupsBehind_alternatives (g := ⟨first.first, []⟩) hts
    rw [groupsBehind, heq, List.nil_append, ih hrest]
    rfl

/-- Groups that are found behind another group stand there. -/
theorem groupTokens_of_groupsBehind {g : Group} {gs : List Group} {ts : List Placed}
    (h : groupsBehind g ts = .ok gs) :
    groupTokens gs = g.tokens ++ ts.map (·.token) := by
  fun_induction groupsBehind g ts generalizing gs with
  | case1 g =>
    obtain rfl := Except.ok.inj h
    simp [groupTokens]
  | case2 g t p rest ih =>
    obtain ⟨hs, hrest, h⟩ := bind_eq_ok_iff.1 h
    obtain rfl := Except.ok.inj h
    simp [groupTokens_cons, ih hrest, Group.tokens, alternativeTokens]
  | case3 g p t q rest ih =>
    rw [ih h]
    simp [Group.tokens, Group.push, alternativeTokens]
  | case4 => cases h
  | case5 => cases h

/-- Grouping reads back the one way in which groups are written down. -/
theorem groups_eq_ok_iff {ts : List Placed} {gs : List Group} :
    groups ts = .ok gs ↔ ts.map (·.token) = groupTokens gs := by
  constructor
  · intro h
    match ts, h with
    | [], h =>
      obtain rfl := Except.ok.inj h
      rfl
    | ⟨.term t, p⟩ :: rest, h => exact (groupTokens_of_groupsBehind h).symm
    | ⟨.or, p⟩ :: rest, h => cases h
  · intro h
    cases gs with
    | nil =>
      obtain rfl : ts = [] := List.map_eq_nil_iff.1 h
      rfl
    | cons g gs =>
      obtain ⟨p, ts, rfl, hts⟩ := exists_placed_cons h
      obtain ⟨rest, hrest, heq⟩ := exists_groupsBehind_alternatives (g := ⟨g.first, []⟩) hts
      rw [groups, heq, List.nil_append, groupsBehind_of_groupTokens hrest]

theorem groupTokens_eq_nil_iff {gs : List Group} : groupTokens gs = [] ↔ gs = [] := by
  cases gs <;> simp [groupTokens, Group.tokens]

/-! ### Taking conditions apart -/

namespace Condition

/-- The conditions that must all hold: of a query, its groups. -/
def conjuncts : Option Condition → List Condition
  | none => []
  | some (.all cs) => cs
  | some c => [c]

/-- The conditions of which any may hold: of a group, its terms. -/
def alternatives : Condition → List Condition
  | .any cs => cs
  | c => [c]

end Condition

theorem Group.condition_eq (g : Group) :
    g.condition = .term g.first ∧ g.others = [] ∨
      g.condition = .any (g.terms.map .term) ∧ g.others ≠ [] := by
  obtain ⟨first, others⟩ := g
  cases others <;> simp [condition]

@[simp] theorem Group.alternatives_condition (g : Group) :
    g.condition.alternatives = g.terms.map .term := by
  rcases g.condition_eq with ⟨h, hothers⟩ | ⟨h, -⟩
  · rw [h, terms, hothers]
    rfl
  · rw [h]
    rfl

theorem Group.condition_injective : Function.Injective condition := by
  intro g h heq
  have hterms := congrArg Condition.alternatives heq
  rw [alternatives_condition, alternatives_condition] at hterms
  obtain ⟨first, others⟩ := g
  obtain ⟨first', others'⟩ := h
  simpa [terms, List.map_inj_right (f := Condition.term) (fun _ _ ↦ Condition.term.inj)]
    using hterms

/-- The condition of a row of groups is that of its one group, or a conjunction. -/
theorem Condition.eq_of_ofGroups {gs : List Group} {c : Condition} (h : ofGroups gs = some c) :
    (∃ g, gs = [g] ∧ c = g.condition) ∨
      ∃ g g' hs, gs = g :: g' :: hs ∧ c = .all ((g :: g' :: hs).map Group.condition) := by
  rcases gs with _ | ⟨g, _ | ⟨g', gs⟩⟩
  · cases h
  · exact .inl ⟨g, rfl, (Option.some.inj h).symm⟩
  · exact .inr ⟨g, g', gs, rfl, (Option.some.inj h).symm⟩

@[simp] theorem Condition.conjuncts_ofGroups (gs : List Group) :
    conjuncts (ofGroups gs) = gs.map Group.condition := by
  match gs with
  | [] => rfl
  | [g] =>
    rcases g.condition_eq with ⟨h, -⟩ | ⟨h, -⟩ <;> simp [ofGroups, conjuncts, h]
  | _ :: _ :: _ => rfl

theorem Condition.ofGroups_injective : Function.Injective ofGroups := by
  intro gs hs h
  have := congrArg conjuncts h
  rw [conjuncts_ofGroups, conjuncts_ofGroups] at this
  exact (List.map_inj_right fun _ _ ↦ @Group.condition_injective _ _).1 this

/-! ### Parsing -/

/-- The tokens of a layout without their places. -/
def Layout.items (layout : Layout) : List Token := layout.parts.map Part.token

/-- What is parsed is the condition of the groups of the tokens. -/
theorem Condition.exists_groups_of_parse {query : String} {o : Option Condition}
    (h : parse query = .ok o) :
    ∃ ts gs, Query.tokens query = .ok ts ∧ ts.map (·.token) = groupTokens gs ∧
      ofGroups gs = o := by
  obtain ⟨ts, hts, h⟩ := bind_eq_ok_iff.1 h
  obtain ⟨gs, hgs, h⟩ := bind_eq_ok_iff.1 h
  exact ⟨ts, gs, hts, groups_eq_ok_iff.1 hgs, Except.ok.inj h⟩

/-- A query asks for the condition of a row of groups if its tokens are the ones of that row. -/
theorem Condition.parse_eq_ok_ofGroups_iff {query : String} {gs : List Group} :
    parse query = .ok (ofGroups gs) ↔
      ∃ ts, Query.tokens query = .ok ts ∧ ts.map (·.token) = groupTokens gs := by
  constructor
  · intro h
    obtain ⟨ts, hs, hts, htokens, ho⟩ := exists_groups_of_parse h
    obtain rfl := ofGroups_injective ho
    exact ⟨ts, hts, htokens⟩
  · rintro ⟨ts, hts, htokens⟩
    simp only [parse, hts, bind, Except.bind, groups_eq_ok_iff.2 htokens]
    rfl

/-- A query asks for a condition if its layout is a row of groups. -/
theorem Condition.parse_eq_ok_iff {query : String} {o : Option Condition} :
    parse query = .ok o ↔
      ∃ (layout : Layout) (gs : List Group), layout.text = query ∧
        layout.items = groupTokens gs ∧ ofGroups gs = o := by
  constructor
  · intro h
    obtain ⟨ts, gs, hts, htokens, ho⟩ := exists_groups_of_parse h
    obtain ⟨layout, htext, rfl⟩ := exists_layout_of_tokens hts
    refine ⟨layout, gs, htext, ?_, ho⟩
    rw [← htokens, Layout.tokens, Part.placed_map_token]
    rfl
  · rintro ⟨layout, gs, rfl, hitems, rfl⟩
    refine parse_eq_ok_ofGroups_iff.2 ⟨layout.tokens, layout.tokens_text, ?_⟩
    rw [Layout.tokens, Part.placed_map_token]
    exact hitems

/-- A row of groups in a layout is what the layout is parsed as. -/
theorem Layout.parse_text {layout : Layout} {gs : List Group}
    (h : layout.items = groupTokens gs) :
    Condition.parse layout.text = .ok (Condition.ofGroups gs) :=
  Condition.parse_eq_ok_iff.2 ⟨layout, gs, rfl, h, rfl⟩

end SpacedReview.Query

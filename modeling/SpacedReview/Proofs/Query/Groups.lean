import Mathlib.Data.List.SplitBy
import SpacedReview.Proofs.Query.Meaning

/-!
# What the tokens of a query mean

The meaning of a query can be said without its condition, from the tokens alone. The terms fall into
groups, which go on for as long as the keyword stands between two neighbours (`joinedTerms`), and
the query holds if every group has a term that holds. Whether a term holds is read off the schema:
its filter is looked up, a filter that the schema does not know or support is false, and the
negation of the term comes last, so that it is about all the default fields of a term without a
field at once.

Two facts stand behind this, and neither needs the other. The rows that grouping finds are those of
the tokens (`joinedTerms_groupTokens`), which is about queries and not about schemas; and a
condition of groups means what its terms mean (`Schema.holds_of_ofGroups`), which is about schemas
and not about queries.

## Main statements

* `joinedTerms_groupTokens`: the groups that are found are those that the keyword joins.
* `Schema.holds_term`: what a term compiles to holds if the term does.
* `holds_iff_joinedTerms`: a query means what its tokens mean, for every schema.
-/

namespace SpacedReview.Query

/-! ### Groups of tokens -/

/-- The term of a token that is not the keyword. -/
def Token.term? : Token → Option Term
  | .term t => some t
  | .or => none

/-- Is one of two neighbours the keyword, which joins them? -/
def Token.joins (s t : Token) : Bool := s == .or || t == .or

/-- The terms of a row of tokens in groups, each as long as the keyword joins its neighbours. -/
def joinedTerms (ts : List Token) : List (List Term) :=
  (ts.splitBy Token.joins).map (·.filterMap Token.term?)

/-- Of any two neighbours in a chain of alternatives one is the keyword, and a term is its end. -/
theorem isChain_alternatives (t : Term) (ts : List Term) :
    (Token.term t :: alternativeTokens ts).IsChain (fun s u ↦ Token.joins s u = true) ∧
      ∃ last, (Token.term t :: alternativeTokens ts).getLast? = some (.term last) := by
  induction ts generalizing t with
  | nil => exact ⟨List.isChain_singleton _, t, rfl⟩
  | cons u ts ih =>
    obtain ⟨hchain, last, hlast⟩ := ih u
    have hcons : alternativeTokens (u :: ts) = .or :: .term u :: alternativeTokens ts := rfl
    rw [hcons]
    refine ⟨?_, last, ?_⟩
    · refine List.isChain_cons_cons.2 ⟨rfl, List.isChain_cons_cons.2 ⟨rfl, hchain⟩⟩
    · rw [List.getLast?_cons_cons, List.getLast?_cons_cons, hlast]

/-- A row of groups is split between the groups, where a term stands beside a term. -/
theorem splitBy_groupTokens (gs : List Group) :
    (groupTokens gs).splitBy Token.joins = gs.map Group.tokens := by
  induction gs with
  | nil => rfl
  | cons g gs ih =>
    obtain ⟨hchain, last, hlast⟩ := isChain_alternatives g.first g.others
    have hsingle : g.tokens.splitBy Token.joins = [g.tokens] :=
      List.splitBy_of_isChain (List.cons_ne_nil _ _) hchain
    have hcut : ∀ s ∈ g.tokens.getLast?, ∀ t ∈ (groupTokens gs).head?, Token.joins s t = false := by
      intro s hs t ht
      obtain rfl : Token.term last = s := Option.some.inj (hlast.symm.trans hs)
      cases gs with
      | nil => cases ht
      | cons h hs =>
        obtain rfl : Token.term h.first = t := Option.some.inj ht
        rfl
    show (g.tokens ++ groupTokens gs).splitBy Token.joins = _
    rw [List.splitBy_append hcut, hsingle, ih]
    rfl

theorem filterMap_term?_tokens (g : Group) : g.tokens.filterMap Token.term? = g.terms := by
  have hothers : ∀ ts : List Term, (alternativeTokens ts).filterMap Token.term? = ts := by
    intro ts
    induction ts with
    | nil => rfl
    | cons t ts ih => exact congrArg (t :: ·) ih
  exact congrArg (g.first :: ·) (hothers g.others)

/-- The groups of a row of groups are those that the keyword joins. -/
theorem joinedTerms_groupTokens (gs : List Group) :
    joinedTerms (groupTokens gs) = gs.map Group.terms := by
  rw [joinedTerms, splitBy_groupTokens, List.map_map]
  exact List.map_congr_left fun g _ ↦ filterMap_term?_tokens g

/-! ### Terms that hold -/

namespace Schema

variable {Field Atom : Type} (s : Schema Field Atom) (reading : Atom → Bool)

/-- Does the filter hold that a term is on a field? A filter that the field does not support never
does. -/
def filterHolds (t : Term) (field : Field) : Bool := (s.atom? field t.operator t.value).any reading

/-- Does a filter of the term hold, its negation left aside: the one on its field, if it names one,
and else one on a default field? -/
def someFilterHolds (t : Term) : Bool :=
  match t.field with
  | some name => (s.field? name).any (s.filterHolds reading t)
  | none => s.defaults.any (s.filterHolds reading t)

/-- Does a term hold? A negated one does if none of its filters does. -/
def termHolds (t : Term) : Bool := t.negated != s.someFilterHolds reading t

theorem holds_compileFilter (t : Term) (field : Field) :
    (s.compileFilter t field).predicate.holds reading = s.filterHolds reading t field := by
  rw [compileFilter, filterHolds]
  cases s.atom? field t.operator t.value <;> rfl

theorem holds_compileUnsigned (t : Term) :
    (s.compileUnsigned t).predicate.holds reading = s.someFilterHolds reading t := by
  rw [compileUnsigned, someFilterHolds]
  cases t.field with
  | some name =>
    cases hfield : s.field? name with
    | some field => simp only [hfield, holds_compileFilter, Option.any_some]
    | none => simp only [hfield, Predicate.holds, Option.any_none]
  | none =>
    simp only [Predicate.holds, Predicate.holdsAny_eq_any, List.any_map, Function.comp_def,
      holds_compileFilter]

/-- What a term compiles to holds if the term does. -/
theorem holds_term (t : Term) : s.holds reading (.term t) = s.termHolds reading t := by
  rw [holds, compile, compileTerm, termHolds, ← holds_compileUnsigned]
  cases t.negated <;> simp [Predicate.holds]

/-- The negation of a term holds where the term does not. -/
theorem termHolds_negate (t : Term) : s.termHolds reading t.negate = !s.termHolds reading t := by
  rw [← holds_term, ← holds_term, holds_negate]

/-- A group holds if one of its terms does. -/
theorem holds_group (g : Group) :
    s.holds reading g.condition = g.terms.any (s.termHolds reading) := by
  rw [← any_alternatives, Group.alternatives_condition, List.any_map]
  simp only [Function.comp_def, holds_term]

/-- The condition of some groups holds if each of them has a term that does. -/
theorem holds_of_ofGroups {gs : List Group} {c : Condition}
    (h : Condition.ofGroups gs = some c) :
    s.holds reading c = (gs.map Group.terms).all fun ts ↦ ts.any (s.termHolds reading) := by
  rw [← all_conjuncts, ← h, Condition.conjuncts_ofGroups, List.all_map, List.all_map]
  simp only [Function.comp_def, holds_group]

end Schema

/-! ### Queries -/

/-- What a query is compiled to holds just if every group of terms that the keyword joins has a term
that holds, whatever can be searched by and however its filters are read. -/
theorem holds_iff_joinedTerms {Field Atom : Type} (s : Schema Field Atom) (reading : Atom → Bool)
    {query : String} {ts : List Placed} {c : Condition} (htokens : tokens query = .ok ts)
    (hparse : Condition.parse query = .ok (some c)) :
    (s.compile c).predicate.holds reading = true ↔
      ∀ terms ∈ joinedTerms (ts.map (·.token)), ∃ t ∈ terms, s.termHolds reading t = true := by
  obtain ⟨ts', gs, htokens', hgroups, hgs⟩ := Condition.exists_groups_of_parse hparse
  obtain rfl : ts = ts' := Except.ok.inj (htokens.symm.trans htokens')
  rw [hgroups, joinedTerms_groupTokens]
  show s.holds reading c = true ↔ _
  rw [s.holds_of_ofGroups reading hgs, List.all_eq_true]
  simp only [List.any_eq_true]

/-- No field has the name in the second filter, so the filter matches nothing and its negation
holds; the term behind it is found in the second of two default fields. -/
theorem holds_of_unknown_field :
    let s : Schema Bool (Bool × String) :=
      ⟨fun name ↦ if name = "tag" then some true else none, [true, false],
        fun field op value ↦ if op = .has then some (field, value) else none⟩
    let reading : Bool × String → Bool := (· == (false, "b"))
    let tag := Term.fielded "tag" .less "3"
    let colour := (Term.fielded "colour" .has "red").negate
    ∃ ts c, tokens "tag<3 OR -colour:red b" = .ok ts ∧
      Condition.parse "tag<3 OR -colour:red b" = .ok (some c) ∧
      joinedTerms (ts.map (·.token)) = [[tag, colour], [.bare "b"]] ∧
      (s.compile c).predicate.holds reading = true := by
  intro s reading tag colour
  let ts : List Placed := [⟨.term tag, 0⟩, ⟨.or, 6⟩, ⟨.term colour, 9⟩, ⟨.term (.bare "b"), 21⟩]
  have htokens : tokens "tag<3 OR -colour:red b" = .ok ts := by decide +kernel
  have hgroups : ts.map (·.token) = groupTokens [⟨tag, [colour]⟩, ⟨.bare "b", []⟩] := rfl
  have hparse : Condition.parse "tag<3 OR -colour:red b" =
      .ok (some (.all [.any [.term tag, .term colour], .term (.bare "b")])) :=
    Condition.parse_eq_ok_ofGroups_iff.2 ⟨ts, htokens, hgroups⟩
  have hjoined : joinedTerms (ts.map (·.token)) = [[tag, colour], [.bare "b"]] := by
    rw [hgroups, joinedTerms_groupTokens]
    rfl
  refine ⟨ts, _, htokens, hparse, hjoined, (holds_iff_joinedTerms s reading htokens hparse).2 ?_⟩
  rw [hjoined]
  have hcolour : s.termHolds reading colour = true := by decide
  have hb : s.termHolds reading (.bare "b") = true := by decide
  simp [hcolour, hb]

end SpacedReview.Query

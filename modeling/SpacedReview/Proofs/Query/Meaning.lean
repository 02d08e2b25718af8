import SpacedReview.Proofs.Query.Compiling
import SpacedReview.Proofs.Query.Juxtaposition

/-!
# What queries mean side by side

A condition holds under a reading of the filters that it compiles to. Whatever the schema and the
reading, a row of conditions then means what its members mean together, and the negation of a term
means the opposite of the term, also where the filter is one that the schema does not support: such
a filter is false, so its negation is true.

With this the laws of juxtaposition are laws about meanings. A gap between two queries is a
conjunction, the keyword a disjunction, and a dash a negation.

## Main statements

* `Schema.all_conjuncts`, `Schema.any_alternatives`: a condition means what its parts mean.
* `Condition.exists_parse_gap`, `Condition.exists_parse_or`, `Schema.holds_negate`: the meaning of
  queries that are put together.
-/

namespace SpacedReview.Query

/-! ### Meaning -/

namespace Schema

variable {Field Atom : Type} (s : Schema Field Atom) (reading : Atom → Bool)

/-- Does a condition hold under a reading of the filters that it compiles to? -/
def holds (c : Condition) : Bool := (s.compile c).predicate.holds reading

theorem predicates_compileRow (cs : List Condition) :
    (s.compileRow cs).predicates = cs.map fun c ↦ (s.compile c).predicate := by
  induction cs with
  | nil => rfl
  | cons c cs ih => rw [compileRow, ih, List.map_cons]

theorem holds_all (cs : List Condition) : s.holds reading (.all cs) = cs.all (s.holds reading) := by
  rw [holds, compile, Predicate.holds, Predicate.holdsAll_eq_all, predicates_compileRow,
    List.all_map]
  rfl

theorem holds_any (cs : List Condition) : s.holds reading (.any cs) = cs.any (s.holds reading) := by
  rw [holds, compile, Predicate.holds, Predicate.holdsAny_eq_any, predicates_compileRow,
    List.any_map]
  rfl

/-- A term means the opposite of its negation. -/
theorem holds_negate (t : Term) :
    s.holds reading (.term t.negate) = !s.holds reading (.term t) := by
  have hunsigned : s.compileUnsigned t.negate = s.compileUnsigned t := rfl
  rw [holds, holds, compile, compile, compileTerm, compileTerm, hunsigned, Term.negate]
  cases t.negated <;> simp [Predicate.holds]

/-- A condition holds if all its conjuncts do. -/
theorem all_conjuncts (c : Condition) :
    (Condition.conjuncts (some c)).all (s.holds reading) = s.holds reading c := by
  cases c with
  | all cs => rw [holds_all, Condition.conjuncts]
  | term t => exact Bool.and_true _
  | any cs => exact Bool.and_true _

/-- A condition holds if one of its alternatives does. -/
theorem any_alternatives (c : Condition) :
    c.alternatives.any (s.holds reading) = s.holds reading c := by
  cases c with
  | any cs => rw [holds_any, Condition.alternatives]
  | term t => exact Bool.or_false _
  | all cs => exact Bool.or_false _

end Schema

/-! ### Queries put together -/

namespace Condition

/-- A query for a condition is not blank. -/
theorem not_isGap_of_parse {q : String} {c : Condition} (h : parse q = .ok (some c)) :
    ¬ IsGap q.toList := by
  intro hgap
  rw [parse_eq_ok_none_iff.2 hgap] at h
  cases h

theorem conjuncts_ne_nil_of_parse {q : String} {c : Condition} (h : parse q = .ok (some c)) :
    conjuncts (some c) ≠ [] := by
  have hrows := hasEmptyRow_of_parse h
  cases c with
  | all cs =>
    rintro rfl
    cases hrows
  | term t => exact List.cons_ne_nil _ _
  | any cs => exact List.cons_ne_nil _ _

/-- What has conjuncts is a condition. -/
theorem exists_eq_some_of_conjuncts {o : Option Condition} (h : conjuncts o ≠ []) :
    ∃ c, o = some c := by
  cases o with
  | none => exact absurd rfl h
  | some c => exact ⟨c, rfl⟩

theorem conjuncts_of_ne_all {c : Condition} (h : ∀ cs, c ≠ .all cs) : conjuncts (some c) = [c] := by
  cases c with
  | all cs => exact absurd rfl (h cs)
  | term t => rfl
  | any cs => rfl

variable {q₁ q₂ w : String} {c₁ c₂ : Condition}

/-- With a gap between them, two queries ask for what both ask for. -/
theorem exists_parse_gap (h₁ : parse q₁ = .ok (some c₁)) (h₂ : parse q₂ = .ok (some c₂))
    (hw : IsGap w.toList) (hne : w ≠ "") :
    ∃ c, parse (q₁ ++ w ++ q₂) = .ok (some c) ∧
      ∀ {Field Atom : Type} (s : Schema Field Atom) (reading : Atom → Bool),
        s.holds reading c = (s.holds reading c₁ && s.holds reading c₂) := by
  obtain ⟨o, hparse, hconjuncts⟩ := exists_parse_append h₁ h₂ hw hne
  obtain ⟨c, rfl⟩ := exists_eq_some_of_conjuncts (o := o) (by
    rw [hconjuncts]
    exact List.append_ne_nil_of_left_ne_nil (conjuncts_ne_nil_of_parse h₁) _)
  refine ⟨c, hparse, fun s reading ↦ ?_⟩
  rw [← s.all_conjuncts reading c, hconjuncts, List.all_append, s.all_conjuncts, s.all_conjuncts]

/-- With the keyword between them, two queries that are no conjunctions ask for what one of them
asks for. -/
theorem exists_parse_or (h₁ : parse q₁ = .ok (some c₁)) (h₂ : parse q₂ = .ok (some c₂))
    (hw : IsGap w.toList) (hne : w ≠ "") (hc₁ : ∀ cs, c₁ ≠ .all cs) (hc₂ : ∀ cs, c₂ ≠ .all cs) :
    ∃ c, parse (q₁ ++ w ++ "OR" ++ w ++ q₂) = .ok (some c) ∧
      ∀ {Field Atom : Type} (s : Schema Field Atom) (reading : Atom → Bool),
        s.holds reading c = (s.holds reading c₁ || s.holds reading c₂) := by
  obtain ⟨o, before, d₁, d₂, behind, hparse, hd₁, hd₂, hconjuncts⟩ :=
    exists_parse_keyword h₁ h₂ hw hne (not_isGap_of_parse h₁) (not_isGap_of_parse h₂)
  rw [conjuncts_of_ne_all hc₁] at hd₁
  rw [conjuncts_of_ne_all hc₂] at hd₂
  obtain ⟨rfl, rfl⟩ : before = [] ∧ c₁ = d₁ := by
    cases before with
    | nil => exact ⟨rfl, (List.cons.inj hd₁).1⟩
    | cons c cs => simp at hd₁
  obtain ⟨rfl, rfl⟩ := List.cons.inj hd₂
  obtain ⟨c, rfl⟩ := exists_eq_some_of_conjuncts (o := o) (by
    rw [hconjuncts]
    exact List.cons_ne_nil _ _)
  refine ⟨c, hparse, fun s reading ↦ ?_⟩
  rw [← s.all_conjuncts reading c, hconjuncts, List.nil_append, List.all_cons, List.all_nil,
    Bool.and_true, s.holds_any, List.any_append, s.any_alternatives, s.any_alternatives]

end Condition

end SpacedReview.Query

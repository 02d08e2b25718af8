import SpacedReview.Proofs.Query.Trees
import SpacedReview.Query.Schema
import SpacedReview.Sql.Truth

/-!
# What conditions compile to

The atoms of a compiled condition are filters of the schema, and the rows of its predicate are those
of the condition, except that a term without a field becomes a row of its own, of the default
fields. So a condition all of whose rows have members compiles to a predicate with the same
property, and the conditions of queries are of this kind.

A predicate only looks at a reading of its own atoms (`Predicate.holds_congr`), so whatever is true
of all filters of a schema can be used in the meaning of a compiled condition.

## Main statements

* `Schema.compile_allAtoms`: the atoms of a compiled condition are filters of the schema.
* `Condition.hasEmptyRow_of_parse`: the rows of the condition of a query have members.
* `Schema.compile_hasEmptyRow`: so have the rows of what such a condition compiles to.
-/

namespace SpacedReview.Query

/-! ### Atoms -/

namespace Predicate

variable {α : Type}

mutual

/-- Are all atoms of a predicate of some kind? -/
def AllAtoms (P : α → Prop) : Predicate α → Prop
  | atom a => P a
  | all ps | any ps => AllAtomsRow P ps
  | not p => AllAtoms P p
  | nothing => True

/-- Are all atoms of a row of predicates of some kind? -/
def AllAtomsRow (P : α → Prop) : List (Predicate α) → Prop
  | [] => True
  | p :: ps => AllAtoms P p ∧ AllAtomsRow P ps

end

mutual

theorem AllAtoms.imp {P Q : α → Prop} (hPQ : ∀ a, P a → Q a) : (p : Predicate α) →
    p.AllAtoms P → p.AllAtoms Q
  | atom a, h => hPQ a h
  | all ps, h | any ps, h => AllAtomsRow.imp hPQ ps h
  | not p, h => AllAtoms.imp hPQ p h
  | nothing, _ => trivial

theorem AllAtomsRow.imp {P Q : α → Prop} (hPQ : ∀ a, P a → Q a) : (ps : List (Predicate α)) →
    AllAtomsRow P ps → AllAtomsRow Q ps
  | [], _ => trivial
  | p :: ps, h => ⟨AllAtoms.imp hPQ p h.1, AllAtomsRow.imp hPQ ps h.2⟩

end

mutual

theorem AllAtoms.and {P Q : α → Prop} : {p : Predicate α} → p.AllAtoms P → p.AllAtoms Q →
    p.AllAtoms fun a ↦ P a ∧ Q a
  | atom _, h, h' => ⟨h, h'⟩
  | all _, h, h' | any _, h, h' => AllAtomsRow.and h h'
  | not p, h, h' => AllAtoms.and (p := p) h h'
  | nothing, _, _ => trivial

theorem AllAtomsRow.and {P Q : α → Prop} : {ps : List (Predicate α)} → AllAtomsRow P ps →
    AllAtomsRow Q ps → AllAtomsRow (fun a ↦ P a ∧ Q a) ps
  | [], _, _ => trivial
  | _ :: _, h, h' => ⟨h.1.and h'.1, h.2.and h'.2⟩

end

theorem allAtomsRow_iff {P : α → Prop} {ps : List (Predicate α)} :
    AllAtomsRow P ps ↔ ∀ p ∈ ps, p.AllAtoms P := by
  induction ps with
  | nil => simp [AllAtomsRow]
  | cons p ps ih => simp [AllAtomsRow, ih]

theorem someHasEmptyRow_eq_false_iff {ps : List (Predicate α)} :
    someHasEmptyRow ps = false ↔ ∀ p ∈ ps, p.hasEmptyRow = false := by
  induction ps with
  | nil => simp [someHasEmptyRow]
  | cons p ps ih => simp [someHasEmptyRow, ih]

end Predicate

/-! ### Compiled conditions -/

namespace Schema

variable {Field Atom : Type} (s : Schema Field Atom)

/-- A filter of a schema. -/
def IsFilter (a : Atom) : Prop := ∃ field op value, s.atom? field op value = some a

theorem compileFilter_allAtoms (t : Term) (field : Field) :
    (s.compileFilter t field).predicate.AllAtoms s.IsFilter := by
  unfold compileFilter
  split
  · rename_i a h
    exact ⟨field, t.operator, t.value, h⟩
  · trivial

theorem compileFilter_hasEmptyRow (t : Term) (field : Field) :
    (s.compileFilter t field).predicate.hasEmptyRow = false := by
  unfold compileFilter
  split <;> rfl

/-- A term compiles to a filter, to nothing or to a row of filters on the default fields, or to the
negation of one of these. -/
theorem compileTerm_induction {P : Predicate Atom → Prop} (t : Term)
    (hfilter : ∀ field, P (s.compileFilter t field).predicate) (hnothing : P .nothing)
    (hany : P (.any (s.defaults.map fun field ↦ (s.compileFilter t field).predicate)))
    (hnot : ∀ p, P p → P (.not p)) : P (s.compileTerm t).predicate := by
  have hunsigned : P (s.compileUnsigned t).predicate := by
    unfold compileUnsigned
    split
    · split
      · exact hfilter _
      · exact hnothing
    · simpa only [List.map_map, Function.comp_def] using hany
  cases h : t.negated <;> simp only [compileTerm, h]
  · exact hunsigned
  · exact hnot _ hunsigned

theorem compileTerm_allAtoms (t : Term) : (s.compileTerm t).predicate.AllAtoms s.IsFilter := by
  refine s.compileTerm_induction t (s.compileFilter_allAtoms t) trivial ?_ fun _ h ↦ h
  refine Predicate.allAtomsRow_iff.2 fun p hp ↦ ?_
  obtain ⟨field, -, rfl⟩ := List.mem_map.1 hp
  exact s.compileFilter_allAtoms t field

theorem compileTerm_hasEmptyRow (hdefaults : s.defaults ≠ []) (t : Term) :
    (s.compileTerm t).predicate.hasEmptyRow = false := by
  refine s.compileTerm_induction (P := fun p ↦ p.hasEmptyRow = false) t
    (s.compileFilter_hasEmptyRow t) rfl ?_ fun _ h ↦ h
  simp only [Predicate.hasEmptyRow, Bool.or_eq_false_iff]
  refine ⟨by simpa using hdefaults, Predicate.someHasEmptyRow_eq_false_iff.2 fun p hp ↦ ?_⟩
  obtain ⟨field, -, rfl⟩ := List.mem_map.1 hp
  exact s.compileFilter_hasEmptyRow t field

mutual

/-- A compiled condition has no atoms but filters of the schema. -/
theorem compile_allAtoms : (c : Condition) → (s.compile c).predicate.AllAtoms s.IsFilter
  | .term t => s.compileTerm_allAtoms t
  | .all cs | .any cs => compileRow_allAtoms cs

theorem compileRow_allAtoms : (cs : List Condition) →
    Predicate.AllAtomsRow s.IsFilter (s.compileRow cs).predicates
  | [] => trivial
  | c :: cs => ⟨compile_allAtoms c, compileRow_allAtoms cs⟩

end

end Schema

/-! ### Rows without members -/

namespace Condition

mutual

/-- Does a row in the condition have no members? -/
def hasEmptyRow : Condition → Bool
  | term _ => false
  | all cs | any cs => cs.isEmpty || someHasEmptyRow cs

/-- Does some condition of a row have a row without members? -/
def someHasEmptyRow : List Condition → Bool
  | [] => false
  | c :: cs => hasEmptyRow c || someHasEmptyRow cs

end

theorem someHasEmptyRow_eq_false_iff {cs : List Condition} :
    someHasEmptyRow cs = false ↔ ∀ c ∈ cs, c.hasEmptyRow = false := by
  induction cs with
  | nil => simp [someHasEmptyRow]
  | cons c cs ih => simp [someHasEmptyRow, ih]

theorem hasEmptyRow_group (g : Group) : g.condition.hasEmptyRow = false := by
  rcases g.condition_eq with ⟨h, -⟩ | ⟨h, -⟩
  · rw [h]
    rfl
  · rw [h, hasEmptyRow, Bool.or_eq_false_iff, someHasEmptyRow_eq_false_iff]
    refine ⟨rfl, fun c hc ↦ ?_⟩
    obtain ⟨t, -, rfl⟩ := List.mem_map.1 hc
    rfl

/-- The rows of the condition of a query have members. -/
theorem hasEmptyRow_of_parse {query : String} {c : Condition} (h : parse query = .ok (some c)) :
    c.hasEmptyRow = false := by
  obtain ⟨-, gs, -, -, hgs⟩ := parse_eq_ok_iff.1 h
  rcases eq_of_ofGroups hgs with ⟨g, -, rfl⟩ | ⟨g, g', hs, -, rfl⟩
  · exact hasEmptyRow_group g
  · rw [hasEmptyRow, Bool.or_eq_false_iff, someHasEmptyRow_eq_false_iff]
    refine ⟨rfl, fun c hc ↦ ?_⟩
    obtain ⟨g, -, rfl⟩ := List.mem_map.1 hc
    exact hasEmptyRow_group g

end Condition

namespace Schema

variable {Field Atom : Type} (s : Schema Field Atom)

theorem isEmpty_compileRow (cs : List Condition) :
    (s.compileRow cs).predicates.isEmpty = cs.isEmpty := by
  cases cs <;> rfl

mutual

/-- A condition whose rows have members compiles to a predicate whose rows have members. -/
theorem compile_hasEmptyRow (hdefaults : s.defaults ≠ []) : (c : Condition) →
    c.hasEmptyRow = false → (s.compile c).predicate.hasEmptyRow = false
  | .term t, _ => s.compileTerm_hasEmptyRow hdefaults t
  | .all cs, h | .any cs, h => by
    have hrow : cs.isEmpty = false ∧ Condition.someHasEmptyRow cs = false := by
      simpa [Condition.hasEmptyRow] using h
    rw [compile, Predicate.hasEmptyRow, isEmpty_compileRow, hrow.1, Bool.false_or]
    exact compileRow_hasEmptyRow hdefaults cs hrow.2

theorem compileRow_hasEmptyRow (hdefaults : s.defaults ≠ []) : (cs : List Condition) →
    Condition.someHasEmptyRow cs = false →
      Predicate.someHasEmptyRow (s.compileRow cs).predicates = false
  | [], _ => rfl
  | c :: cs, h => by
    have hparts : c.hasEmptyRow = false ∧ Condition.someHasEmptyRow cs = false := by
      simpa [Condition.someHasEmptyRow] using h
    rw [compileRow, Predicate.someHasEmptyRow, compile_hasEmptyRow hdefaults c hparts.1,
      compileRow_hasEmptyRow hdefaults cs hparts.2, Bool.or_false]

end

end Schema

end SpacedReview.Query

import SpacedReview.Proofs.Query.Printing
import SpacedReview.Proofs.Sql.Independence

/-!
# Warnings and the filters that they are about

A term asks a schema for filters: for one on the field that it names, or for one on each of the
default fields. A name that no field has is asked for as well. The schema answers every request with
an atom or refuses it, and compiling a condition puts the answers of all its terms side by side,
from left to right, whatever the rows and negations around them are. A refused request leaves a
place where the predicate holds of nothing, and gives a warning. So the warnings and these places
are two views of one list (`Schema.Answered`), which is why no filter can be refused without a
warning, and why the warnings come in the order of the places.

## Main statements

* `Schema.answered_compile`: a compiled condition is what its requests are answered with.
* `Schema.warnings_compile`: the warnings are those of the places where a predicate holds of
  nothing.
-/

namespace SpacedReview.Query

/-! ### Leaves -/

namespace Predicate

variable {α : Type}

mutual

/-- The leaves of a predicate, from left to right: its atoms, and `none` for each place where it
holds of nothing. -/
def leaves : Predicate α → List (Option α)
  | atom a => [some a]
  | all ps | any ps => leavesRow ps
  | not p => leaves p
  | nothing => [none]

/-- The leaves of a row of predicates. -/
def leavesRow : List (Predicate α) → List (Option α)
  | [] => []
  | p :: ps => leaves p ++ leavesRow ps

end

end Predicate

/-! ### Requests -/

/-- What a term asks of a schema. -/
inductive Request (Field : Type) where
  /-- A filter on a field. -/
  | onField (field : Field) (operator : Operator) (value : String)
  /-- A filter on a name that no field has. -/
  | onName (name : String)

/-- The warning that a request is refused. -/
def Request.warning {Field : Type} : Request Field → Warning Field
  | onField field op value => .unsupported field op value
  | onName name => .unknownField name

namespace Schema

variable {Field Atom : Type} (s : Schema Field Atom)

/-- What a term asks for, from left to right. -/
def requests (t : Term) : List (Request Field) :=
  match t.field with
  | some name => [(s.field? name).elim (.onName name) (.onField · t.operator t.value)]
  | none => s.defaults.map (.onField · t.operator t.value)

/-- What a schema answers a request with, unless it refuses it. -/
def answer? : Request Field → Option Atom
  | .onField field op value => s.atom? field op value
  | .onName _ => none

/-- The requests of a list that are refused. -/
def refused (rs : List (Request Field)) : List (Request Field) :=
  rs.filter fun r ↦ (s.answer? r).isNone

/-- Leaves that are the answers to a list of requests, and warnings that are about the refused ones
among these. -/
structure Answered (rs : List (Request Field)) (leaves : List (Option Atom))
    (warnings : List (Warning Field)) : Prop where
  leaves_eq : leaves = rs.map s.answer?
  warnings_eq : warnings = (s.refused rs).map Request.warning

namespace Answered

variable {s} {rs rs' : List (Request Field)} {leaves leaves' : List (Option Atom)}
  {warnings warnings' : List (Warning Field)}

theorem nil : s.Answered [] [] [] := ⟨rfl, rfl⟩

theorem append (h : s.Answered rs leaves warnings) (h' : s.Answered rs' leaves' warnings') :
    s.Answered (rs ++ rs') (leaves ++ leaves') (warnings ++ warnings') where
  leaves_eq := by rw [h.leaves_eq, h'.leaves_eq, List.map_append]
  warnings_eq := by
    have hrefused : s.refused (rs ++ rs') = s.refused rs ++ s.refused rs' := List.filter_append _ _
    rw [h.warnings_eq, h'.warnings_eq, hrefused, List.map_append]

/-- A request that is answered. -/
theorem of_eq_some {r : Request Field} {a : Atom} (h : s.answer? r = some a) :
    s.Answered [r] [some a] [] :=
  ⟨by simp [h], by simp [refused, h]⟩

/-- A request that is refused. -/
theorem of_eq_none {r : Request Field} (h : s.answer? r = none) :
    s.Answered [r] [none] [r.warning] :=
  ⟨by simp [h], by simp [refused, h]⟩

/-- There are as many warnings as leaves where nothing holds. -/
theorem length_eq (h : s.Answered rs leaves warnings) :
    warnings.length = leaves.countP Option.isNone := by
  rw [h.warnings_eq, h.leaves_eq, List.length_map, List.countP_map, refused,
    ← List.countP_eq_length_filter]
  rfl

theorem eq_nil_iff (h : s.Answered rs leaves warnings) : warnings = [] ↔ none ∉ leaves := by
  rw [← List.length_eq_zero_iff, h.length_eq, List.countP_eq_zero]
  simp only [Option.isNone_iff_eq_none]
  exact ⟨fun hall hmem ↦ hall none hmem rfl, fun hnone a ha heq ↦ hnone (heq ▸ ha)⟩

end Answered

/-! ### Compiled conditions -/

theorem answered_compileFilter (t : Term) (field : Field) :
    s.Answered [.onField field t.operator t.value] (s.compileFilter t field).predicate.leaves
      (s.compileFilter t field).warnings := by
  unfold compileFilter
  split
  · rename_i a h
    exact .of_eq_some h
  · rename_i h
    exact .of_eq_none h

/-- The filters of a term on several fields. -/
theorem answered_compileFilters (t : Term) (fields : List Field) :
    s.Answered (fields.map (.onField · t.operator t.value))
      (Predicate.leavesRow ((fields.map (s.compileFilter t)).map (·.predicate)))
      ((fields.map (s.compileFilter t)).flatMap (·.warnings)) := by
  induction fields with
  | nil => exact .nil
  | cons field fields ih => exact (s.answered_compileFilter t field).append ih

theorem answered_compileTerm (t : Term) : s.Answered (s.requests t)
    (s.compileTerm t).predicate.leaves (s.compileTerm t).warnings := by
  have hunsigned : s.Answered (s.requests t) (s.compileUnsigned t).predicate.leaves
      (s.compileUnsigned t).warnings := by
    unfold compileUnsigned requests
    cases t.field with
    | none => exact s.answered_compileFilters t s.defaults
    | some name =>
      simp only
      cases s.field? name with
      | none => exact .of_eq_none (r := .onName name) rfl
      | some field => exact s.answered_compileFilter t field
  -- a negation around a term keeps its leaves
  unfold compileTerm
  cases t.negated <;> exact hunsigned

mutual

/-- A compiled condition is what the requests of its terms are answered with. -/
theorem answered_compile : (c : Condition) → s.Answered (c.terms.flatMap s.requests)
    (s.compile c).predicate.leaves (s.compile c).warnings
  | .term t => by
    rw [Condition.terms, List.flatMap_singleton]
    exact s.answered_compileTerm t
  | .all cs | .any cs => answered_compileRow cs

theorem answered_compileRow : (cs : List Condition) →
    s.Answered ((Condition.rowTerms cs).flatMap s.requests)
      (Predicate.leavesRow (s.compileRow cs).predicates) (s.compileRow cs).warnings
  | [] => .nil
  | c :: cs => by
    rw [Condition.rowTerms, List.flatMap_append]
    exact (answered_compile c).append (answered_compileRow cs)

end

/-! ### Negations -/

end Schema

/-- Two terms that differ in their negation at most. -/
structure Term.SameUnsigned (t t' : Term) : Prop where
  field : t.field = t'.field
  operator : t.operator = t'.operator
  value : t.value = t'.value

namespace Condition

variable {R : Term → Term → Prop} {β : Type} {f : Term → List β}

mutual

/-- What is made of the terms of a condition is the same in one of the same shape, if it is so for
the terms. -/
theorem flatMap_terms_congr (hf : ∀ t t', R t t' → f t = f t') : (c d : Condition) →
    c.SameShape R d → c.terms.flatMap f = d.terms.flatMap f
  | .term t, .term t', h => by
    rw [terms, terms, List.flatMap_singleton, List.flatMap_singleton, hf t t' h]
  | .all cs, .all ds, h | .any cs, .any ds, h => flatMap_rowTerms_congr hf cs ds h
  | .term _, .all _, h | .term _, .any _, h | .all _, .term _, h | .all _, .any _, h
  | .any _, .term _, h | .any _, .all _, h => h.elim

theorem flatMap_rowTerms_congr (hf : ∀ t t', R t t' → f t = f t') : (cs ds : List Condition) →
    SameShapeRow R cs ds → (rowTerms cs).flatMap f = (rowTerms ds).flatMap f
  | [], [], _ => rfl
  | c :: cs, d :: ds, h => by
    rw [rowTerms, rowTerms, List.flatMap_append, List.flatMap_append,
      flatMap_terms_congr hf c d h.1, flatMap_rowTerms_congr hf cs ds h.2]
  | [], _ :: _, h | _ :: _, [], h => h.elim

end

end Condition

namespace Schema

variable {Field Atom : Type} (s : Schema Field Atom)

/-- A negation does not change what a term asks for. -/
theorem requests_eq_of_sameUnsigned {t t' : Term} (h : t.SameUnsigned t') :
    s.requests t = s.requests t' := by
  rw [requests, requests, h.field, h.operator, h.value]

/-- The leaves of a compiled condition are, from left to right, the answers to what its terms ask
for, and the warnings are about the requests that are refused, in the same order. So there is one
warning for each leaf where nothing holds, and none just if there is no such leaf. Negating any of
the terms, or no longer negating them, leaves the warnings as they are. -/
theorem warnings_compile (c : Condition) :
    let requests := c.terms.flatMap s.requests
    let leaves := (s.compile c).predicate.leaves
    let warnings := (s.compile c).warnings
    leaves = requests.map s.answer? ∧
      warnings = (s.refused requests).map Request.warning ∧
      warnings.length = leaves.countP Option.isNone ∧ (warnings = [] ↔ none ∉ leaves) ∧
      ∀ d, c.SameShape Term.SameUnsigned d → (s.compile d).warnings = warnings := by
  intro requests leaves warnings
  have hanswered : s.Answered requests leaves warnings := s.answered_compile c
  refine ⟨hanswered.leaves_eq, hanswered.warnings_eq, hanswered.length_eq, hanswered.eq_nil_iff,
    fun d hd ↦ ?_⟩
  have hrequests : requests = d.terms.flatMap s.requests :=
    Condition.flatMap_terms_congr (fun _ _ h ↦ s.requests_eq_of_sameUnsigned h) c d hd
  rw [(s.answered_compile d).warnings_eq, hanswered.warnings_eq, hrequests]

/-- A field that there is not, an operator that neither default field supports, and a value that is
no number, under negations that change sides. -/
theorem warnings_compile_of_negations :
    let condition (negated : Bool) : Condition :=
      .all [.term ⟨some "colour", .has, "red", negated⟩, .any [.term ⟨none, .less, "x", !negated⟩,
        .term ⟨some "level", .equal, "high", negated⟩], .term ⟨some "tag", .has, "a", !negated⟩]
    let c := condition true
    let d := condition false
    let warnings : List (Warning CardField) := [.unknownField "colour",
      .unsupported .entry .less "x", .unsupported .english .less "x",
      .unsupported .level .equal "high"]
    c.SameShape Term.SameUnsigned d ∧ ((cardSchema .epoch).compile c).warnings = warnings ∧
      ((cardSchema .epoch).compile d).warnings = warnings ∧
      ((cardSchema .epoch).compile d).predicate.leaves.countP Option.isNone = 4 := by
  intro condition c d warnings
  have hd : c.SameShape Term.SameUnsigned d :=
    ⟨⟨rfl, rfl, rfl⟩, ⟨⟨rfl, rfl, rfl⟩, ⟨rfl, rfl, rfl⟩, trivial⟩, ⟨rfl, rfl, rfl⟩, trivial⟩
  have hrefused : (cardSchema .epoch).refused (c.terms.flatMap (cardSchema .epoch).requests) =
      [.onName "colour", .onField .entry .less "x", .onField .english .less "x",
        .onField .level .equal "high"] := by
    rfl
  obtain ⟨-, hwarnings, -, -, hnegations⟩ := (cardSchema .epoch).warnings_compile c
  obtain ⟨-, -, hlength, -⟩ := (cardSchema .epoch).warnings_compile d
  rw [hrefused] at hwarnings
  rw [hnegations d hd, hwarnings] at hlength
  exact ⟨hd, hwarnings, (hnegations d hd).trans hwarnings, hlength.symm⟩

end Schema

end SpacedReview.Query

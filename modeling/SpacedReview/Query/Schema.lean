import SpacedReview.Query.Condition
import SpacedReview.Query.Predicate

/-!
# Compiling conditions

A schema says what a domain can be searched by: how a field is named in a query, which fields a
term without a field is about, and which filters each field supports. Compiling a condition against
a schema gives a predicate over the atoms of the schema. A filter that the schema does not know or
support is no error: it becomes `Predicate.nothing`, so that its negation holds of everything, and
it is reported in a warning. Warnings come in the order in which the terms stand in the condition.
-/

namespace SpacedReview.Query

/-- What a domain can be searched by. -/
structure Schema (Field Atom : Type) where
  /-- The field with a given name in queries. -/
  field? : String → Option Field
  /-- The fields that a term without a field is about. -/
  defaults : List Field
  /-- The filter of a field with an operator and a value, if the field supports it. -/
  atom? : Field → Operator → String → Option Atom

/-- A filter that matches nothing. -/
inductive Warning (Field : Type) where
  /-- No field has the name. -/
  | unknownField (name : String)
  /-- The field does not support the operator or the value. -/
  | unsupported (field : Field) (operator : Operator) (value : String)

/-- The words for a warning, given the words for the fields. -/
def Warning.message {Field : Type} (label : Field → String) : Warning Field → String
  | unknownField name => "Unknown field in query: " ++ name
  | unsupported field op value =>
    "Filter " ++ label field ++ String.ofList op.symbol ++ value ++ " matches nothing"

/-- A compiled condition: its predicate, and the warnings met on the way. -/
structure Compiled (Field Atom : Type) where
  predicate : Predicate Atom
  warnings : List (Warning Field)

/-- A compiled row of conditions. -/
structure CompiledRow (Field Atom : Type) where
  predicates : List (Predicate Atom)
  warnings : List (Warning Field)

namespace Schema

variable {Field Atom : Type} (s : Schema Field Atom)

/-- Compiles a term as a filter on one field. -/
def compileFilter (t : Term) (field : Field) : Compiled Field Atom :=
  match s.atom? field t.operator t.value with
  | some a => ⟨.atom a, []⟩
  | none => ⟨.nothing, [.unsupported field t.operator t.value]⟩

/-- Compiles a term, its negation left aside. -/
def compileUnsigned (t : Term) : Compiled Field Atom :=
  match t.field with
  | some name =>
    match s.field? name with
    | some field => s.compileFilter t field
    | none => ⟨.nothing, [.unknownField name]⟩
  | none =>
    let filters := s.defaults.map (s.compileFilter t)
    ⟨.any (filters.map (·.predicate)), filters.flatMap (·.warnings)⟩

/-- Compiles a term. -/
def compileTerm (t : Term) : Compiled Field Atom :=
  let c := s.compileUnsigned t
  if t.negated then { c with predicate := .not c.predicate } else c

mutual

/-- Compiles a condition. -/
def compile : Condition → Compiled Field Atom
  | .term t => s.compileTerm t
  | .all cs =>
    let row := compileRow cs
    ⟨.all row.predicates, row.warnings⟩
  | .any cs =>
    let row := compileRow cs
    ⟨.any row.predicates, row.warnings⟩

/-- Compiles a row of conditions from left to right. -/
def compileRow : List Condition → CompiledRow Field Atom
  | [] => ⟨[], []⟩
  | c :: cs =>
    let first := compile c
    let rest := compileRow cs
    ⟨first.predicate :: rest.predicates, first.warnings ++ rest.warnings⟩

end

end Schema

end SpacedReview.Query

import Mathlib.Logic.Basic
import SpacedReview.Store.Search

/-!
# No value reaches the SQL

The values of a condition only stand in the parameters of its SQL. So two conditions of the same
shape whose terms differ in their values alone are rendered as the same text, with parameters of the
same types in the same places (`Fragment.Alike`), whatever stands in the values: quotes, question
marks and words of SQL among it. The time of a search is another such value.

A value does have a say in whether a filter is supported, since a numeral or the word for a kind may
be expected, and the values of the field `is` choose between two filters. Terms that are alike in
both are twins (`Term.Twins`).

To compare two fragments their values are blanked out. Rendering goes along with this, so the
blanked SQL of a condition is that of the predicate with blanked filters, and there the values are
gone before anything is rendered.

## Main statements

* `Fragment.blank_ofPredicate`: blanking before and after rendering.
* `Filter.template_eq_of_ofTerm?`: the filters of a field.
* `Condition.alike_of_twins`: conditions.
-/

namespace SpacedReview

open SpacedReview.Query SpacedReview.Sql SpacedReview.Store SpacedReview.Time

/-! ### Fragments without values -/

namespace Sql

/-- The types of parameters. -/
inductive ParamType where
  | text
  | integer
  deriving DecidableEq, Repr

namespace Param

/-- The type of a parameter. -/
def type : Param → ParamType
  | text _ => .text
  | integer _ => .integer

/-- The parameter that stands for all parameters of a type. -/
def blank : Param → Param
  | text _ => text ""
  | integer _ => integer 0

@[simp] theorem type_blank (p : Param) : p.blank.type = p.type := by cases p <;> rfl

end Param

namespace Fragment

variable {f g f' g' : Fragment}

/-- Two fragments with the same text, and with parameters of the same types in the same places. -/
structure Alike (f g : Fragment) : Prop where
  sql : f.sql = g.sql
  types : f.params.map Param.type = g.params.map Param.type

/-- A fragment with its values blanked out. -/
def blank (f : Fragment) : Fragment := ⟨f.sql, f.params.map Param.blank⟩

theorem alike_of_blank_eq (h : f.blank = g.blank) : f.Alike g := by
  obtain ⟨hsql, hparams⟩ := Fragment.mk.inj h
  have htypes := congrArg (List.map Param.type) hparams
  refine ⟨hsql, ?_⟩
  simpa only [List.map_map, Function.comp_def, Param.type_blank] using htypes

theorem blank_append (f g : Fragment) : (f ++ g).blank = f.blank ++ g.blank :=
  congrArg (Fragment.mk _) List.map_append

theorem blank_plain (sql : String) : (plain sql).blank = plain sql := rfl

theorem blank_parenthesized (f : Fragment) : f.parenthesized.blank = f.blank.parenthesized := by
  simp only [parenthesized, blank_append, blank_plain]

mutual

/-- The blanked SQL of a predicate is that of the predicate with blanked atoms. -/
theorem blank_ofPredicate {α : Type} (g : α → Fragment) : (p : Predicate α) →
    (ofPredicate (p.map g)).blank = ofPredicate (p.map fun a ↦ (g a).blank)
  | .atom a => blank_parenthesized (g a)
  | .all ps | .any ps => by
    rw [Predicate.map, ofPredicate, blank_parenthesized, blank_ofRow g _ ps, Predicate.map,
      ofPredicate]
  | .not p => by
    rw [Predicate.map, ofPredicate, blank_append, blank_plain, blank_ofPredicate g p, Predicate.map,
      ofPredicate]
  | .nothing => rfl

theorem blank_ofRow {α : Type} (g : α → Fragment) (separator : String) : (ps : List (Predicate α)) →
    (ofRow separator (Predicate.mapRow g ps)).blank =
      ofRow separator (Predicate.mapRow (fun a ↦ (g a).blank) ps)
  | [] => rfl
  | [p] => blank_ofPredicate g p
  | p :: q :: rest => by
    have hrest := blank_ofRow g separator (q :: rest)
    simp only [Predicate.mapRow, ofRow] at hrest ⊢
    rw [blank_append, blank_append, blank_plain, blank_ofPredicate g p, hrest]

end

end Fragment

end Sql

/-! ### Filters -/

namespace Filter

variable {now now' : Instant} {field : CardField} {op : Operator} {value value' : String}
  {f f' : Filter}

/-- The SQL of a filter without its value. -/
def template (f : Filter) : Fragment := f.fragment.blank

theorem template_comparing {column : NumberColumn} (h : comparing column op value = some f)
    (h' : comparing column op value' = some f') : f.template = f'.template := by
  obtain ⟨n, -, rfl⟩ := Option.map_eq_some_iff.1 h
  obtain ⟨n', -, rfl⟩ := Option.map_eq_some_iff.1 h'
  rfl

theorem template_onText {column : TextColumn} (h : onText column op value = some f)
    (h' : onText column op value' = some f') : f.template = f'.template := by
  cases op with
  | has | equal =>
    obtain rfl := Option.some.inj h
    obtain rfl := Option.some.inj h'
    rfl
  | _ => cases h

/-- A field and an operator fix the SQL of a filter up to its value. Only the values of the field
for the state of a card have filters of different kinds. -/
theorem template_eq_of_ofTerm? (h : ofTerm? now field op value = some f)
    (h' : ofTerm? now' field op value' = some f') (hstate : field = .state → value = value') :
    f.template = f'.template := by
  cases field with
  | entry | english => exact template_onText h h'
  | level | right | wrong => exact template_comparing h h'
  | tag =>
    obtain ⟨-, h⟩ := Option.ite_none_right_eq_some.1 h
    obtain ⟨-, h'⟩ := Option.ite_none_right_eq_some.1 h'
    obtain rfl := Option.some.inj h
    obtain rfl := Option.some.inj h'
    rfl
  | kind =>
    obtain ⟨-, h⟩ := Option.ite_none_right_eq_some.1 h
    obtain ⟨-, h'⟩ := Option.ite_none_right_eq_some.1 h'
    obtain ⟨kind, -, rfl⟩ := Option.map_eq_some_iff.1 h
    obtain ⟨kind', -, rfl⟩ := Option.map_eq_some_iff.1 h'
    rfl
  | state =>
    obtain rfl := hstate rfl
    obtain ⟨-, h⟩ := Option.ite_none_right_eq_some.1 h
    obtain ⟨-, h'⟩ := Option.ite_none_right_eq_some.1 h'
    split at h
    · obtain rfl := Option.some.inj h
      obtain rfl := Option.some.inj h'
      rfl
    · obtain rfl := Option.some.inj h
      obtain rfl := Option.some.inj h'
      rfl
    · cases h

end Filter

/-! ### Conditions of the same shape -/

namespace Query

mutual

/-- Do two conditions have the same shape, with related terms in the same places? -/
def Condition.SameShape (R : Term → Term → Prop) : Condition → Condition → Prop
  | .term t, .term t' => R t t'
  | .all cs, .all cs' | .any cs, .any cs' => Condition.SameShapeRow R cs cs'
  | _, _ => False

/-- Do two rows of conditions have the same shapes, with related terms in the same places? -/
def Condition.SameShapeRow (R : Term → Term → Prop) : List Condition → List Condition → Prop
  | [], [] => True
  | c :: cs, c' :: cs' => Condition.SameShape R c c' ∧ Condition.SameShapeRow R cs cs'
  | _, _ => False

end

namespace Schema

variable {Field Atom β : Type} (s s' : Schema Field Atom) {g : Atom → β} {t t' : Term}

/-- The fields that a term is compiled against: the one that it names, if there is one of that name,
or the default fields. -/
def fieldsOf (t : Term) : List Field :=
  match t.field with
  | some name => (s.field? name).toList
  | none => s.defaults

theorem map_compileFilter (t : Term) (field : Field) : (s.compileFilter t field).predicate.map g =
    ((s.atom? field t.operator t.value).map g).elim .nothing .atom := by
  unfold compileFilter
  cases s.atom? field t.operator t.value <;> rfl

section

variable {s s'} (hnames : s.field? = s'.field?) (hdefaults : s.defaults = s'.defaults)
include hnames hdefaults

/-- Two terms on the same fields compile to the same predicate up to a map of the atoms, if their
filters are the same up to this map. -/
theorem map_compileTerm (hfield : t.field = t'.field) (hnegated : t.negated = t'.negated)
    (hfilters : ∀ field ∈ s.fieldsOf t, (s.atom? field t.operator t.value).map g =
      (s'.atom? field t'.operator t'.value).map g) :
    (s.compileTerm t).predicate.map g = (s'.compileTerm t').predicate.map g := by
  have hfilter : ∀ field ∈ s.fieldsOf t, (s.compileFilter t field).predicate.map g =
      (s'.compileFilter t' field).predicate.map g := by
    intro field hmem
    rw [map_compileFilter, map_compileFilter, hfilters field hmem]
  have hunsigned : (s.compileUnsigned t).predicate.map g =
      (s'.compileUnsigned t').predicate.map g := by
    unfold compileUnsigned
    rw [← hfield, ← hnames, ← hdefaults]
    unfold fieldsOf at hfilter
    generalize t.field = name? at hfilter ⊢
    cases name? with
    | some name =>
      simp only at hfilter ⊢
      cases hname : s.field? name with
      | some field => exact hfilter field (by simp [hname])
      | none => rfl
    | none =>
      refine congrArg Predicate.any ?_
      simp only [Predicate.mapRow_eq_map, List.map_map]
      exact List.map_congr_left hfilter
  unfold compileTerm
  rw [← hnegated]
  cases t.negated
  · exact hunsigned
  · exact congrArg Predicate.not hunsigned

end

variable {s s'} {R : Term → Term → Prop}

mutual

/-- Conditions of the same shape compile to the same predicate up to a map of the atoms, if their
terms do. -/
theorem map_compile (hterm : ∀ t t', R t t' → (s.compileTerm t).predicate.map g =
      (s'.compileTerm t').predicate.map g) : (c c' : Condition) → c.SameShape R c' →
    (s.compile c).predicate.map g = (s'.compile c').predicate.map g
  | .term t, .term t', h => hterm t t' h
  | .all cs, .all cs', h => congrArg Predicate.all (mapRow_compileRow hterm cs cs' h)
  | .any cs, .any cs', h => congrArg Predicate.any (mapRow_compileRow hterm cs cs' h)
  | .term _, .all _, h | .term _, .any _, h | .all _, .term _, h | .all _, .any _, h
  | .any _, .term _, h | .any _, .all _, h => h.elim

theorem mapRow_compileRow (hterm : ∀ t t', R t t' → (s.compileTerm t).predicate.map g =
      (s'.compileTerm t').predicate.map g) : (cs cs' : List Condition) →
    Condition.SameShapeRow R cs cs' →
      Predicate.mapRow g (s.compileRow cs).predicates =
        Predicate.mapRow g (s'.compileRow cs').predicates
  | [], [], _ => rfl
  | c :: cs, c' :: cs', h =>
    congrArg₂ List.cons (map_compile hterm c c' h.1) (mapRow_compileRow hterm cs cs' h.2)
  | [], _ :: _, h | _ :: _, [], h => h.elim

end

end Schema

/-! ### Values of searches -/

/-- Two terms that differ in their values only, and that are supported alike at two times. A value
of the field for the state of a card is not different. -/
structure Term.Twins (now now' : Instant) (t t' : Term) : Prop where
  field : t.field = t'.field
  operator : t.operator = t'.operator
  negated : t.negated = t'.negated
  supported : ∀ field ∈ (cardSchema now).fieldsOf t,
    (Filter.ofTerm? now field t.operator t.value).isSome =
      (Filter.ofTerm? now' field t'.operator t'.value).isSome
  state : .state ∈ (cardSchema now).fieldsOf t → t.value = t'.value

variable {now now' : Instant}

/-- The filters of twins are the same without their values. -/
theorem Term.Twins.template_eq {t t' : Term} (h : t.Twins now now' t') (field : CardField)
    (hmem : field ∈ (cardSchema now).fieldsOf t) :
    (Filter.ofTerm? now field t.operator t.value).map Filter.template =
      (Filter.ofTerm? now' field t'.operator t'.value).map Filter.template := by
  have hsome := h.supported field hmem
  have hop := h.operator
  cases hf : Filter.ofTerm? now field t.operator t.value with
  | none =>
    rw [hf, Option.isSome_none, eq_comm, Option.isSome_eq_false_iff,
      Option.isNone_iff_eq_none] at hsome
    rw [hsome]
  | some f =>
    rw [hf, Option.isSome_some, eq_comm, Option.isSome_iff_exists] at hsome
    obtain ⟨f', hf'⟩ := hsome
    rw [hf']
    refine congrArg some (Filter.template_eq_of_ofTerm? (hop ▸ hf) hf' ?_)
    rintro rfl
    exact h.state hmem

theorem Term.Twins.map_compileTerm {t t' : Term} (h : t.Twins now now' t') :
    ((cardSchema now).compileTerm t).predicate.map Filter.template =
      ((cardSchema now').compileTerm t').predicate.map Filter.template :=
  Schema.map_compileTerm rfl rfl h.field h.negated h.template_eq

namespace Condition

/-- Two conditions of the same shape with twins in the same places, compiled at two times, have the
same SQL with parameters of the same types, and so have the whole conditions of their searches. -/
theorem alike_of_twins {c c' : Condition} (h : c.SameShape (Term.Twins now now') c') :
    let p := ((cardSchema now).compile c).predicate
    let p' := ((cardSchema now').compile c').predicate
    p.fragment.Alike p'.fragment ∧
      ∀ owner owner', (Database.condition owner p).Alike (Database.condition owner' p') := by
  intro p p'
  have htemplates : p.map Filter.template = p'.map Filter.template :=
    Schema.map_compile (fun t t' h ↦ h.map_compileTerm) c c' h
  have hblank : p.fragment.blank = p'.fragment.blank := calc
    p.fragment.blank = Fragment.ofPredicate (p.map Filter.template) :=
      Fragment.blank_ofPredicate _ p
    _ = Fragment.ofPredicate (p'.map Filter.template) := congrArg _ htemplates
    _ = p'.fragment.blank := (Fragment.blank_ofPredicate _ p').symm
  refine ⟨Fragment.alike_of_blank_eq hblank, fun owner owner' ↦ Fragment.alike_of_blank_eq ?_⟩
  simp only [Database.condition, Fragment.blank_append, hblank]
  rfl

/-- A value that would end a text in SQL and go on behind it, one with a question mark in it, other
kinds and other numbers, and another time. -/
theorem alike_of_twins_with_quotes :
    let later : Instant := ⟨1717200000, 0, by decide, by decide, by decide, by decide⟩
    let condition (value kind level : String) : Condition :=
      .all [.term ⟨none, .has, value, true⟩, .any [.term ⟨some "type", .equal, kind, false⟩,
        .term ⟨some "level", .atLeast, level, false⟩, .term ⟨some "is", .has, "due", false⟩]]
    let c := condition "' or 1 = 1 --" "hanzi" "3"
    let c' := condition "is it?" "vocab" "-12"
    c.SameShape (Term.Twins .epoch later) c' ∧
      ((cardSchema .epoch).compile c).predicate.fragment.Alike
        ((cardSchema later).compile c').predicate.fragment := by
  intro later condition c c'
  have h : c.SameShape (Term.Twins .epoch later) c' :=
    ⟨⟨rfl, rfl, rfl, by decide, by decide⟩, ⟨⟨rfl, rfl, rfl, by decide, by decide⟩,
      ⟨rfl, rfl, rfl, by decide, by decide⟩, ⟨rfl, rfl, rfl, by decide, by decide⟩, trivial⟩,
        trivial⟩
  exact ⟨h, (alike_of_twins h).1⟩

end Condition

end Query

end SpacedReview

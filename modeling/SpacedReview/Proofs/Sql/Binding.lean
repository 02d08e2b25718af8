import Mathlib.Algebra.GroupWithZero.Nat
import SpacedReview.Proofs.Sql.Rendering

/-!
# Question marks and parameters

A rendered predicate is made of the SQL of its atoms, in their order, and of parentheses and words
without question marks. The parameters are collected in the same order. If every atom has a question
mark for each of its parameters, and no more than one, the parameter that a question mark is bound
to by its place in the text is the one that came with the atom that the question mark stands in.

## Main statements

* `Fragment.madeOf_ofPredicate`: what a rendered predicate is made of.
* `Fragment.MadeOf.exists_part`: where a part stands.
* `Fragment.MadeOf.bindsInOrder`: question marks are bound to the parameters of their atoms.
-/

namespace SpacedReview.Sql

open SpacedReview.Query

namespace Fragment

variable {f : Fragment}

/-! ### Question marks -/

/-- The number of question marks in a fragment. -/
def marks (f : Fragment) : Nat := f.sql.toList.count '?'

theorem marks_append (f g : Fragment) : (f ++ g).marks = f.marks + g.marks := by
  rw [marks, toList_sql_append, List.count_append, marks, marks]

/-- A fragment is put together of parts in a row, with no question marks besides theirs. -/
inductive MadeOf : Fragment → List Fragment → Prop
  | plain {sql : String} : '?' ∉ sql.toList → MadeOf (plain sql) []
  | part (f : Fragment) : MadeOf f [f]
  | append {f g : Fragment} {parts parts' : List Fragment} : MadeOf f parts → MadeOf g parts' →
    MadeOf (f ++ g) (parts ++ parts')

theorem MadeOf.parenthesized {parts : List Fragment} (h : MadeOf f parts) :
    MadeOf f.parenthesized parts := by
  have hopening : MadeOf (Fragment.plain "(") [] := .plain (by simp)
  have hclosing : MadeOf (Fragment.plain ")") [] := .plain (by simp)
  have hall := (hopening.append h).append hclosing
  rwa [List.nil_append, List.append_nil] at hall

mutual

/-- A predicate is put together of its atoms, from left to right. -/
theorem madeOf_ofPredicate : (p : Predicate Fragment) → MadeOf (ofPredicate p) p.atoms
  | .atom f => (MadeOf.part f).parenthesized
  | .all ps => (madeOf_ofRow (by simp) ps).parenthesized
  | .any ps => (madeOf_ofRow (by simp) ps).parenthesized
  | .not p => (MadeOf.plain (by simp)).append (madeOf_ofPredicate p)
  | .nothing => .plain (by simp)

theorem madeOf_ofRow {separator : String} (h : '?' ∉ separator.toList) :
    (ps : List (Predicate Fragment)) → MadeOf (ofRow separator ps) (Predicate.atomsRow ps)
  | [] => .plain (by simp)
  | [p] => by
    rw [Predicate.atomsRow, Predicate.atomsRow, List.append_nil]
    exact madeOf_ofPredicate p
  | p :: q :: rest => by
    have hfirst := (madeOf_ofPredicate p).append (.plain h)
    rw [List.append_nil] at hfirst
    exact hfirst.append (madeOf_ofRow h (q :: rest))

end

/-- The parameters of a fragment are those of its parts. -/
theorem MadeOf.params_eq {parts : List Fragment} (h : MadeOf f parts) :
    f.params = parts.flatMap (·.params) := by
  induction h with
  | plain => rfl
  | part f => exact (List.append_nil _).symm
  | append _ _ ih ih' => rw [params_append, ih, ih', List.flatMap_append]

/-- So are its question marks. -/
theorem MadeOf.marks_eq {parts : List Fragment} (h : MadeOf f parts) :
    f.marks = (parts.map marks).sum := by
  induction h with
  | plain hsql => exact List.count_eq_zero.2 hsql
  | part f => exact (Nat.add_zero _).symm
  | append _ _ ih ih' => rw [marks_append, ih, ih', List.map_append, List.sum_append]

/-- A part stands behind the question marks of the parts before it. -/
theorem MadeOf.exists_part {parts earlier later : List Fragment} {part : Fragment}
    (h : MadeOf f parts) (hparts : parts = earlier ++ part :: later) :
    ∃ before after, f.sql.toList = before ++ part.sql.toList ++ after ∧
      before.count '?' = (earlier.map marks).sum := by
  induction h generalizing earlier later with
  | plain => exact absurd hparts (by simp)
  | part f =>
    obtain ⟨rfl, rfl, rfl⟩ : earlier = [] ∧ part = f ∧ later = [] := by
      cases earlier with
      | nil => simpa [eq_comm] using hparts
      | cons first earlier => simp at hparts
    exact ⟨[], [], by simp, rfl⟩
  | @append f g parts parts' hf hg ih ih' =>
    rw [toList_sql_append]
    have hsecond : ∀ between, earlier = parts ++ between → parts' = between ++ part :: later →
        ∃ before after, f.sql.toList ++ g.sql.toList = before ++ part.sql.toList ++ after ∧
          before.count '?' = (earlier.map marks).sum := by
      -- all question marks of the first fragment stand before the part
      rintro between rfl hparts'
      obtain ⟨before, after, hsql, hcount⟩ := ih' hparts'
      refine ⟨f.sql.toList ++ before, after, by simp [hsql], ?_⟩
      rw [List.count_append, hcount, List.map_append, List.sum_append, ← hf.marks_eq, marks]
    rcases List.append_eq_append_iff.1 hparts with
      ⟨between, hearlier, hlater⟩ | ⟨between, rfl, hlater⟩
    · exact hsecond between hearlier hlater
    · cases between with
      | nil => exact hsecond [] (by simp) hlater.symm
      | cons first between =>
        obtain ⟨rfl, rfl⟩ := List.cons.inj hlater
        obtain ⟨before, after, hsql, hcount⟩ := ih rfl
        exact ⟨before, after ++ g.sql.toList, by simp [hsql], hcount⟩

/-- Where no member of a row brings more than one value, every value comes from a member of its own.
-/
theorem exists_of_getElem?_flatMap {α β : Type} {g : α → List β} {l : List α}
    (hle : ∀ a ∈ l, (g a).length ≤ 1) {k : Nat} {b : β} (hk : (l.flatMap g)[k]? = some b) :
    ∃ earlier a later, l = earlier ++ a :: later ∧ (earlier.flatMap g).length = k ∧ g a = [b] := by
  induction l generalizing k with
  | nil => cases hk
  | cons a l ih =>
    have hrest : ∀ {k}, (l.flatMap g)[k]? = some b → ∃ earlier a' later,
        a :: l = a :: earlier ++ a' :: later ∧ (earlier.flatMap g).length = k ∧ g a' = [b] := by
      intro k hk
      obtain ⟨earlier, a', later, rfl, hlength, hb⟩ :=
        ih (fun a ha ↦ hle a (List.mem_cons_of_mem _ ha)) hk
      exact ⟨earlier, a', later, rfl, hlength, hb⟩
    rw [List.flatMap_cons] at hk
    match hg : g a, hle a List.mem_cons_self with
    | [], _ =>
      rw [hg] at hk
      obtain ⟨earlier, a', later, hsplit, hlength, hb⟩ := hrest hk
      exact ⟨a :: earlier, a', later, hsplit, by rwa [List.flatMap_cons, hg], hb⟩
    | [c], _ =>
      rw [hg] at hk
      cases k with
      | zero =>
        obtain rfl : c = b := Option.some.inj hk
        exact ⟨[], a, l, rfl, rfl, hg⟩
      | succ k =>
        obtain ⟨earlier, a', later, hsplit, hlength, hb⟩ := hrest hk
        refine ⟨a :: earlier, a', later, hsplit, ?_, hb⟩
        rw [List.flatMap_cons, hg, List.length_append, hlength, List.length_singleton, Nat.add_comm]

/-- A fragment is put together of parts that bring no more than one parameter each, and the question
mark that a parameter is bound to stands in the part that brings the parameter. -/
def BindsInOrder (f : Fragment) (parts : List Fragment) : Prop :=
  f.marks = f.params.length ∧
    ∀ k param, f.params[k]? = some param → ∃ earlier part later before after,
      parts = earlier ++ part :: later ∧ (earlier.flatMap (·.params)).length = k ∧
        part.params = [param] ∧ part.marks = 1 ∧
          f.sql.toList = before ++ part.sql.toList ++ after ∧ before.count '?' = k

/-- What is put together of parts with a question mark for every parameter, and with no more than
one parameter, binds in order. -/
theorem MadeOf.bindsInOrder {parts : List Fragment} (h : MadeOf f parts)
    (hparts : ∀ part ∈ parts, part.marks = part.params.length ∧ part.params.length ≤ 1) :
    f.BindsInOrder parts := by
  have hmarks : ∀ earlier : List Fragment, (∀ part ∈ earlier, part ∈ parts) →
      (earlier.map marks).sum = (earlier.flatMap (·.params)).length := by
    intro earlier hearlier
    rw [List.length_flatMap]
    refine congrArg List.sum (List.map_congr_left fun part hpart ↦ ?_)
    exact (hparts part (hearlier part hpart)).1
  refine ⟨?_, fun k param hk ↦ ?_⟩
  · rw [h.marks_eq, h.params_eq, hmarks parts fun _ hpart ↦ hpart]
  · rw [h.params_eq] at hk
    obtain ⟨earlier, part, later, hsplit, hlength, hparams⟩ :=
      exists_of_getElem?_flatMap (fun part hpart ↦ (hparts part hpart).2) hk
    obtain ⟨before, after, hsql, hcount⟩ := h.exists_part hsplit
    refine ⟨earlier, part, later, before, after, hsplit, hlength, hparams, ?_, hsql, ?_⟩
    · have hpart : part ∈ parts := by simp [hsplit]
      rw [(hparts part hpart).1, hparams, List.length_singleton]
    · have hearlier : ∀ part ∈ earlier, part ∈ parts := by
        intro part hpart
        rw [hsplit]
        exact List.mem_append_left _ hpart
      rw [hcount, hmarks earlier hearlier, hlength]

end Fragment

end SpacedReview.Sql

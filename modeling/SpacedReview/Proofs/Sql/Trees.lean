import Mathlib.Data.List.Perm.Basic
import SpacedReview.Proofs.Query.Compiling
import SpacedReview.Proofs.Results
import SpacedReview.Sql.Plan

/-!
# What trees of conditions mean

The tree that SQL makes of a predicate leans to the left, leaves constants out, and is evaluated in
stages, in which a leaf that cannot be evaluated may be skipped. None of this changes what the tree
means. If every leaf has a known truth unless it fails, then the tree has the truth of the predicate
unless it fails, and it only fails as one of its leaves does. So it does not fail if no leaf can.

## Main statements

* `Query.Predicate.holds_of_tree?`: the tree of a predicate means what the predicate means.
* `ParseTree.truth_isOrFails`: the evaluation of trees.
* `ParseTree.allTrue_planned`: the same for the conjuncts of a tree in the order of evaluation.
-/

namespace SpacedReview

open SpacedReview.Query SpacedReview.Sql

namespace Sql.ParseTree

variable {α ε : Type} {test : α → Test} {known : α → Bool} {P : α → Prop}

/-! ### Meaning -/

/-- Is a tree true where the truth of the leaves is known? -/
def holds (known : α → Bool) : ParseTree α → Bool
  | leaf a => known a
  | zero => false
  | and s t => s.holds known && t.holds known
  | or s t => s.holds known || t.holds known
  | not t => !t.holds known

/-- Are all leaves of a tree of some kind? -/
def AllLeaves (P : α → Prop) : ParseTree α → Prop
  | leaf a => P a
  | zero => True
  | and s t | or s t => s.AllLeaves P ∧ t.AllLeaves P
  | not t => t.AllLeaves P

theorem eq_zero_of_isZero {t : ParseTree α} (h : t.isZero = true) : t = zero := by
  cases t with
  | zero => rfl
  | _ => cases h

/-- A conjunction that is replaced by the constant is false anyway. -/
theorem holds_conjoin (s t : ParseTree α) :
    (conjoin test s t).holds known = (s.holds known && t.holds known) := by
  unfold conjoin
  split
  · rename_i h
    rcases Bool.or_eq_true_iff.1 (Bool.and_eq_true_iff.1 h).1 with hs | ht
    · rw [eq_zero_of_isZero hs]
      rfl
    · rw [eq_zero_of_isZero ht]
      exact (Bool.and_false _).symm
  · rfl

theorem AllLeaves.conjoin {s t : ParseTree α} (hs : s.AllLeaves P) (ht : t.AllLeaves P) :
    (conjoin test s t).AllLeaves P := by
  unfold ParseTree.conjoin
  split
  · trivial
  · exact ⟨hs, ht⟩

theorem eq_of_checked {s t : ParseTree α} (h : s.checked test = some t) : s = t := by
  unfold checked at h
  split at h
  · exact Option.some.inj h
  · cases h

end Sql.ParseTree

/-! ### Trees of predicates -/

namespace Query.Predicate

variable {α : Type} {test : α → Test} {known : α → Bool} {P : α → Prop}

/-- One more operand is joined to the tree in front of it. -/
theorem row?_cons_eq_some_iff {join : ParseTree α → ParseTree α → ParseTree α} {p : Predicate α}
    {ps : List (Predicate α)} {front result : ParseTree α} :
    row? test join (p :: ps) front = some result ↔ ∃ t, p.tree? test = some t ∧
      (join front t).height test ≤ maxHeight ∧ row? test join ps (join front t) = some result := by
  rw [row?, Option.bind_eq_some_iff]
  refine exists_congr fun t ↦ and_congr_right fun _ ↦ ?_
  by_cases h : (join front t).height test ≤ maxHeight <;> simp [ParseTree.checked, h]

mutual

/-- The tree of a predicate means what the predicate means. -/
theorem holds_of_tree? : {p : Predicate α} → {t : ParseTree α} → p.tree? test = some t →
    t.holds known = p.holds known
  | atom a, _, h => by
    obtain rfl := Option.some.inj h
    rfl
  | all [], _, h | any [], _, h => by cases h
  | all (p :: ps), _, h => by
    obtain ⟨t, ht, hrow⟩ := Option.bind_eq_some_iff.1 h
    rw [holds_of_row?_conjoin hrow, holds_of_tree? ht]
    rfl
  | any (p :: ps), _, h => by
    obtain ⟨t, ht, hrow⟩ := Option.bind_eq_some_iff.1 h
    rw [holds_of_row?_or hrow, holds_of_tree? ht]
    rfl
  | not p, _, h => by
    obtain ⟨t, ht, hchecked⟩ := Option.bind_eq_some_iff.1 h
    obtain rfl := ParseTree.eq_of_checked hchecked
    exact congrArg (!·) (holds_of_tree? ht)
  | nothing, _, h => by
    obtain rfl := Option.some.inj h
    rfl

theorem holds_of_row?_conjoin : {ps : List (Predicate α)} → {front t : ParseTree α} →
    row? test (ParseTree.conjoin test) ps front = some t →
      t.holds known = (front.holds known && holdsAll known ps)
  | [], _, _, h => by
    obtain rfl := Option.some.inj h
    exact (Bool.and_true _).symm
  | p :: ps, _, _, h => by
    obtain ⟨t, ht, -, hrow⟩ := row?_cons_eq_some_iff.1 h
    rw [holds_of_row?_conjoin hrow, ParseTree.holds_conjoin, holds_of_tree? ht, Bool.and_assoc]
    rfl

theorem holds_of_row?_or : {ps : List (Predicate α)} → {front t : ParseTree α} →
    row? test .or ps front = some t → t.holds known = (front.holds known || holdsAny known ps)
  | [], _, _, h => by
    obtain rfl := Option.some.inj h
    exact (Bool.or_false _).symm
  | p :: ps, _, _, h => by
    obtain ⟨t, ht, -, hrow⟩ := row?_cons_eq_some_iff.1 h
    rw [holds_of_row?_or hrow, ParseTree.holds, holds_of_tree? ht, Bool.or_assoc]
    rfl

end

mutual

/-- The leaves of the tree of a predicate are atoms of the predicate. -/
theorem AllAtoms.tree? : {p : Predicate α} → p.AllAtoms P → {t : ParseTree α} →
    p.tree? test = some t → t.AllLeaves P
  | atom a, hp, _, h => by
    obtain rfl := Option.some.inj h
    exact hp
  | all [], _, _, h | any [], _, _, h => by cases h
  | all (p :: ps), hp, _, h => by
    obtain ⟨t, ht, hrow⟩ := Option.bind_eq_some_iff.1 h
    exact AllAtomsRow.row? (fun hs ht ↦ hs.conjoin ht) hp.2 (hp.1.tree? ht) hrow
  | any (p :: ps), hp, _, h => by
    obtain ⟨t, ht, hrow⟩ := Option.bind_eq_some_iff.1 h
    have hor : ∀ {s t : ParseTree α}, s.AllLeaves P → t.AllLeaves P → (s.or t).AllLeaves P :=
      fun hs ht ↦ ⟨hs, ht⟩
    exact AllAtomsRow.row? hor hp.2 (hp.1.tree? ht) hrow
  | not p, hp, _, h => by
    obtain ⟨t, ht, hchecked⟩ := Option.bind_eq_some_iff.1 h
    obtain rfl := ParseTree.eq_of_checked hchecked
    exact show t.AllLeaves P from AllAtoms.tree? (p := p) hp ht
  | nothing, _, _, h => by
    obtain rfl := Option.some.inj h
    trivial

theorem AllAtomsRow.row? {join : ParseTree α → ParseTree α → ParseTree α}
    (hjoin : ∀ {s t}, s.AllLeaves P → t.AllLeaves P → (join s t).AllLeaves P) :
    {ps : List (Predicate α)} → AllAtomsRow P ps → {front : ParseTree α} → front.AllLeaves P →
      {t : ParseTree α} → row? test join ps front = some t → t.AllLeaves P
  | [], _, _, hfront, _, h => by
    obtain rfl := Option.some.inj h
    exact hfront
  | p :: ps, hps, _, hfront, _, h => by
    obtain ⟨t, ht, -, hrow⟩ := row?_cons_eq_some_iff.1 h
    exact AllAtomsRow.row? hjoin hps.2 (hjoin hfront (hps.1.tree? ht)) hrow

end

end Query.Predicate

/-! ### Evaluation -/

namespace Sql.ParseTree

variable {α ε : Type} {test : α → Test} {known : α → Bool} {reading : α → Except ε Truth}
  {E : ε → Prop}

/-- A conjunction is as its operands are, whichever of them is evaluated first. -/
theorem sequenced_and {first second : Except ε Truth} {b c : Bool}
    (hfirst : IsOrFails E (some b) first) (hsecond : IsOrFails E (some c) second) :
    IsOrFails E (some (b && c)) (sequenced false Truth.and first second) := by
  refine hfirst.bind ?_
  cases b with
  | false => exact .value
  | true =>
    refine hsecond.bind ?_
    cases c <;> exact .value

/-- So is a disjunction. -/
theorem sequenced_or {first second : Except ε Truth} {b c : Bool}
    (hfirst : IsOrFails E (some b) first) (hsecond : IsOrFails E (some c) second) :
    IsOrFails E (some (b || c)) (sequenced true Truth.or first second) := by
  refine hfirst.bind ?_
  cases b with
  | true => exact .value
  | false =>
    refine hsecond.bind ?_
    cases c <;> exact .value

/-- A tree that is false whatever its leaves are does not hold. -/
theorem holds_of_isFalse {t : ParseTree α} (h : t.isFalse = true) : t.holds known = false := by
  induction t with
  | leaf a | not t => cases h
  | zero => rfl
  | and s t hs ht =>
    rcases Bool.or_eq_true_iff.1 h with h | h
    · rw [holds, hs h, Bool.false_and]
    · rw [holds, ht h, Bool.and_false]
  | or s t hs ht =>
    obtain ⟨h, h'⟩ := Bool.and_eq_true_iff.1 h
    rw [holds, hs h, ht h']
    rfl

/-- A tree is true if it holds and false if it does not, or it fails as its leaves do. -/
theorem truth_isOrFails {t : ParseTree α}
    (h : t.AllLeaves fun a ↦ IsOrFails E (some (known a)) (reading a)) :
    IsOrFails E (some (t.holds known)) (t.truth test reading) := by
  induction t with
  | leaf a => exact h
  | zero => exact .value
  | and s t hs ht =>
    rw [truth]
    split
    · rename_i hfalse
      rw [holds_of_isFalse (t := s.and t) hfalse]
      exact .value
    · split
      · rw [holds, Bool.and_comm]
        exact sequenced_and (ht h.2) (hs h.1)
      · exact sequenced_and (hs h.1) (ht h.2)
  | or s t hs ht =>
    rw [truth]
    split
    · rw [holds, Bool.or_comm]
      exact sequenced_or (ht h.2) (hs h.1)
    · exact sequenced_or (hs h.1) (ht h.2)
  | not t ih => exact (ih h).map Truth.not

/-- The trees of a row are evaluated up to one that does not hold, and the answer is whether all
hold. -/
theorem allTrue_isOrFails {ts : List (ParseTree α)}
    (h : ∀ t ∈ ts, t.AllLeaves fun a ↦ IsOrFails E (some (known a)) (reading a)) :
    IsOrFails E (ts.all (holds known)) (allTrue test reading ts) := by
  induction ts with
  | nil => exact .value
  | cons t ts ih =>
    refine (truth_isOrFails (h t (by simp))).bind ?_
    rw [List.all_cons]
    cases hholds : t.holds known with
    | false => exact .value
    | true => exact ih fun s hs ↦ h s (List.mem_cons_of_mem t hs)

/-! ### The order of evaluation -/

theorem all_conjuncts (t : ParseTree α) : t.conjuncts.all (holds known) = t.holds known := by
  induction t with
  | and s t hs ht => rw [conjuncts, List.all_append, hs, ht, holds]
  | _ => exact Bool.and_true _

theorem AllLeaves.of_mem_conjuncts {P : α → Prop} {t : ParseTree α} (h : t.AllLeaves P) :
    ∀ s ∈ t.conjuncts, s.AllLeaves P := by
  induction t with
  | and s t hs ht =>
    intro u hu
    rcases List.mem_append.1 hu with hu | hu
    · exact hs h.1 u hu
    · exact ht h.2 u hu
  | _ =>
    intro s hs
    obtain rfl := List.mem_singleton.1 hs
    exact h

theorem map_snd_staged (room : Nat) (ts : List (ParseTree α)) :
    (staged test room ts).map Prod.snd = ts := by
  induction ts generalizing room with
  | nil => cases room <;> rfl
  | cons t ts ih =>
    cases room with
    | zero => rw [staged, List.map_cons, ih]
    | succ room =>
      rw [staged]
      split <;> rw [List.map_cons, ih]

/-- The order of evaluation takes up every conjunct once. -/
theorem planned_perm (t : ParseTree α) : (t.planned test).Perm t.conjuncts := by
  have := (List.mergeSort_perm (staged test maxJoined t.conjuncts)
    fun s t ↦ decide (s.1 ≤ t.1)).map Prod.snd
  rwa [map_snd_staged] at this

/-- A tree that is no conjunction is evaluated as it is. -/
theorem planned_of_conjuncts {t : ParseTree α} (h : t.conjuncts = [t]) : t.planned test = [t] :=
  List.perm_singleton.1 (h ▸ t.planned_perm)

/-- In the order of evaluation the conjuncts of a tree are true if the tree holds. -/
theorem allTrue_planned {t : ParseTree α}
    (h : t.AllLeaves fun a ↦ IsOrFails E (some (known a)) (reading a)) :
    IsOrFails E (t.holds known) (allTrue test reading (t.planned test)) := by
  have hall : (t.planned test).all (holds known) = t.holds known := by
    rw [t.planned_perm.all_eq, all_conjuncts]
  rw [← hall]
  exact allTrue_isOrFails fun s hs ↦ h.of_mem_conjuncts s (t.planned_perm.mem_iff.1 hs)

end Sql.ParseTree

end SpacedReview

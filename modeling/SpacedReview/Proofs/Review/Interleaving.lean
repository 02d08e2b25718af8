import Mathlib.Data.List.Basic
import Mathlib.Data.List.Nodup

/-!
# Interleaved tasks

A task has two halves: it loads something, and later it saves something. The halves of several tasks
may come in any order, as long as each task loads before it saves. Tasks have keys, and here those
of one key keep out of each other's way: between the halves of one there is no half of another.
Tasks of different keys may be mixed freely. `Interleaving` carries the proofs of this, so there are
no ill-formed interleavings.

Seen through one key an interleaving looks as if nothing had been interleaved: the halves of its
tasks stand side by side, task by task (`Interleaving.filter_key`). The argument is about order
alone. Both rows have the same halves, and in both of them they stand in the order of the
interleaving, so they are one row.

## Main statements

* `Interleaving.filter_key`: the halves of the tasks of one key come in turn.
-/

namespace SpacedReview.Review

/-! ### Places in a row -/

section Places

variable {α : Type} [DecidableEq α] {l : List α}

/-- Does one member of a row come before another? -/
def Before (l : List α) (a b : α) : Prop := l.idxOf a < l.idxOf b

instance (l : List α) (a b : α) : Decidable (Before l a b) :=
  inferInstanceAs (Decidable (l.idxOf a < l.idxOf b))

/-- A row without repetitions is in its own order. -/
theorem pairwise_before (h : l.Nodup) : l.Pairwise (Before l) := by
  rw [List.pairwise_iff_getElem]
  intro i j hi hj hij
  rw [Before, h.idxOf_getElem, h.idxOf_getElem]
  exact hij

/-- What comes before in a row is related as the row is. -/
theorem rel_of_before {r : α → α → Prop} {a b : α} (h : l.Pairwise r) (hb : b ∈ l)
    (hab : Before l a b) : r a b := by
  have hlength : l.idxOf b < l.length := List.idxOf_lt_length_of_mem hb
  simpa using List.pairwise_iff_getElem.1 h _ _ (Nat.lt_trans hab hlength) hlength hab

/-- Two rows of the same members that are in the order of a third are the same. -/
theorem eq_of_perm_of_before {l₁ l₂ : List α} (h₁ : l₁.Pairwise (Before l))
    (h₂ : l₂.Pairwise (Before l)) (hperm : l₁.Perm l₂) : l₁ = l₂ :=
  List.Perm.eq_of_pairwise (fun _ _ _ _ hab hba ↦ absurd hab (Nat.lt_asymm hba)) h₁ h₂ hperm

end Places

/-! ### Tasks -/

/-- One of the two halves of a task. -/
inductive Half (ι : Type) where
  | load (i : ι)
  | save (i : ι)
  deriving DecidableEq

/-- The task that a half is of. -/
def Half.task {ι : Type} : Half ι → ι
  | load i | save i => i

/-- The task that is done with a half, if it is. -/
def Half.done? {ι : Type} : Half ι → Option ι
  | load _ => none
  | save i => some i

variable {ι κ : Type}

@[simp] theorem Half.task_load (i : ι) : (Half.load i).task = i := rfl

@[simp] theorem Half.task_save (i : ι) : (Half.save i).task = i := rfl

/-- The halves of tasks that come one after the other. -/
def inTurn (tasks : List ι) : List (Half ι) := tasks.flatMap fun i ↦ [.load i, .save i]

theorem inTurn_cons (i : ι) (tasks : List ι) :
    inTurn (i :: tasks) = .load i :: .save i :: inTurn tasks := rfl

theorem task_mem_of_mem_inTurn {tasks : List ι} {half : Half ι} (h : half ∈ inTurn tasks) :
    half.task ∈ tasks := by
  obtain ⟨i, hi, hhalf⟩ := List.mem_flatMap.1 h
  obtain rfl | rfl : half = .load i ∨ half = .save i := by simpa using hhalf
  all_goals exact hi

theorem nodup_inTurn {tasks : List ι} (h : tasks.Nodup) : (inTurn tasks).Nodup := by
  refine List.nodup_flatMap.2 ⟨fun i _ ↦ by simp, ?_⟩
  refine h.imp fun {i j} hij ↦ ?_
  simp [Function.onFun, Ne.symm hij]

/-- Of tasks that come one after the other, those of a kind come one after the other. -/
theorem filter_inTurn (p : ι → Bool) (tasks : List ι) :
    (inTurn tasks).filter (fun half ↦ p half.task) = inTurn (tasks.filter p) := by
  induction tasks with
  | nil => rfl
  | cons i tasks ih =>
    cases hp : p i <;> simp [inTurn_cons, hp, ih]

/-- Tasks that come one after the other are done one after the other. -/
theorem filterMap_done?_inTurn (tasks : List ι) : (inTurn tasks).filterMap Half.done? = tasks := by
  induction tasks with
  | nil => rfl
  | cons i tasks ih => exact congrArg (i :: ·) ih

variable [DecidableEq ι] {key : ι → κ}

/-- Tasks whose halves are mixed. Each task loads once, and then saves once. Of two tasks with one
key one has saved before the other loads. -/
structure Interleaving (key : ι → κ) where
  tasks : List ι
  halves : List (Half ι)
  nodup : tasks.Nodup
  perm : halves.Perm (inTurn tasks)
  load_before_save : ∀ i ∈ tasks, Before halves (.load i) (.save i)
  apart : ∀ i ∈ tasks, ∀ j ∈ tasks, i ≠ j → key i = key j →
    Before halves (.save i) (.load j) ∨ Before halves (.save j) (.load i)

namespace Interleaving

variable (w : Interleaving key) {order : List ι}

/-- Is this an order of the tasks in which tasks of one key come as they came? -/
structure AgreesWith (order : List ι) : Prop where
  perm : order.Perm w.tasks
  before : ∀ i ∈ w.tasks, ∀ j ∈ w.tasks, key i = key j →
    Before w.halves (.save i) (.load j) → Before order i j

theorem nodup_halves : w.halves.Nodup := w.perm.nodup_iff.2 (nodup_inTurn w.nodup)

/-- There is such an order: that in which the tasks are done. -/
theorem exists_agreesWith : ∃ order, w.AgreesWith order := by
  have hperm : (w.halves.filterMap Half.done?).Perm w.tasks :=
    (w.perm.filterMap _).trans (.of_eq (filterMap_done?_inTurn w.tasks))
  have hdone : (w.halves.filterMap Half.done?).Pairwise
      fun i j ↦ Before w.halves (.save i) (.save j) := by
    refine (pairwise_before w.nodup_halves).filterMap _ fun a b hab i hi j hj ↦ ?_
    cases a <;> cases hi
    cases b <;> cases hj
    exact hab
  refine ⟨_, hperm, fun i hi j hj _ hbefore ↦ ?_⟩
  have hsaves : Before w.halves (.save i) (.save j) :=
    Nat.lt_trans hbefore (w.load_before_save j hj)
  by_contra hnot
  rcases Nat.eq_or_lt_of_not_lt hnot with heq | hlt
  · obtain rfl := (List.idxOf_inj (hperm.mem_iff.2 hi)).1 heq
    exact Nat.lt_irrefl _ hsaves
  · have hback := rel_of_before hdone (hperm.mem_iff.2 hi) hlt
    exact Nat.lt_asymm hsaves hback

variable {w}

/-- Of two tasks of one key, the one that comes first in such an order has saved before the other
one loads. -/
theorem AgreesWith.save_before_load (h : w.AgreesWith order) {i j : ι} (hi : i ∈ w.tasks)
    (hj : j ∈ w.tasks) (hkey : key i = key j) (hij : Before order i j) :
    Before w.halves (.save i) (.load j) := by
  have hne : i ≠ j := by
    rintro rfl
    exact Nat.lt_irrefl _ hij
  rcases w.apart i hi j hj hne hkey with hbefore | hbehind
  · exact hbefore
  · exact absurd hij (Nat.lt_asymm (h.before j hj i hi hkey.symm hbehind))

variable [DecidableEq κ]

/-- The halves of the tasks of one key, in the order of the tasks, are in the order of the
interleaving. -/
theorem AgreesWith.pairwise_inTurn (h : w.AgreesWith order) (k : κ) :
    (inTurn (order.filter fun i ↦ decide (key i = k))).Pairwise (Before w.halves) := by
  have hmem : ∀ i ∈ order.filter fun i ↦ decide (key i = k), i ∈ w.tasks ∧ key i = k := by
    intro i hi
    obtain ⟨hi, hkey⟩ := List.mem_filter.1 hi
    exact ⟨h.perm.mem_iff.1 hi, of_decide_eq_true hkey⟩
  have horder : (order.filter fun i ↦ decide (key i = k)).Pairwise (Before order) :=
    (pairwise_before (h.perm.nodup_iff.2 w.nodup)).filter _
  refine List.pairwise_flatMap.2 ⟨fun i hi ↦ ?_, ?_⟩
  · simpa using w.load_before_save i (hmem i hi).1
  · refine horder.imp_of_mem fun {i j} hi hj hij ↦ ?_
    obtain ⟨hi, hikey⟩ := hmem i hi
    obtain ⟨hj, hjkey⟩ := hmem j hj
    -- both halves of the first task come before its save, and both of the second behind its load
    have hseam := h.save_before_load hi hj (hikey.trans hjkey.symm) hij
    have hfirst := w.load_before_save i hi
    have hsecond := w.load_before_save j hj
    simp only [Before, List.mem_cons, List.not_mem_nil, or_false, forall_eq_or_imp, forall_eq] at *
    omega

/-- Seen through one key, the tasks of an interleaving come one after the other, in any order of the
tasks that agrees with it. -/
theorem filter_key (h : w.AgreesWith order) (k : κ) :
    w.halves.filter (fun half ↦ decide (key half.task = k)) =
      inTurn (order.filter fun i ↦ decide (key i = k)) := by
  have hperm : w.halves.Perm (inTurn order) := w.perm.trans (h.perm.flatMap_right _).symm
  refine eq_of_perm_of_before ((pairwise_before w.nodup_halves).filter _) (h.pairwise_inTurn k) ?_
  rw [← filter_inTurn fun i ↦ decide (key i = k)]
  exact hperm.filter _

end Interleaving

end SpacedReview.Review

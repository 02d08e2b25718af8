import SpacedReview.Proofs.Sql.Binding
import SpacedReview.Proofs.Sql.Trees
import SpacedReview.Store.Search

/-!
# Searches within the limits of SQL

SQL bounds the height of the tree of a search, the length of its text, and the number and the length
of the parameters. Every node of a predicate makes the tree higher by one at most, adds less than a
hundred bytes to the text and has at most one parameter. So the height comes first, and a predicate
with at most 932 nodes is accepted whatever it asks for, as long as the texts in it can be bound
(`Database.exists_accepted?`).

A row is read as a tree that leans to the left, so a row of some thousand words is too high
(`Database.accepted?_eq_none_of_length`).

## Main statements

* `Query.Predicate.exists_tree?`: the height of trees.
* `Query.Predicate.within_fragment`: the length of texts and parameters.
* `Database.exists_accepted?`, `Database.accepted?_eq_none_of_length`: what SQL accepts.
-/

namespace SpacedReview

open SpacedReview.Query SpacedReview.Sql SpacedReview.Text

/-! ### Heights -/

namespace Sql.ParseTree

variable {α β : Type} {test : α → Test}

theorem height_conjoin_le (s t : ParseTree α) :
    (conjoin test s t).height test ≤ max (s.height test) (t.height test) + 1 := by
  unfold conjoin
  split
  · exact Nat.le_add_left 1 _
  · exact Nat.le_refl _

theorem height_or_le (s t : ParseTree α) :
    (s.or t).height test ≤ max (s.height test) (t.height test) + 1 := Nat.le_refl _

theorem isZero_eq_false {t : ParseTree α} (h : t ≠ zero) : t.isZero = false := by
  cases t with
  | zero => exact absurd rfl h
  | _ => rfl

/-- Only with the constant is a conjunction replaced. -/
theorem conjoin_of_ne_zero {s t : ParseTree α} (hs : s ≠ zero) (ht : t ≠ zero) :
    conjoin test s t = and s t := by
  simp [conjoin, isZero_eq_false hs, isZero_eq_false ht]

theorem map_ne_zero {f : α → β} {t : ParseTree α} (h : t ≠ zero) : t.map f ≠ zero := by
  cases t with
  | zero => exact absurd rfl h
  | _ => nofun

theorem height_map (f : β → α) (t : ParseTree β) : (t.map f).height test = t.height (test ∘ f) := by
  induction t with
  | leaf | zero => rfl
  | and s t hs ht | or s t hs ht => simp only [map, height, hs, ht]
  | not t ih => simp only [map, height, ih]

theorem isAccepted_iff {t : ParseTree Test} : t.isAccepted = true ↔
    max (t.height id) joinHeight + 1 + min (t.conjuncts.countP (isLookup id)) maxJoined ≤
        maxHeight ∧
      max (t.height id) joinHeight + 1 + (if t.uses id .lookup then Test.lookupHeight else 0) ≤
        maxHeight := by
  simp [isAccepted]

end Sql.ParseTree

namespace Query.Predicate

variable {α : Type} {test : α → Test}

mutual

/-- The number of nodes of a predicate. -/
def size : Predicate α → Nat
  | atom _ | nothing => 1
  | all ps | any ps => sizeRow ps + 1
  | not p => size p + 1

/-- The number of nodes of a row of predicates. -/
def sizeRow : List (Predicate α) → Nat
  | [] => 0
  | p :: ps => size p + sizeRow ps

end

theorem sizeRow_eq_sum (ps : List (Predicate α)) : sizeRow ps = (ps.map size).sum := by
  induction ps with
  | nil => rfl
  | cons p ps ih => rw [sizeRow, ih, List.map_cons, List.sum_cons]

theorem size_pos (p : Predicate α) : 0 < p.size := by
  cases p <;> simp [size]

mutual

/-- A node makes a tree higher by one at most, and tests are at most five high, so a predicate with
few nodes has a tree. -/
theorem exists_tree? (htest : ∀ a, (test a).height ≤ 5) : (p : Predicate α) →
    p.hasEmptyRow = false → p.size + 4 ≤ maxHeight →
      ∃ t, p.tree? test = some t ∧ t.height test ≤ p.size + 4
  | atom a, _, _ => ⟨.leaf a, rfl, htest a⟩
  | all [], h, _ | any [], h, _ => by cases h
  | all (p :: ps), h, hsize => by
    obtain ⟨-, hrow⟩ := Bool.or_eq_false_iff.1 h
    obtain ⟨hp, hps⟩ := Bool.or_eq_false_iff.1 hrow
    simp only [size, sizeRow] at hsize ⊢
    obtain ⟨front, hfront, hheight⟩ := exists_tree? htest p hp (by omega)
    obtain ⟨t, ht, hle⟩ :=
      exists_row? htest ParseTree.height_conjoin_le ps hps p.size_pos hheight (by omega)
    exact ⟨t, Option.bind_eq_some_iff.2 ⟨front, hfront, ht⟩, by omega⟩
  | any (p :: ps), h, hsize => by
    obtain ⟨-, hrow⟩ := Bool.or_eq_false_iff.1 h
    obtain ⟨hp, hps⟩ := Bool.or_eq_false_iff.1 hrow
    simp only [size, sizeRow] at hsize ⊢
    obtain ⟨front, hfront, hheight⟩ := exists_tree? htest p hp (by omega)
    obtain ⟨t, ht, hle⟩ :=
      exists_row? htest ParseTree.height_or_le ps hps p.size_pos hheight (by omega)
    exact ⟨t, Option.bind_eq_some_iff.2 ⟨front, hfront, ht⟩, by omega⟩
  | not p, h, hsize => by
    simp only [size] at hsize ⊢
    obtain ⟨t, ht, hheight⟩ := exists_tree? htest p h (by omega)
    refine ⟨t.not, Option.bind_eq_some_iff.2 ⟨t, ht, if_pos ?_⟩, ?_⟩ <;>
      simp only [ParseTree.height] <;> omega
  | nothing, _, _ => ⟨.zero, rfl, Nat.le_add_left 1 4⟩

theorem exists_row? (htest : ∀ a, (test a).height ≤ 5)
    {join : ParseTree α → ParseTree α → ParseTree α}
    (hjoin : ∀ s t, (join s t).height test ≤ max (s.height test) (t.height test) + 1) :
    (ps : List (Predicate α)) → someHasEmptyRow ps = false → {n : Nat} → 0 < n →
      {front : ParseTree α} → front.height test ≤ n + 4 → n + sizeRow ps + 4 ≤ maxHeight →
        ∃ t, row? test join ps front = some t ∧ t.height test ≤ n + sizeRow ps + 4
  | [], _, _, _, front, hfront, _ => ⟨front, rfl, hfront⟩
  | p :: ps, h, n, hn, front, hfront, hsize => by
    obtain ⟨hp, hps⟩ := Bool.or_eq_false_iff.1 h
    simp only [sizeRow] at hsize ⊢
    have hpos := p.size_pos
    obtain ⟨t, ht, hheight⟩ := exists_tree? htest p hp (by omega)
    have hjoined : (join front t).height test ≤ n + p.size + 4 := by
      have := hjoin front t
      omega
    obtain ⟨result, hresult, hle⟩ := exists_row? htest hjoin ps hps (Nat.add_pos_left hn p.size)
      hjoined (by omega)
    exact ⟨result, row?_cons_eq_some_iff.2 ⟨t, ht, by omega, hresult⟩, by omega⟩

end

/-- Every further conjunct makes the tree of a row higher, unless one is the constant. -/
theorem height_add_length_le {ps : List (Predicate α)} {front t : ParseTree α}
    (h : row? test (ParseTree.conjoin test) ps front = some t) (hfront : front ≠ .zero)
    (hps : ∀ p ∈ ps, p.tree? test ≠ some .zero) :
    front.height test + ps.length ≤ t.height test ∧ t ≠ .zero := by
  induction ps generalizing front with
  | nil =>
    obtain rfl := Option.some.inj h
    exact ⟨Nat.le_refl _, hfront⟩
  | cons p ps ih =>
    obtain ⟨s, hs, -, hrow⟩ := row?_cons_eq_some_iff.1 h
    have hszero : s ≠ .zero := fun heq ↦ hps p (by simp) (heq ▸ hs)
    rw [ParseTree.conjoin_of_ne_zero hfront hszero] at hrow
    obtain ⟨hle, ht⟩ := ih hrow nofun fun q hq ↦ hps q (List.mem_cons_of_mem p hq)
    simp only [ParseTree.height, List.length_cons] at hle ⊢
    exact ⟨by omega, ht⟩

end Query.Predicate

/-! ### Texts and parameters -/

namespace Sql

/-- A fragment for so many nodes: less than a hundred bytes for each, at most one parameter for
each, and no parameter that cannot be bound. -/
structure Fragment.Within (n : Nat) (f : Fragment) : Prop where
  bytes : f.sql.utf8ByteSize + 5 ≤ 100 * n
  marks : f.params.length ≤ n
  params : f.params.all Param.fits = true

namespace Fragment

theorem utf8ByteSize_append (f g : Fragment) :
    (f ++ g).sql.utf8ByteSize = f.sql.utf8ByteSize + g.sql.utf8ByteSize :=
  String.utf8ByteSize_append

theorem utf8ByteSize_parenthesized (f : Fragment) :
    f.parenthesized.sql.utf8ByteSize = f.sql.utf8ByteSize + 2 := by
  rw [parenthesized, utf8ByteSize_append, utf8ByteSize_append]
  show 1 + f.sql.utf8ByteSize + 1 = _
  omega

theorem params_parenthesized (f : Fragment) : f.parenthesized.params = f.params :=
  List.append_nil f.params

/-- The size of a row counts a separator for each of its members. -/
theorem Within.row {f : Fragment} {n : Nat} (hbytes : f.sql.utf8ByteSize ≤ 100 * n)
    (hmarks : f.params.length ≤ n) (hparams : f.params.all Param.fits = true) :
    f.parenthesized.Within (n + 1) := by
  refine ⟨?_, ?_, ?_⟩
  · rw [utf8ByteSize_parenthesized]
    omega
  · rw [params_parenthesized]
    omega
  · rwa [params_parenthesized]

mutual

/-- A predicate of short fragments is rendered as a fragment that is short for its nodes. -/
theorem within_ofPredicate : (p : Predicate Fragment) →
    p.AllAtoms (fun f ↦ f.parenthesized.Within 1) → (ofPredicate p).Within p.size
  | .atom _, h => h
  | .all ps, h => by
    obtain ⟨hbytes, hmarks, hparams⟩ := within_ofRow " and " (by decide) ps h
    exact .row hbytes hmarks hparams
  | .any ps, h => by
    obtain ⟨hbytes, hmarks, hparams⟩ := within_ofRow " or " (by decide) ps h
    exact .row hbytes hmarks hparams
  | .not p, h => by
    obtain ⟨hbytes, hmarks, hparams⟩ := within_ofPredicate p h
    refine ⟨?_, ?_, hparams⟩
    · rw [ofPredicate, utf8ByteSize_append, Predicate.size]
      have : (plain "not ").sql.utf8ByteSize = 4 := rfl
      omega
    · exact Nat.le_succ_of_le hmarks
  | .nothing, _ => ⟨by decide, by decide, by decide⟩

theorem within_ofRow (separator : String) (hseparator : separator.utf8ByteSize ≤ 5) :
    (ps : List (Predicate Fragment)) →
      Predicate.AllAtomsRow (fun f ↦ f.parenthesized.Within 1) ps →
        (ofRow separator ps).sql.utf8ByteSize ≤ 100 * Predicate.sizeRow ps ∧
          (ofRow separator ps).params.length ≤ Predicate.sizeRow ps ∧
            (ofRow separator ps).params.all Param.fits = true
  | [], _ => ⟨Nat.le_refl 0, Nat.le_refl 0, rfl⟩
  | [p], h => by
    obtain ⟨hbytes, hmarks, hparams⟩ := within_ofPredicate p h.1
    exact ⟨Nat.le_of_add_right_le hbytes, hmarks, hparams⟩
  | p :: q :: rest, h => by
    obtain ⟨hbytes, hmarks, hparams⟩ := within_ofPredicate p h.1
    obtain ⟨hbytes', hmarks', hparams'⟩ := within_ofRow separator hseparator (q :: rest) h.2
    have happend : (ofRow separator (p :: q :: rest)).params =
        (ofPredicate p).params ++ (ofRow separator (q :: rest)).params := by
      show ((ofPredicate p).params ++ []) ++ _ = _
      rw [List.append_nil]
    refine ⟨?_, ?_, ?_⟩
    · rw [ofRow, utf8ByteSize_append, utf8ByteSize_append, Predicate.sizeRow]
      have : (plain separator).sql.utf8ByteSize = separator.utf8ByteSize := rfl
      omega
    · rw [happend, List.length_append, Predicate.sizeRow]
      omega
    · rw [happend, List.all_append, hparams, hparams']
      rfl

end

end Fragment

end Sql

/-! ### Filters -/

namespace Filter

/-- Can the text that a filter looks for be bound? -/
def fits (f : Filter) : Bool := f.fragment.params.all Param.fits

theorem height_test_le (f : Filter) : f.test.height ≤ 5 := by
  cases f with
  | contains column | equals column | compares column =>
    cases column <;> exact Nat.le_of_ble_eq_true rfl
  | _ => exact Nat.le_of_ble_eq_true rfl

theorem utf8ByteSize_sql_le (f : Filter) : f.fragment.sql.utf8ByteSize ≤ 93 := by
  cases f with
  | contains column | equals column => cases column <;> exact Nat.le_of_ble_eq_true rfl
  | compares column relation =>
    cases column <;> cases relation <;> exact Nat.le_of_ble_eq_true rfl
  | _ => exact Nat.le_of_ble_eq_true rfl

theorem length_params_le (f : Filter) : f.fragment.params.length ≤ 1 := by
  cases f <;> exact Nat.le_of_ble_eq_true rfl

theorem within_fragment {f : Filter} (h : f.fits = true) : f.fragment.parenthesized.Within 1 := by
  refine ⟨?_, ?_, ?_⟩
  · rw [Fragment.utf8ByteSize_parenthesized]
    exact Nat.add_le_add_right f.utf8ByteSize_sql_le 7
  · rw [Fragment.params_parenthesized]
    exact f.length_params_le
  · rw [Fragment.params_parenthesized]
    exact h

end Filter

namespace Query.Predicate

mutual

theorem allAtoms_map {α β : Type} {P : β → Prop} {f : α → β} : (p : Predicate α) →
    p.AllAtoms (fun a ↦ P (f a)) → (p.map f).AllAtoms P
  | atom _, h => h
  | all ps, h | any ps, h => allAtomsRow_mapRow ps h
  | not p, h => allAtoms_map p h
  | nothing, _ => trivial

theorem allAtomsRow_mapRow {α β : Type} {P : β → Prop} {f : α → β} : (ps : List (Predicate α)) →
    AllAtomsRow (fun a ↦ P (f a)) ps → AllAtomsRow P (mapRow f ps)
  | [], _ => trivial
  | p :: ps, h => ⟨allAtoms_map p h.1, allAtomsRow_mapRow ps h.2⟩

end

mutual

theorem size_map {α β : Type} (f : α → β) : (p : Predicate α) → (p.map f).size = p.size
  | atom _ | nothing => rfl
  | all ps | any ps => congrArg (· + 1) (sizeRow_mapRow f ps)
  | not p => congrArg (· + 1) (size_map f p)

theorem sizeRow_mapRow {α β : Type} (f : α → β) : (ps : List (Predicate α)) →
    sizeRow (mapRow f ps) = sizeRow ps
  | [] => rfl
  | p :: ps => congrArg₂ (· + ·) (size_map f p) (sizeRow_mapRow f ps)

end

mutual

theorem allAtoms_iff {α : Type} {P : α → Prop} : {p : Predicate α} →
    (p.AllAtoms P ↔ ∀ a ∈ p.atoms, P a)
  | atom _ => by simp [AllAtoms, atoms]
  | all ps | any ps => allAtomsRow_iff_forall
  | not p => allAtoms_iff (p := p)
  | nothing => by simp [AllAtoms, atoms]

theorem allAtomsRow_iff_forall {α : Type} {P : α → Prop} : {ps : List (Predicate α)} →
    (AllAtomsRow P ps ↔ ∀ a ∈ atomsRow ps, P a)
  | [] => by simp [AllAtomsRow, atomsRow]
  | p :: ps => by
    rw [AllAtomsRow, atomsRow, allAtoms_iff, allAtomsRow_iff_forall, List.forall_mem_append]

end

/-- The parameters of a predicate are those of its filters. -/
theorem allAtoms_fits_iff {p : Predicate Filter} :
    p.AllAtoms (·.fits = true) ↔ p.fragment.params.all Param.fits = true := by
  have hparams := (Fragment.madeOf_ofPredicate (p.map Filter.fragment)).params_eq
  rw [atoms_map] at hparams
  rw [fragment, hparams, allAtoms_iff, List.all_flatMap, List.all_map, List.all_eq_true]
  rfl

/-- The SQL of a predicate whose texts can be bound is short for its nodes. -/
theorem within_fragment {p : Predicate Filter} (h : p.AllAtoms (·.fits = true)) :
    p.fragment.Within p.size := by
  rw [fragment, ← size_map Filter.fragment]
  exact Fragment.within_ofPredicate _
    (allAtoms_map p (AllAtoms.imp (fun _ ↦ Filter.within_fragment) p h))

end Query.Predicate

/-! ### Searches -/

namespace Store.Database

variable {owner : Subject} {p : Predicate Filter} {limit : Nat}

/-- The tests of the owner and of the join, and the look-ups that become parts of the join, leave
room for a tree that is 936 high. -/
theorem isAccepted_of_height_le {t : ParseTree Filter} (h : t.height Filter.test ≤ 936) :
    (conditionTree owner t).isAccepted = true := by
  have hle : (conditionTree owner t).height id ≤ 937 := by
    refine (ParseTree.height_conjoin_le _ _).trans ?_
    have : (ParseTree.leaf (ownershipTest owner)).height id = 3 := rfl
    rw [ParseTree.height_map, Function.id_comp]
    omega
  rw [ParseTree.isAccepted_iff, ParseTree.joinHeight, maxJoined, maxHeight, Test.lookupHeight]
  refine ⟨?_, ?_⟩
  · omega
  · split <;> omega

theorem fits_statement (h : p.fragment.Within p.size) (hsize : p.size ≤ 932) :
    (statement owner p limit).fits = true := by
  obtain ⟨hbytes, hmarks, -⟩ := h
  have hlength : (statement owner p limit).sql.utf8ByteSize =
      84 + (13 + 5 + p.fragment.sql.utf8ByteSize) + 26 := by
    simp only [statement, condition, Fragment.utf8ByteSize_append]
    rfl
  have hparams : (statement owner p limit).params.length = p.fragment.params.length + 2 := by
    simp only [statement, condition, Fragment.params_append, List.length_append]
    simp [Fragment.plain, ownership, ownershipTest, Test.fragment]
    omega
  rw [Fragment.fits, hlength, hparams, Bool.and_eq_true, decide_eq_true_eq, decide_eq_true_eq]
  simp only [maxBytes, maxMarks]
  omega

/-- A predicate with at most 932 nodes is accepted if the texts in it can be bound. -/
theorem exists_accepted? (hrows : p.hasEmptyRow = false) (hsize : p.size ≤ 932)
    (hfits : p.AllAtoms (·.fits = true)) (owner : Subject) (limit : Nat) :
    ∃ t, accepted? owner p limit = some t := by
  have hwithin := Predicate.within_fragment hfits
  obtain ⟨t, ht, hheight⟩ :=
    Predicate.exists_tree? Filter.height_test_le p hrows
      (Nat.add_le_add_right hsize 4 |>.trans (by decide))
  refine ⟨t, Option.filter_eq_some_iff.2 ⟨ht, ?_⟩⟩
  simp only [Bool.and_eq_true]
  exact ⟨⟨isAccepted_of_height_le (by omega), fits_statement hwithin hsize⟩, hwithin.params⟩

/-- A row of a thousand conjuncts is refused, unless one is the constant. -/
theorem accepted?_eq_none_of_length {ps : List (Predicate Filter)} (hlength : 1000 ≤ ps.length)
    (hps : ∀ p ∈ ps, p.tree? Filter.test ≠ some .zero) (owner : Subject) (limit : Nat) :
    accepted? owner (.all ps) limit = none := by
  refine Option.filter_eq_none_iff.2 fun t ht ↦ ?_
  cases ps with
  | nil => cases ht
  | cons p ps =>
    obtain ⟨front, hfront, hrow⟩ := Option.bind_eq_some_iff.1 ht
    obtain ⟨hheight, hzero⟩ := Predicate.height_add_length_le hrow
      (fun heq ↦ hps p (by simp) (heq ▸ hfront)) fun q hq ↦ hps q (List.mem_cons_of_mem p hq)
    have hjoined : conditionTree owner t =
        .and (.leaf (ownershipTest owner)) (t.map Filter.test) :=
      ParseTree.conjoin_of_ne_zero nofun (ParseTree.map_ne_zero hzero)
    have hhigh : ¬ (conditionTree owner t).isAccepted = true := by
      rw [ParseTree.isAccepted_iff, hjoined, ParseTree.height, ParseTree.height_map,
        Function.id_comp, maxHeight]
      rw [List.length_cons] at hlength
      omega
    simp [hhigh]

end Store.Database

end SpacedReview

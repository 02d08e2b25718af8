import Mathlib.Logic.Basic
import SpacedReview.Query.Predicate

/-!
# Occurrences of atoms

An atom may stand in a predicate more than once. To tell its occurrences apart the atoms are
numbered from left to right (`Predicate.numbered`); a reading of the numbered atoms can then give
every occurrence a truth value of its own.

The atoms of a predicate can be filled with predicates. Rows of a single member collapse on the way,
as parentheses around a single member do. The atoms of what is filled stand in the order of the
atoms that they fill, and it means what the predicate means if every atom means what it is filled
with.

## Main statements

* `Predicate.atoms_numbered`: the atoms are numbered from left to right.
* `Predicate.atoms_filled`, `Predicate.holds_filled`: the atoms and the meaning of what is filled.
-/

namespace SpacedReview.Query.Predicate

variable {α β γ : Type}

/-! ### Atoms -/

mutual

/-- The atoms of a predicate, from left to right. -/
def atoms : Predicate α → List α
  | atom a => [a]
  | all ps | any ps => atomsRow ps
  | not p => atoms p
  | nothing => []

/-- The atoms of a row of predicates. -/
def atomsRow : List (Predicate α) → List α
  | [] => []
  | p :: ps => atoms p ++ atomsRow ps

end

mutual

/-- Atoms that are replaced and put back are as before. -/
theorem map_map_cancel {f : α → β} {g : β → α} (h : ∀ a, g (f a) = a) : (p : Predicate α) →
    (p.map f).map g = p
  | atom a => congrArg atom (h a)
  | all ps => congrArg all (mapRow_mapRow_cancel h ps)
  | any ps => congrArg any (mapRow_mapRow_cancel h ps)
  | not p => congrArg not (map_map_cancel h p)
  | nothing => rfl

theorem mapRow_mapRow_cancel {f : α → β} {g : β → α} (h : ∀ a, g (f a) = a) :
    (ps : List (Predicate α)) → mapRow g (mapRow f ps) = ps
  | [] => rfl
  | p :: ps => congrArg₂ List.cons (map_map_cancel h p) (mapRow_mapRow_cancel h ps)

end

mutual

theorem atoms_map (f : α → β) : (p : Predicate α) → (p.map f).atoms = p.atoms.map f
  | atom _ | nothing => rfl
  | all ps | any ps => atomsRow_mapRow f ps
  | not p => atoms_map f p

theorem atomsRow_mapRow (f : α → β) : (ps : List (Predicate α)) →
    atomsRow (mapRow f ps) = (atomsRow ps).map f
  | [] => rfl
  | p :: ps => by
    rw [mapRow, atomsRow, atoms_map f p, atomsRow_mapRow f ps, atomsRow, List.map_append]

end

/-! ### Numbers -/

mutual

/-- The same predicate with its atoms numbered from left to right, beginning with a number. -/
def numberedFrom (n : Nat) : Predicate α → Predicate (α × Nat)
  | atom a => atom (a, n)
  | all ps => all (numberedRow n ps)
  | any ps => any (numberedRow n ps)
  | not p => not (numberedFrom n p)
  | nothing => nothing

/-- The same row of predicates with its atoms numbered. -/
def numberedRow (n : Nat) : List (Predicate α) → List (Predicate (α × Nat))
  | [] => []
  | p :: ps => numberedFrom n p :: numberedRow (n + p.atoms.length) ps

end

/-- The same predicate with its atoms numbered from left to right. -/
def numbered (p : Predicate α) : Predicate (α × Nat) := numberedFrom 0 p

mutual

theorem map_numberedFrom (n : Nat) : (p : Predicate α) → (p.numberedFrom n).map Prod.fst = p
  | atom _ | nothing => rfl
  | all ps => congrArg all (mapRow_numberedRow n ps)
  | any ps => congrArg any (mapRow_numberedRow n ps)
  | not p => congrArg not (map_numberedFrom n p)

theorem mapRow_numberedRow (n : Nat) : (ps : List (Predicate α)) →
    mapRow Prod.fst (numberedRow n ps) = ps
  | [] => rfl
  | p :: ps => congrArg₂ List.cons (map_numberedFrom n p) (mapRow_numberedRow _ ps)

end

mutual

theorem atoms_numberedFrom (n : Nat) : (p : Predicate α) →
    (p.numberedFrom n).atoms = p.atoms.zipIdx n
  | atom _ | nothing => rfl
  | all ps | any ps => atomsRow_numberedRow n ps
  | not p => atoms_numberedFrom n p

theorem atomsRow_numberedRow (n : Nat) : (ps : List (Predicate α)) →
    atomsRow (numberedRow n ps) = (atomsRow ps).zipIdx n
  | [] => rfl
  | p :: ps => by
    rw [numberedRow, atomsRow, atomsRow, atoms_numberedFrom n p, atomsRow_numberedRow _ ps,
      List.zipIdx_append]

end

/-- Without its numbers a numbered predicate is as before. -/
theorem map_numbered (p : Predicate α) : p.numbered.map Prod.fst = p := map_numberedFrom 0 p

/-- The atoms are numbered from left to right. -/
theorem atoms_numbered (p : Predicate α) : p.numbered.atoms = p.atoms.zipIdx :=
  atoms_numberedFrom 0 p

/-! ### Filling atoms -/

/-- A single predicate, or several that are joined. -/
def joined (join : List (Predicate α) → Predicate α) : List (Predicate α) → Predicate α
  | [p] => p
  | ps => join ps

mutual

/-- A predicate with its atoms filled with predicates, and without rows of a single member. -/
def filled (g : α → Predicate β) : Predicate α → Predicate β
  | atom a => g a
  | all ps => joined all (filledRow g ps)
  | any ps => joined any (filledRow g ps)
  | not p => not (filled g p)
  | nothing => nothing

/-- A row of predicates with its atoms filled. -/
def filledRow (g : α → Predicate β) : List (Predicate α) → List (Predicate β)
  | [] => []
  | p :: ps => filled g p :: filledRow g ps

end

/-- Joining several predicates is the same as joining a single one, to whatever does not see rows of
a single member. -/
theorem apply_joined {join : List (Predicate α) → Predicate α} (F : Predicate α → β)
    (h : ∀ p, F (join [p]) = F p) (ps : List (Predicate α)) : F (joined join ps) = F (join ps) := by
  cases ps with
  | nil => rfl
  | cons p ps =>
    cases ps with
    | nil => exact (h p).symm
    | cons q ps => rfl

theorem map_joined {join : List (Predicate α) → Predicate α}
    {join' : List (Predicate β) → Predicate β} {f : α → β}
    (h : ∀ ps, (join ps).map f = join' (mapRow f ps)) (ps : List (Predicate α)) :
    (joined join ps).map f = joined join' (mapRow f ps) := by
  cases ps with
  | nil => exact h []
  | cons p ps =>
    cases ps with
    | nil => rfl
    | cons q ps => exact h (p :: q :: ps)

theorem atoms_all_singleton (p : Predicate α) : (all [p]).atoms = p.atoms := List.append_nil _

theorem atoms_any_singleton (p : Predicate α) : (any [p]).atoms = p.atoms := List.append_nil _

theorem holds_all_singleton (reading : α → Bool) (p : Predicate α) :
    (all [p]).holds reading = p.holds reading := Bool.and_true _

theorem holds_any_singleton (reading : α → Bool) (p : Predicate α) :
    (any [p]).holds reading = p.holds reading := Bool.or_false _

mutual

/-- Replacing the atoms of what is filled is filling with other atoms. -/
theorem map_filled (f : β → γ) (g : α → Predicate β) : (p : Predicate α) →
    (p.filled g).map f = p.filled fun a ↦ (g a).map f
  | atom _ | nothing => rfl
  | all ps => by rw [filled, map_joined fun _ ↦ rfl, mapRow_filledRow f g ps, filled]
  | any ps => by rw [filled, map_joined fun _ ↦ rfl, mapRow_filledRow f g ps, filled]
  | not p => congrArg not (map_filled f g p)

theorem mapRow_filledRow (f : β → γ) (g : α → Predicate β) : (ps : List (Predicate α)) →
    mapRow f (filledRow g ps) = filledRow (fun a ↦ (g a).map f) ps
  | [] => rfl
  | p :: ps => congrArg₂ List.cons (map_filled f g p) (mapRow_filledRow f g ps)

end

mutual

/-- Filling the atoms of what was replaced. -/
theorem filled_map (f : α → β) (g : β → Predicate γ) : (p : Predicate α) →
    (p.map f).filled g = p.filled (g ∘ f)
  | atom _ | nothing => rfl
  | all ps => congrArg (joined all) (filledRow_mapRow f g ps)
  | any ps => congrArg (joined any) (filledRow_mapRow f g ps)
  | not p => congrArg not (filled_map f g p)

theorem filledRow_mapRow (f : α → β) (g : β → Predicate γ) : (ps : List (Predicate α)) →
    filledRow g (mapRow f ps) = filledRow (g ∘ f) ps
  | [] => rfl
  | p :: ps => congrArg₂ List.cons (filled_map f g p) (filledRow_mapRow f g ps)

end

mutual

/-- What fills the atoms stands in the order of the atoms. -/
theorem atoms_filled (g : α → Predicate β) : (p : Predicate α) →
    (p.filled g).atoms = p.atoms.flatMap fun a ↦ (g a).atoms
  | atom a => (List.append_nil _).symm
  | nothing => rfl
  | all ps => by
    rw [filled, apply_joined atoms atoms_all_singleton, atoms, atomsRow_filledRow g ps, atoms]
  | any ps => by
    rw [filled, apply_joined atoms atoms_any_singleton, atoms, atomsRow_filledRow g ps, atoms]
  | not p => atoms_filled g p

theorem atomsRow_filledRow (g : α → Predicate β) : (ps : List (Predicate α)) →
    atomsRow (filledRow g ps) = (atomsRow ps).flatMap fun a ↦ (g a).atoms
  | [] => rfl
  | p :: ps => by
    rw [filledRow, atomsRow, atoms_filled g p, atomsRow_filledRow g ps, atomsRow,
      List.flatMap_append]

end

mutual

/-- A predicate means what it is filled with, if its atoms do. -/
theorem holds_filled (g : α → Predicate β) (reading : β → Bool) : (p : Predicate α) →
    (p.filled g).holds reading = p.holds fun a ↦ (g a).holds reading
  | atom _ | nothing => rfl
  | all ps => by
    rw [filled, apply_joined (holds reading) (holds_all_singleton reading), holds,
      holdsAll_filledRow g reading ps, holds]
  | any ps => by
    rw [filled, apply_joined (holds reading) (holds_any_singleton reading), holds,
      holdsAny_filledRow g reading ps, holds]
  | not p => congrArg (!·) (holds_filled g reading p)

theorem holdsAll_filledRow (g : α → Predicate β) (reading : β → Bool) : (ps : List (Predicate α)) →
    holdsAll reading (filledRow g ps) = holdsAll (fun a ↦ (g a).holds reading) ps
  | [] => rfl
  | p :: ps => by
    rw [filledRow, holdsAll, holds_filled g reading p, holdsAll_filledRow g reading ps, holdsAll]

theorem holdsAny_filledRow (g : α → Predicate β) (reading : β → Bool) : (ps : List (Predicate α)) →
    holdsAny reading (filledRow g ps) = holdsAny (fun a ↦ (g a).holds reading) ps
  | [] => rfl
  | p :: ps => by
    rw [filledRow, holdsAny, holds_filled g reading p, holdsAny_filledRow g reading ps, holdsAny]

end

end SpacedReview.Query.Predicate

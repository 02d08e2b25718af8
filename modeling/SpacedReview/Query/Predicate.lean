/-!
# Predicates

A predicate is a boolean combination of atoms of some kind. What the atoms are about is left to
whoever uses it: a predicate is evaluated with any reading of its atoms, and its atoms can be
replaced without touching the combination.
-/

namespace SpacedReview.Query

/-- A boolean combination of atoms. -/
inductive Predicate (α : Type) where
  | atom (a : α)
  | all (children : List (Predicate α))
  | any (children : List (Predicate α))
  | not (inner : Predicate α)
  /-- Holds of nothing. -/
  | nothing

namespace Predicate

variable {α β : Type}

/-! ### Meaning -/

mutual

/-- Does the predicate hold under a reading of its atoms? -/
def holds (reading : α → Bool) : Predicate α → Bool
  | atom a => reading a
  | all ps => holdsAll reading ps
  | any ps => holdsAny reading ps
  | not p => !holds reading p
  | nothing => false

/-- Do all predicates of a row hold? -/
def holdsAll (reading : α → Bool) : List (Predicate α) → Bool
  | [] => true
  | p :: ps => holds reading p && holdsAll reading ps

/-- Does some predicate of a row hold? -/
def holdsAny (reading : α → Bool) : List (Predicate α) → Bool
  | [] => false
  | p :: ps => holds reading p || holdsAny reading ps

end

theorem holdsAll_eq_all (reading : α → Bool) (ps : List (Predicate α)) :
    holdsAll reading ps = ps.all (holds reading) := by
  induction ps with
  | nil => simp [holdsAll]
  | cons p ps ih => simp [holdsAll, ih]

theorem holdsAny_eq_any (reading : α → Bool) (ps : List (Predicate α)) :
    holdsAny reading ps = ps.any (holds reading) := by
  induction ps with
  | nil => simp [holdsAny]
  | cons p ps ih => simp [holdsAny, ih]

/-! ### Rows without members -/

mutual

/-- Does a row in the predicate have no members? -/
def hasEmptyRow : Predicate α → Bool
  | atom _ | nothing => false
  | all ps => ps.isEmpty || someHasEmptyRow ps
  | any ps => ps.isEmpty || someHasEmptyRow ps
  | not p => hasEmptyRow p

/-- Does some predicate of a row have a row without members? -/
def someHasEmptyRow : List (Predicate α) → Bool
  | [] => false
  | p :: ps => hasEmptyRow p || someHasEmptyRow ps

end

/-! ### Replacing atoms -/

mutual

/-- The same combination of other atoms. -/
def map (f : α → β) : Predicate α → Predicate β
  | atom a => atom (f a)
  | all ps => all (mapRow f ps)
  | any ps => any (mapRow f ps)
  | not p => not (map f p)
  | nothing => nothing

/-- The same combinations of other atoms, for a row of predicates. -/
def mapRow (f : α → β) : List (Predicate α) → List (Predicate β)
  | [] => []
  | p :: ps => map f p :: mapRow f ps

end

theorem mapRow_eq_map (f : α → β) (ps : List (Predicate α)) : mapRow f ps = ps.map (map f) := by
  induction ps with
  | nil => rfl
  | cons p ps ih => simp [mapRow, ih]

mutual

/-- Replacing atoms and then reading them is reading them through the replacement. -/
theorem holds_map (f : α → β) (reading : β → Bool) :
    (p : Predicate α) → (p.map f).holds reading = p.holds (reading ∘ f)
  | atom _ => rfl
  | all ps => by simp [map, holds, holdsAll_mapRow f reading ps]
  | any ps => by simp [map, holds, holdsAny_mapRow f reading ps]
  | not p => by simp [map, holds, holds_map f reading p]
  | nothing => rfl

theorem holdsAll_mapRow (f : α → β) (reading : β → Bool) :
    (ps : List (Predicate α)) → holdsAll reading (mapRow f ps) = holdsAll (reading ∘ f) ps
  | [] => rfl
  | p :: ps => by simp [mapRow, holdsAll, holds_map f reading p, holdsAll_mapRow f reading ps]

theorem holdsAny_mapRow (f : α → β) (reading : β → Bool) :
    (ps : List (Predicate α)) → holdsAny reading (mapRow f ps) = holdsAny (reading ∘ f) ps
  | [] => rfl
  | p :: ps => by simp [mapRow, holdsAny, holds_map f reading p, holdsAny_mapRow f reading ps]

end

end Predicate

end SpacedReview.Query

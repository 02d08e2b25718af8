/-!
# Results that succeed

The readers and the operations of the store are rows of steps, each of which may fail. A row
succeeds only if every step does, and these lemmas give back what the steps came to, so that no
proof has to go through the failures. What is made of a result afterwards does not change how it
failed.

Where a step may or may not be taken, it is enough to know what it comes to unless it fails, and how
it can fail (`IsOrFails`). A row of such steps is again one.
-/

namespace SpacedReview

variable {ε α β : Type}

theorem bind_eq_ok_iff {x : Except ε α} {f : α → Except ε β} {b : β} :
    x.bind f = .ok b ↔ ∃ a, x = .ok a ∧ f a = .ok b := by
  cases x <;> simp [Except.bind]

theorem bind_eq_error_iff {x : Except ε α} {f : α → Except ε β} {e : ε} :
    x.bind f = .error e ↔ x = .error e ∨ ∃ a, x = .ok a ∧ f a = .error e := by
  cases x <;> simp [Except.bind]

theorem map_eq_ok_iff {x : Except ε α} {f : α → β} {b : β} :
    x.map f = .ok b ↔ ∃ a, x = .ok a ∧ f a = b := by
  cases x <;> simp [Except.map]

theorem map_eq_error_iff {x : Except ε α} {f : α → β} {e : ε} :
    x.map f = .error e ↔ x = .error e := by
  cases x <;> simp [Except.map]

/-! ### Values unless there is a failure -/

/-- A result is the given value, or it fails in one of the given ways. -/
inductive IsOrFails (E : ε → Prop) (b : β) : Except ε β → Prop
  | value : IsOrFails E b (.ok b)
  | failure {e : ε} (h : E e) : IsOrFails E b (.error e)

namespace IsOrFails

variable {E : ε → Prop} {a : α} {b : β}

theorem bind {x : Except ε α} {f : α → Except ε β} (hx : IsOrFails E a x)
    (hf : IsOrFails E b (f a)) : IsOrFails E b (x.bind f) := by
  cases hx with
  | value => exact hf
  | failure h => exact .failure h

theorem map {x : Except ε α} (hx : IsOrFails E a x) (f : α → β) : IsOrFails E (f a) (x.map f) := by
  cases hx with
  | value => exact .value
  | failure h => exact .failure h

/-- A result that cannot fail is the value. -/
theorem eq_ok {x : Except ε β} (h : IsOrFails (fun _ ↦ False) b x) : x = .ok b := by
  cases h with
  | value => rfl
  | failure h => cases h

/-- A result with one way to fail is the value or this failure. -/
theorem eq_or_eq {e : ε} {x : Except ε β} (h : IsOrFails (· = e) b x) :
    x = .ok b ∨ x = .error e := by
  cases h with
  | value => exact .inl rfl
  | failure h => exact .inr (congrArg Except.error h)

end IsOrFails

end SpacedReview

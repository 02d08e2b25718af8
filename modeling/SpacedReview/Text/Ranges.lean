/-!
# Ranges of code points

A character property of a standard is a set of code points, and such a set is written down as the
ascending list of its maximal ranges, both ends included. Membership stops at the first range that
begins behind the code point, which is why the list has to ascend.
-/

namespace SpacedReview.Text

/-- Code point ranges, both ends included, in ascending order. -/
abbrev Ranges := List (Nat × Nat)

namespace Ranges

/-- Does a range hold the code point? -/
def contains : Ranges → Nat → Bool
  | [], _ => false
  | (first, last) :: rest, n =>
    if n < first then false else if n ≤ last then true else contains rest n

@[simp] theorem contains_nil (n : Nat) : contains [] n = false := rfl

/-- A code point that is found lies in one of the ranges. -/
theorem exists_mem_of_contains {rs : Ranges} {n : Nat} (h : contains rs n = true) :
    ∃ r ∈ rs, r.1 ≤ n ∧ n ≤ r.2 := by
  induction rs with
  | nil => simp at h
  | cons r rest ih =>
    obtain ⟨first, last⟩ := r
    unfold contains at h
    split at h
    · simp at h
    · split at h
      · exact ⟨(first, last), by simp, by omega, by omega⟩
      · obtain ⟨r, hr, h⟩ := ih h
        exact ⟨r, by simp [hr], h⟩

end Ranges

end SpacedReview.Text

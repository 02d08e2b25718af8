import Mathlib.Data.List.Basic
import Mathlib.Data.List.Nodup

/-!
# Tables with keys

A row is put into a table with keys by changing the row of the same key, if there is one, and else
by adding the new row behind the others. The tables of cards and of review records grow in this way.
So keys stay where they are, a row is found under its key, and a filter that keeps to the keys does
not notice rows of other keys.

## Main statements

* `map_upsert`: what is left as it is by the change is left in its place.
* `find?_upsert`: what is found under a key.
* `filter_upsert_of_kept`, `filter_upsert_of_left_out`: what is found by a filter.
* `perm_of_find?_eq`: what is found tells the rows, if keys are unique.
-/

namespace SpacedReview.Store

variable {α β κ : Type} [DecidableEq κ] {key : α → κ} {f : α → α} {new : α} {p : α → Bool}
  {l l' : List α}

/-- A table with a new row, or with the row of the same key changed if there is one. -/
def upsert (key : α → κ) (f : α → α) (new : α) (l : List α) : List α :=
  if l.any (key · == key new) then l.map fun a ↦ if key a = key new then f a else a
  else l ++ [new]

theorem any_key_iff : l.any (key · == key new) = true ↔ key new ∈ l.map key := by
  simp [List.any_eq_true]

/-- A row is new, or was there, or was changed. -/
theorem mem_upsert {a : α} (h : a ∈ upsert key f new l) :
    a = new ∨ a ∈ l ∨ ∃ old ∈ l, a = f old := by
  unfold upsert at h
  split at h
  · obtain ⟨old, hold, rfl⟩ := List.mem_map.1 h
    split
    · exact .inr (.inr ⟨old, hold, rfl⟩)
    · exact .inr (.inl hold)
  · rcases List.mem_append.1 h with h | h
    · exact .inr (.inl h)
    · exact .inl (List.mem_singleton.1 h)

/-- What the change leaves as it is stays in its place. -/
theorem map_upsert {g : α → β} (hg : ∀ a, key a = key new → g (f a) = g a) :
    (upsert key f new l).map g = l.map g ++ if key new ∈ l.map key then [] else [g new] := by
  by_cases hmem : key new ∈ l.map key
  · rw [upsert, if_pos (any_key_iff.2 hmem), if_pos hmem, List.append_nil, List.map_map]
    refine List.map_congr_left fun a _ ↦ ?_
    rw [Function.comp_apply]
    split
    · rename_i hkey
      exact hg a hkey
    · rfl
  · rw [upsert, if_neg (by rwa [any_key_iff]), if_neg hmem, List.map_append]
    rfl

/-- Under its key the new row is found, or the changed one if there was one. Nothing else is found
under any other key. -/
theorem find?_upsert (hf : ∀ a, key a = key new → key (f a) = key a) (k : κ) :
    (upsert key f new l).find? (key · == k) =
      if key new = k then some ((l.find? (key · == k)).elim new f)
      else l.find? (key · == k) := by
  by_cases hmem : key new ∈ l.map key
  · have hkeys : ∀ a, key (if key a = key new then f a else a) = key a := by
      intro a
      split
      · rename_i hkey
        exact hf a hkey
      · rfl
    rw [upsert, if_pos (any_key_iff.2 hmem), List.find?_map]
    simp only [Function.comp_def, hkeys]
    by_cases hk : key new = k
    · subst hk
      obtain ⟨old, hold, hkey⟩ := List.mem_map.1 hmem
      have hsome : (l.find? (key · == key new)).isSome = true :=
        List.find?_isSome.2 ⟨old, hold, by simpa using hkey⟩
      obtain ⟨found, hfound⟩ := Option.isSome_iff_exists.1 hsome
      have hfoundKey : key found = key new := by simpa using List.find?_some hfound
      rw [hfound, Option.map_some, if_pos hfoundKey, if_pos rfl, Option.elim_some]
    · rw [if_neg hk]
      cases hfound : l.find? (key · == k) with
      | none => rfl
      | some found =>
        have hfoundKey : key found = k := by simpa using List.find?_some hfound
        rw [Option.map_some, if_neg fun h ↦ hk (h.symm.trans hfoundKey)]
  · rw [upsert, if_neg (by rwa [any_key_iff]), List.find?_append]
    by_cases hk : key new = k
    · have hnone : l.find? (key · == k) = none := by
        rw [List.find?_eq_none]
        intro a ha hkey
        exact hmem (List.mem_map.2 ⟨a, ha, (by simpa using hkey : key a = k).trans hk.symm⟩)
      simp [hnone, hk]
    · simp [hk]

/-- A change that keeps to the filter leaves the filter the same rows. -/
theorem filter_map_change (hf : ∀ a ∈ l, key a = key new → p (f a) = p a) :
    (l.map fun a ↦ if key a = key new then f a else a).filter p =
      (l.filter p).map fun a ↦ if key a = key new then f a else a := by
  rw [List.filter_map]
  refine congrArg _ (List.filter_congr fun a ha ↦ ?_)
  rw [Function.comp_apply]
  split
  · rename_i hkey
    exact hf a ha hkey
  · rfl

/-- Rows that are kept are put among rows that are kept. -/
theorem filter_upsert_of_kept (hf : ∀ a ∈ l, key a = key new → p (f a) = p a)
    (hkept : ∀ a ∈ l, key a = key new → p a = true) (hnew : p new = true) :
    (upsert key f new l).filter p = upsert key f new (l.filter p) := by
  have hany : (l.filter p).any (key · == key new) = l.any (key · == key new) := by
    rw [Bool.eq_iff_iff, List.any_eq_true, List.any_eq_true]
    constructor
    · rintro ⟨a, ha, hkey⟩
      exact ⟨a, (List.mem_filter.1 ha).1, hkey⟩
    · rintro ⟨a, ha, hkey⟩
      exact ⟨a, List.mem_filter.2 ⟨ha, hkept a ha (by simpa using hkey)⟩, hkey⟩
  unfold upsert
  rw [hany]
  split
  · exact filter_map_change hf
  · rw [List.filter_append, List.filter_cons_of_pos hnew, List.filter_nil]

/-- Rows that are left out are put among rows that are left out. -/
theorem filter_upsert_of_left_out (hf : ∀ a ∈ l, key a = key new → p (f a) = p a)
    (hout : ∀ a ∈ l, key a = key new → p a = false) (hnew : p new = false) :
    (upsert key f new l).filter p = l.filter p := by
  unfold upsert
  split
  · rw [filter_map_change hf]
    refine (List.map_congr_left fun a ha ↦ ?_).trans (List.map_id _)
    obtain ⟨ha, hpa⟩ := List.mem_filter.1 ha
    rw [if_neg]
    · rfl
    · intro hkey
      rw [hout a ha hkey] at hpa
      cases hpa
  · rw [List.filter_append, List.filter_cons_of_neg (by simp [hnew]), List.filter_nil,
      List.append_nil]

/-! ### Unique keys -/

/-- In a table with unique keys each row is found under its key. -/
theorem find?_key_eq_some_iff (h : (l.map key).Nodup) {a : α} :
    l.find? (key · == key a) = some a ↔ a ∈ l := by
  refine ⟨List.mem_of_find?_eq_some, fun ha ↦ ?_⟩
  have hsome : (l.find? (key · == key a)).isSome = true :=
    List.find?_isSome.2 ⟨a, ha, beq_self_eq_true (key a)⟩
  obtain ⟨b, hb⟩ := Option.isSome_iff_exists.1 hsome
  have hkey : key b = key a := by simpa using List.find?_some hb
  rw [hb, List.inj_on_of_nodup_map h (List.mem_of_find?_eq_some hb) ha hkey]

/-- Tables with unique keys in which the same is found have the same rows, in whatever order. -/
theorem perm_of_find?_eq (h : (l.map key).Nodup) (h' : (l'.map key).Nodup)
    (hfind : ∀ a, l.find? (key · == key a) = l'.find? (key · == key a)) : l.Perm l' := by
  rw [List.perm_ext_iff_of_nodup h.of_map h'.of_map]
  intro a
  rw [← find?_key_eq_some_iff h, ← find?_key_eq_some_iff h', hfind]

end SpacedReview.Store

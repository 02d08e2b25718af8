import Mathlib.Data.String.Basic
import SpacedReview.Card.Id

/-!
# The order of bytes

Texts are put in the order of their bytes in UTF-8, which is the order of their characters: the
first byte says how many follow, more for higher characters, and the bytes of characters of one
length are the digits of their code points.

## Main statements

* `utf8EncodeChar_append_lt`: the bytes of a lower character stand in front.
* `CardId.utf8_lt_utf8_iff`: the bytes of two texts are in the order of the texts.
-/

namespace SpacedReview

/-! ### Characters -/

theorem ofNat_eq_ofNat_iff {m n : Nat} (hm : m < 256) (hn : n < 256) :
    UInt8.ofNat m = UInt8.ofNat n ↔ m = n := by
  rw [← UInt8.toNat_inj, UInt8.toNat_ofNat', UInt8.toNat_ofNat', Nat.mod_eq_of_lt hm,
    Nat.mod_eq_of_lt hn]

/-- Numbers compare by their digits to the base of 64. -/
theorem digits_lt {m n : Nat} (h : m < n) (hn : n < 8 * 262144) :
    m / 262144 % 8 < n / 262144 % 8 ∨ m / 262144 % 8 = n / 262144 % 8 ∧
      (m / 4096 % 64 < n / 4096 % 64 ∨ m / 4096 % 64 = n / 4096 % 64 ∧
        (m / 64 % 64 < n / 64 % 64 ∨ m / 64 % 64 = n / 64 % 64 ∧ m % 64 < n % 64)) := by
  rcases (by omega : m / 262144 < n / 262144 ∨ m / 262144 = n / 262144) with hlead | hlead
  · left
    omega
  · rcases (by omega : m / 4096 < n / 4096 ∨ m / 4096 = n / 4096) with hnext | hnext <;> omega

/-- The bytes of a lower character stand in front, whatever follows. -/
theorem utf8EncodeChar_append_lt {c d : Char} (h : c < d) (cs ds : List UInt8) :
    String.utf8EncodeChar c ++ cs < String.utf8EncodeChar d ++ ds := by
  have hlt : c.val.toNat < d.val.toNat := UInt32.lt_iff_toNat_lt.1 h
  have hd : d.val.toNat < 1114112 := by
    have hvalid : d.val.toNat < 55296 ∨ 57343 < d.val.toNat ∧ d.val.toNat < 1114112 := d.valid
    omega
  unfold String.utf8EncodeChar
  simp only
  generalize c.val.toNat = m at hlt
  generalize d.val.toNat = n at hlt hd
  have hdigits := digits_lt hlt (by omega)
  -- the first bytes tell how many there are; among characters with as many bytes the digits decide
  split_ifs
  all_goals
    simp (disch := first | omega | simp only [UInt8.size]; omega) only [List.cons_append,
      List.nil_append, List.cons_lt_cons_iff, UInt8.ofNat_lt_iff_lt, ofNat_eq_ofNat_iff,
      Nat.add_lt_add_iff_right, Nat.add_right_cancel_iff]
    omega

/-! ### Texts -/

namespace CardId

/-- The bytes of a lower text stand in front. -/
theorem flatMap_utf8EncodeChar_lt {cs ds : List Char} (h : cs < ds) :
    cs.flatMap String.utf8EncodeChar < ds.flatMap String.utf8EncodeChar := by
  induction ds generalizing cs with
  | nil => cases h
  | cons d ds ih =>
    cases cs with
    | nil =>
      obtain ⟨byte, bytes, hbytes⟩ :=
        List.exists_cons_of_ne_nil (String.utf8EncodeChar_ne_nil (c := d))
      rw [List.flatMap_nil, List.flatMap_cons, hbytes, List.cons_append]
      exact List.nil_lt_cons _ _
    | cons c cs =>
      rw [List.flatMap_cons, List.flatMap_cons]
      rcases List.cons_lt_cons_iff.1 h with hlt | ⟨rfl, hlt⟩
      · exact utf8EncodeChar_append_lt hlt _ _
      · exact List.append_left_lt (ih hlt)

/-- The bytes of two texts are in the order of the texts. -/
theorem utf8_lt_utf8_iff {s t : String} : utf8 s < utf8 t ↔ s < t := by
  have hmono : ∀ {s t : String}, s < t → utf8 s < utf8 t := fun h ↦
    flatMap_utf8EncodeChar_lt (String.lt_iff_toList_lt.1 h)
  constructor
  · intro hlt
    rcases lt_trichotomy s t with h | rfl | h
    · exact h
    · exact absurd hlt (List.lt_irrefl _)
    · exact absurd hlt (List.lt_asymm (hmono h))
  · exact hmono

/-- Two texts with the same bytes are the same. -/
theorem utf8_eq_utf8_iff {s t : String} : utf8 s = utf8 t ↔ s = t := by
  refine ⟨fun h ↦ ?_, congrArg utf8⟩
  rcases lt_trichotomy s t with hlt | heq | hlt
  · exact absurd (utf8_lt_utf8_iff.2 hlt) (h ▸ List.lt_irrefl _)
  · exact heq
  · exact absurd (utf8_lt_utf8_iff.2 hlt) (h ▸ List.lt_irrefl _)

end CardId

end SpacedReview

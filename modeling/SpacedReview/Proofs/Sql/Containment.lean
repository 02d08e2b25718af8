import Mathlib.Data.List.Infix
import Mathlib.Data.List.TakeWhile
import Mathlib.Data.String.Basic
import SpacedReview.Sql.Like

/-!
# Patterns that look for a text

`containing` escapes the three characters that mean something in a pattern and puts a `%` at either
end. The matcher goes back and forth between the pattern and the text, but on these patterns it can
be told item by item: a `%` gives up some of the text (`likeChars_many_iff`), and an escaped
character takes just its like (`likeChars_escaped_cons`). So the escaped text, whichever characters
it has, takes a run of the same length that is like it (`likeChars_escaped_append`), and the whole
pattern matches the texts that have such a run.

What is like a character is what `likeFold` does not tell from it: besides the case of ASCII letters
these are the two code points that are read as the replacement character. Both sides of `like` end
at a zero character, so all of this is about texts without any.

## Main statements

* `hasPart_iff_toLower`: what a part is where `like` does not confuse characters.
* `utf8ByteSize_containing`: how long the pattern for a text is.
* `isLike_containing_iff`: the pattern for a text matches the texts that have it as a part.
-/

namespace SpacedReview.Sql

variable {v : Char} {ps vs cs : List Char} {text part : String}

/-! ### Parts of a text -/

/-- A text has another text as a part, as `like` sees characters. -/
def HasPart (text part : String) : Prop :=
  ∃ run, run <:+: text.toList ∧ run.map likeFold = part.toList.map likeFold

theorem hasPart_iff_infix_map :
    HasPart text part ↔ part.toList.map likeFold <:+: text.toList.map likeFold := by
  rw [List.infix_map_iff]
  simp only [HasPart, eq_comm]

instance : Decidable (HasPart text part) := decidable_of_iff' _ hasPart_iff_infix_map

/-- Where the two code points that are no characters do not occur, a part is one up to the case of
ASCII letters. -/
theorem hasPart_iff_toLower (htext : ∀ c ∈ text.toList, c ≠ '\uFFFE' ∧ c ≠ '\uFFFF')
    (hpart : ∀ c ∈ part.toList, c ≠ '\uFFFE' ∧ c ≠ '\uFFFF') :
    HasPart text part ↔ ∃ run, run <:+: text.toList ∧
      run.map Char.toLower = part.toList.map Char.toLower := by
  have hfold : ∀ cs : List Char, (∀ c ∈ cs, c ≠ '\uFFFE' ∧ c ≠ '\uFFFF') →
      cs.map likeFold = cs.map Char.toLower := fun cs hcs ↦
    List.map_congr_left fun c hc ↦ by simp [likeFold, hcs c hc]
  refine exists_congr fun run ↦ and_congr_right fun hrun ↦ ?_
  rw [hfold run fun c hc ↦ htext c (hrun.subset hc), hfold _ hpart]

/-! ### The items of a pattern -/

/-- A `%` in front of a pattern gives up some of the text. -/
theorem likeChars_many_iff :
    likeChars ('%' :: ps) cs = true ↔ ∃ behind, behind <:+ cs ∧ likeChars ps behind = true := by
  induction cs with
  | nil => simp [likeChars]
  | cons c cs ih =>
    rw [likeChars, Bool.or_eq_true, ih]
    simp only [List.suffix_cons_iff, or_and_right, exists_or, exists_eq_left]

/-- A `%` at the end matches whatever is left. -/
theorem likeChars_many (cs : List Char) : likeChars ['%'] cs = true :=
  likeChars_many_iff.2 ⟨[], List.nil_suffix, by simp [likeChars]⟩

/-- An escaped character takes one that is like it, be it escaped or not. -/
theorem likeChars_escaped_cons :
    likeChars (escaped (v :: vs) ++ ps) cs = true ↔
      ∃ c rest, cs = c :: rest ∧ likeFold v = likeFold c ∧
        likeChars (escaped vs ++ ps) rest = true := by
  rw [escaped]
  split
  · cases cs <;> simp [likeChars]
  · rename_i hplain
    simp only [not_or] at hplain
    cases cs <;> simp [likeChars, hplain]

/-- An escaped text takes a run that is like it. -/
theorem likeChars_escaped_append :
    likeChars (escaped vs ++ ps) cs = true ↔
      ∃ run behind, cs = run ++ behind ∧ run.map likeFold = vs.map likeFold ∧
        likeChars ps behind = true := by
  induction vs generalizing cs with
  | nil => simp [escaped]
  | cons v vs ih =>
    rw [likeChars_escaped_cons]
    constructor
    · rintro ⟨c, rest, rfl, hlike, hrest⟩
      obtain ⟨run, behind, rfl, hrun, hbehind⟩ := ih.1 hrest
      exact ⟨c :: run, behind, rfl, by rw [List.map_cons, List.map_cons, hrun, hlike], hbehind⟩
    · rintro ⟨run, behind, rfl, hrun, hbehind⟩
      obtain ⟨c, run, rfl, hlike, hrun⟩ := List.map_eq_cons_iff.1 hrun
      exact ⟨c, run ++ behind, rfl, hlike.symm, ih.2 ⟨run, behind, rfl, hrun, hbehind⟩⟩

/-! ### Zero characters -/

theorem untilZero_eq_self (h : '\x00' ∉ cs) : untilZero cs = cs :=
  List.takeWhile_eq_self_iff.2 fun _ hc ↦ bne_iff_ne.2 fun heq ↦ h (heq ▸ hc)

/-- Escaping a text leads to no zero character. -/
theorem zero_notMem_escaped (h : '\x00' ∉ vs) : '\x00' ∉ escaped vs := by
  induction vs with
  | nil => simp [escaped]
  | cons v vs ih =>
    simp only [List.mem_cons, not_or] at h
    rw [escaped]
    split <;> simp [h.1, ih h.2]

/-! ### The pattern for a text -/

/-- Does a character mean something in a pattern? -/
def isSpecial (c : Char) : Bool := c == '%' || c == '_' || c == '\\'

/-- Every character that means something is longer by a byte when it is escaped. -/
theorem utf8Len_escaped (vs : List Char) :
    String.utf8Len (escaped vs) = String.utf8Len vs + vs.countP isSpecial := by
  induction vs with
  | nil => rfl
  | cons v vs ih =>
    have hbackslash : '\\'.utf8Size = 1 := rfl
    rw [escaped, List.countP_cons, String.utf8Len_cons]
    split
    · rename_i hspecial
      have hv : isSpecial v = true := by simpa [isSpecial, or_assoc] using hspecial
      rw [String.utf8Len_cons, String.utf8Len_cons, ih, hbackslash, if_pos hv]
      omega
    · rename_i hplain
      have hv : ¬ isSpecial v = true := by simpa [isSpecial, and_assoc] using hplain
      rw [String.utf8Len_cons, ih, if_neg hv]
      omega

/-- The pattern for a text has two bytes more, and one for every character that is escaped. -/
theorem utf8ByteSize_containing (part : String) : (containing part).utf8ByteSize =
    part.utf8ByteSize + part.toList.countP isSpecial + 2 := by
  have hpart : part.utf8ByteSize = String.utf8Len part.toList := by
    rw [← String.utf8ByteSize_ofList, String.ofList_toList]
  have hmany : '%'.utf8Size = 1 := rfl
  rw [containing, String.utf8ByteSize_ofList, List.cons_append, String.utf8Len_cons,
    String.utf8Len_append, String.utf8Len_cons, String.utf8Len_nil, utf8Len_escaped, hpart, hmany]

/-- The pattern for a text matches the texts that have it as a part. -/
theorem isLike_containing_iff (hpart : '\x00' ∉ part.toList) (htext : '\x00' ∉ text.toList) :
    isLike (containing part) text = true ↔ HasPart text part := by
  have hpattern : '\x00' ∉ (containing part).toList := by
    simp [containing, zero_notMem_escaped hpart]
  rw [isLike, untilZero_eq_self hpattern, untilZero_eq_self htext, containing, String.toList_ofList,
    List.cons_append, likeChars_many_iff]
  simp only [likeChars_escaped_append, likeChars_many, and_true]
  constructor
  · rintro ⟨-, ⟨front, hfront⟩, run, behind, rfl, hrun⟩
    exact ⟨run, ⟨front, behind, by rw [← hfront, List.append_assoc]⟩, hrun⟩
  · rintro ⟨run, ⟨front, behind, hcut⟩, hrun⟩
    exact ⟨run ++ behind, ⟨front, by rw [← hcut, List.append_assoc]⟩, run, behind, rfl, hrun⟩

end SpacedReview.Sql

import Mathlib.Data.List.Basic
import SpacedReview.Card.Id

/-!
# Which cards share an identifier

The bytes that identify a card are its owner, its kind and its item with a zero byte between them.
The kind never holds a zero character, and nothing follows the item, so the owner alone can make the
bytes ambiguous: a name with zero characters may take in the kind of another card and the start of
its item (`Absorbs`). This is the only way for two cards to have the same bytes, and names without
zero characters are safe from it.

What is hashed being the same is one thing, the hashes being the same another. The statements about
identifiers assume that the hash tells the two runs of bytes at hand apart.

## Main statements

* `written_eq_written_iff`: when two cards have the same bytes.
* `eq_of_preimage_eq`: among owners without a zero character in their names, the bytes tell cards
  apart.
* `ofCard_eq_ofCard_iff`: when two cards have the same identifier.
-/

namespace SpacedReview

/-! ### Characters and bytes -/

/-- A text is known from its bytes. -/
theorem flatMap_utf8EncodeChar_injective {cs ds : List Char}
    (h : cs.flatMap String.utf8EncodeChar = ds.flatMap String.utf8EncodeChar) : cs = ds := by
  have hencode : cs.utf8Encode = ds.utf8Encode := congrArg List.toByteArray h
  rw [← String.toByteArray_ofList, ← String.toByteArray_ofList, String.toByteArray_inj] at hencode
  exact String.ofList_injective hencode

theorem CardKind.zero_notMem_word (k : CardKind) : '\x00' ∉ k.word.toList := by
  cases k <;> decide

theorem CardKind.word_injective {k k' : CardKind} (h : k.word = k'.word) : k = k' := by
  have hread : ofWord? k.word = ofWord? k'.word := congrArg ofWord? h
  simpa using hread

namespace CardId

/-- The characters that identify a card before they are encoded. -/
def written (owner : Subject) (kind : CardKind) (item : String) : List Char :=
  owner.name.toList ++ '\x00' :: kind.word.toList ++ '\x00' :: item.toList

theorem preimage_eq_flatMap_written (owner : Subject) (kind : CardKind) (item : String) :
    preimage owner kind item = (written owner kind item).flatMap String.utf8EncodeChar := by
  have hzero : String.utf8EncodeChar '\x00' = [0] := by decide
  simp [preimage, written, utf8, hzero]

/-- Two cards have the same bytes just if they have the same characters. -/
theorem preimage_eq_preimage_iff {o₁ o₂ : Subject} {k₁ k₂ : CardKind} {i₁ i₂ : String} :
    preimage o₁ k₁ i₁ = preimage o₂ k₂ i₂ ↔ written o₁ k₁ i₁ = written o₂ k₂ i₂ := by
  rw [preimage_eq_flatMap_written, preimage_eq_flatMap_written]
  exact ⟨flatMap_utf8EncodeChar_injective, fun h ↦ h ▸ rfl⟩

/-! ### Taking the characters apart -/

/-- The owner of the second card has a name that takes in the kind of the first card and a `start`
of its item; the rest of that item is the kind and the item of the second card. -/
def Absorbs (o₁ : Subject) (k₁ : CardKind) (i₁ : String) (o₂ : Subject) (k₂ : CardKind)
    (i₂ : String) : Prop :=
  ∃ start : String, o₂.name ++ "\x00" = o₁.name ++ "\x00" ++ k₁.word ++ "\x00" ++ start ∧
    i₁ = start ++ k₂.word ++ "\x00" ++ i₂

/-- A text is cut at its last zero character in one way. -/
theorem append_zero_inj {cs ds ks ls : List Char} (hks : '\x00' ∉ ks) (hls : '\x00' ∉ ls)
    (h : cs ++ '\x00' :: ks = ds ++ '\x00' :: ls) : cs = ds ∧ ks = ls := by
  have hreverse : ks.reverse ++ '\x00' :: cs.reverse = ls.reverse ++ '\x00' :: ds.reverse := by
    simpa using congrArg List.reverse h
  obtain ⟨hkl, hcd⟩ : ks.reverse = ls.reverse ∧ cs.reverse = ds.reverse := by
    rcases List.append_eq_append_iff.1 hreverse with ⟨as, hl, hk⟩ | ⟨as, hk, hl⟩
    · cases as with
      | nil => exact ⟨by simpa using hl.symm, by simpa using hk⟩
      | cons a as =>
        obtain ⟨rfl, -⟩ := List.cons.inj hk
        exact absurd (List.mem_reverse.1 (hl ▸ by simp)) hls
    · cases as with
      | nil => exact ⟨by simpa using hk, by simpa using hl.symm⟩
      | cons a as =>
        obtain ⟨rfl, -⟩ := List.cons.inj hl
        exact absurd (List.mem_reverse.1 (hk ▸ by simp)) hks
  exact ⟨List.reverse_injective hcd, List.reverse_injective hkl⟩

/-- The characters in front of the item of one card start those of another card only if the two are
the same, or the owner of the other card takes in what is in front. -/
theorem exists_start_of_append_eq {o₁ o₂ rest : List Char} {k₁ k₂ : CardKind}
    (h : o₂ ++ '\x00' :: k₂.word.toList ++ ['\x00'] =
      o₁ ++ '\x00' :: k₁.word.toList ++ ['\x00'] ++ rest) :
    (rest = [] ∧ o₁ = o₂ ∧ k₁ = k₂) ∨ ∃ start, rest = start ++ k₂.word.toList ++ ['\x00'] ∧
      o₂ ++ ['\x00'] = o₁ ++ '\x00' :: k₁.word.toList ++ '\x00' :: start := by
  rcases List.eq_nil_or_concat rest with rfl | ⟨front, last, rfl⟩
  · rw [List.append_nil] at h
    obtain ⟨howner, hkind⟩ := append_zero_inj k₂.zero_notMem_word k₁.zero_notMem_word
      (List.append_cancel_right h)
    exact .inl ⟨rfl, howner.symm, (CardKind.word_injective (String.toList_inj.1 hkind)).symm⟩
  · right
    rw [List.concat_eq_append, ← List.append_assoc] at h
    obtain ⟨hfront, hlast⟩ := List.append_inj' h rfl
    obtain rfl : '\x00' = last := by simpa using hlast
    have hcut : (o₂ ++ ['\x00']) ++ k₂.word.toList =
        (o₁ ++ '\x00' :: k₁.word.toList ++ ['\x00']) ++ front := by
      simpa using hfront
    rcases List.append_eq_append_iff.1 hcut with ⟨as, howner, hkind⟩ | ⟨start, howner, hstart⟩
    · -- the zero that ends the left side would stand in the word of a kind, were it not the owner's
      obtain rfl : as = [] := by
        rcases List.eq_nil_or_concat as with has | ⟨as, last, rfl⟩
        · exact has
        · rw [List.concat_eq_append, ← List.append_assoc] at howner
          obtain rfl : '\x00' = last := by simpa using (List.append_inj' howner rfl).2
          exact absurd (hkind ▸ by simp) k₂.zero_notMem_word
      exact ⟨[], by simp [hkind], by simpa using howner.symm⟩
    · exact ⟨start, by simp [hstart], by simpa using howner⟩

theorem absorbs_iff {o₁ o₂ : Subject} {k₁ k₂ : CardKind} {i₁ i₂ : String} :
    Absorbs o₁ k₁ i₁ o₂ k₂ i₂ ↔ ∃ start,
      i₁.toList = start ++ k₂.word.toList ++ '\x00' :: i₂.toList ∧
      o₂.name.toList ++ ['\x00'] =
        o₁.name.toList ++ '\x00' :: k₁.word.toList ++ '\x00' :: start := by
  constructor
  · rintro ⟨start, howner, hitem⟩
    refine ⟨start.toList, by simp [hitem], ?_⟩
    simpa using congrArg String.toList howner
  · rintro ⟨start, hitem, howner⟩
    refine ⟨String.ofList start, String.toList_inj.1 ?_, String.toList_inj.1 ?_⟩
    · simpa using howner
    · simpa using hitem

/-- What stands in front of an item, and the item, make up the characters of a card. -/
theorem written_of_front (owner : Subject) (kind : CardKind) (item : String) :
    written owner kind item =
      owner.name.toList ++ '\x00' :: kind.word.toList ++ ['\x00'] ++ item.toList := by
  simp [written]

theorem written_of_absorbs {o₁ o₂ : Subject} {k₁ k₂ : CardKind} {i₁ i₂ : String}
    (h : Absorbs o₁ k₁ i₁ o₂ k₂ i₂) : written o₁ k₁ i₁ = written o₂ k₂ i₂ := by
  obtain ⟨start, hitem, howner⟩ := absorbs_iff.1 h
  calc
    written o₁ k₁ i₁ = (o₁.name.toList ++ '\x00' :: k₁.word.toList ++ '\x00' :: start) ++
        (k₂.word.toList ++ '\x00' :: i₂.toList) := by simp [written, hitem]
    _ = (o₂.name.toList ++ ['\x00']) ++ (k₂.word.toList ++ '\x00' :: i₂.toList) := by rw [howner]
    _ = written o₂ k₂ i₂ := by simp [written]

/-- If the characters in front of the item of one card go into those of another card, the two cards
are the same or the other one's owner absorbs the first. -/
theorem eq_or_absorbs_of_front {o₁ o₂ : Subject} {k₁ k₂ : CardKind} {i₁ i₂ : String}
    {rest : List Char} (hitem : i₁.toList = rest ++ i₂.toList)
    (h : o₂.name.toList ++ '\x00' :: k₂.word.toList ++ ['\x00'] =
      o₁.name.toList ++ '\x00' :: k₁.word.toList ++ ['\x00'] ++ rest) :
    (o₁ = o₂ ∧ k₁ = k₂ ∧ i₁ = i₂) ∨ Absorbs o₁ k₁ i₁ o₂ k₂ i₂ := by
  rcases exists_start_of_append_eq h with ⟨rfl, howner, hkind⟩ | ⟨start, rfl, howner⟩
  · have hname : o₁.name = o₂.name := String.toList_inj.1 howner
    exact .inl ⟨by cases o₁; cases o₂; simp_all, hkind, String.toList_inj.1 (by simpa using hitem)⟩
  · exact .inr (absorbs_iff.2 ⟨start, by simpa using hitem, howner⟩)

/-- Two cards have the same characters just if they are the same card, or one's owner absorbs the
other. -/
theorem written_eq_written_iff {o₁ o₂ : Subject} {k₁ k₂ : CardKind} {i₁ i₂ : String} :
    written o₁ k₁ i₁ = written o₂ k₂ i₂ ↔ (o₁ = o₂ ∧ k₁ = k₂ ∧ i₁ = i₂) ∨
      Absorbs o₁ k₁ i₁ o₂ k₂ i₂ ∨ Absorbs o₂ k₂ i₂ o₁ k₁ i₁ := by
  constructor
  · intro h
    rw [written_of_front, written_of_front] at h
    rcases List.append_eq_append_iff.1 h with ⟨rest, hfront, hitem⟩ | ⟨rest, hfront, hitem⟩
    · rcases eq_or_absorbs_of_front hitem hfront with hsame | habsorbs
      · exact .inl hsame
      · exact .inr (.inl habsorbs)
    · rcases eq_or_absorbs_of_front hitem hfront with ⟨howner, hkind, hitem⟩ | habsorbs
      · exact .inl ⟨howner.symm, hkind.symm, hitem.symm⟩
      · exact .inr (.inr habsorbs)
  · rintro (⟨rfl, rfl, rfl⟩ | h | h)
    · rfl
    · exact written_of_absorbs h
    · exact (written_of_absorbs h).symm

/-- An owner without a zero character in the name absorbs no card. -/
theorem not_absorbs {o₁ o₂ : Subject} {k₁ k₂ : CardKind} {i₁ i₂ : String}
    (h : '\x00' ∉ o₂.name.toList) : ¬ Absorbs o₁ k₁ i₁ o₂ k₂ i₂ := by
  rintro ⟨start, howner, -⟩
  have hcount := congrArg (fun s ↦ s.toList.count '\x00') howner
  have hnone : o₂.name.toList.count '\x00' = 0 := List.count_eq_zero.2 h
  simp only [String.toList_append, List.count_append, hnone] at hcount
  have hone : "\x00".toList.count '\x00' = 1 := by decide
  omega

/-- Among owners without a zero character in their names the bytes tell cards apart. -/
theorem eq_of_preimage_eq {o₁ o₂ : Subject} {k₁ k₂ : CardKind} {i₁ i₂ : String}
    (h₁ : '\x00' ∉ o₁.name.toList) (h₂ : '\x00' ∉ o₂.name.toList)
    (h : preimage o₁ k₁ i₁ = preimage o₂ k₂ i₂) : o₁ = o₂ ∧ k₁ = k₂ ∧ i₁ = i₂ := by
  rcases written_eq_written_iff.1 (preimage_eq_preimage_iff.1 h) with hsame | habsorbs | habsorbs
  · exact hsame
  · exact absurd habsorbs (not_absorbs h₂)
  · exact absurd habsorbs (not_absorbs h₁)

/-! ### Identifiers -/

/-- Two cards whose bytes the hash tells apart have the same identifier just if they are the same
card, or the name of one's owner takes in the kind of the other card and the start of its item. -/
theorem ofCard_eq_ofCard_iff {o₁ o₂ : Subject} {k₁ k₂ : CardKind} {i₁ i₂ : String}
    (hhash : Digest.Blake3.hash (preimage o₁ k₁ i₁) = Digest.Blake3.hash (preimage o₂ k₂ i₂) →
      preimage o₁ k₁ i₁ = preimage o₂ k₂ i₂) :
    ofCard o₁ k₁ i₁ = ofCard o₂ k₂ i₂ ↔ (o₁ = o₂ ∧ k₁ = k₂ ∧ i₁ = i₂) ∨
      Absorbs o₁ k₁ i₁ o₂ k₂ i₂ ∨ Absorbs o₂ k₂ i₂ o₁ k₁ i₁ := by
  rw [← written_eq_written_iff, ← preimage_eq_preimage_iff]
  constructor
  · intro h
    exact hhash (congrArg CardId.digest h)
  · intro h
    exact congrArg (fun bytes ↦ CardId.mk (Digest.Blake3.hash bytes)) h

/-- A name with zero characters takes in the kind and the start of the item of another user's card,
and both cards have one identifier. -/
theorem ofCard_eq_ofCard_of_zeros :
    ofCard ⟨"a"⟩ .vocab "x\x00hanzi\x00y" = ofCard ⟨"a\x00vocab\x00x"⟩ .hanzi "y" ∧
      (⟨"a"⟩ : Subject) ≠ ⟨"a\x00vocab\x00x"⟩ := by
  have hbytes : preimage ⟨"a"⟩ .vocab "x\x00hanzi\x00y" =
      preimage ⟨"a\x00vocab\x00x"⟩ .hanzi "y" := by
    decide
  exact ⟨congrArg (fun bytes ↦ CardId.mk (Digest.Blake3.hash bytes)) hbytes, by decide⟩

/-- An item may hold zero characters: as long as no name does, cards are told apart. -/
theorem ofCard_ne_ofCard_of_zeros :
    ofCard ⟨"a"⟩ .vocab "x\x00hanzi\x00y" ≠ ofCard ⟨"b"⟩ .hanzi "y" := by
  have hhash : Digest.Blake3.hash (preimage ⟨"a"⟩ .vocab "x\x00hanzi\x00y") =
      Digest.Blake3.hash (preimage ⟨"b"⟩ .hanzi "y") →
        preimage ⟨"a"⟩ .vocab "x\x00hanzi\x00y" = preimage ⟨"b"⟩ .hanzi "y" :=
    fun h ↦ absurd h (by decide +kernel)
  intro h
  rcases (ofCard_eq_ofCard_iff hhash).1 h with ⟨-, hkind, -⟩ | habsorbs | habsorbs
  · cases hkind
  · exact not_absorbs (by decide) habsorbs
  · exact not_absorbs (by decide) habsorbs

end CardId

end SpacedReview

import SpacedReview.Proofs.Query.Trees

/-!
# Queries side by side

Parsing is compositional: what two queries ask for when they stand next to each other, with or
without the keyword between them, is put together from what each of them asks for alone. The point
is that a gap between two queries keeps them apart for good. Their layouts are joined without
looking into them, and the groups of the joined layout are those of the two rows, except that the
keyword joins the two groups beside it into one, however many terms these have.

## Main statements

* `Layout.exists_join`: two layouts with a gap between them are a layout.
* `Condition.exists_parse_append`, `Condition.exists_parse_keyword`, `Condition.parse_dash`,
  `Condition.parse_eq_ok_none_iff`: the laws of juxtaposition, of the keyword, of the dash and of
  blank queries.
* `parse_juxtaposed`: parsing is compositional.
-/

namespace SpacedReview.Query

open SpacedReview.Text

/-! ### Joining layouts -/

/-- Two layouts with a gap between them are a layout, with the items of both. -/
theorem Layout.exists_join (l l' : Layout) {w : List Char} (hw : IsGap w) (hne : w ≠ []) :
    ∃ joined : Layout, joined.text = l.text ++ String.ofList w ++ l'.text ∧
      joined.items = l.items ++ l'.items := by
  obtain ⟨parts, last, hgaps, hlast⟩ := l
  obtain ⟨parts', last', hgaps', hlast'⟩ := l'
  cases parts' with
  | nil =>
    refine ⟨⟨parts, last ++ w ++ last', hgaps, (hlast.append hw).append hlast'⟩, ?_, ?_⟩
    · simp [text, String.append_assoc]
    · simp [items]
  | cons part parts' =>
    -- the gap between the queries goes to the first item behind it
    have hgap : IsGap (last ++ w ++ part.gap) := (hlast.append hw).append part.isGap
    have hseparated : ∀ p ∈ (parts ++ ⟨last ++ w ++ part.gap, part.dashes, part.body, hgap⟩ ::
        parts').tail, p.gap ≠ [] := by
      intro p hp
      have hbehind : p ∈ parts.tail ∨ p.gap = last ++ w ++ part.gap ∨ p ∈ parts' := by
        cases parts with
        | nil => exact .inr (.inr hp)
        | cons q qs =>
          rcases List.mem_append.1 hp with hp | hp
          · exact .inl hp
          · rcases List.mem_cons.1 hp with rfl | hp
            · exact .inr (.inl rfl)
            · exact .inr (.inr hp)
      rcases hbehind with hp | hp | hp
      · exact hgaps p hp
      · simp [hp, hne]
      · exact hgaps' p hp
    refine ⟨⟨_, last', hseparated, hlast'⟩, ?_, ?_⟩
    · simp [text, Part.text, Part.item, String.append_assoc]
    · simp [items, Part.token]

/-- The keyword by itself. -/
def Layout.keyword : Layout where
  parts := [⟨[], 0, .keyword, isGap_nil⟩]
  last := []
  separated := by simp
  isGap := isGap_nil

@[simp] theorem Layout.text_keyword : keyword.text = "OR" := rfl

@[simp] theorem Layout.items_keyword : keyword.items = [.or] := rfl

/-- A query is blank if its layout has no items. -/
theorem Layout.isGap_text_iff (layout : Layout) :
    IsGap layout.text.toList ↔ layout.items = [] := by
  obtain ⟨parts, last, hgaps, hlast⟩ := layout
  cases parts with
  | nil => simp [text, items, hlast]
  | cons part parts =>
    have := part.not_isGap_text_append (parts.flatMap Part.text ++ last)
    simpa [text, items] using this

/-! ### Joining groups -/

/-- Two groups with the keyword between them. -/
def Group.join (g h : Group) : Group := ⟨g.first, g.others ++ h.first :: h.others⟩

theorem Group.condition_join (g h : Group) :
    (g.join h).condition = .any (g.condition.alternatives ++ h.condition.alternatives) := by
  have hothers : (g.join h).others ≠ [] := by simp [join]
  rcases (g.join h).condition_eq with ⟨-, hnil⟩ | ⟨hcondition, -⟩
  · exact absurd hnil hothers
  · rw [hcondition, alternatives_condition, alternatives_condition]
    simp [join, terms]

/-- The keyword between two rows of groups joins the groups beside it. -/
theorem groupTokens_join (gs hs : List Group) (g h : Group) :
    groupTokens (gs ++ [g]) ++ .or :: groupTokens (h :: hs) =
      groupTokens (gs ++ g.join h :: hs) := by
  rw [groupTokens_append, groupTokens_append, groupTokens_cons, groupTokens_cons, groupTokens_cons,
    Group.join, alternativeTokens_append]
  simp [groupTokens, alternativeTokens]

/-! ### Dashes -/

/-- One more dash flips the negation of a term. -/
theorem Body.token_succ {k : Nat} {b : Body} {t : Term} (h : b.token k = .term t) :
    b.token (k + 1) = .term t.negate := by
  have hflip : decide ((k + 1) % 2 = 1) = !decide (k % 2 = 1) := by
    rw [Bool.eq_iff_iff]
    simp
    omega
  cases b with
  | literal v _ =>
    obtain rfl := Token.term.inj h
    rw [token, hflip]
    rfl
  | filter name op value _ =>
    obtain rfl := Token.term.inj h
    rw [token, hflip]
    rfl
  | word v _ _ _ _ =>
    rw [token] at h
    split at h
    · cases h
    · obtain rfl := Token.term.inj h
      rw [token, if_neg (by simp), hflip]
      rfl

/-- A dash in front of a query of one term. -/
theorem Layout.exists_dash {layout : Layout} {t : Term} {c : Char} {cs : List Char}
    (hitems : layout.items = [.term t]) (htext : layout.text.toList = c :: cs)
    (hc : isBlank c = false) :
    ∃ dashed : Layout, dashed.text = "-" ++ layout.text ∧ dashed.items = [.term t.negate] := by
  obtain ⟨parts, last, hgaps, hlast⟩ := layout
  obtain ⟨part, rfl, hpart⟩ := List.map_eq_singleton_iff.1 hitems
  have hgap : part.gap = [] := by
    cases hw : part.gap with
    | nil => rfl
    | cons d w =>
      have hd := part.isGap d (by simp [hw])
      obtain rfl : d = c := by
        have := congrArg List.head? htext
        simpa [text, Part.text, hw] using this
      rw [hc] at hd
      exact absurd hd (by simp)
  refine ⟨⟨[⟨[], part.dashes + 1, part.body, isGap_nil⟩], last, by simp, hlast⟩, ?_, ?_⟩
  · rw [← String.toList_inj]
    simp [text, Part.text, Part.item, hgap, List.replicate_succ]
  · exact congrArg (fun token ↦ [token]) (Body.token_succ hpart)

/-! ### The laws -/

namespace Condition

/-- With a gap between them, two queries ask for the conjuncts of both. -/
theorem exists_parse_append {s₁ s₂ w : String} {o₁ o₂ : Option Condition}
    (h₁ : parse s₁ = .ok o₁) (h₂ : parse s₂ = .ok o₂) (hw : IsGap w.toList) (hne : w ≠ "") :
    ∃ o, parse (s₁ ++ w ++ s₂) = .ok o ∧ conjuncts o = conjuncts o₁ ++ conjuncts o₂ := by
  obtain ⟨l₁, gs, rfl, hgs, rfl⟩ := parse_eq_ok_iff.1 h₁
  obtain ⟨l₂, hs, rfl, hhs, rfl⟩ := parse_eq_ok_iff.1 h₂
  obtain ⟨l, htext, hitems⟩ := l₁.exists_join l₂ hw (by simpa using hne)
  rw [hgs, hhs, ← groupTokens_append] at hitems
  rw [String.ofList_toList] at htext
  exact ⟨_, htext ▸ l.parse_text hitems, by simp⟩

/-- With the keyword between them, the last conjunct of one query and the first one of the other
become one. -/
theorem exists_parse_keyword {s₁ s₂ w : String} {o₁ o₂ : Option Condition}
    (h₁ : parse s₁ = .ok o₁) (h₂ : parse s₂ = .ok o₂) (hw : IsGap w.toList) (hne : w ≠ "")
    (hblank₁ : ¬ IsGap s₁.toList) (hblank₂ : ¬ IsGap s₂.toList) :
    ∃ o before c₁ c₂ behind, parse (s₁ ++ w ++ "OR" ++ w ++ s₂) = .ok o ∧
      conjuncts o₁ = before ++ [c₁] ∧ conjuncts o₂ = c₂ :: behind ∧
        conjuncts o = before ++ .any (alternatives c₁ ++ alternatives c₂) :: behind := by
  obtain ⟨l₁, gs, rfl, hgs, rfl⟩ := parse_eq_ok_iff.1 h₁
  obtain ⟨l₂, hs, rfl, hhs, rfl⟩ := parse_eq_ok_iff.1 h₂
  rw [Layout.isGap_text_iff, hgs, groupTokens_eq_nil_iff] at hblank₁
  rw [Layout.isGap_text_iff, hhs, groupTokens_eq_nil_iff] at hblank₂
  obtain ⟨gs, g, rfl⟩ : ∃ front last, gs = front ++ [last] :=
    ⟨_, _, (List.dropLast_append_getLast hblank₁).symm⟩
  obtain ⟨h, hs, rfl⟩ := List.exists_cons_of_ne_nil hblank₂
  obtain ⟨l, htext, hitems⟩ := l₁.exists_join Layout.keyword hw (by simpa using hne)
  obtain ⟨l', htext', hitems'⟩ := l.exists_join l₂ hw (by simpa using hne)
  rw [hitems, hgs, hhs, Layout.items_keyword, List.append_assoc, List.singleton_append,
    groupTokens_join] at hitems'
  rw [htext, Layout.text_keyword, String.ofList_toList] at htext'
  exact ⟨_, gs.map Group.condition, g.condition, h.condition, hs.map Group.condition,
    htext' ▸ l'.parse_text hitems', by simp, by simp, by simp [Group.condition_join]⟩

/-- A dash in front of a single term flips its negation. -/
theorem parse_dash {s : String} {t : Term} {c : Char} {cs : List Char}
    (h : parse s = .ok (some (.term t))) (htext : s.toList = c :: cs) (hc : isBlank c = false) :
    parse ("-" ++ s) = .ok (some (.term t.negate)) := by
  obtain ⟨layout, gs, rfl, hgs, ho⟩ := parse_eq_ok_iff.1 h
  obtain rfl : gs = [⟨t, []⟩] := ofGroups_injective ho
  obtain ⟨dashed, hdashed, hitems⟩ := layout.exists_dash hgs htext hc
  have hgroup : groupTokens [⟨t.negate, []⟩] = [.term t.negate] := rfl
  exact hdashed ▸ dashed.parse_text (hitems.trans hgroup.symm)

/-- The blank queries are those that ask for nothing. -/
theorem parse_eq_ok_none_iff {s : String} : parse s = .ok none ↔ IsGap s.toList := by
  constructor
  · intro h
    obtain ⟨layout, gs, rfl, hgs, ho⟩ := parse_eq_ok_iff.1 h
    obtain rfl : gs = [] := ofGroups_injective ho
    exact layout.isGap_text_iff.2 hgs
  · intro h
    exact parse_eq_ok_iff.2 ⟨⟨[], s.toList, by simp, h⟩, [], by simp [Layout.text], rfl, rfl⟩

end Condition

open Condition in
/-- Parsing is compositional. -/
theorem parse_juxtaposed :
    -- with a gap between them, two queries ask for the conjuncts of both
    (∀ (s₁ s₂ w : String) (o₁ o₂ : Option Condition), parse s₁ = .ok o₁ → parse s₂ = .ok o₂ →
      IsGap w.toList → w ≠ "" →
        ∃ o, parse (s₁ ++ w ++ s₂) = .ok o ∧ conjuncts o = conjuncts o₁ ++ conjuncts o₂) ∧
    -- with the keyword between them, the last conjunct of one and the first of the other are joined
    (∀ (s₁ s₂ w : String) (o₁ o₂ : Option Condition), parse s₁ = .ok o₁ → parse s₂ = .ok o₂ →
      IsGap w.toList → w ≠ "" → ¬ IsGap s₁.toList → ¬ IsGap s₂.toList →
        ∃ o before c₁ c₂ behind, parse (s₁ ++ w ++ "OR" ++ w ++ s₂) = .ok o ∧
          conjuncts o₁ = before ++ [c₁] ∧ conjuncts o₂ = c₂ :: behind ∧
            conjuncts o = before ++ .any (alternatives c₁ ++ alternatives c₂) :: behind) ∧
    -- a dash in front of a single term flips its negation
    (∀ (s : String) (t : Term) (c : Char) (cs : List Char), parse s = .ok (some (.term t)) →
      s.toList = c :: cs → isBlank c = false → parse ("-" ++ s) = .ok (some (.term t.negate))) ∧
    -- the blank queries are those that ask for nothing
    ∀ s : String, parse s = .ok none ↔ IsGap s.toList := by
  refine ⟨?_, ?_, ?_, ?_⟩
  · intro s₁ s₂ w o₁ o₂ h₁ h₂ hw hne
    exact exists_parse_append h₁ h₂ hw hne
  · intro s₁ s₂ w o₁ o₂ h₁ h₂ hw hne hblank₁ hblank₂
    exact exists_parse_keyword h₁ h₂ hw hne hblank₁ hblank₂
  · intro s t c cs h htext hc
    exact parse_dash h htext hc
  · intro s
    exact parse_eq_ok_none_iff

/-- With a space between two queries the groups stay apart, with the keyword two of them become
one, and a dash is taken with its term. -/
theorem parse_juxtaposed_example :
    (∃ o, Condition.parse ("a b OR c" ++ " " ++ "d e") = .ok o ∧ Condition.conjuncts o =
      [.term (.bare "a"), .any [.term (.bare "b"), .term (.bare "c")]] ++
        [.term (.bare "d"), .term (.bare "e")]) ∧
    (∃ o before c₁ c₂ behind, Condition.parse ("a b OR c" ++ " " ++ "OR" ++ " " ++ "d e") = .ok o ∧
      [.term (.bare "a"), .any [.term (.bare "b"), .term (.bare "c")]] = before ++ [c₁] ∧
      [.term (.bare "d"), .term (.bare "e")] = c₂ :: behind ∧
      Condition.conjuncts o =
        before ++ .any (c₁.alternatives ++ c₂.alternatives) :: behind) ∧
    Condition.parse ("-" ++ "-a") = .ok (some (.term (.bare "a"))) := by
  have h₁ : Condition.parse "a b OR c" = .ok (some (.all [.term (.bare "a"),
      .any [.term (.bare "b"), .term (.bare "c")]])) := by decide +kernel
  have h₂ : Condition.parse "d e" = .ok (some (.all [.term (.bare "d"), .term (.bare "e")])) := by
    decide +kernel
  have h₃ : Condition.parse "-a" = .ok (some (.term (Term.bare "a").negate)) := by decide +kernel
  have hspace : IsGap " ".toList := isGap_space
  refine ⟨parse_juxtaposed.1 _ _ " " _ _ h₁ h₂ hspace (by decide), ?_, ?_⟩
  · have hfirst : ¬ IsGap "a b OR c".toList := fun hgap ↦ absurd (hgap 'a' (by simp)) (by decide)
    have hsecond : ¬ IsGap "d e".toList := fun hgap ↦ absurd (hgap 'd' (by simp)) (by decide)
    exact parse_juxtaposed.2.1 _ _ " " _ _ h₁ h₂ hspace (by decide) hfirst hsecond
  · have hdash := parse_juxtaposed.2.2.1 "-a" _ '-' ['a'] h₃ (by simp) (by decide)
    rwa [Term.negate_negate] at hdash

end SpacedReview.Query

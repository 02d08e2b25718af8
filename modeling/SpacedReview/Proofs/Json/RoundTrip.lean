import Mathlib.Data.List.Basic
import Mathlib.Data.List.TakeWhile
import Mathlib.Data.Option.Basic
import SpacedReview.Json.Read

/-!
# JSON values are read back

What is written on one line is read back as it was. This is so for the values that programs write:
their numbers are whole, and their strings are texts, so no loose half of a surrogate pair is lost.

A value is read back whatever stands behind it, as long as that does not prolong a number. The
reader counts values and brackets against a bound, which it takes from the length of the text; twice
the length of a written value is enough for that value wherever it stands.

## Main statements

* `Value.Canonical.readsBack`: a written value is read back in front of any text that does not
  prolong it.
* `Value.parse?_compact`: a written value is read back.
-/

namespace SpacedReview.Json

open SpacedReview.Text

/-! ### Strings -/

theorem hexNat?_control : ∀ n < 32, hexNat? 0 ['0', '0', hexDigit (n / 16), hexDigit (n % 16)] =
    some n := by
  decide

theorem pieces_of_raw {c : Char} (cs : List Char) (hquote : c ≠ '"') (hslash : c ≠ '\\')
    (hc : ¬ c.toNat < 32) :
    pieces (c :: cs) = (pieces cs).map fun (ps, rest) ↦ (.char c :: ps, rest) := by
  have hguard : (guard (32 ≤ c.toNat) : Option Unit) = some () := if_pos (Nat.not_lt.1 hc)
  rw [pieces, hguard]
  · cases pieces cs <;> rfl
  · simp [hquote]
  · simp [hslash]
  · simp [hslash]

theorem pieces_of_control {c : Char} (cs : List Char) (hc : c.toNat < 32) :
    pieces ('\\' :: 'u' :: '0' :: '0' :: hexDigit (c.toNat / 16) :: hexDigit (c.toNat % 16) :: cs) =
      (pieces cs).map fun (ps, rest) ↦ (.char c :: ps, rest) := by
  have hunit : Piece.ofUnit c.toNat = .char c := by
    rw [Piece.ofUnit, if_neg (by omega), Char.ofNat_toNat]
  rw [pieces, hexNat?_control _ hc]
  cases pieces cs <;> simp [hunit]

theorem pieces_of_escape {a c : Char} (cs : List Char) (ha : a ≠ 'u') (h : escape? a = some c) :
    pieces ('\\' :: a :: cs) = (pieces cs).map fun (ps, rest) ↦ (.char c :: ps, rest) := by
  rw [pieces, h]
  · cases pieces cs <;> simp
  · simp [ha]

/-- A written character is read as one piece. -/
theorem pieces_printChar_append (c : Char) (cs : List Char) :
    pieces (Value.printChar c ++ cs) =
      (pieces cs).map fun (ps, rest) ↦ (.char c :: ps, rest) := by
  unfold Value.printChar
  split_ifs with hquote hslash hn hr ht hb hf hc
  · rw [hquote]
    exact pieces_of_escape cs (by decide) rfl
  · rw [hslash]
    exact pieces_of_escape cs (by decide) rfl
  · rw [hn]
    exact pieces_of_escape cs (by decide) rfl
  · rw [hr]
    exact pieces_of_escape cs (by decide) rfl
  · rw [ht]
    exact pieces_of_escape cs (by decide) rfl
  · rw [hb]
    exact pieces_of_escape cs (by decide) rfl
  · rw [hf]
    exact pieces_of_escape cs (by decide) rfl
  · exact pieces_of_control cs hc
  · exact pieces_of_raw cs hquote hslash hc

theorem pieces_flatMap_printChar_append (cs rest : List Char) :
    pieces (cs.flatMap Value.printChar ++ '"' :: rest) = some (cs.map .char, rest) := by
  induction cs with
  | nil => rfl
  | cons c cs ih =>
    rw [List.flatMap_cons, List.append_assoc, pieces_printChar_append, ih]
    rfl

theorem join_map_char (cs : List Char) : join (cs.map .char) = some cs := by
  induction cs with
  | nil => rfl
  | cons c cs ih => simp [join, ih]

/-- A written text is read back behind its opening quote. -/
theorem stringBehind_append (s : String) (rest : List Char) :
    stringBehind (s.toList.flatMap Value.printChar ++ '"' :: rest) = some (some s, rest) := by
  rw [stringBehind, pieces_flatMap_printChar_append]
  simp [join_map_char]

/-! ### Numbers -/

/-- Does a text not prolong a number that stands in front of it? -/
def EndsNumber (rest : List Char) : Prop :=
  ∀ c ∈ rest.head?, c.isDigit = false ∧ c ≠ '.' ∧ c ≠ 'e' ∧ c ≠ 'E'

/-- Digits do not start with a zero, unless they are those of zero. -/
theorem head?_toDigits_ne {n : Nat} (hn : n ≠ 0) : (Nat.toDigits 10 n).head? ≠ some '0' := by
  induction n using Nat.strong_induction_on with
  | _ n ih =>
    by_cases hlt : n < 10
    · have hdigit : ∀ k < 10, k ≠ 0 → [k.digitChar].head? ≠ some '0' := by decide
      rw [Nat.toDigits_of_lt_base hlt]
      exact hdigit n hlt hn
    · have hdiv : n / 10 ≠ 0 := by omega
      rw [Nat.toDigits_of_base_le (by omega) (by omega),
        List.head?_append_of_ne_nil _ Nat.toDigits_ne_nil]
      exact ih (n / 10) (by omega) hdiv

theorem digits?_append {ds rest : List Char} (hne : ds ≠ []) (hds : ∀ c ∈ ds, c.isDigit = true)
    (hrest : EndsNumber rest) : digits? (ds ++ rest) = some (ds, rest) := by
  have hstop : rest.takeWhile Char.isDigit = [] ∧ rest.dropWhile Char.isDigit = rest := by
    cases rest with
    | nil => simp
    | cons c rest => simp [(hrest c rfl).1]
  rw [digits?, List.takeWhile_append_of_pos hds, List.dropWhile_append_of_pos hds, hstop.1, hstop.2,
    List.append_nil, if_neg hne]

theorem whole?_append (n : Nat) {rest : List Char} (hrest : EndsNumber rest) :
    whole? (Nat.toDigits 10 n ++ rest) = some (Nat.toDigits 10 n, rest) := by
  by_cases hn : n = 0
  · subst hn
    rfl
  · have hdigits : ∀ c ∈ Nat.toDigits 10 n, c.isDigit = true := fun c hc ↦
      Nat.isDigit_of_mem_toDigits (by decide) (by decide) hc
    rw [← digits?_append Nat.toDigits_ne_nil hdigits hrest]
    unfold whole?
    split
    · rename_i heq
      refine absurd ?_ (head?_toDigits_ne hn)
      rw [← List.head?_append_of_ne_nil _ Nat.toDigits_ne_nil, heq]
      rfl
    · rfl

theorem unsigned?_append (negative : Bool) (n : Nat) {rest : List Char} (hrest : EndsNumber rest) :
    unsigned? negative (Nat.toDigits 10 n ++ rest) =
      some (⟨negative, Nat.toDigits 10 n, none, none⟩, rest) := by
  have hfraction : fraction? rest = some (none, rest) := by
    unfold fraction?
    split
    · exact absurd rfl (hrest '.' rfl).2.1
    · rfl
  have hexponent : exponent? rest = some (none, rest) := by
    unfold exponent?
    split
    · exact absurd rfl (hrest 'e' rfl).2.2.1
    · exact absurd rfl (hrest 'E' rfl).2.2.2
    · rfl
  simp [unsigned?, whole?_append n hrest, hfraction, hexponent]

/-- A written integer is read back. -/
theorem numeral?_append (n : Int) {rest : List Char} (hrest : EndsNumber rest) :
    numeral? (Value.printNumeral (.ofInt n) ++ rest) = some (.ofInt n, rest) := by
  have hprint : Value.printNumeral (.ofInt n) ++ rest =
      (if n < 0 then ['-'] else []) ++ (Nat.toDigits 10 n.natAbs ++ rest) := by
    simp [Value.printNumeral, Numeral.ofInt]
  rw [hprint, Numeral.ofInt]
  by_cases hn : n < 0
  · simp [hn, numeral?, unsigned?_append true n.natAbs hrest]
  · rw [if_neg hn, List.nil_append, decide_eq_false hn, ← unsigned?_append false n.natAbs hrest]
    unfold numeral?
    split
    · -- a digit is no sign
      rename_i heq
      obtain ⟨c, cs, hdigits⟩ :=
        List.exists_cons_of_ne_nil (Nat.toDigits_ne_nil (b := 10) (n := n.natAbs))
      have hc : c.isDigit = true := Nat.isDigit_of_mem_toDigits (by decide) (by decide)
        (hdigits ▸ List.mem_cons_self)
      rw [hdigits] at heq
      obtain rfl : c = '-' := (List.cons.inj heq).1
      exact absurd hc (by decide)
    · rfl

/-! ### Values -/

namespace Value

mutual

/-- A value that is written without loss: its numbers are whole, and its strings are texts. -/
def Canonical : Value → Prop
  | null | bool _ => True
  | number n => ∃ k, n = .ofInt k
  | string s => s.isSome = true
  | array items => CanonicalItems items
  | object members => CanonicalMembers members

/-- A row of values that are written without loss. -/
def CanonicalItems : List Value → Prop
  | [] => True
  | v :: vs => Canonical v ∧ CanonicalItems vs

/-- A row of members that are written without loss. -/
def CanonicalMembers : List (Option String × Value) → Prop
  | [] => True
  | (key, v) :: ms => key.isSome = true ∧ Canonical v ∧ CanonicalMembers ms

end

end Value

theorem skip_cons {c : Char} (cs : List Char) (hc : isSpace c = false) :
    skip (c :: cs) = c :: cs := by
  simp [skip, hc]

theorem isSpace_of_numeral {c : Char} (hc : c.isDigit = true ∨ c = '-') : isSpace c = false := by
  refine Bool.eq_false_iff.2 fun hspace ↦ ?_
  simp only [isSpace, Bool.or_eq_true, beq_iff_eq] at hspace
  rcases hspace with ((rfl | rfl) | rfl) | rfl <;> exact absurd hc (by decide)

/-- What starts with a digit or a sign is read as a number. -/
theorem value?_of_numeral {n : Nat} {c : Char} {cs : List Char} (hc : c.isDigit = true ∨ c = '-') :
    value? (n + 1) (c :: cs) = (numeral? (c :: cs)).map fun (k, rest) ↦ (.number k, rest) := by
  have hother : ∀ d, (d.isDigit = false ∧ d ≠ '-') → c ≠ d := by
    rintro d ⟨hd, hdash⟩ rfl
    rcases hc with hc | hc
    · exact absurd hc (by simp [hd])
    · exact hdash hc
  rw [value?, skip_cons cs (isSpace_of_numeral hc)]
  split
  case h_1 heq => exact absurd (List.cons.inj heq).1 (hother 'n' (by decide))
  case h_2 heq => exact absurd (List.cons.inj heq).1 (hother 't' (by decide))
  case h_3 heq => exact absurd (List.cons.inj heq).1 (hother 'f' (by decide))
  case h_4 heq => exact absurd (List.cons.inj heq).1 (hother '"' (by decide))
  case h_5 heq => exact absurd (List.cons.inj heq).1 (hother '[' (by decide))
  case h_6 heq => exact absurd (List.cons.inj heq).1 (hother '\x7b' (by decide))
  case h_7 => rfl

theorem exists_printNumeral_eq_cons (k : Int) :
    ∃ c cs, Value.printNumeral (.ofInt k) = c :: cs ∧ (c.isDigit = true ∨ c = '-') := by
  obtain ⟨d, ds, hdigits⟩ := List.exists_cons_of_ne_nil
    (Nat.toDigits_ne_nil (b := 10) (n := k.natAbs))
  have hd : d.isDigit = true := Nat.isDigit_of_mem_toDigits (by decide) (by decide)
    (hdigits ▸ List.mem_cons_self)
  by_cases hk : k < 0
  · exact ⟨'-', _, by simp [Value.printNumeral, Numeral.ofInt, hk]; rfl, .inr rfl⟩
  · exact ⟨d, ds, by simp [Value.printNumeral, Numeral.ofInt, hk, hdigits], .inl hd⟩

theorem value?_number_append (k : Int) {n : Nat} {rest : List Char} (hrest : EndsNumber rest) :
    value? (n + 1) (Value.printNumeral (.ofInt k) ++ rest) = some (.number (.ofInt k), rest) := by
  obtain ⟨c, cs, hprint, hc⟩ := exists_printNumeral_eq_cons k
  rw [hprint, List.cons_append, value?_of_numeral hc, ← List.cons_append, ← hprint,
    numeral?_append k hrest]
  rfl

/-- What stands behind a value in an array or an object does not prolong a number. -/
theorem endsNumber_cons {c : Char} {cs : List Char} (hc : c ∈ [',', ']', '\x7d']) :
    EndsNumber (c :: cs) := by
  intro d hd
  obtain rfl : c = d := by simpa using hd
  simp only [List.mem_cons, List.not_mem_nil, or_false] at hc
  rcases hc with rfl | rfl | rfl <;> decide

theorem endsNumber_printItems (d : Nat) (vs : List Value) (rest : List Char) :
    EndsNumber (Value.printItems .compact d vs ++ ']' :: rest) := by
  cases vs with
  | nil => exact endsNumber_cons (by simp)
  | cons v vs => exact endsNumber_cons (by simp)

theorem endsNumber_printMembers (d : Nat) (ms : List (Option String × Value)) (rest : List Char) :
    EndsNumber (Value.printMembers .compact d ms ++ '\x7d' :: rest) := by
  rcases ms with _ | ⟨⟨key, v⟩, ms⟩
  · exact endsNumber_cons (by simp)
  · exact endsNumber_cons (by simp)

/-- Is a value read back wherever it stands on a line? The bound is twice the length of its text. -/
def Value.ReadsBack (v : Value) : Prop :=
  ∀ {d n : Nat} {rest : List Char}, 2 * (v.print .compact d).length ≤ n → EndsNumber rest →
    value? (n + 1) (v.print .compact d ++ rest) = some (v, rest)

/-- Behind an item another one is read. -/
theorem items?_of_comma {n : Nat} {v : Value} {cs rest : List Char}
    (h : value? n cs = some (v, ',' :: rest)) :
    items? (n + 1) cs = (items? n rest).map fun (vs, rest) ↦ (v :: vs, rest) := by
  rw [items?, h]
  simp only [Option.bind_eq_bind, Option.bind_some,
    skip_cons _ (show isSpace ',' = false by decide)]
  cases items? n rest <;> rfl

/-- Behind the last item nothing more is read. -/
theorem items?_of_close {n : Nat} {v : Value} {cs rest : List Char}
    (h : value? n cs = some (v, ']' :: rest)) : items? (n + 1) cs = some ([v], rest) := by
  rw [items?, h]
  simp only [Option.bind_eq_bind, Option.bind_some,
    skip_cons _ (show isSpace ']' = false by decide)]
  rfl

theorem items?_append {v : Value} {vs : List Value} (h : ∀ w ∈ v :: vs, w.ReadsBack) {d n : Nat}
    {rest : List Char}
    (hn : 2 * (v.print .compact (d + 1) ++ Value.printItems .compact d vs).length < n) :
    items? (n + 1) (v.print .compact (d + 1) ++ (Value.printItems .compact d vs ++ ']' :: rest)) =
      some (v :: vs, rest) := by
  induction vs generalizing v n with
  | nil =>
    obtain ⟨n, rfl⟩ : ∃ m, n = m + 1 := ⟨n - 1, by omega⟩
    have hv := h v (by simp) (n := n) (d := d + 1) (by simp at hn; omega)
      (endsNumber_printItems d [] rest)
    exact items?_of_close hv
  | cons w ws ih =>
    obtain ⟨n, rfl⟩ : ∃ m, n = m + 1 := ⟨n - 1, by omega⟩
    have hlength : (Value.printItems .compact d (w :: ws)).length =
        (w.print .compact (d + 1) ++ Value.printItems .compact d ws).length + 1 := by
      simp [Value.printItems, Value.Layout.compact, Nat.add_comm]
    rw [List.length_append, hlength] at hn
    have hv := h v (by simp) (n := n) (d := d + 1) (by omega)
      (endsNumber_printItems d (w :: ws) rest)
    have hws := ih (v := w) (n := n) (fun u hu ↦ h u (List.mem_cons_of_mem v hu)) (by omega)
    have htext : Value.printItems .compact d (w :: ws) ++ ']' :: rest =
        ',' :: (w.print .compact (d + 1) ++ (Value.printItems .compact d ws ++ ']' :: rest)) := by
      simp [Value.printItems, Value.Layout.compact]
    rw [htext] at hv ⊢
    rw [items?_of_comma hv, hws]
    rfl

theorem printText_append_cons (s : String) (c : Char) (cs : List Char) :
    Value.printText s ++ c :: cs =
      '"' :: (s.toList.flatMap Value.printChar ++ '"' :: c :: cs) := by
  simp [Value.printText]

/-- Behind a member another one is read. -/
theorem members?_of_comma {key : String} {n : Nat} {v : Value} {cs rest : List Char}
    (h : value? n cs = some (v, ',' :: rest)) :
    members? (n + 1) (Value.printText key ++ ':' :: cs) =
      (members? n rest).map fun (ms, rest) ↦ ((some key, v) :: ms, rest) := by
  rw [printText_append_cons, members?, skip_cons _ (by decide)]
  simp only [stringBehind_append, Option.bind_eq_bind, Option.bind_some, h,
    skip_cons _ (show isSpace ':' = false by decide),
    skip_cons _ (show isSpace ',' = false by decide)]
  cases members? n rest <;> rfl

/-- Behind the last member nothing more is read. -/
theorem members?_of_close {key : String} {n : Nat} {v : Value} {cs rest : List Char}
    (h : value? n cs = some (v, '\x7d' :: rest)) :
    members? (n + 1) (Value.printText key ++ ':' :: cs) = some ([(some key, v)], rest) := by
  rw [printText_append_cons, members?, skip_cons _ (by decide)]
  simp only [stringBehind_append, Option.bind_eq_bind, Option.bind_some, h,
    skip_cons _ (show isSpace ':' = false by decide),
    skip_cons _ (show isSpace '\x7d' = false by decide)]
  rfl

theorem members?_append {key : String} {v : Value} {ms : List (Option String × Value)}
    (h : ∀ m ∈ (some key, v) :: ms, m.1.isSome = true ∧ m.2.ReadsBack) {d n : Nat}
    {rest : List Char}
    (hn : 2 * (v.print .compact (d + 1) ++ Value.printMembers .compact d ms).length < n) :
    members? (n + 1) (Value.printText key ++ ':' :: (v.print .compact (d + 1) ++
      (Value.printMembers .compact d ms ++ '\x7d' :: rest))) =
      some ((some key, v) :: ms, rest) := by
  induction ms generalizing key v n with
  | nil =>
    obtain ⟨n, rfl⟩ : ∃ m, n = m + 1 := ⟨n - 1, by omega⟩
    have hback : v.ReadsBack := (h (some key, v) (by simp)).2
    have hv := hback (n := n) (d := d + 1) (by simp at hn; omega)
      (endsNumber_printMembers d [] rest)
    exact members?_of_close hv
  | cons m ms ih =>
    obtain ⟨key', w⟩ := m
    obtain ⟨key', rfl⟩ := Option.isSome_iff_exists.1 (h (key', w) (by simp)).1
    obtain ⟨n, rfl⟩ : ∃ m, n = m + 1 := ⟨n - 1, by omega⟩
    have hlength : (w.print .compact (d + 1) ++ Value.printMembers .compact d ms).length <
        (Value.printMembers .compact d ((some key', w) :: ms)).length := by
      simp [Value.printMembers, Value.Layout.compact]
      omega
    rw [List.length_append] at hn
    have hback : v.ReadsBack := (h (some key, v) (by simp)).2
    have hv := hback (n := n) (d := d + 1) (by omega)
      (endsNumber_printMembers d ((some key', w) :: ms) rest)
    have hrow : ∀ u ∈ (some key', w) :: ms, u.1.isSome = true ∧ u.2.ReadsBack := fun u hu ↦
      h u (List.mem_cons_of_mem (some key, v) hu)
    have hms := ih hrow (n := n) (by omega)
    have htext : Value.printMembers .compact d ((some key', w) :: ms) ++ '\x7d' :: rest =
        ',' :: (Value.printText key' ++ ':' :: (w.print .compact (d + 1) ++
          (Value.printMembers .compact d ms ++ '\x7d' :: rest))) := by
      simp [Value.printMembers, Value.Layout.compact, Value.printString]
    rw [htext] at hv ⊢
    rw [members?_of_comma hv, hms]
    rfl

/-- A written value starts with something that is no blank and closes no bracket. -/
theorem Value.exists_print_eq_cons (d : Nat) {v : Value} (hv : v.Canonical) :
    ∃ c cs, v.print .compact d = c :: cs ∧ isSpace c = false ∧ c ≠ ']' := by
  rcases v with _ | (_ | _) | n | s | (_ | ⟨v, vs⟩) | (_ | ⟨⟨key, v⟩, ms⟩)
  case number =>
    obtain ⟨k, rfl⟩ := hv
    obtain ⟨c, cs, hprint, hc⟩ := exists_printNumeral_eq_cons k
    refine ⟨c, cs, hprint, isSpace_of_numeral hc, ?_⟩
    rintro rfl
    exact absurd hc (by decide)
  all_goals exact ⟨_, _, rfl, by decide, by decide⟩

theorem readsBack_array {vs : List Value} (hvs : Value.CanonicalItems vs)
    (h : ∀ v ∈ vs, v.ReadsBack) : (Value.array vs).ReadsBack := by
  intro d n rest hn hrest
  cases vs with
  | nil => simp [Value.print, value?, skip, isSpace]
  | cons v vs =>
    obtain ⟨c, cs, hprint, hc, hclose⟩ := v.exists_print_eq_cons (d + 1) hvs.1
    obtain ⟨n, rfl⟩ : ∃ m, n = m + 1 := ⟨n - 1, by simp [Value.print] at hn; omega⟩
    have hlength :
        2 * (v.print .compact (d + 1) ++ Value.printItems .compact d vs).length < n := by
      simp [Value.print, Value.Layout.compact] at hn ⊢
      omega
    have hitems : items? (n + 1) (v.print .compact (d + 1) ++
        (Value.printItems .compact d vs ++ ']' :: rest)) = some (v :: vs, rest) :=
      items?_append h hlength
    have htext : (Value.array (v :: vs)).print .compact d ++ rest =
        '[' :: (v.print .compact (d + 1) ++ (Value.printItems .compact d vs ++ ']' :: rest)) := by
      simp [Value.print, Value.Layout.compact]
    rw [htext, value?, skip_cons _ (by decide)]
    rw [hprint, List.cons_append] at hitems ⊢
    simp only [skip_cons _ hc]
    split
    · rename_i heq
      exact absurd (List.cons.inj heq).1 hclose
    · rw [hitems]
      rfl

theorem readsBack_object {ms : List (Option String × Value)}
    (h : ∀ m ∈ ms, m.1.isSome = true ∧ m.2.ReadsBack) : (Value.object ms).ReadsBack := by
  intro d n rest hn hrest
  rcases ms with _ | ⟨⟨key, v⟩, ms⟩
  · simp [Value.print, value?, skip, isSpace]
  · obtain ⟨key, rfl⟩ := Option.isSome_iff_exists.1 (h (key, v) (by simp)).1
    obtain ⟨n, rfl⟩ : ∃ m, n = m + 1 := ⟨n - 1, by simp [Value.print] at hn; omega⟩
    have hlength :
        2 * (v.print .compact (d + 1) ++ Value.printMembers .compact d ms).length < n := by
      simp [Value.print, Value.Layout.compact] at hn ⊢
      omega
    have hmembers : members? (n + 1) (Value.printText key ++ ':' :: (v.print .compact (d + 1) ++
        (Value.printMembers .compact d ms ++ '\x7d' :: rest))) =
          some ((some key, v) :: ms, rest) := members?_append h hlength
    have htext : (Value.object ((some key, v) :: ms)).print .compact d ++ rest =
        '\x7b' :: (Value.printText key ++ ':' :: (v.print .compact (d + 1) ++
          (Value.printMembers .compact d ms ++ '\x7d' :: rest))) := by
      simp [Value.print, Value.Layout.compact, Value.printString]
    rw [htext, value?, skip_cons _ (by decide)]
    rw [Value.printText, List.cons_append, List.cons_append] at hmembers ⊢
    simp only [skip_cons _ (show isSpace '"' = false by decide)]
    show Option.map _ (members? (n + 1) _) = _
    rw [hmembers]
    rfl

mutual

/-- A written value is read back in front of any text that does not prolong it. -/
theorem Value.Canonical.readsBack : (v : Value) → v.Canonical → v.ReadsBack
  | .null, _ => fun _ _ ↦ by simp [Value.print, value?, skip, isSpace]
  | .bool true, _ => fun _ _ ↦ by simp [Value.print, value?, skip, isSpace]
  | .bool false, _ => fun _ _ ↦ by simp [Value.print, value?, skip, isSpace]
  | .number _, ⟨k, rfl⟩ => fun _ hrest ↦ value?_number_append k hrest
  | .string (some s), _ => fun _ _ ↦ by
    simp [Value.print, Value.printString, Value.printText, value?, skip, isSpace,
      stringBehind_append]
  | .array vs, h => readsBack_array h (CanonicalItems.readsBack vs h)
  | .object ms, h => readsBack_object (CanonicalMembers.readsBack ms h)

theorem Value.CanonicalItems.readsBack : (vs : List Value) → CanonicalItems vs →
    ∀ v ∈ vs, v.ReadsBack
  | [], _ => by simp
  | v :: vs, ⟨hv, hvs⟩ => List.forall_mem_cons.2
    ⟨Canonical.readsBack v hv, CanonicalItems.readsBack vs hvs⟩

theorem Value.CanonicalMembers.readsBack : (ms : List (Option String × Value)) →
    CanonicalMembers ms → ∀ m ∈ ms, m.1.isSome = true ∧ m.2.ReadsBack
  | [], _ => by simp
  | (key, v) :: ms, ⟨hkey, hv, hms⟩ => List.forall_mem_cons.2
    ⟨⟨hkey, Canonical.readsBack v hv⟩, CanonicalMembers.readsBack ms hms⟩

end

/-- A written value is read back. -/
theorem Value.parse?_compact {v : Value} (h : v.Canonical) : parse? v.compact = some v := by
  have hends : EndsNumber [] := by simp [EndsNumber]
  have hback : v.ReadsBack := Canonical.readsBack v h
  have hread : value? (2 * (v.print .compact 0).length + 2) (v.print .compact 0 ++ []) =
      some (v, []) := hback (by omega) hends
  rw [List.append_nil] at hread
  simp only [parse?, compact, String.toList_ofList, hread]
  rfl

end SpacedReview.Json

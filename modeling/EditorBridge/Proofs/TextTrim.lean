import EditorBridge.Text.Blank

/-!
Texts without white space at their ends. Only white space is left out, and white space that is
added at an end makes no difference.
-/

namespace EditorBridge.Text

theorem dropEndWhile_append (p : Char → Bool) (s : List Char) {back : List Char}
    (h : ∀ c ∈ back, p c) : dropEndWhile p (s ++ back) = dropEndWhile p s := by
  have hr : ∀ c ∈ back.reverse, p c := fun c hc => h c (List.mem_reverse.mp hc)
  simp [dropEndWhile, List.dropWhile_append_of_pos hr]

theorem dropEndWhile_concat (p : Char → Bool) (s : List Char) {c : Char} (h : p c = false) :
    dropEndWhile p (s ++ [c]) = s ++ [c] := by
  simp [dropEndWhile, h]

/-- A text that does not end with such a character stays as it is. -/
theorem dropEndWhile_eq_self {p : Char → Bool} {s : List Char}
    (h : ∀ c ∈ s.getLast?, p c = false) : dropEndWhile p s = s := by
  obtain rfl | ⟨front, c, rfl⟩ := List.eq_nil_or_concat s
  · rfl
  · rw [List.concat_eq_append] at h ⊢
    exact dropEndWhile_concat p front (h c (by simp))

theorem prefix_dropEndWhile (p : Char → Bool) (s : List Char) : dropEndWhile p s <+: s := by
  rw [← List.reverse_suffix, dropEndWhile, List.reverse_reverse]
  exact List.dropWhile_suffix p

theorem getLast_dropEndWhile (p : Char → Bool) (s : List Char) :
    ∀ c ∈ (dropEndWhile p s).getLast?, p c = false := by
  intro c hc
  rw [dropEndWhile, List.getLast?_reverse] at hc
  have hn := List.head?_dropWhile_not p s.reverse
  simpa [Option.mem_def.mp hc] using hn

/-- What is left when characters at the ends are left out does not begin with one. -/
theorem head_trimWhile (p : Char → Bool) (s : List Char) :
    ∀ c ∈ (trimWhile p s).head?, p c = false := by
  intro c hc
  obtain ⟨back, hb⟩ := prefix_dropEndWhile p (s.dropWhile p)
  have hn := List.head?_dropWhile_not p s
  have hh : (dropEndWhile p (s.dropWhile p)).head? = some c := hc
  rw [← hb, List.head?_append, hh] at hn
  exact hn

theorem trimWhile_eq_self {p : Char → Bool} {s : List Char} (hf : ∀ c ∈ s.head?, p c = false)
    (hl : ∀ c ∈ s.getLast?, p c = false) : trimWhile p s = s := by
  rw [trimWhile]
  cases s with
  | nil => rfl
  | cons c s =>
    have hc : p c = false := hf c rfl
    rw [List.dropWhile_cons_of_neg (by simp [hc]), dropEndWhile_eq_self hl]

/-- The characters that are left out at the ends. -/
theorem exists_trimWhile (p : Char → Bool) (s : List Char) :
    ∃ front back, s = front ++ trimWhile p s ++ back ∧ (∀ c ∈ front, p c) ∧ ∀ c ∈ back, p c := by
  refine ⟨s.takeWhile p, ((s.dropWhile p).reverse.takeWhile p).reverse, ?_, ?_, ?_⟩
  · rw [trimWhile, dropEndWhile, List.append_assoc, ← List.reverse_append,
      List.takeWhile_append_dropWhile, List.reverse_reverse, List.takeWhile_append_dropWhile]
  · exact fun c hc => List.all_eq_true.mp List.all_takeWhile c hc
  · exact fun c hc => List.all_eq_true.mp List.all_takeWhile c (List.mem_reverse.mp hc)

/-- Characters at the ends that are left out make no difference. -/
theorem trimWhile_append (p : Char → Bool) (s : List Char) {front back : List Char}
    (hf : ∀ c ∈ front, p c) (hb : ∀ c ∈ back, p c) :
    trimWhile p (front ++ s ++ back) = trimWhile p s := by
  have hn : back.dropWhile p = [] := by
    simpa using @List.dropWhile_append_of_pos _ p back [] hb
  rw [trimWhile, trimWhile, List.append_assoc, List.dropWhile_append_of_pos hf,
    List.dropWhile_append]
  split
  case isTrue he => rw [hn, List.isEmpty_iff.mp he]
  case isFalse => rw [dropEndWhile_append _ _ hb]

/-- White space at the ends makes no difference to a text without white space at its ends. -/
theorem trim_append (s : List Char) {front back : List Char} (hf : ∀ c ∈ front, isBlank c)
    (hb : ∀ c ∈ back, isBlank c) : trim (front ++ s ++ back) = trim s :=
  trimWhile_append isBlank s hf hb

/-- Leaving out characters at the end does not change the others. -/
theorem filter_dropEndWhile {p q : Char → Bool} (h : ∀ c, p c → q c = false) (s : List Char) :
    (dropEndWhile p s).filter q = s.filter q := by
  have hd : ∀ l : List Char, (l.dropWhile p).filter q = l.filter q := by
    intro l
    induction l with
    | nil => rfl
    | cons c l ih =>
      by_cases hc : p c
      · simp [hc, h c hc, ih]
      · simp [hc]
  rw [dropEndWhile, List.filter_reverse, hd, ← List.filter_reverse, List.reverse_reverse]

/-- A text that ends with another character ends with it when white space is left out. -/
theorem trim_concat (s : List Char) (c : Char) (h : isBlank c = false) :
    ∃ rest, trim (s ++ [c]) = rest ++ [c] := by
  rw [trim, trimWhile, List.dropWhile_append]
  split
  case isTrue => exact ⟨[], by simp [h, dropEndWhile]⟩
  case isFalse => exact ⟨_, dropEndWhile_concat _ _ h⟩

variable {α : Type}

/-- Leaving out white space in front of a text that is written piece by piece leaves out pieces, if
every piece is white space or does not begin with it. -/
theorem dropWhile_flatMap (f : α → List Char) (blank : α → Bool) (l : List α)
    (h : ∀ a ∈ l, f a ≠ [] ∧ (f a).dropWhile isBlank = if blank a then [] else f a) :
    (l.flatMap f).dropWhile isBlank = (l.dropWhile blank).flatMap f := by
  induction l with
  | nil => rfl
  | cons a l ih =>
    obtain ⟨⟨hn, ha⟩, hl⟩ := List.forall_mem_cons.mp h
    rw [List.flatMap_cons, List.dropWhile_append, ha]
    cases hb : blank a with
    | true => simp [hb, ih hl]
    | false => simp [hb, hn]

/-- What is left of a list of which pieces at both ends are left out. -/
theorem exists_trim_flatMap (f : α → List Char) (blank : α → Bool) (l : List α)
    (h : ∀ a ∈ l, f a ≠ [] ∧ (f a).dropWhile isBlank = if blank a then [] else f a)
    (hr : ∀ a ∈ l, (f a).reverse.dropWhile isBlank = if blank a then [] else (f a).reverse) :
    ∃ front mid back, l = front ++ mid ++ back ∧ (∀ a ∈ front, blank a) ∧
      (∀ a ∈ back, blank a) ∧ trim (l.flatMap f) = mid.flatMap f := by
  let rest := l.dropWhile blank
  have hs : ∀ a ∈ rest.reverse, a ∈ l := fun a ha =>
    (List.dropWhile_suffix blank).subset (List.mem_reverse.mp ha)
  have he : (rest.reverse.dropWhile blank).reverse ++ (rest.reverse.takeWhile blank).reverse =
      rest := by
    rw [← List.reverse_append, List.takeWhile_append_dropWhile, List.reverse_reverse]
  refine ⟨l.takeWhile blank, (rest.reverse.dropWhile blank).reverse,
    (rest.reverse.takeWhile blank).reverse, ?_, ?_, ?_, ?_⟩
  · rw [List.append_assoc, he, List.takeWhile_append_dropWhile]
  · exact fun a ha => List.all_eq_true.mp (List.all_takeWhile) a ha
  · exact fun a ha => List.all_eq_true.mp (List.all_takeWhile) a (List.mem_reverse.mp ha)
  · have hd := dropWhile_flatMap (List.reverse ∘ f) blank rest.reverse fun a ha =>
      ⟨by simpa using (h a (hs a ha)).1, hr a (hs a ha)⟩
    rw [trim, trimWhile, dropWhile_flatMap f blank l h, dropEndWhile, List.reverse_flatMap, hd]
    simp [List.reverse_flatMap, Function.comp_def]

end EditorBridge.Text

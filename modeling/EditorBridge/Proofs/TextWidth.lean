import EditorBridge.Text.DisplayWidth

/-!
Columns of texts one after the other. What a character takes off the columns of what follows it has
been added there before, so no text takes less than none; and a sign such as a bar or a blank adds
one column and cuts the text before it off from the text behind it. That is all that grids ask of a
way to count columns.
-/

namespace EditorBridge.Text

/-! ### No text takes less than no column -/

/-- The columns that are there at least where a context is reached. In these contexts a character
may take one off: a sign that puts a letter below the line, a consonant that joins, an indicator that
completes a flag. -/
def Tail.owned : Tail → Int
  | .khmerLetter | .tifinaghJoiner | .joinedRegional | .joinedRegionalsOdd => 1
  | _ => 0

theorem Tail.owned_nonneg (t : Tail) : 0 ≤ t.owned := by
  cases t <;> decide

/-- A letter that may go below the line takes a column. -/
theorem columnsOf_khmer {n : Nat} (h : isKhmerSubscript n = true) : 1 ≤ columnsOf n := by
  have hb : 0x1780 ≤ n ∧ n < 0x17B0 := by
    simp only [isKhmerSubscript, Bool.or_eq_true, Bool.and_eq_true, decide_eq_true_eq] at h
    omega
  have hd : ∀ m < 0x30, isKhmerSubscript (0x1780 + m) = true → 1 ≤ columnsOf (0x1780 + m) := by
    decide +kernel
  have hm := hd (n - 0x1780) (by omega)
  rw [show 0x1780 + (n - 0x1780) = n by omega] at hm
  exact hm h

theorem owned_tailOf (n : Nat) : (tailOf n).tail.owned ≤ columnsOf n := by
  by_cases h : isKhmerSubscript n = true
  · have hc := columnsOf_khmer h
    have ho : (tailOf n).tail.owned ≤ 1 := by
      cases (tailOf n).tail <;> decide
    omega
  · have ho : (tailOf n).tail.owned = 0 := by
      simp only [tailOf, h, apply_ite WidthContext.tail, apply_ite Tail.owned]
      simp [Tail.owned]
    omega

theorem owned_select (c : WidthContext) (s : Selector) : (c.select s).tail.owned ≤ c.tail.owned := by
  unfold WidthContext.select
  dsimp only
  split
  · exact Int.le_refl _
  · exact c.tail.owned_nonneg

theorem owned_join (c : WidthContext) : c.join.tail.owned ≤ c.tail.owned := by
  obtain ⟨tail, selector⟩ := c
  cases tail <;> simp [WidthContext.join, Tail.owned]

/-- A character that combines with what follows takes off no more than is there, and leaves what its
own context needs. -/
theorem owned_combine {n : Nat} {after next : WidthContext} {w : Int}
    (h : combine? n after = some (w, next)) : next.tail.owned ≤ w + after.tail.owned := by
  obtain ⟨tail, selector⟩ := after
  cases tail
  all_goals
    simp only [combine?] at h
    repeat' split at h
  all_goals simp only [Option.some.injEq, Prod.mk.injEq, reduceCtorEq] at h
  all_goals
    obtain ⟨rfl, rfl⟩ := h
    simp [Tail.owned]

theorem owned_measurePastAscii (n : Nat) (after : WidthContext) :
    (measurePastAscii n after).2.tail.owned ≤ (measurePastAscii n after).1 + after.tail.owned := by
  have ho := after.tail.owned_nonneg
  have ht := owned_tailOf n
  unfold measurePastAscii
  split
  · dsimp only
    omega
  · split
    · simpa using owned_select after .picture
    · split
      · simpa using owned_select after .text
      · split
        · have hp : WidthContext.plain.tail.owned = 0 := rfl
          dsimp only
          omega
        · dsimp only
          split
          · simpa using owned_join { after with selector := .none }
          · split
            · simp
            · cases hc : combine? n { after with selector := .none } with
              | none =>
                dsimp only [Option.getD]
                omega
              | some found => exact owned_combine hc

theorem owned_measureChar (c : Char) (after : WidthContext) :
    (measureChar c after).2.tail.owned ≤ (measureChar c after).1 + after.tail.owned := by
  have ho := after.tail.owned_nonneg
  unfold measureChar
  dsimp only
  split
  · have hp : Tail.picture.owned = 0 := rfl
    dsimp only
    split <;> omega
  · split
    · have hp : WidthContext.plain.tail.owned = 0 := rfl
      have hl : Tail.lineFeed.owned = 0 := rfl
      repeat' split
      all_goals
        dsimp only
        omega
    · refine Int.le_trans (owned_measurePastAscii c.toNat _) ?_
      split <;> exact Int.le_refl _

/-- What a text takes covers what the context before it owns. -/
theorem owned_measure (s : List Char) : (measure s).2.tail.owned ≤ (measure s).1 := by
  induction s with
  | nil => decide
  | cons c rest ih =>
    have hc := owned_measureChar c (measure rest).2
    simp only [measure]
    omega

theorem measure_nonneg (s : List Char) : 0 ≤ (measure s).1 :=
  Int.le_trans (measure s).2.tail.owned_nonneg (owned_measure s)

theorem natCast_width (s : List Char) : (width s : Int) = (measure s).1 :=
  Int.toNat_of_nonneg (measure_nonneg s)

/-! ### Signs that cut a text -/

def isSign (c : Char) : Bool := c = ' ' || c = '|' || c = '+' || c = '-'

/-- A sign adds one column, whatever follows it, and nothing before it combines with it. -/
theorem measureChar_sign {c : Char} (h : isSign c = true) (after : WidthContext) :
    measureChar c after = (1, .plain) := by
  have hs : ((c = ' ' ∨ c = '|') ∨ c = '+') ∨ c = '-' := by simpa [isSign] using h
  have hp : inRanges c.toNat picturableRanges = false := by
    obtain ((rfl | rfl) | rfl) | rfl := hs <;> decide
  have hn : c.toNat ≤ 0xA0 ∧ c ≠ '\n' ∧ c ≠ '\r' := by
    obtain ((rfl | rfl) | rfl) | rfl := hs <;> decide
  simp [measureChar, hp, hn]

/-- Behind a text that combines with nothing in front of it, widths add up. -/
theorem measure_append {t : List Char} (h : (measure t).2 = .plain) (s : List Char) :
    measure (s ++ t) = ((measure s).1 + (measure t).1, (measure s).2) := by
  induction s with
  | nil => simp [measure, ← h]
  | cons c s ih => simp [measure, ih, Int.add_assoc]

theorem width_nil : width [] = 0 := rfl

theorem measure_sign_cons {c : Char} (h : isSign c = true) (s : List Char) :
    measure (c :: s) = (1 + (measure s).1, .plain) := by
  rw [measure, measureChar_sign h]

/-- A sign between two texts adds its column to theirs. -/
theorem width_append_sign {c : Char} (h : isSign c = true) (s t : List Char) :
    width (s ++ c :: t) = width s + 1 + width t := by
  have hc := measure_sign_cons h t
  have hm := measure_append (congrArg Prod.snd hc) s
  have hw : ((width (s ++ c :: t) : Nat) : Int) = width s + 1 + width t := by
    simp only [natCast_width, hm, hc]
    omega
  omega

/-- A way to count the columns of a line: an empty line has none, and a sign between two texts adds
its column to theirs. -/
structure ColumnCount where
  columns : List Char → Nat
  columns_nil : columns [] = 0
  columns_sign {c : Char} : isSign c = true → ∀ s t,
    columns (s ++ c :: t) = columns s + 1 + columns t

def terminal : ColumnCount := ⟨width, width_nil, width_append_sign⟩

namespace ColumnCount

variable (count : ColumnCount) {c : Char}

theorem columns_sign_cons (h : isSign c = true) (s : List Char) :
    count.columns (c :: s) = 1 + count.columns s := by
  have hs := count.columns_sign h [] s
  rwa [List.nil_append, count.columns_nil, Nat.zero_add] at hs

/-- Signs behind a text. -/
theorem columns_append_signs (h : isSign c = true) (s : List Char) (n : Nat) :
    count.columns (s ++ List.replicate n c) = count.columns s + n := by
  induction n with
  | zero => simp
  | succ n ih =>
    have hw := count.columns_sign h (s ++ List.replicate n c) []
    rw [List.replicate_succ', ← List.append_assoc, hw, ih, count.columns_nil]
    omega

/-- Signs in front of a text. -/
theorem columns_signs_append (h : isSign c = true) (n : Nat) (s : List Char) :
    count.columns (List.replicate n c ++ s) = n + count.columns s := by
  induction n with
  | zero => simp
  | succ n ih =>
    rw [List.replicate_succ, List.cons_append, count.columns_sign_cons h, ih]
    omega

end ColumnCount

end EditorBridge.Text

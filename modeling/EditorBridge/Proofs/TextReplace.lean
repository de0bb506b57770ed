import EditorBridge.Text.Replace

/-!
Replacing in a text: what is passed over, and what comes of several replacements one after the other.
An occurrence is found by its first character, and reaches over no character that is not in it. If
single characters are replaced in turn, and none by a text that holds a later one, the text is
replaced character by character.
-/

namespace EditorBridge.Text

/-- What is left out of a replacement is all of what stands in front. -/
theorem replaceFrom_length (old new s rest : List Char) :
    replaceFrom old new s.length (s ++ rest) = replaceAll old new rest := by
  induction s with
  | nil => rfl
  | cons c s ih => simpa [replaceFrom] using ih

/-- An occurrence at the beginning is replaced. -/
theorem replaceAll_self {old : List Char} (h : old ≠ []) (new rest : List Char) :
    replaceAll old new (old ++ rest) = new ++ replaceAll old new rest := by
  obtain ⟨c, more, rfl⟩ := List.exists_cons_of_ne_nil h
  have hp : (c :: more).isPrefixOf (c :: (more ++ rest)) = true := by
    rw [List.isPrefixOf_iff_prefix]
    exact List.prefix_append (c :: more) rest
  rw [replaceAll, List.cons_append, replaceFrom, if_pos hp, List.length_cons, Nat.add_sub_cancel,
    replaceFrom_length]

section

variable {old : List Char} {mark : Char}

/-- Where the first character of an occurrence is missing, nothing is replaced. -/
theorem replaceAll_unmarked {s : List Char} (ho : old.head? = some mark) (hs : mark ∉ s)
    (new rest : List Char) : replaceAll old new (s ++ rest) = s ++ replaceAll old new rest := by
  induction s with
  | nil => rfl
  | cons c s ih =>
    obtain ⟨hc, hm⟩ := not_or.mp (fun hm => hs (List.mem_cons.mpr hm))
    have hp : old.isPrefixOf (c :: (s ++ rest)) = false := by
      obtain ⟨more, rfl⟩ := List.head?_eq_some_iff.mp ho
      simp [List.isPrefixOf, hc]
    have hi := ih hm
    rw [replaceAll] at hi ⊢
    rw [List.cons_append, replaceFrom, hp, if_neg Bool.false_ne_true, hi, List.cons_append]

/-- A piece that neither begins with an occurrence nor begins one is passed over, if no occurrence
can begin further inside it. -/
theorem replaceAll_piece {piece : List Char} (ho : old.head? = some mark) (hi : mark ∉ piece.tail)
    (hp : ¬old <+: piece) (hb : ¬piece <+: old) (new rest : List Char) :
    replaceAll old new (piece ++ rest) = piece ++ replaceAll old new rest := by
  cases piece with
  | nil => exact absurd List.nil_prefix hb
  | cons c more =>
    have hn : old.isPrefixOf (c :: (more ++ rest)) = false := by
      rw [Bool.eq_false_iff, ne_eq, List.isPrefixOf_iff_prefix]
      intro h
      exact (List.prefix_or_prefix_of_prefix h (List.prefix_append (c :: more) rest)).elim hp hb
    have hm := replaceAll_unmarked ho hi new rest
    rw [replaceAll, List.tail_cons] at hm
    rw [replaceAll, List.cons_append, replaceFrom, hn, if_neg Bool.false_ne_true, hm,
      List.cons_append]

end

/-- An occurrence of a text does not reach over a character that is not in it. -/
theorem isPrefixOf_append {mark : Char} {old : List Char} (h : mark ∉ old) (s rest : List Char) :
    old.isPrefixOf (s ++ mark :: rest) = old.isPrefixOf s := by
  induction old generalizing s with
  | nil => rfl
  | cons c old ih =>
    obtain ⟨hc, ho⟩ := not_or.mp (fun hm => h (List.mem_cons.mpr hm))
    cases s with
    | nil => simp [List.isPrefixOf, Ne.symm hc]
    | cons d s => simp [List.isPrefixOf, ih ho]

/-- What is replaced does not reach over a character that is not in it. -/
theorem replaceFrom_append {mark : Char} {old : List Char} (h : mark ∉ old) (hn : old ≠ [])
    (new : List Char) {skipped : Nat} {s : List Char} (hs : skipped ≤ s.length) (rest : List Char) :
    replaceFrom old new skipped (s ++ mark :: rest) =
      replaceFrom old new skipped s ++ mark :: replaceAll old new rest := by
  induction s generalizing skipped with
  | nil =>
    obtain rfl : skipped = 0 := by simpa using hs
    have hp : old.isPrefixOf (mark :: rest) = false := by
      obtain ⟨c, front, rfl⟩ := List.exists_cons_of_ne_nil hn
      exact isPrefixOf_append h [] rest
    simp [replaceFrom, hp, replaceAll]
  | cons c s ih =>
    cases skipped with
    | succ skipped => exact ih (Nat.le_of_succ_le_succ hs)
    | zero =>
      have hp := isPrefixOf_append h (c :: s) rest
      rw [List.cons_append] at hp ⊢
      rw [replaceFrom, replaceFrom, hp]
      split
      · rename_i ho
        have hl := (List.isPrefixOf_iff_prefix.mp ho).length_le
        rw [ih (by simpa using hl), List.append_assoc]
      · rw [ih (Nat.zero_le _), List.cons_append]

/-- A character at which no occurrence begins stays. -/
theorem replaceAll_cons {old rest : List Char} {c : Char} (h : ¬old <+: c :: rest)
    (new : List Char) : replaceAll old new (c :: rest) = c :: replaceAll old new rest := by
  rw [← List.isPrefixOf_iff_prefix] at h
  rw [replaceAll, replaceFrom, if_neg h, replaceAll]

/-- Replacing brings in no text that holds nothing of what is written. -/
theorem prefix_of_prefix_replaceAll {old piece s : List Char} {shown : Char} (hm : shown ∉ piece)
    (h : piece <+: replaceAll old [shown] s) : piece <+: s := by
  induction s generalizing piece with
  | nil => exact h
  | cons c s ih =>
    cases piece with
    | nil => exact List.nil_prefix
    | cons d piece =>
      obtain ⟨hd, hp⟩ := not_or.mp (fun hd => hm (List.mem_cons.mpr hd))
      by_cases ho : old <+: c :: s
      · rw [← List.isPrefixOf_iff_prefix] at ho
        rw [replaceAll, replaceFrom, if_pos ho, List.singleton_append, List.cons_prefix_cons] at h
        exact absurd h.1.symm hd
      · rw [replaceAll_cons ho, List.cons_prefix_cons] at h
        exact List.cons_prefix_cons.mpr ⟨h.1, ih hp h.2⟩

/-! ### Characters -/

/-- The text that a character is replaced by: that of its first entry, and itself if it has none. -/
def standIn : (table : List (Char × List Char)) → (c : Char) → List Char
  | [], c => [c]
  | (d, new) :: table, c => if c = d then new else standIn table c

@[simp] theorem standIn_nil (c : Char) : standIn [] c = [c] := rfl

@[simp] theorem standIn_cons (entry : Char × List Char) (table : List (Char × List Char))
    (c : Char) : standIn (entry :: table) c = if c = entry.1 then entry.2 else standIn table c :=
  rfl

theorem standIn_self {table : List (Char × List Char)} {c : Char}
    (h : ∀ entry ∈ table, entry.1 ≠ c) : standIn table c = [c] := by
  induction table with
  | nil => rfl
  | cons entry table ih =>
    obtain ⟨he, ht⟩ := List.forall_mem_cons.mp h
    rw [standIn_cons, if_neg he.symm, ih ht]

/-- A text without the characters of a table stays. -/
theorem flatMap_standIn_self {table : List (Char × List Char)} {s : List Char}
    (h : ∀ entry ∈ table, entry.1 ∉ s) : s.flatMap (standIn table) = s := by
  induction s with
  | nil => rfl
  | cons c s ih =>
    have hc := standIn_self fun entry he => (not_or.mp (mt List.mem_cons.mpr (h entry he))).1
    have hs := ih fun entry he => (not_or.mp (mt List.mem_cons.mpr (h entry he))).2
    rw [List.flatMap_cons, hc, hs, List.singleton_append]

/-- A character is replaced wherever it stands. -/
theorem replaceAll_character (c : Char) (new s : List Char) :
    replaceAll [c] new s = s.flatMap (standIn [(c, new)]) := by
  induction s with
  | nil => rfl
  | cons d s ih =>
    rw [List.flatMap_cons, ← ih]
    by_cases hd : c = d
    · subst hd
      have hr := replaceAll_self (List.cons_ne_nil c []) new s
      simpa using hr
    · have hp : ¬[c] <+: d :: s := by simpa using hd
      rw [replaceAll_cons hp, standIn_self (by simpa using hd), List.singleton_append]

/-- Characters that are replaced in turn are replaced each by itself, if none is replaced by a text
that holds a later one. -/
theorem foldl_replaceAll_characters {table : List (Char × List Char)}
    (h : table.Pairwise fun entry later => later.1 ∉ entry.2) (s : List Char) :
    table.foldl (fun s entry => replaceAll [entry.1] entry.2 s) s =
      s.flatMap (standIn table) := by
  induction table generalizing s with
  | nil => exact (flatMap_standIn_self (by simp)).symm
  | cons entry table ih =>
    obtain ⟨d, new⟩ := entry
    obtain ⟨hn, ht⟩ := List.pairwise_cons.mp h
    rw [List.foldl_cons, ih ht, replaceAll_character, List.flatMap_assoc]
    -- What takes the place of the first character stays, and any other character is left to the rest.
    refine congrArg s.flatMap (funext fun c => ?_)
    by_cases hc : d = c
    · subst hc
      simpa using flatMap_standIn_self hn
    · simp [Ne.symm hc]

end EditorBridge.Text

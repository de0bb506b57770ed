import EditorBridge.Text.Lines

/-!
Texts cut at line feeds, and texts joined with a separator. What is joined with line feeds is found
again when it is cut at them, as long as no line feed is in it.
-/

namespace EditorBridge.Text

/-- Cutting at line feeds leaves none. -/
theorem not_mem_splitLineFeeds (s : List Char) : ∀ piece ∈ splitLineFeeds s, '\n' ∉ piece := by
  induction s with
  | nil => simp [splitLineFeeds]
  | cons c rest ih =>
    by_cases hc : c = '\n'
    · simpa [splitLineFeeds, hc] using ih
    · have hn : '\n' ≠ c := fun h => hc h.symm
      rw [splitLineFeeds, if_neg hc]
      cases hs : splitLineFeeds rest with
      | nil => simpa using hn
      | cons piece pieces =>
        rw [hs, List.forall_mem_cons] at ih
        simpa [hn] using ih

theorem mem_of_mem_dropReturn {c : Char} {line : List Char} (h : c ∈ dropReturn line) :
    c ∈ line := by
  unfold dropReturn at h
  split at h
  · exact List.dropLast_subset line h
  · exact h

/-- What holds of all pieces and is kept without a carriage return holds of all lines. -/
theorem not_mem_linesOfPieces {c : Char} (pieces : List (List Char))
    (h : ∀ piece ∈ pieces, c ∉ piece) : ∀ line ∈ linesOfPieces pieces, c ∉ line := by
  fun_induction linesOfPieces pieces with
  | case1 => simp
  | case2 last he => simp
  | case3 last he => simpa using h
  | case4 piece pieces hp ih =>
    obtain ⟨hc, hr⟩ := List.forall_mem_cons.mp h
    have hd : c ∉ dropReturn piece := fun hm => hc (mem_of_mem_dropReturn hm)
    exact List.forall_mem_cons.mpr ⟨hd, ih hr⟩

theorem not_mem_lines (s : List Char) : ∀ line ∈ lines s, '\n' ∉ line :=
  not_mem_linesOfPieces _ (not_mem_splitLineFeeds s)

/-- Pieces of which none ends with a carriage return, and the last one is not empty, are lines as
they are. -/
theorem linesOfPieces_eq_self {pieces : List (List Char)}
    (hr : ∀ piece ∈ pieces, piece.getLast? ≠ some '\r') (hl : pieces.getLast? ≠ some []) :
    linesOfPieces pieces = pieces := by
  fun_induction linesOfPieces pieces with
  | case1 => rfl
  | case2 last he => simp_all
  | case3 => rfl
  | case4 piece pieces hp ih =>
    obtain ⟨hc, hs⟩ := List.forall_mem_cons.mp hr
    obtain ⟨next, more, rfl⟩ := List.exists_cons_of_ne_nil hp
    rw [dropReturn, if_neg hc, ih hs (by simpa using hl)]

/-- Pieces that are not empty and end with no carriage return are lines as they are. -/
theorem linesOfPieces_whole {pieces : List (List Char)}
    (h : ∀ piece ∈ pieces, piece ≠ [] ∧ piece.getLast? ≠ some '\r') :
    linesOfPieces pieces = pieces :=
  linesOfPieces_eq_self (fun piece hp => (h piece hp).2) fun hl =>
    (h [] (List.mem_of_getLast? hl)).1 rfl

theorem joinWith_cons (separator part next : List Char) (parts : List (List Char)) :
    joinWith separator (part :: next :: parts) =
      part ++ separator ++ joinWith separator (next :: parts) := by
  simp [joinWith, List.intercalate]

/-- A character of a joined text is in the separator or in a part. -/
theorem mem_joinWith {c : Char} {separator : List Char} {parts : List (List Char)}
    (h : c ∈ joinWith separator parts) : c ∈ separator ∨ ∃ part ∈ parts, c ∈ part := by
  induction parts with
  | nil => simp [joinWith] at h
  | cons part parts ih =>
    cases parts with
    | nil => exact .inr ⟨part, by simp, by simpa [joinWith] using h⟩
    | cons next parts =>
      rw [joinWith_cons, List.mem_append, List.mem_append] at h
      obtain (h | h) | h := h
      · exact .inr ⟨part, by simp, h⟩
      · exact .inl h
      · obtain hs | ⟨p, hp, hc⟩ := ih h
        · exact .inl hs
        · exact .inr ⟨p, List.mem_cons_of_mem _ hp, hc⟩

/-- A character that is in no part and not in the separator is not in the joined text. -/
theorem not_mem_joinWith {c : Char} {separator : List Char} {parts : List (List Char)}
    (hs : c ∉ separator) (hp : ∀ part ∈ parts, c ∉ part) : c ∉ joinWith separator parts := by
  intro h
  obtain h | ⟨part, hm, h⟩ := mem_joinWith h
  · exact hs h
  · exact hp part hm h

/-- Lines with a line feed between any two, and one more at the end. -/
theorem joinWith_newline {lines : List (List Char)} (h : lines ≠ []) :
    joinWith ['\n'] lines ++ ['\n'] = lines.flatMap fun line => line ++ ['\n'] := by
  induction lines with
  | nil => exact absurd rfl h
  | cons line lines ih =>
    cases lines with
    | nil => simp [joinWith]
    | cons next lines =>
      have hi := ih (by simp)
      rw [joinWith_cons, List.append_assoc, hi]
      rfl

theorem splitLineFeeds_whole {s : List Char} (h : '\n' ∉ s) : splitLineFeeds s = [s] := by
  induction s with
  | nil => rfl
  | cons c s ih =>
    obtain ⟨hc, hs⟩ := not_or.mp (fun hm => h (List.mem_cons.mpr hm))
    rw [splitLineFeeds, if_neg (Ne.symm hc), ih hs]

theorem splitLineFeeds_append {s : List Char} (h : '\n' ∉ s) (t : List Char) :
    splitLineFeeds (s ++ '\n' :: t) = s :: splitLineFeeds t := by
  induction s with
  | nil => simp [splitLineFeeds]
  | cons c s ih =>
    obtain ⟨hc, hs⟩ := not_or.mp (fun hm => h (List.mem_cons.mpr hm))
    rw [List.cons_append, splitLineFeeds, if_neg (Ne.symm hc), ih hs]

/-- Lines that are joined with line feeds are found again. -/
theorem splitLineFeeds_joinWith {parts : List (List Char)} (hn : parts ≠ [])
    (h : ∀ part ∈ parts, '\n' ∉ part) : splitLineFeeds (joinWith ['\n'] parts) = parts := by
  induction parts with
  | nil => exact absurd rfl hn
  | cons part parts ih =>
    obtain ⟨hp, hr⟩ := List.forall_mem_cons.mp h
    cases parts with
    | nil => simpa [joinWith] using splitLineFeeds_whole hp
    | cons next parts =>
      rw [joinWith_cons, List.append_assoc, List.singleton_append, splitLineFeeds_append hp,
        ih (by simp) hr]

theorem splitLineFeeds_ne_nil (s : List Char) : splitLineFeeds s ≠ [] := by
  fun_cases splitLineFeeds s <;> simp_all

/-- A text with a line feed is cut in two there. -/
theorem splitLineFeeds_newline (s t : List Char) :
    splitLineFeeds (s ++ '\n' :: t) = splitLineFeeds s ++ splitLineFeeds t := by
  induction s with
  | nil => simp [splitLineFeeds]
  | cons c s ih =>
    rw [List.cons_append, splitLineFeeds, splitLineFeeds, ih]
    split
    · rfl
    · cases hs : splitLineFeeds s with
      | nil => exact absurd hs (splitLineFeeds_ne_nil s)
      | cons piece pieces => rfl

/-- The last piece is empty only if nothing stands behind the last line feed. -/
theorem getLast_splitLineFeeds {s : List Char} (hn : s ≠ []) (hl : s.getLast? ≠ some '\n') :
    (splitLineFeeds s).getLast? ≠ some [] := by
  induction s with
  | nil => exact absurd rfl hn
  | cons c s ih =>
    obtain ⟨piece, pieces, hs⟩ := List.exists_cons_of_ne_nil (splitLineFeeds_ne_nil s)
    rw [splitLineFeeds, hs]
    rw [hs] at ih
    cases s with
    | nil =>
      obtain ⟨rfl, rfl⟩ : [] = piece ∧ [] = pieces := by simpa [splitLineFeeds] using hs
      have hc : c ≠ '\n' := by simpa using hl
      simp [hc]
    | cons d s =>
      have hi := ih (by simp) (by simpa using hl)
      split
      · simpa using hi
      · cases pieces with
        | nil => simp
        | cons next more => simpa using hi

/-- Pieces that are joined with line feeds are the text that they were cut from. -/
theorem joinWith_splitLineFeeds (s : List Char) : joinWith ['\n'] (splitLineFeeds s) = s := by
  induction s with
  | nil => rfl
  | cons c rest ih =>
    cases hs : splitLineFeeds rest with
    | nil => exact absurd hs (splitLineFeeds_ne_nil rest)
    | cons piece pieces =>
      rw [hs] at ih
      by_cases hc : c = '\n'
      · rw [splitLineFeeds, if_pos hc, hs, joinWith_cons, ih, hc]
        rfl
      · rw [splitLineFeeds, if_neg hc, hs, ← ih]
        cases pieces with
        | nil => simp [joinWith]
        | cons next pieces => simp [joinWith_cons]

end EditorBridge.Text

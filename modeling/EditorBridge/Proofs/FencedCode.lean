import EditorBridge.Markdown.CodeBlock

/-!
Code between fences. A line closes a block of code only if it begins with the fence or with white
space, so lines that begin with another sign are the text of the block, as they stand.
-/

namespace EditorBridge.Markdown

/-- A line that is code as it stands, between fences of a mark: it begins with neither the mark nor
white space, and no carriage return ends it. -/
structure IsCodeLine (mark : Char) (line : List Char) : Prop where
  begins : ∃ c rest, line = c :: rest ∧ c ≠ mark ∧ c ≠ ' ' ∧ c ≠ '\t'
  ends : line.getLast? ≠ some '\r'
  whole : '\n' ∉ line

def codeText (lines : List (List Char)) : List Char := lines.flatMap fun line => line ++ ['\n']

@[simp] theorem codeText_nil : codeText [] = [] := rfl

@[simp] theorem codeText_cons (line : List Char) (lines : List (List Char)) :
    codeText (line :: lines) = line ++ '\n' :: codeText lines := by
  simp [codeText]

theorem length_le_codeText (lines : List (List Char)) : lines.length ≤ (codeText lines).length := by
  induction lines with
  | nil => simp
  | cons line lines ih =>
    simp only [codeText_cons, List.length_cons, List.length_append]
    omega

theorem takeLine_newline {line : List Char} (h : '\n' ∉ line) (rest : List Char) :
    takeLine (line ++ '\n' :: rest) = (line ++ ['\n'], rest) := by
  induction line with
  | nil => simp [takeLine]
  | cons c line ih =>
    have hc : c ≠ '\n' := fun hc => h (by simp [hc])
    have hl : '\n' ∉ line := fun hm => h (by simp [hm])
    simp [takeLine, hc, ih hl]

@[simp] theorem rest_ofLine (line : List Char) : (Margin.ofLine line).rest = line := rfl

/-- A line that does not begin with white space has no indentation. -/
theorem take_ofLine {c : Char} (hs : c ≠ ' ') (ht : c ≠ '\t') (wanted : Nat) (rest : List Char) :
    (Margin.ofLine (c :: rest)).take wanted = (wanted, .ofLine (c :: rest)) := by
  by_cases hw : wanted = 0 <;>
    simp [Margin.take, Margin.ofLine, Margin.takeColumns, hs, ht, hw]

theorem skip_zero (line : List Char) : (Margin.ofLine line).skip 0 = .ofLine line := rfl

theorem closingFence_other {mark c : Char} (h : c ≠ mark) {length : Nat} (hl : 0 < length)
    (rest : List Char) : closingFence? mark length (c :: rest) = none := by
  simp [closingFence?, countLeading, h, hl]

/-- A line feed alone at the end of a line is kept with it. -/
theorem verbatimStretches_line {line : List Char} (h : line.getLast? ≠ some '\r')
    (rest : List Char) :
    verbatimStretches (line ++ '\n' :: rest) rest = [(line ++ '\n' :: rest, rest)] := by
  have hb : between (line ++ '\n' :: rest) rest = line ++ ['\n'] := by
    rw [List.append_cons, between_append]
  unfold verbatimStretches
  dsimp only
  rw [hb, List.reverse_append]
  split
  · rename_i last before he
    obtain ⟨-, hr⟩ : '\n' = last ∧ line.reverse = '\r' :: before := by simpa using he
    exact absurd (by rw [← List.head?_reverse, hr]; rfl) h
  · rfl

theorem appendCodeLine_line {line : List Char} (h : line.getLast? ≠ some '\r')
    (pieces : List Piece) (rest : List Char) :
    appendCodeLine pieces 0 (line ++ '\n' :: rest) rest =
      appendText pieces (line ++ '\n' :: rest) rest := by
  have hn : (line ++ '\n' :: rest).length ≠ rest.length := by
    simp only [List.length_append, List.length_cons]
    omega
  rw [appendCodeLine, verbatimStretches_line h]
  simp [restOfTab, -List.length_append, hn]

section

variable {mark : Char} {length : Nat}

/-- A line of code is added as it stands. -/
theorem fencedLines_line {line : List Char} (h : IsCodeLine mark line) (hl : 0 < length) (n : Nat)
    (pieces : List Piece) (rest : List Char) :
    fencedLines [] 0 mark length (n + 1) pieces (line ++ '\n' :: rest) =
      fencedLines [] 0 mark length n (appendText pieces (line ++ '\n' :: rest) rest) rest := by
  obtain ⟨c, text, hc, hm, hs, ht⟩ := h.begins
  have ha := appendCodeLine_line h.ends pieces rest
  have htl := takeLine_newline h.whole rest
  rw [hc] at ha htl ⊢
  simp only [List.cons_append] at ha htl ⊢
  rw [fencedLines]
  simp only [margin?, enterAll, skip_zero, take_ofLine hs ht]
  simp only [Margin.ofLine, closingFence_other hm hl, ha, htl]
  simp

theorem appendText_next (begin start stop : Place) :
    appendText [⟨begin, start, .text⟩] start stop = [⟨begin, stop, .text⟩] := by
  simp [appendText, Piece.isTextUpTo]

/-- Lines of code behind a text of code become part of the text, up to where the block ends. -/
theorem fencedLines_more {lines : List (List Char)} (h : ∀ line ∈ lines, IsCodeLine mark line)
    (hl : 0 < length) {tail after : List Char}
    (hc : ∀ n pieces, fencedLines [] 0 mark length (n + 1) pieces tail = (pieces, after))
    {n : Nat} (hn : lines.length < n) (begin : Place) :
    fencedLines [] 0 mark length n [⟨begin, codeText lines ++ tail, .text⟩]
      (codeText lines ++ tail) = ([⟨begin, tail, .text⟩], after) := by
  induction lines generalizing n with
  | nil =>
    obtain ⟨n, rfl⟩ := Nat.exists_eq_add_of_lt hn
    exact hc _ _
  | cons line lines ih =>
    obtain ⟨hline, hlines⟩ := List.forall_mem_cons.mp h
    obtain ⟨m, rfl⟩ : ∃ m, n = m + 1 := ⟨n - 1, by omega⟩
    have hm : lines.length < m := by simpa using hn
    rw [codeText_cons, List.append_assoc, List.cons_append, fencedLines_line hline hl,
      appendText_next]
    exact ih hlines hm

/-- Lines of code up to where the block ends are one text. -/
theorem fencedLines_text {lines : List (List Char)} (h : ∀ line ∈ lines, IsCodeLine mark line)
    (hs : lines ≠ []) (hl : 0 < length) {tail after : List Char}
    (hc : ∀ n pieces, fencedLines [] 0 mark length (n + 1) pieces tail = (pieces, after)) :
    fencedLines [] 0 mark length ((codeText lines ++ tail).length + 1) []
      (codeText lines ++ tail) = ([⟨codeText lines ++ tail, tail, .text⟩], after) := by
  cases lines with
  | nil => exact absurd rfl hs
  | cons line lines =>
    obtain ⟨hline, hlines⟩ := List.forall_mem_cons.mp h
    have hn : lines.length < (codeText (line :: lines) ++ tail).length := by
      have := length_le_codeText lines
      simp only [codeText_cons, List.length_append, List.length_cons]
      omega
    generalize (codeText (line :: lines) ++ tail).length = n at hn
    rw [codeText_cons, List.append_assoc, List.cons_append, fencedLines_line hline hl]
    exact fencedLines_more hlines hl hc hn _

end

def fence : List Char := ['\x60', '\x60', '\x60']

theorem fencedLines_fence (rest : List Char) (n : Nat) (pieces : List Piece) :
    fencedLines [] 0 '\x60' 3 (n + 1) pieces (fence ++ '\n' :: rest) =
      (pieces, '\n' :: rest) := rfl

/-- Lines of code between two fences are a block of code with one text, whatever follows them. -/
theorem fencedCode_lines {lines : List (List Char)} (h : ∀ line ∈ lines, IsCodeLine '\x60' line)
    (hs : lines ≠ []) (rest : List Char) :
    let tail := fence ++ '\n' :: rest
    let text := codeText lines ++ tail
    fencedCode [] 0 '\x60' 3 (fence ++ '\n' :: text) =
      (.ofPieces (.code (some [])) (fence ++ '\n' :: text) ('\n' :: rest) [⟨text, tail, .text⟩],
        rest) := by
  intro tail text
  have hf := fencedLines_text h hs (by decide) (fencedLines_fence rest)
  have hb : (fence ++ '\n' :: text).drop 3 = '\n' :: text := rfl
  have hi : resolved (Text.dropEndWhile isSpaceOrEnd ['\n']) = [] := by decide
  have hw : ('\n' :: text).dropWhile isSpace = '\n' :: text := by simp [isSpace]
  have hk : skipBlankLine ('\n' :: rest) = rest := rfl
  have ht : takeLine ('\n' :: text) = (['\n'], text) := by simp [takeLine]
  simp only [fencedCode, hb, hw, ht, hi]
  rw [hf]
  simp only [hk]
  rfl

end EditorBridge.Markdown

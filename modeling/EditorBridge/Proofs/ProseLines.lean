import EditorBridge.Proofs.BareText
import EditorBridge.Proofs.TextLines

/-!
Lines of prose. What begins at a line is found out from the line alone, whatever follows it; and if
nothing but text begins at any of its lines, a text is one paragraph, as far as it goes.
-/

namespace EditorBridge.Markdown

/-! ### Scanners do not see beyond their line -/

theorem drop_length_takeWhile (p : Char → Bool) (s : List Char) :
    s.drop (s.takeWhile p).length = s.dropWhile p := by
  have h := @List.drop_left _ (s.takeWhile p) (s.dropWhile p)
  rwa [List.takeWhile_append_dropWhile] at h

section

variable (s rest : List Char)

theorem takeWhile_newline {p : Char → Bool} (hp : p '\n' = false) :
    (s ++ '\n' :: rest).takeWhile p = s.takeWhile p := by
  induction s with
  | nil => simp [hp]
  | cons c s ih => by_cases hc : p c <;> simp [hc, ih]

theorem dropWhile_newline {p : Char → Bool} (hp : p '\n' = false) :
    (s ++ '\n' :: rest).dropWhile p = s.dropWhile p ++ '\n' :: rest := by
  induction s with
  | nil => simp [hp]
  | cons c s ih => by_cases hc : p c <;> simp [hc, ih]

theorem isSome_lineEnd (c : Char) : (lineEnd? (c :: rest)).isSome = isLineEnd c := by
  unfold lineEnd? isLineEnd
  grind

theorem isSome_lineEnd_newline :
    (lineEnd? (s ++ '\n' :: rest)).isSome = (lineEnd? s).isSome := by
  cases s with
  | nil => rfl
  | cons c s => rw [List.cons_append, isSome_lineEnd, isSome_lineEnd]

theorem isSome_blankLine_newline :
    (blankLine? (s ++ '\n' :: rest)).isSome = (blankLine? s).isSome := by
  rw [blankLine?, blankLine?, dropWhile_newline _ _ rfl, isSome_lineEnd_newline]

theorem isSome_thematicBreakFrom_newline (mark : Char) (found : Nat) :
    (thematicBreakFrom mark found (s ++ '\n' :: rest)).isSome =
      (thematicBreakFrom mark found s).isSome := by
  induction s generalizing found with
  | nil => by_cases hf : 3 ≤ found <;> simp [thematicBreakFrom, isLineEnd, lineEnd?, hf]
  | cons c s ih =>
    cases he : isLineEnd c with
    | true => by_cases hf : 3 ≤ found <;> simp [thematicBreakFrom, he, hf, isSome_lineEnd]
    | false =>
      by_cases hm : c = mark
      · subst hm
        simp [thematicBreakFrom, he, ih]
      · by_cases hb : c = ' ' ∨ c = '\t' <;> simp [thematicBreakFrom, he, hm, hb, ih]

theorem isSome_thematicBreak_newline :
    (thematicBreak? (s ++ '\n' :: rest)).isSome = (thematicBreak? s).isSome := by
  cases s with
  | nil => rfl
  | cons c s =>
    have hb := isSome_thematicBreakFrom_newline (c :: s) rest c 0
    rw [List.cons_append] at hb ⊢
    by_cases hm : (c = '*' ∨ c = '-') ∨ c = '_' <;> simp [thematicBreak?, hm, hb]

theorem countLeading_newline {mark : Char} (hm : mark ≠ '\n') :
    countLeading mark (s ++ '\n' :: rest) = countLeading mark s := by
  rw [countLeading, takeWhile_newline _ _ (by simpa using hm.symm), countLeading]

theorem drop_countLeading_newline (mark : Char) :
    (s ++ '\n' :: rest).drop (countLeading mark s) =
      s.drop (countLeading mark s) ++ '\n' :: rest :=
  List.drop_append_of_le_length (List.takeWhile_prefix _).length_le

theorem numberSignLevel_newline : numberSignLevel? (s ++ '\n' :: rest) = numberSignLevel? s := by
  simp only [numberSignLevel?]
  rw [countLeading_newline _ _ (by decide), drop_countLeading_newline]
  cases s.drop (countLeading '#' s) <;> rfl

theorem contains_takeLine_newline {mark : Char} (hm : mark ≠ '\n') :
    (takeLine (s ++ '\n' :: rest)).1.contains mark = (takeLine s).1.contains mark := by
  induction s with
  | nil => simp [takeLine, hm]
  | cons c s ih => by_cases hc : c = '\n' <;> simp_all [takeLine]

theorem codeFence_newline : codeFence? (s ++ '\n' :: rest) = codeFence? s := by
  cases s with
  | nil => rfl
  | cons c s =>
    by_cases hc : c = '\x60' ∨ c = '~'
    · have hn : c ≠ '\n' := by
        rintro rfl
        simp at hc
      have hl := countLeading_newline (c :: s) rest hn
      have hr := drop_countLeading_newline (c :: s) rest c
      rw [List.cons_append] at hl hr ⊢
      simp only [codeFence?]
      rw [hl, hr, contains_takeLine_newline _ _ (by decide)]
    · simp [codeFence?, hc]

/-- Outside the paragraph's containers, a mark of a list item ends it if white space follows. -/
theorem listInterrupts_newline :
    listInterrupts false (s ++ '\n' :: rest) = listInterrupts false s := by
  cases s with
  | nil => simp [listInterrupts, isDigit]
  | cons c s =>
    by_cases hb : (c = '-' ∨ c = '+') ∨ c = '*'
    · cases s <;> simp [listInterrupts, hb, isLineEnd]
    · by_cases hd : isDigit c
      · have hw := dropWhile_newline (c :: s) rest (p := isDigit) rfl
        rw [List.cons_append] at hw
        simp only [List.cons_append, listInterrupts, hw]
        cases (c :: s).dropWhile isDigit with
        | nil => simp [hb, hd]
        | cons d after =>
          by_cases hp : d = '.' ∨ d = ')'
          · cases after <;> simp [hb, hd, hp, isLineEnd]
          · simp [hb, hd, hp]
      · simp [listInterrupts, hb, hd]

theorem underline_newline (h : underline? s = none) (hs : s ≠ []) :
    underline? (s ++ '\n' :: rest) = none := by
  cases s with
  | nil => exact absurd rfl hs
  | cons c s =>
    by_cases hm : c = '=' ∨ c = '-'
    · have hn : ('\n' == c) = false := by
        obtain rfl | rfl := hm <;> decide
      have hd := dropWhile_newline s rest (p := (· = c)) (by simpa using hn)
      have hk := isSome_blankLine_newline (s.dropWhile (· = c)) rest
      simp_all [underline?]
    · simp [underline?, hm]

end

/-- A list item that may end the paragraph above it may end one that it is not inside of. -/
theorem listInterrupts_outside {inside : Bool} {s : List Char}
    (h : listInterrupts false s = false) : listInterrupts inside s = false := by
  cases inside with
  | false => exact h
  | true =>
    unfold listInterrupts at h ⊢
    grind

/-! ### Text that begins no block -/

/-- A place where text begins and nothing else: no white space, no markup of another language and no
definition, nothing that would end a paragraph, and no underline. -/
structure BeginsText (s : Place) : Prop where
  begins : ∃ c rest, s = c :: rest ∧ isSpaceOrEnd c = false ∧ c ≠ '<' ∧ c ≠ '['
  goesOn : interrupts false s = false
  isNotUnderline : underline? s = none

instance : DecidablePred BeginsText
  | [] => isFalse fun h => nomatch h.begins
  | c :: rest => decidable_of_iff ((isSpaceOrEnd c = false ∧ c ≠ '<' ∧ c ≠ '[') ∧
      interrupts false (c :: rest) = false ∧ underline? (c :: rest) = none)
    ⟨fun ⟨hc, hi, hu⟩ => ⟨⟨c, rest, rfl, hc⟩, hi, hu⟩,
      fun ⟨⟨_, _, he, hc⟩, hi, hu⟩ => ⟨(List.cons.inj he).1 ▸ hc, hi, hu⟩⟩

structure IsTextLine (line : List Char) : Prop where
  begins : BeginsText line
  isLine : IsLine line

instance : DecidablePred IsTextLine := fun line =>
  decidable_of_iff (BeginsText line ∧ IsLine line)
    ⟨fun h => ⟨h.1, h.2⟩, fun h => ⟨h.begins, h.isLine⟩⟩

/-- A text of lines that begin no block. -/
def IsProse (s : List Char) : Prop := ∀ line ∈ Text.splitLineFeeds s, IsTextLine line

instance : DecidablePred IsProse :=
  fun s => inferInstanceAs (Decidable (∀ line ∈ Text.splitLineFeeds s, IsTextLine line))

theorem codeText_splitLineFeeds (s : List Char) :
    codeText (Text.splitLineFeeds s) = s ++ ['\n'] := by
  rw [codeText, ← Text.joinWith_newline (Text.splitLineFeeds_ne_nil s),
    Text.joinWith_splitLineFeeds]

/-- What begins at a line does not depend on what follows it. -/
theorem BeginsText.ahead {s : Place} (h : BeginsText s) (rest : List Char) :
    BeginsText (s ++ '\n' :: rest) := by
  have hi := h.goesOn
  have hu := h.isNotUnderline
  obtain ⟨c, text, rfl, hc, hs, hb⟩ := h.begins
  have hr : ∀ t, rawInterrupts (c :: t) = false := by
    intro t
    unfold rawInterrupts
    split
    · simp_all
    · rfl
  refine ⟨⟨c, text ++ '\n' :: rest, rfl, hc, hs, hb⟩, ?_,
    underline_newline _ _ hu (List.cons_ne_nil c text)⟩
  rw [interrupts] at hi ⊢
  rw [isSome_thematicBreak_newline, isSome_lineEnd_newline, numberSignLevel_newline,
    codeFence_newline, listInterrupts_newline]
  simpa [startsWith, List.isPrefixOf, hr] using hi

namespace BeginsText

variable {s : Place}

/-- Nothing that ends a paragraph begins with text. -/
theorem scans (h : BeginsText s) :
    (thematicBreak? s = none ∧ numberSignLevel? s = none ∧ codeFence? s = none) ∧
      s.head? ≠ some '>' ∧ listInterrupts false s = false := by
  obtain ⟨⟨c, rest, rfl, -⟩, hi, -⟩ := h
  simp only [interrupts, Bool.or_eq_false_iff, Option.isSome_eq_false_iff,
    Option.isNone_iff_eq_none] at hi
  obtain ⟨⟨⟨⟨⟨⟨-, ht⟩, hn⟩, hf⟩, hq⟩, hl⟩, -⟩ := hi
  refine ⟨⟨ht, hn, hf⟩, fun he => ?_, hl⟩
  obtain rfl : c = '>' := by simpa using he
  simp [startsWith] at hq

theorem interrupts_eq_false (h : BeginsText s) (inside : Bool) : interrupts inside s = false := by
  obtain ⟨-, -, hl⟩ := h.scans
  have hi := h.goesOn
  rw [interrupts] at hi ⊢
  rw [hl] at hi
  rw [listInterrupts_outside hl]
  exact hi

theorem rawEnd_eq_none (h : BeginsText s) : rawEnd? s = none := by
  obtain ⟨⟨c, rest, rfl, -, hc, -⟩, -, -⟩ := h
  unfold rawEnd?
  split
  · simp_all
  · rfl

theorem definition_eq_none (h : BeginsText s) (containers : List Container) :
    definition? containers s = none := by
  obtain ⟨⟨c, rest, rfl, -, -, hc⟩, -, -⟩ := h
  unfold definition?
  split
  · simp_all
  · rfl

/-- Text has no indentation, in whichever column it begins. -/
theorem take_margin (h : BeginsText s) (column wanted : Nat) :
    (Margin.mk s column 0).take wanted = (wanted, ⟨s, column, 0⟩) := by
  obtain ⟨⟨c, rest, rfl, hc, -⟩, -, -⟩ := h
  have hs : c ≠ ' ' ∧ c ≠ '\t' := by grind [isSpaceOrEnd, isSpace]
  by_cases hw : wanted = 0 <;> simp [Margin.take, Margin.takeColumns, hs, hw]

theorem quoteMark_eq_none (h : BeginsText s) (column : Nat) :
    (Margin.mk s column 0).quoteMark? = none := by
  obtain ⟨-, hq, -⟩ := h.scans
  unfold Margin.quoteMark? Margin.skip
  rw [h.take_margin]
  dsimp only
  split
  · simp at hq
  · rfl

/-- No white space follows what looks like the mark of an item. -/
theorem itemMarkHead_unspaced (h : BeginsText s) {column indent : Nat} {item : ItemMark}
    {after : Margin} (hm : itemMarkHead? indent ⟨s, column, 0⟩ = some (item, after)) :
    ∃ d rest column', after = ⟨d :: rest, column', 0⟩ ∧ d ≠ ' ' ∧ d ≠ '\t' ∧
      isLineEnd d = false := by
  obtain ⟨-, -, hl⟩ := h.scans
  obtain ⟨⟨c, rest, rfl, -⟩, -, -⟩ := h
  unfold itemMarkHead? at hm
  dsimp only at hm
  split at hm
  case isTrue hb =>
    split at hm
    · simp at hm
    · obtain ⟨-, rfl⟩ := Prod.mk.inj (Option.some.inj hm)
      have hb : (c = '-' ∨ c = '+') ∨ c = '*' := by simpa [isBullet] using hb
      cases rest with
      | nil => simp [listInterrupts, hb] at hl
      | cons d rest =>
        exact ⟨d, rest, _, rfl, by simpa [listInterrupts, hb, and_assoc] using hl⟩
  case isFalse hb =>
    rw [drop_length_takeWhile] at hm
    split at hm
    · rename_i d after hd
      split at hm
      case isTrue hn =>
        obtain ⟨-, rfl⟩ := Prod.mk.inj (Option.some.inj hm)
        simp only [Bool.and_eq_true, Bool.or_eq_true, decide_eq_true_eq] at hn
        obtain ⟨⟨hf, -⟩, hp⟩ := hn
        have hc : isDigit c = true := by
          cases hc : isDigit c with
          | true => rfl
          | false => simp [hc] at hf
        have hb : ¬((c = '-' ∨ c = '+') ∨ c = '*') := by simpa [isBullet] using hb
        cases after with
        | nil => simp [listInterrupts, hb, hc, hd, hp] at hl
        | cons e rest' =>
          exact ⟨e, rest', _, rfl, by simpa [listInterrupts, hb, hc, hd, hp, and_assoc] using hl⟩
      case isFalse => simp at hm
    · simp at hm

theorem itemMark_eq_none (h : BeginsText s) (column : Nat) :
    itemMark? (Margin.mk s column 0) = none := by
  unfold itemMark?
  rw [h.take_margin]
  dsimp only
  split
  · rfl
  · split
    · rfl
    · rename_i item after hm
      obtain ⟨d, rest, column', rfl, hs, ht, he⟩ := h.itemMarkHead_unspaced hm
      have hk : (Margin.mk (d :: rest) column' 0).take 1 = (1, ⟨d :: rest, column', 0⟩) := by
        simp [Margin.take, Margin.takeColumns, hs, ht]
      simp [hk, Margin.isAtEnd, he]

theorem isLeafLine (h : BeginsText s) : IsLeafLine s := by
  obtain ⟨c, rest, hs, hc, -⟩ := h.begins
  exact ⟨⟨c, rest, hs, hc⟩, h.itemMark_eq_none 0, h.quoteMark_eq_none 0⟩

end BeginsText

/-! ### Paragraphs -/

theorem arePieces_lineBreak (before : Char) (s : Place) :
    ArePieces (textLine before s).lineBreak.toList := by
  have hb : ∀ line next node, (breakAfter line next).2 ≠ .node node := by
    intro line next node
    unfold breakAfter
    dsimp only
    split
    · simp
    · split <;> simp
  unfold textLine
  dsimp only
  split
  · simp [ArePieces]
  · exact fun p hp node hn => absurd (by simpa [List.mem_singleton.mp hp] using hn) (hb _ _ node)

/-- Where a text that is a paragraph ends, for a paragraph of the document or of an item: before a
blank line, or before the next item. -/
inductive EndsText : List Container → Place → Prop
  | blank (containers : List Container) (rest : Place) : EndsText containers ('\n' :: rest)
  | item (rest : Place) : EndsText [.item 2] ('*' :: ' ' :: rest)

section

variable {containers : List Container} (hc : containers = [] ∨ containers = [.item 2])

include hc

/-- A line of text is in no item. -/
theorem enterAll_text {s : Place} (h : BeginsText s) :
    enterAll (.ofLine s) containers = (containers, .ofLine s) := by
  obtain rfl | rfl := hc
  · rfl
  · obtain ⟨c, rest, rfl, hc, -⟩ := h.begins
    rw [enterAll, enter_item_eq_none hc rest (by decide)]

/-- A paragraph goes on with a line of text. -/
theorem paragraphLines_goesOn {line : List Char} (hl : IsLine line)
    {next : Place} (h : BeginsText next) (n : Nat) (before : Char) (pieces : List Piece) :
    ∃ before' more, ArePieces more ∧
      paragraphLines containers (n + 1) before pieces (line ++ '\n' :: next) =
        paragraphLines containers n before' (pieces ++ more) next := by
  let found := textLine before (line ++ '\n' :: next)
  have hn : found.next = next := textLine_next hl before next
  have hd : next.dropWhile (fun c => c = ' ' || c = '\t') = next := by
    obtain ⟨⟨c, rest, rfl, hs, -⟩, -, -⟩ := h
    have hs : c ≠ ' ' ∧ c ≠ '\t' := by grind [isSpaceOrEnd, isSpace]
    simp [hs]
  have he : lineEnd? next = none := by
    obtain ⟨⟨c, rest, rfl, hs, -⟩, -, -⟩ := h
    have hs : c ≠ '\n' ∧ c ≠ '\r' := by grind [isSpaceOrEnd]
    simp [lineEnd?, hs]
  refine ⟨charBefore next next, found.pieces ++ found.lineBreak.toList,
    List.forall_mem_append.mpr ⟨arePieces_textLine _ _, arePieces_lineBreak _ _⟩, ?_⟩
  rw [paragraphLines, ← List.append_assoc]
  simp only [show textLine before (line ++ '\n' :: next) = found from rfl, hn,
    enterAll_text hc h]
  simp [Margin.ofLine, h.take_margin, h.isNotUnderline, hd, he, h.interrupts_eq_false]

/-- A paragraph ends behind a line of text. -/
theorem paragraphLines_stops {line : List Char} (hl : IsLine line)
    {rest : Place} (h : EndsText containers rest) (n : Nat) (before : Char)
    (pieces : List Piece) :
    paragraphLines containers (n + 1) before pieces (line ++ '\n' :: rest) =
      (pieces ++ (textLine before (line ++ '\n' :: rest)).pieces, none, rest) := by
  have hn := textLine_next hl before rest
  rw [paragraphLines]
  simp only [hn]
  cases h with
  | blank _ rest => obtain rfl | rfl := hc <;> rfl
  | item rest =>
    have he : enterAll (.ofLine ('*' :: ' ' :: rest)) [.item 2] =
        ([.item 2], .ofLine ('*' :: ' ' :: rest)) := rfl
    have ht : (Margin.ofLine ('*' :: ' ' :: rest)).take 4 =
        (4, .ofLine ('*' :: ' ' :: rest)) := rfl
    have hi : interrupts false ('*' :: ' ' :: rest) = true := by
      simp [interrupts, listInterrupts]
    simp [he, ht, hi]

omit hc in
/-- Lines of text begin with text, whatever follows them. -/
theorem beginsText_codeText {lines : List (List Char)} (hl : ∀ line ∈ lines, IsTextLine line)
    (hn : lines ≠ []) (rest : Place) : BeginsText (codeText lines ++ rest) := by
  cases lines with
  | nil => exact absurd rfl hn
  | cons line lines =>
    rw [codeText_cons, List.append_assoc]
    exact (hl line List.mem_cons_self).begins.ahead _

omit hc in
theorem IsProse.begins {s : List Char} (h : IsProse s) (rest : Place) :
    BeginsText (s ++ '\n' :: rest) := by
  have hb := beginsText_codeText h (Text.splitLineFeeds_ne_nil s) rest
  rwa [codeText_splitLineFeeds, List.append_assoc, List.singleton_append] at hb

/-- Lines of text are one paragraph. -/
theorem paragraphLines_text {lines : List (List Char)} (hl : ∀ line ∈ lines, IsTextLine line)
    (hn : lines ≠ []) {rest : Place} (h : EndsText containers rest) {n : Nat}
    (hf : lines.length ≤ n) (before : Char) {pieces : List Piece} (hp : ArePieces pieces) :
    ∃ all, ArePieces all ∧
      paragraphLines containers n before pieces (codeText lines ++ rest) = (all, none, rest) := by
  induction lines generalizing n before pieces with
  | nil => exact absurd rfl hn
  | cons line lines ih =>
    obtain ⟨hline, hlines⟩ := List.forall_mem_cons.mp hl
    obtain ⟨n, rfl⟩ : ∃ m, n = m + 1 := ⟨n - 1, by grind⟩
    rw [codeText_cons, List.append_assoc, List.cons_append]
    cases lines with
    | nil =>
      exact ⟨_, List.forall_mem_append.mpr ⟨hp, arePieces_textLine _ _⟩,
        paragraphLines_stops hc hline.isLine h n before pieces⟩
    | cons next lines =>
      have hb := beginsText_codeText hlines (List.cons_ne_nil next lines) rest
      obtain ⟨before', more, hm, he⟩ :=
        paragraphLines_goesOn hc hline.isLine hb n before pieces
      rw [he]
      exact ih hlines (by simp) (by simpa using hf) before'
        (List.forall_mem_append.mpr ⟨hp, hm⟩)

/-- A text of lines that begin no block is one paragraph, and one piece if it is bare. -/
theorem paragraph_text {s : List Char} (hs : IsProse s) {rest : Place}
    (h : EndsText containers rest) (before : Char) :
    ∃ pieces, ArePieces pieces ∧ ShowPieces pieces s ∧
      paragraph containers before (s ++ '\n' :: rest) =
        (.ofPieces .paragraph (s ++ '\n' :: rest) rest pieces, rest) := by
  by_cases hb : IsBare s
  · have he := paragraphLines_stops hc hb.isLine h (s ++ '\n' :: rest).length before []
    rw [textLine_bare hb] at he
    refine ⟨_, arePieces_whole s _, showPieces_whole s ('\n' :: rest), ?_⟩
    rw [paragraph, he]
    rfl
  · let lines := Text.splitLineFeeds s
    have hf : lines.length ≤ (codeText lines ++ rest).length + 1 := by
      have := length_le_codeText lines
      simp only [List.length_append]
      omega
    have he : ArePieces [] := by simp [ArePieces]
    obtain ⟨pieces, hp, hr⟩ :=
      paragraphLines_text hc hs (Text.splitLineFeeds_ne_nil s) h hf before he
    rw [codeText_splitLineFeeds, List.append_assoc, List.singleton_append] at hr
    exact ⟨pieces, hp, fun hb' => absurd hb' hb, by rw [paragraph, hr]⟩

end

end EditorBridge.Markdown

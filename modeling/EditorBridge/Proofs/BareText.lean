import EditorBridge.Proofs.FlatDocument
import EditorBridge.Proofs.TextTrim

/-!
Text without signs of markup. A line of such text is one piece, so in a heading and in a paragraph
it is seen as it is.
-/

namespace EditorBridge.Markdown

/-- Whether a character can be markup inside a line, or at the end of a heading. -/
def isMarkupSign (c : Char) : Bool :=
  ['\\', '*', '_', '\x60', '<', '!', '[', ']', '&', '#'].contains c

def IsLine (s : List Char) : Prop := ∀ c ∈ s, isLineEnd c = false

instance : DecidablePred IsLine := fun s =>
  decidable_of_iff (s.all (!isLineEnd ·) = true) (by simp [IsLine])

/-- A text of one line that holds no sign of markup, and has no white space at its ends. -/
structure IsBare (s : List Char) : Prop where
  isLine : IsLine s
  noSign : ∀ c ∈ s, isMarkupSign c = false
  notEmpty : s ≠ []
  begins : ∀ c ∈ s.head?, isSpace c = false
  ends : ∀ c ∈ s.getLast?, isSpace c = false

instance : DecidablePred IsBare := fun s =>
  decidable_of_iff (IsLine s ∧ s.all (!isMarkupSign ·) = true ∧ s ≠ [] ∧
      s.head?.all (!isSpace ·) = true ∧ s.getLast?.all (!isSpace ·) = true)
    ⟨fun ⟨hl, hs, hn, hb, he⟩ => ⟨hl, by simpa using hs, hn,
      fun c hc => by simpa [Option.mem_def.mp hc] using hb,
      fun c hc => by simpa [Option.mem_def.mp hc] using he⟩,
    fun h => ⟨h.isLine, by simpa using h.noSign, h.notEmpty,
      by simpa [Option.all_eq_true] using h.begins, by simpa [Option.all_eq_true] using h.ends⟩⟩

section

variable {s : List Char}

theorem beginning_plain {c : Char} (h : isMarkupSign c = false) (before : Char)
    (rest : List Char) : beginning before (c :: rest) = .plain 1 := by
  simp only [isMarkupSign, List.contains_cons, List.contains_nil, Bool.or_false,
    Bool.or_eq_false_iff, beq_eq_false_iff_ne] at h
  simp [beginning, h]

theorem cutWithin_plain (h : ∀ c ∈ s, isMarkupSign c = false) (rest : List Char) (before : Char)
    {plain : Nat} {mark : Place} (hm : plain = 0 → mark = s ++ rest) :
    cutWithin s.length s.length before plain mark (s ++ rest) =
      Piece.text? mark rest (plain + s.length) := by
  induction s generalizing before plain mark with
  | nil => simp [cutWithin]
  | cons c s ih =>
    obtain ⟨hc, hs⟩ := List.forall_mem_cons.mp h
    have hk : (if plain = 0 then c :: (s ++ rest) else mark) = mark := by
      split
      · rename_i hp
        exact (hm hp).symm
      · rfl
    simp only [List.length_cons, List.cons_append, cutWithin, beginning_plain hc, hk,
      List.drop_succ_cons, List.drop_zero, Nat.add_sub_cancel]
    rw [ih hs _ (by omega)]
    simp [Nat.add_assoc, Nat.add_comm 1]

theorem countTrailing_eq_zero {p : Char → Bool} (h : ∀ c ∈ s.getLast?, p c = false) :
    countTrailing p s = 0 := by
  rw [countTrailing]
  rw [List.getLast?_eq_head?_reverse] at h
  cases hr : s.reverse with
  | nil => rfl
  | cons c rest => simp [h c (by simp [hr])]

/-- Bare text is one piece of its line. -/
theorem textLine_bare (h : IsBare s) (before : Char) (rest : List Char) :
    textLine before (s ++ '\n' :: rest) = ⟨[⟨s ++ '\n' :: rest, '\n' :: rest, .text⟩],
      some ⟨'\n' :: rest, rest, .softBreak⟩, rest⟩ := by
  have hb : ∀ c ∈ s.getLast?, (decide (c = '\\')) = false := by
    intro c hc
    have hne : c ≠ '\\' := by
      rintro rfl
      exact absurd (h.noSign '\\' (List.mem_of_getLast? hc)) (by decide)
    simpa using hne
  have hk : breakAfter s rest = (s.length, .softBreak) := by
    simp [breakAfter, countTrailing_eq_zero hb, countTrailing_eq_zero h.ends]
  have ht : (s ++ '\n' :: rest).takeWhile (fun c => !isLineEnd c) = s := by
    rw [List.takeWhile_append_of_pos (by simpa [IsLine] using h.isLine)]
    simp [isLineEnd]
  have hc : cut s.length before (s ++ '\n' :: rest) =
      [⟨s ++ '\n' :: rest, '\n' :: rest, .text⟩] := by
    rw [cut, cutWithin_plain h.noSign _ _ (fun _ => rfl)]
    simp [Piece.text?, h.notEmpty]
  simp [textLine, ht, lineEnd?, hk, hc]

/-- Bare text is the text of a heading. -/
theorem headingLength_bare (h : IsBare s) : headingLength (s ++ ['\n']) = s.length := by
  have hl : ∀ c ∈ s.getLast?, isSpace c = false ∧ isLineEnd c = false ∧ isMarkupSign c = false := by
    intro c hc
    have hm := List.mem_of_getLast? hc
    exact ⟨h.ends c hc, h.isLine c hm, h.noSign c hm⟩
  have ht : Text.dropEndWhile (fun c => c = '\n' || c = '\r' || c = ' ') (s ++ ['\n']) = s := by
    rw [Text.dropEndWhile_append _ _ (by simp)]
    apply Text.dropEndWhile_eq_self
    intro c hc
    have := hl c hc
    grind [isSpace, isLineEnd]
  have ho : Text.dropEndWhile (· = '#') s = s := by
    apply Text.dropEndWhile_eq_self
    intro c hc
    have hne : c ≠ '#' := by
      rintro rfl
      exact absurd (hl '#' hc).2.2 (by decide)
    simpa using hne
  have hp : Text.dropEndWhile (· = ' ') s = s := by
    apply Text.dropEndWhile_eq_self
    intro c hc
    have := hl c hc
    grind [isSpace]
  simp [headingLength, ht, ho, hp, h.notEmpty]

theorem numberSignHeading_bare (h : IsBare s) {level : Nat} {start rest : Place}
    (hs : start.drop level = ' ' :: (s ++ '\n' :: rest)) :
    (numberSignHeading level start).1 = .ofPieces (.heading level) start rest
      [⟨s ++ '\n' :: rest, '\n' :: rest, .text⟩] := by
  have hd : (' ' :: (s ++ '\n' :: rest)).dropWhile isSpace = s ++ '\n' :: rest := by
    cases s with
    | nil => exact absurd rfl h.notEmpty
    | cons c s => simp [h.begins c rfl, show isSpace ' ' = true by decide]
  have hl : lineEnd? (' ' :: (s ++ '\n' :: rest)) = none := rfl
  have hw : between (s ++ '\n' :: rest) rest = s ++ ['\n'] := by
    rw [List.append_cons, between_append]
  simp only [numberSignHeading, hs, hl, hd, textLine_bare h, hw, headingLength_bare h,
    List.drop_left]
  rfl

/-- Pieces that show a text: one that is bare is one piece of its document. -/
def ShowPieces (pieces : List Piece) (s : List Char) : Prop :=
  IsBare s → ∃ start stop, pieces = [⟨start, stop, .text⟩] ∧ between start stop = s

theorem showPieces_whole (s rest : List Char) : ShowPieces [⟨s ++ rest, rest, .text⟩] s :=
  fun _ => ⟨_, _, rfl, between_append s rest⟩

theorem arePieces_whole (s rest : List Char) : ArePieces [⟨s ++ rest, rest, .text⟩] := by
  simp [ArePieces, Piece.IsInline]

/-- A heading shows the text of its line. -/
theorem numberSignHeading_shows {level : Nat} {start rest : Place}
    (hl : IsLine s) (hs : start.drop level = ' ' :: (s ++ '\n' :: rest)) :
    ∃ pieces, ArePieces pieces ∧ ShowPieces pieces s ∧ numberSignHeading level start =
      (.ofPieces (.heading level) start rest pieces, rest) := by
  have hn := numberSignHeading_next hl hs
  by_cases hb : IsBare s
  · have he := numberSignHeading_bare hb hs
    exact ⟨_, arePieces_whole s _, showPieces_whole s ('\n' :: rest), Prod.ext he hn⟩
  · obtain ⟨pieces, hp, he⟩ := numberSignHeading_eq level start
    rw [hn] at he
    exact ⟨pieces, hp, fun hb' => absurd hb' hb, Prod.ext he hn⟩

end

end EditorBridge.Markdown

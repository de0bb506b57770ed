import EditorBridge.Html.PlainText
import EditorBridge.Proofs.EntityDecoding
import EditorBridge.Proofs.TextLines
import EditorBridge.Proofs.TextTrim

/-!
The plain text of HTML, read in one pass. HTML is cut into runs of text and tags, character by
character; each run shows its own text, a tag shows a line feed or nothing, and what is shown is
laid out in lines. Nothing but white space is lost of the text outside tags.
-/

namespace EditorBridge.Html

open Text

inductive Part where
  | run (text : List Char)
  /-- A tag, with what stands between its angle brackets. -/
  | tag (inside : List Char)
  deriving DecidableEq, Repr

/-- What is being read: a run of text, or behind it a tag of which some characters have been read.
-/
inductive Mode where
  | inRun (run : List Char)
  | inTag (run inside : List Char)

/-- What the parts of HTML are: a tag begins at the first less-than sign that has a greater-than
sign behind it and ends at the first of those; without one, the rest is text. -/
inductive AreParts : List Char → List Part → Prop where
  | last {run : List Char} (hr : '<' ∉ run) : AreParts run [.run run]
  | unclosed {run rest : List Char} (hr : '<' ∉ run) (ho : '>' ∉ rest) :
      AreParts (run ++ '<' :: rest) [.run (run ++ '<' :: rest)]
  | tag {run inside rest : List Char} {parts : List Part} (hr : '<' ∉ run) (hi : '>' ∉ inside)
      (h : AreParts rest parts) :
      AreParts (run ++ '<' :: (inside ++ '>' :: rest)) (.run run :: .tag inside :: parts)

/-- What is taken of a text goes up to the first character that is not wanted. -/
theorem takeWhile_upTo {p : Char → Bool} {run rest : List Char} (hr : ∀ c ∈ run, p c)
    (hs : ∀ c ∈ rest.head?, p c = false) : (run ++ rest).takeWhile p = run := by
  rw [List.takeWhile_append_of_pos hr]
  cases rest with
  | nil => simp
  | cons c rest => simp [hs c rfl]

theorem takeWhile_mark {mark : Char} {run : List Char} (h : mark ∉ run) (rest : List Char) :
    (run ++ mark :: rest).takeWhile (· != mark) = run :=
  takeWhile_upTo (fun c hc => by simpa using ne_of_mem_of_not_mem hc h) (by simp)

theorem takeWhile_whole {mark : Char} {run : List Char} (h : mark ∉ run) :
    run.takeWhile (· != mark) = run := by
  have hr : ∀ c ∈ run, (c != mark) = true := fun c hc => by simpa using ne_of_mem_of_not_mem hc h
  simpa using @takeWhile_upTo (· != mark) run [] hr (by simp)

/-- Whether a tag has a name: behind its slashes, up to white space or another slash, and in
letters of either case. -/
def IsNamed (name : String) (tag : List Char) : Prop :=
  ∃ slashes word rest, tag = slashes ++ word ++ rest ∧ (∀ c ∈ slashes, c = '/') ∧
    (∀ c ∈ word, isBlank c = false ∧ c ≠ '/') ∧ (∀ c ∈ rest.head?, isBlank c ∨ c = '/') ∧
    word.map Char.toLower = name.toList

/-- Whether a line ends at a tag: a line break, or the end of a block element. -/
def EndsLine (tag : List Char) : Prop :=
  IsNamed "br" tag ∨ tag.head? = some '/' ∧ ∃ element ∈ lineElements, IsNamed element tag

theorem tagName_parts {slashes word rest : List Char} (hs : ∀ c ∈ slashes, c = '/')
    (hw : ∀ c ∈ word, isBlank c = false ∧ c ≠ '/') (hn : word ≠ [])
    (hr : ∀ c ∈ rest.head?, isBlank c ∨ c = '/') :
    tagName (slashes ++ word ++ rest) = word.map Char.toLower := by
  have hd : (slashes ++ word ++ rest).dropWhile (· = '/') = word ++ rest := by
    rw [List.append_assoc, List.dropWhile_append_of_pos (by simpa using hs)]
    cases word with
    | nil => exact absurd rfl hn
    | cons c word =>
      have hc : c ≠ '/' := (hw c (by simp)).2
      simp [hc]
  have ht : (word ++ rest).takeWhile (fun c => !(isBlank c || c = '/')) = word := by
    refine takeWhile_upTo (by simpa using hw) fun c hc => ?_
    simpa [Classical.or_iff_not_imp_left] using hr c hc
  rw [tagName, hd, ht]

/-- A tag has the name that is read of it. -/
theorem tagName_eq_iff {name : String} (h : name.toList ≠ []) (tag : List Char) :
    tagName tag = name.toList ↔ IsNamed name tag := by
  constructor
  · intro ht
    let opened := tag.dropWhile (· = '/')
    let ends := fun c => !(isBlank c || c = '/')
    refine ⟨tag.takeWhile (· = '/'), opened.takeWhile ends, opened.dropWhile ends, ?_, ?_, ?_, ?_,
      ht⟩
    · rw [List.append_assoc, List.takeWhile_append_dropWhile, List.takeWhile_append_dropWhile]
    · intro c hc
      simpa using List.all_eq_true.mp List.all_takeWhile c hc
    · intro c hc
      simpa [ends] using List.all_eq_true.mp List.all_takeWhile c hc
    · intro c hc
      have hn := List.head?_dropWhile_not ends opened
      rw [Option.mem_def.mp hc] at hn
      simpa [ends, Classical.or_iff_not_imp_left] using hn
  · rintro ⟨slashes, word, rest, rfl, hs, hw, hr, hn⟩
    have hne : word ≠ [] := by
      rintro rfl
      exact h (by simpa using hn.symm)
    rw [tagName_parts hs hw hne hr, hn]

theorem breaksLine_iff (tag : List Char) : breaksLine tag = true ↔ EndsLine tag := by
  have hb : tagName tag = ['b', 'r'] ↔ IsNamed "br" tag :=
    @tagName_eq_iff "br" (by decide) tag
  have he : ∀ element ∈ lineElements, element.toList ≠ [] := by decide
  simp only [breaksLine, EndsLine, Bool.or_eq_true, Bool.and_eq_true, decide_eq_true_eq, hb,
    List.any_eq_true]
  refine or_congr_right (and_congr_right fun _ => exists_congr fun element => ?_)
  refine and_congr_right fun hm => ?_
  rw [eq_comm, tagName_eq_iff (he element hm)]

instance (tag : List Char) : Decidable (EndsLine tag) :=
  decidable_of_iff _ (breaksLine_iff tag)

/-- Less-than signs stay, and no entity reaches over one. -/
theorem decode_angle (s rest : List Char) :
    decode (s ++ '<' :: rest) = decode s ++ '<' :: decode rest := by
  have he : ∀ entity ∈ entities, '<' ∉ entity.1 ∧ entity.1 ≠ [] := by decide
  unfold decode
  generalize entities = kinds at he
  induction kinds generalizing s rest with
  | nil => rfl
  | cons entity kinds ih =>
    obtain ⟨⟨hm, hn⟩, hk⟩ := List.forall_mem_cons.mp he
    have hr := replaceFrom_append hm hn [entity.2] (Nat.zero_le s.length) rest
    rw [List.foldl_cons, List.foldl_cons, List.foldl_cons, replaceAll, hr]
    exact ih _ _ hk

def Part.text : Part → List Char
  | run text => decodeOnce text
  | tag _ => []

/-- What is shown of a part: its text, or a line feed for the end of a line. -/
def Part.shown : Part → List Char
  | run text => decodeOnce text
  | tag inside => if EndsLine inside then ['\n'] else []

/-- The text of HTML is what is shown of its parts, for any bound that its length keeps to. -/
theorem textWithin_parts {s : List Char} {parts : List Part} (h : AreParts s parts) {n : Nat}
    (hn : s.length ≤ n) : textWithin n s = parts.flatMap Part.shown := by
  induction h generalizing n with
  | @last run hr =>
    have ht : run.takeWhile (· != '<') = run := takeWhile_whole hr
    cases n with
    | zero => simp [textWithin, Part.shown, decode_eq_decodeOnce]
    | succ n => simp [textWithin, ht, Part.shown, decode_eq_decodeOnce]
  | @unclosed run rest hr ho =>
    obtain ⟨m, rfl⟩ : ∃ m, n = m + 1 := ⟨n - 1, by grind⟩
    have ht : (run ++ '<' :: rest).takeWhile (· != '<') = run := takeWhile_mark hr rest
    have hi : rest.takeWhile (· != '>') = rest := takeWhile_whole ho
    have hd : decode ('<' :: rest) = '<' :: decode rest := decode_angle [] rest
    simp only [textWithin, ht, hi, List.drop_left, List.drop_length]
    simp [Part.shown, ← decode_eq_decodeOnce, decode_angle, hd]
  | @tag run inside rest parts hr hi _ ih =>
    obtain ⟨m, rfl⟩ : ∃ m, n = m + 1 := ⟨n - 1, by grind⟩
    have hl : rest.length ≤ m := by grind
    have ht : (run ++ '<' :: (inside ++ '>' :: rest)).takeWhile (· != '<') = run :=
      takeWhile_mark hr _
    have hq : (inside ++ '>' :: rest).takeWhile (· != '>') = inside := takeWhile_mark hi rest
    simp only [textWithin, ht, hq, List.drop_left, ih hl]
    simp [Part.shown, ← decode_eq_decodeOnce, breaksLine_iff]

/-! ### Layout -/

/-- A text without white space at the ends of its lines, and without line feeds at its ends. -/
def laidOut (s : List Char) : List Char :=
  trimWhile (· = '\n') (joinWith ['\n'] ((splitLineFeeds s).map trimEnd))

def solid (s : List Char) : List Char := s.filter fun c => !isBlank c

@[simp] theorem solid_nil : solid [] = [] := rfl

@[simp] theorem solid_trimEnd (s : List Char) : solid (trimEnd s) = solid s :=
  filter_dropEndWhile (by simp) s

theorem trimEnd_dropReturn (line : List Char) : trimEnd (dropReturn line) = trimEnd line := by
  unfold dropReturn
  split
  · rename_i h
    obtain ⟨front, rfl⟩ : ∃ front, line = front ++ ['\r'] := List.getLast?_eq_some_iff.mp h
    rw [List.dropLast_concat]
    exact (dropEndWhile_append isBlank front (List.forall_mem_singleton.mpr (by decide))).symm
  · rfl

/-- The lines of a text and the pieces between its line feeds differ by carriage returns and a last
line feed, when white space at their ends is left out. -/
theorem joinWith_linesOfPieces (pieces : List (List Char)) :
    ∃ back, (∀ c ∈ back, c = '\n') ∧ joinWith ['\n'] (pieces.map trimEnd) =
      joinWith ['\n'] ((linesOfPieces pieces).map trimEnd) ++ back := by
  fun_induction linesOfPieces pieces with
  | case1 => exact ⟨[], by simp, rfl⟩
  | case2 last he =>
    obtain rfl : last = [] := by simpa using he
    exact ⟨[], by simp, rfl⟩
  | case3 last he => exact ⟨[], by simp, by simp⟩
  | case4 piece pieces hp ih =>
    obtain ⟨next, more, rfl⟩ := List.exists_cons_of_ne_nil hp
    obtain ⟨back, hb, he⟩ := ih
    rw [List.map_cons, List.map_cons, joinWith_cons, ← List.map_cons, he, List.map_cons,
      trimEnd_dropReturn]
    cases hl : linesOfPieces (next :: more) with
    | nil => exact ⟨'\n' :: back, by simpa using hb, by simp [joinWith]⟩
    | cons line lines => exact ⟨back, hb, by simp [joinWith_cons]⟩

theorem layout_eq_laidOut (s : List Char) : layout s = laidOut s := by
  obtain ⟨back, hb, he⟩ := joinWith_linesOfPieces (splitLineFeeds s)
  have hn : ∀ c ∈ back, decide (c = '\n') = true := by simpa using hb
  rw [laidOut, he, layout, lines]
  exact (@trimWhile_append (· = '\n') _ [] back (by simp) hn).symm

/-- A decoded less-than sign opens no tag, and an entity that a tag cuts in two is none. -/
example : plainText "<h3>a</h3>&lt;br&gt;<BR/>b &am<i>p; <c" = "a\n<br>\nb &amp; <c" := by
  decide +kernel

end EditorBridge.Html

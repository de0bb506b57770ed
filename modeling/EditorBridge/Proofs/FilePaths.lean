import EditorBridge.Proofs.FileLocations
import EditorBridge.Proofs.TextLines
import EditorBridge.Proofs.TextUtf8
import EditorBridge.Proofs.WindowScript

/-!
Which file a jump names. A script is a text, so a path of bytes stands in it as its text, with a
slash behind it if it ends like a drive. A path that has a text and does not end so is named byte
for byte; paths that have the same text are named alike.
-/

namespace EditorBridge

namespace Text

/-! ### The text of any bytes -/

/-- Fewer bytes of a character that is not whole are passed over than it misses. -/
theorem utf8Rest_none {missing bits low high : Nat} {s rest : List UInt8}
    (h : utf8Rest missing bits low high s = (none, rest)) :
    rest.length ≤ s.length ∧ s.length + 1 ≤ rest.length + missing := by
  induction s generalizing missing bits low high with
  | nil =>
    cases missing with
    | zero => simp [utf8Rest] at h
    | succ missing =>
      obtain rfl : [] = rest := by simpa [utf8Rest] using h
      simp
  | cons b s ih =>
    cases missing with
    | zero => simp [utf8Rest] at h
    | succ missing =>
      rw [utf8Rest_succ] at h
      split at h
      · have hi := ih h
        simp only [List.length_cons]
        omega
      · obtain rfl : b :: s = rest := by simpa using h
        simp

theorem length_encode_replacement : (String.utf8EncodeChar replacement).length = 3 := by decide

/-- A character has at most four bytes. -/
theorem lead_le_four {b : UInt8} {length bits low high : Nat}
    (h : utf8Lead? b = some (length, bits, low, high)) : length ≤ 4 := by
  rw [utf8Lead_eq] at h
  grind

/-- The text of bytes is written with no fewer bytes: what is no character has three bytes at most,
and the replacement character has three. -/
theorem length_le_utf8Within (n : Nat) (bytes : List UInt8) (hn : bytes.length ≤ n) :
    bytes.length ≤ (utf8 ((utf8Within n bytes).map fun c => c.getD replacement)).length := by
  have hc (c : Option Char) (parts : List (Option Char)) :
      (utf8 ((c :: parts).map fun c => c.getD replacement)).length =
        (String.utf8EncodeChar (c.getD replacement)).length +
          (utf8 (parts.map fun c => c.getD replacement)).length := by
    simp [utf8]
  induction n generalizing bytes with
  | zero =>
    obtain rfl : bytes = [] := by simpa using hn
    simp
  | succ n ih =>
    cases bytes with
    | nil => simp
    | cons b s =>
      rw [List.length_cons] at hn
      rw [utf8Within]
      cases hl : utf8Lead? b with
      | none =>
        have hi := ih s (by omega)
        dsimp only
        rw [hc, Option.getD_none, length_encode_replacement, List.length_cons]
        omega
      | some lead =>
        obtain ⟨length, bits, low, high⟩ := lead
        obtain ⟨c, rest, hr⟩ : ∃ c rest, utf8Rest (length - 1) bits low high s = (c, rest) :=
          ⟨_, _, rfl⟩
        simp only [hr, hc]
        cases c with
        | none =>
          obtain ⟨hr, hs⟩ := utf8Rest_none hr
          have hf := lead_le_four hl
          have hi := ih rest (by omega)
          rw [Option.getD_none, length_encode_replacement, List.length_cons]
          omega
        | some c =>
          have he := congrArg List.length (eq_encode_of_utf8Rest hl hr)
          have hp := Char.utf8Size_pos c
          simp only [List.length_cons, List.length_append, String.length_utf8EncodeChar,
            Option.getD_some] at he ⊢
          have hi := ih rest (by omega)
          omega

theorem length_le_ofUtf8Lossy (bytes : List UInt8) :
    bytes.length ≤ (utf8 (ofUtf8Lossy bytes)).length :=
  length_le_utf8Within bytes.length bytes (Nat.le_refl _)

/-- Bytes are written again as they were exactly if they have a text. -/
theorem utf8_ofUtf8Lossy_iff (bytes : List UInt8) :
    utf8 (ofUtf8Lossy bytes) = bytes ↔ (ofUtf8? bytes).isSome := by
  constructor
  · intro h
    rw [ofUtf8_eq_some_iff.mpr h.symm]
    rfl
  · intro h
    obtain ⟨s, hs⟩ := Option.isSome_iff_exists.mp h
    have hp : utf8Parts bytes = s.map some := mapM_id_eq_some.mp hs
    rw [ofUtf8Lossy, hp, List.map_map, ofUtf8_eq_some_iff.mp hs]
    simp [Function.comp_def]

end Text

/-! ### The path of a file -/

namespace Uri

def pathBytes (u : Uri) : List UInt8 := percentDecode (Text.utf8 u.path)

/-- Whether a path ends like a drive: with a letter and a colon or a bar, behind something else. -/
def endsInDrive (path : List UInt8) : Bool :=
  match path.reverse with
  | mark :: letter :: _ :: _ =>
    (Char.ofNat letter.toNat).isAlpha && (mark = 0x3A || mark = 0x7C)
  | _ => false

/-- A path with a slash behind it if it ends like a drive. -/
def closedPath (path : List UInt8) : List UInt8 :=
  if endsInDrive path then path ++ [0x2F] else path

/-- The text of the path of a URI, closed if it ends like a drive. What has no text stands as
replacement characters. -/
def shownPath (u : Uri) : List Char := Text.ofUtf8Lossy (closedPath u.pathBytes)

/-- Whether the path of a URI has a text and does not end like a drive. -/
def HasPlainPath (u : Uri) : Prop :=
  (Text.ofUtf8? u.pathBytes).isSome ∧ endsInDrive u.pathBytes = false

theorem percentDecode_cons {b : UInt8} (h : b ≠ 0x25) (s : List UInt8) :
    percentDecode (b :: s) = b :: percentDecode s := by
  rw [percentDecode.eq_def]
  simp [h]

/-- A percent sign without two digits behind it stands for itself. -/
theorem percentDecode_percent {x y : UInt8}
    (h : hexDigit? (Char.ofNat x.toNat) = none ∨ hexDigit? (Char.ofNat y.toNat) = none)
    (s : List UInt8) :
    percentDecode (0x25 :: x :: y :: s) = 0x25 :: percentDecode (x :: y :: s) := by
  rw [percentDecode, if_pos rfl]
  obtain hx | hy := h
  · rw [hx]
  · rw [hy]
    split
    · rename_i hn
      exact absurd hn nofun
    · rfl

/-- No percent encoding reaches over a slash. -/
theorem percentDecode_slash (s t : List UInt8) :
    percentDecode (s ++ 0x2F :: t) = percentDecode s ++ 0x2F :: percentDecode t := by
  have hs : percentDecode (0x2F :: t) = 0x2F :: percentDecode t :=
    percentDecode_cons (by decide) t
  have hd : hexDigit? (Char.ofNat (0x2F : UInt8).toNat) = none := by decide
  fun_induction percentDecode s with
  | case1 => exact hs
  | case2 x y after m n hy hx ih =>
    rw [List.cons_append, List.cons_append, List.cons_append, percentDecode, if_pos rfl, hx, hy, ih]
    rfl
  | case3 x y after hxy ih =>
    have hn : hexDigit? (Char.ofNat x.toNat) = none ∨ hexDigit? (Char.ofNat y.toNat) = none := by
      cases hx : hexDigit? (Char.ofNat x.toNat) with
      | none => exact .inl rfl
      | some m =>
        cases hy : hexDigit? (Char.ofNat y.toNat) with
        | none => exact .inr rfl
        | some n => exact absurd hy fun hy => hxy m n hx hy
    rw [List.cons_append, List.cons_append, List.cons_append, percentDecode_percent hn]
    exact congrArg _ ih
  | case4 after ha ih =>
    match after with
    | [] =>
      cases t with
      | nil => rfl
      | cons y t =>
        rw [List.cons_append, List.nil_append, percentDecode_percent (.inl hd), hs]
        rfl
    | [x] =>
      rw [List.cons_append, List.singleton_append, percentDecode_percent (.inr hd)]
      exact congrArg _ ih
    | x :: y :: after => exact absurd rfl (ha x y after)
  | case5 b rest hb ih => rw [List.cons_append, percentDecode_cons hb, ih, List.cons_append]

theorem splitAt_ne_nil (mark : Char) (s : List Char) : splitAt mark s ≠ [] := by
  fun_cases splitAt mark s <;> simp_all

/-- Parts that are joined with the mark are the text that they were cut from. -/
theorem joinWith_splitAt (mark : Char) (s : List Char) :
    Text.joinWith [mark] (splitAt mark s) = s := by
  induction s with
  | nil => rfl
  | cons c rest ih =>
    obtain ⟨part, parts, hs⟩ := List.exists_cons_of_ne_nil (splitAt_ne_nil mark rest)
    rw [hs] at ih
    by_cases hc : c = mark
    · rw [splitAt, if_pos hc, hs, Text.joinWith_cons, ih, hc]
      rfl
    · rw [splitAt, if_neg hc, hs, ← ih]
      cases parts with
      | nil => simp [Text.joinWith]
      | cons next parts => simp [Text.joinWith_cons]

theorem utf8_append (s t : List Char) : Text.utf8 (s ++ t) = Text.utf8 s ++ Text.utf8 t := by
  simp [Text.utf8]

theorem utf8_slash : Text.utf8 ['/'] = [0x2F] := by decide

/-- Segments that are decoded one by one are the path that is decoded whole. -/
theorem flatMap_segments {segments : List (List Char)} (h : segments ≠ []) :
    segments.flatMap (fun segment => 0x2F :: percentDecode (Text.utf8 segment)) =
      0x2F :: percentDecode (Text.utf8 (Text.joinWith ['/'] segments)) := by
  induction segments with
  | nil => exact absurd rfl h
  | cons segment segments ih =>
    cases segments with
    | nil => simp [Text.joinWith]
    | cons next segments =>
      rw [List.flatMap_cons, ih (by simp), Text.joinWith_cons, utf8_append, utf8_append, utf8_slash,
        List.append_assoc, List.singleton_append, percentDecode_slash, List.cons_append]

/-- A path on this machine is opened as it is decoded, and closed if it ends like a drive. -/
theorem filePath_eq {u : Uri} (hr : u.IsRooted) (hh : u.IsHere) :
    u.filePath? = some (closedPath u.pathBytes) := by
  obtain ⟨scheme, authority, path, query, fragment⟩ := u
  obtain ⟨rest, rfl⟩ : ∃ rest, path = '/' :: rest := List.head?_eq_some_iff.mp hr
  have hb : (splitAt '/' ('/' :: rest)).tail.flatMap
      (fun segment => 0x2F :: percentDecode (Text.utf8 segment)) =
        percentDecode (Text.utf8 ('/' :: rest)) := by
    have hu : Text.utf8 ('/' :: rest) = 0x2F :: Text.utf8 rest := utf8_append ['/'] rest
    rw [splitAt, if_pos rfl, List.tail_cons, flatMap_segments (splitAt_ne_nil '/' rest),
      joinWith_splitAt, hu, percentDecode_cons (by decide)]
  unfold filePath? pathBytes closedPath endsInDrive
  dsimp only
  rw [hb]
  generalize percentDecode (Text.utf8 ('/' :: rest)) = bytes
  cases authority with
  | none => rcases bytes.reverse with _ | ⟨mark, _ | ⟨letter, _ | ⟨first, more⟩⟩⟩ <;> rfl
  | some a =>
    have ha : (decide (a.host = localHost) || decide (a.host = .domain "localhost".toList)) =
        true := by
      rw [Bool.or_eq_true, decide_eq_true_iff, decide_eq_true_iff]
      exact hh a rfl
    rw [if_pos ha]
    rcases bytes.reverse with _ | ⟨mark, _ | ⟨letter, _ | ⟨first, more⟩⟩⟩ <;> rfl

/-- The path of a URI is shown byte for byte exactly if it is plain: a slash behind it makes the
text longer than the path. -/
theorem utf8_shownPath_iff (u : Uri) :
    Text.utf8 u.shownPath = u.pathBytes ↔ u.HasPlainPath := by
  unfold shownPath HasPlainPath closedPath
  cases hd : endsInDrive u.pathBytes with
  | false => simp [Text.utf8_ofUtf8Lossy_iff]
  | true =>
    refine iff_of_false (fun he => ?_) (by simp)
    have hl := Text.length_le_ofUtf8Lossy (u.pathBytes ++ [0x2F])
    rw [if_pos rfl] at he
    rw [he, List.length_append, List.length_singleton] at hl
    omega

end Uri

namespace Window

open Script

/-! ### Jumps -/

def jumpText (config : Config) (location : Location) : String :=
  Command.text (commandOf config (.navigateTo location))

/-- Whether the text of a command opens a path in a client: a script in quotes ends it, and in the
script the path stands in quotes, before the numbers of a line and a column. Both are read from
their quotes, whether or not a semicolon ends a command. -/
def OpensPath (client text : String) (path : List Char) (line column : Nat) : Prop :=
  ∃ script word, text = "evaluate-commands -try-client " ++ client ++ " -- " ++ word ∧
    ∀ semicolons, commands? semicolons word = some [[.quoted script]] ∧
      commands? semicolons script = some [[.bare "edit", .bare "-existing",
        .quoted (String.ofList path), .bare (toString line), .bare (toString column)]]

theorem commands_word (semicolons : Bool) (script : String) :
    commands? semicolons (quote script) = some [[.quoted script]] := by
  have hr : ∀ c ∈ [[Word.quoted script]], IsReadable c := by simp [IsReadable, Word.IsReadable]
  have ht : Script.text [[Word.quoted script]] = quote script := by
    simp [Script.text, Command.text, Word.text]
  rw [← ht, commands_text semicolons _ hr]

theorem text_tryClient (client : String) (commands : List Command) :
    Command.text (tryClient client commands) =
      "evaluate-commands -try-client " ++ client ++ " -- " ++ quote (Script.text commands) := by
  rw [← String.toList_inj]
  simp [Command.text, tryClient, Word.text]

/-- A word between quotes is determined by how it is written. -/
theorem quote_inj {s t : String} (h : quote s = quote t) : s = t := by
  have hs := commands_word false s
  rw [h, commands_word] at hs
  simpa using hs.symm

/-- The client and the script of a command that runs a script are read off it. -/
theorem text_tryClient_inj {client : String} {xs ys : List Command}
    (hx : ∀ c ∈ xs, IsReadable c) (hy : ∀ c ∈ ys, IsReadable c)
    (h : Command.text (tryClient client xs) = Command.text (tryClient client ys)) : xs = ys := by
  rw [text_tryClient, text_tryClient, String.append_right_inj] at h
  have hr := commands_text false xs hx
  rw [quote_inj h, commands_text false ys hy] at hr
  exact (Option.some.inj hr).symm

theorem isReadable_edit (path : String) (line column : Nat) :
    ∀ c ∈ [edit path line column], IsReadable c :=
  List.forall_mem_singleton.mpr (isSimple_edit path line column).1

theorem opensPath_edit (client : String) (path : List Char) (line column : Nat) :
    OpensPath client (Command.text (tryClient client [edit (String.ofList path) line column])) path
      line column := by
  refine ⟨_, _, text_tryClient client _, fun semicolons => ⟨commands_word semicolons _, ?_⟩⟩
  rw [commands_text semicolons _ (isReadable_edit _ _ _)]
  simp [edit, Nat.toString_eq_repr, Nat.repr_eq_ofList_toDigits]

theorem toDigits_inj {m n : Nat} (h : Nat.toDigits 10 m = Nat.toDigits 10 n) : m = n := by
  have hn (k : Nat) : Nat.ofDigitChars 10 (Nat.toDigits 10 k) 0 = k :=
    Nat.ofDigitChars_toDigits (by decide) (by decide)
  rw [← hn m, h, hn]

theorem edit_inj {path path' : String} {line line' column column' : Nat}
    (h : edit path line column = edit path' line' column') :
    path = path' ∧ line = line' ∧ column = column' := by
  simp only [edit, List.cons.injEq, Word.quoted.injEq, Word.bare.injEq, String.ofList_inj,
    true_and, and_true] at h
  exact ⟨h.1, toDigits_inj h.2.1, toDigits_inj h.2.2⟩

variable {config : Config} {a b : Location}

theorem commandOf_file (ha : a.uri.IsRooted ∧ a.uri.IsHere) :
    commandOf config (.navigateTo a) = tryClient config.jumpClient
      [edit (String.ofList a.uri.shownPath) (ordinal a.range.start.line)
        (ordinal a.range.start.character)] := by
  rw [commandOf, jump_eq, Uri.filePath_eq ha.1 ha.2]
  rfl

/-- Jumps are the same for the same text of the path and the same position, and for no others. -/
theorem jumpText_eq_iff (ha : a.uri.IsRooted ∧ a.uri.IsHere) (hb : b.uri.IsRooted ∧ b.uri.IsHere) :
    jumpText config a = jumpText config b ↔
      a.uri.shownPath = b.uri.shownPath ∧ a.range.start = b.range.start := by
  rw [jumpText, jumpText, commandOf_file ha, commandOf_file hb]
  constructor
  · intro h
    have he := text_tryClient_inj (isReadable_edit _ _ _) (isReadable_edit _ _ _) h
    obtain ⟨hp, hl, hc⟩ := edit_inj (List.singleton_inj.mp he)
    have hs : a.range.start = ⟨b.range.start.lineIndex, b.range.start.characterIndex⟩ := by
      rw [← ordinal_inj.mp hl, ← ordinal_inj.mp hc]
    exact ⟨String.ofList_inj.mp hp, hs⟩
  · rintro ⟨hp, hs⟩
    rw [hp, hs]

/-- Whether a jump adds one command, and that opens a path at the beginning of the range. Lines and
characters are counted from one. -/
def Jumps (window : Window) (location : Location) (path : List Char) : Prop :=
  ∃ command, (window.handle (.navigateTo location)).commands = window.commands ++ [command] ∧
    OpensPath window.config.jumpClient (Command.text command) path
      (ordinal location.range.start.line) (ordinal location.range.start.character)

/-- A jump to a file on this machine names the text of its path. That is the path byte for byte
exactly if the path has a text and does not end like a drive, and jumps to different such paths are
different. -/
theorem jump_names_path (window : Window) {s t : String} {a b : Location}
    (hs : Uri.parse s = .ok a.uri) (ht : Uri.parse t = .ok b.uri) (ha : a.uri.IsLocalFile)
    (hb : b.uri.IsLocalFile) :
    Jumps window a a.uri.shownPath ∧
      (Text.utf8 a.uri.shownPath = a.uri.pathBytes ↔ a.uri.HasPlainPath) ∧
      (jumpText window.config a = jumpText window.config b ↔
        a.uri.shownPath = b.uri.shownPath ∧ a.range.start = b.range.start) ∧
      (a.uri.HasPlainPath → b.uri.HasPlainPath → a.uri.pathBytes ≠ b.uri.pathBytes →
        jumpText window.config a ≠ jumpText window.config b) := by
  have hra : a.uri.IsRooted ∧ a.uri.IsHere := ⟨Uri.isRooted_of_parse hs ha.1, ha.2⟩
  have hrb : b.uri.IsRooted ∧ b.uri.IsHere := ⟨Uri.isRooted_of_parse ht hb.1, hb.2⟩
  have he : jumpText window.config a = jumpText window.config b ↔
      a.uri.shownPath = b.uri.shownPath ∧ a.range.start = b.range.start := jumpText_eq_iff hra hrb
  refine ⟨⟨_, commands_handle window _, ?_⟩, Uri.utf8_shownPath_iff a.uri, he, ?_⟩
  · rw [commandOf_file hra]
    exact opensPath_edit _ _ _ _
  · intro hpa hpb hne ht
    refine hne ?_
    rw [← (Uri.utf8_shownPath_iff a.uri).mpr hpa, ← (Uri.utf8_shownPath_iff b.uri).mpr hpb,
      (he.mp ht).1]

def fileAt (path : String) : Location :=
  ⟨⟨Uri.fileScheme, some ⟨[], .domain [], none⟩, path.toList, none, none⟩, ⟨⟨0, 0⟩, ⟨0, 0⟩⟩⟩

theorem isLocalFile_fileAt (path : String) : (fileAt path).uri.IsLocalFile :=
  ⟨rfl, fun _ ha => .inl (Option.some.inj ha ▸ rfl)⟩

/-- Quotes and characters past ASCII are named as they are. -/
theorem jump_names_quote :
    Uri.parse "file:///it's" = .ok (fileAt "/it's").uri ∧
      Uri.parse "file:///ü%20" = .ok (fileAt "/%C3%BC%20").uri ∧
      (fileAt "/it's").uri.IsLocalFile ∧ (fileAt "/%C3%BC%20").uri.IsLocalFile ∧
      Jumps ⟨.builtIn, []⟩ (fileAt "/it's") (fileAt "/it's").uri.shownPath ∧
      (Text.utf8 (fileAt "/it's").uri.shownPath = (fileAt "/it's").uri.pathBytes ↔
        (fileAt "/it's").uri.HasPlainPath) ∧
      (jumpText .builtIn (fileAt "/it's") = jumpText .builtIn (fileAt "/%C3%BC%20") ↔
        (fileAt "/it's").uri.shownPath = (fileAt "/%C3%BC%20").uri.shownPath ∧
          (fileAt "/it's").range.start = (fileAt "/%C3%BC%20").range.start) ∧
      ((fileAt "/it's").uri.HasPlainPath → (fileAt "/%C3%BC%20").uri.HasPlainPath →
        (fileAt "/it's").uri.pathBytes ≠ (fileAt "/%C3%BC%20").uri.pathBytes →
        jumpText .builtIn (fileAt "/it's") ≠ jumpText .builtIn (fileAt "/%C3%BC%20")) := by
  have hs : Uri.parse "file:///it's" = .ok (fileAt "/it's").uri := by rfl
  have ht : Uri.parse "file:///ü%20" = .ok (fileAt "/%C3%BC%20").uri := by rfl
  exact ⟨hs, ht, isLocalFile_fileAt _, isLocalFile_fileAt _,
    jump_names_path ⟨.builtIn, []⟩ hs ht (isLocalFile_fileAt _) (isLocalFile_fileAt _)⟩

/-- Paths without a text are named alike, and so are a path that ends like a drive and the path with
a slash behind it. -/
theorem jump_confuses_paths :
    (Uri.parse "file:///%FE" = .ok (fileAt "/%FE").uri ∧
        Uri.parse "file:///%FF" = .ok (fileAt "/%FF").uri ∧
        (fileAt "/%FE").uri.pathBytes ≠ (fileAt "/%FF").uri.pathBytes ∧
        jumpText .builtIn (fileAt "/%FE") = jumpText .builtIn (fileAt "/%FF")) ∧
      (Uri.parse "file:///a/b:" = .ok (fileAt "/a/b:").uri ∧
        Uri.parse "file:///a/b:/" = .ok (fileAt "/a/b:/").uri ∧
        (fileAt "/a/b:").uri.pathBytes ≠ (fileAt "/a/b:/").uri.pathBytes ∧
        jumpText .builtIn (fileAt "/a/b:") = jumpText .builtIn (fileAt "/a/b:/")) := by
  have hl (path : String) (h : path.toList.head? = some '/') :
      (fileAt path).uri.IsRooted ∧ (fileAt path).uri.IsHere := ⟨h, (isLocalFile_fileAt path).2⟩
  refine ⟨⟨rfl, rfl, by decide, ?_⟩, rfl, rfl, by decide, ?_⟩
  · rw [jumpText_eq_iff (hl _ rfl) (hl _ rfl)]
    decide +kernel
  · rw [jumpText_eq_iff (hl _ rfl) (hl _ rfl)]
    decide +kernel

end Window

end EditorBridge

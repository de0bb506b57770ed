import EditorBridge.Proofs.TextPositions

/-!
Jumps to locations. A URI whose path begins with a slash and whose host is this machine is opened as
a file, whatever its scheme is, and any other one is reported in the status line. So the scheme
decides for exactly those URIs that are no path on this machine unless they are files.
-/

namespace EditorBridge

namespace Uri

def fileScheme : List Char := "file".toList

/-- Whether a URI is on this machine: it has no host, an empty one, or the local one. -/
def IsHere (u : Uri) : Prop :=
  ∀ authority ∈ u.authority, authority.host = .domain [] ∨
    authority.host = .domain "localhost".toList

def IsRooted (u : Uri) : Prop := u.path.head? = some '/'

def IsLocalFile (u : Uri) : Prop := u.scheme = fileScheme ∧ u.IsHere

/-- The path of a file is found without a look at the scheme. -/
theorem isSome_filePath_iff (u : Uri) : u.filePath?.isSome ↔ u.IsRooted ∧ u.IsHere := by
  obtain ⟨scheme, authority, path, query, fragment⟩ := u
  have hh : ∀ a, (decide (a.host = localHost) || decide (a.host = .domain "localhost".toList)) =
      true ↔ (Uri.mk scheme (some a) path query fragment).IsHere := by
    intro a
    rw [Bool.or_eq_true, decide_eq_true_iff, decide_eq_true_iff]
    exact ⟨fun h _ ha => Option.mem_some_iff.mp ha ▸ h, fun h => h a rfl⟩
  unfold filePath? IsRooted
  dsimp only
  split
  · cases authority with
    | none =>
      refine iff_of_true ?_ ⟨rfl, nofun⟩
      dsimp only
      rw [if_pos rfl]
      split <;> rfl
    | some a =>
      dsimp only
      split
      · rename_i ha
        refine iff_of_true ?_ ⟨rfl, (hh a).mp ha⟩
        split <;> rfl
      · rename_i ha
        exact iff_of_false Bool.false_ne_true fun h => ha ((hh a).mpr h.2)
  · rename_i hp
    refine iff_of_false Bool.false_ne_true fun h => ?_
    obtain ⟨rest, hr⟩ := List.head?_eq_some_iff.mp h.1
    exact hp rest hr

/-! ### Schemes and paths of URIs that have been read -/

@[simp] theorem scheme_withQuery (u : Uri) (kind : SchemeKind) (s : List Char) :
    (withQuery u kind s).scheme = u.scheme := rfl

@[simp] theorem path_withQuery (u : Uri) (kind : SchemeKind) (s : List Char) :
    (withQuery u kind s).path = u.path := rfl

theorem isRooted_readFile {scheme s : List Char} {u : Uri} (h : readFile scheme s = .ok u) :
    u.IsRooted := by
  unfold readFile at h
  dsimp only at h
  repeat' split at h
  all_goals cases h
  all_goals rfl

theorem scheme_readHierarchical {kind : SchemeKind} {scheme s : List Char} {u : Uri}
    (h : readHierarchical kind scheme s = .ok u) : u.scheme = scheme := by
  unfold readHierarchical at h
  cases ha : readAuthority kind scheme s with
  | error e => simp [ha, bind, Except.bind] at h
  | ok found =>
    simp only [ha, bind, Except.bind, pure, Except.pure, Except.ok.injEq] at h
    rw [← h]
    rfl

theorem scheme_readOther {scheme s : List Char} {u : Uri} (h : readOther scheme s = .ok u) :
    u.scheme = scheme := by
  unfold readOther at h
  split at h
  · exact scheme_readHierarchical h
  · obtain rfl := Except.ok.inj h
    rfl
  · obtain rfl := Except.ok.inj h
    rfl

theorem schemeKind_eq_file_iff (scheme : List Char) :
    schemeKind scheme = .file ↔ scheme = fileScheme := by
  unfold schemeKind fileScheme
  repeat' split
  all_goals simp_all

/-- The path of a file's URI begins with a slash. -/
theorem isRooted_of_parse {text : String} {u : Uri} (h : parse text = .ok u)
    (hs : u.scheme = fileScheme) : u.IsRooted := by
  unfold parse at h
  dsimp only at h
  split at h
  · simp at h
  · rename_i scheme rest _
    have hn : ∀ kind, schemeKind scheme = kind → kind ≠ .file → scheme ≠ fileScheme :=
      fun kind hk hne hf => hne (hk ▸ (schemeKind_eq_file_iff scheme).mpr hf)
    split at h
    · exact isRooted_readFile h
    · rename_i hk
      exact absurd (scheme_readHierarchical h ▸ hs) (hn _ hk (by decide))
    · rename_i hk
      exact absurd (scheme_readOther h ▸ hs) (hn _ hk (by decide))

end Uri

namespace Window

/-- Whether a command opens a file at the beginning of a range, in the client for jumps. Lines and
characters are counted from one. -/
def OpensFile (config : Config) (start : TextPosition) (command : Script.Command) : Prop :=
  ∃ path, command = Script.tryClient config.jumpClient
    [Script.edit path (ordinal start.line) (ordinal start.character)]

/-- A jump adds one command: it opens a file if a condition holds, and only then, and otherwise
tells that the location cannot be opened. -/
def JumpsIf (condition : Prop) (window : Window) (location : Location) : Prop :=
  ∃ command, (window.handle (.navigateTo location)).commands = window.commands ++ [command] ∧
    (OpensFile window.config location.range.start command ↔ condition) ∧
    (¬condition → command = Script.echo ("Cannot open " ++ location.uri.text))

theorem not_opensFile_echo (config : Config) (start : TextPosition) (message : String) :
    ¬OpensFile config start (Script.echo message) := by
  simp [OpensFile, Script.echo, Script.tryClient]

/-- A jump goes by the path and the host. -/
theorem jumpsIf_path (window : Window) (location : Location) :
    JumpsIf (location.uri.IsRooted ∧ location.uri.IsHere) window location := by
  rw [JumpsIf, ← Uri.isSome_filePath_iff]
  refine ⟨_, commands_handle window _, ?_⟩
  cases hp : location.uri.filePath? with
  | none =>
    have hc : commandOf window.config (.navigateTo location) =
        Script.echo ("Cannot open " ++ location.uri.text) := by simp [commandOf, jump_eq, hp]
    simp [hc, not_opensFile_echo]
  | some path =>
    have ho : OpensFile window.config location.range.start
        (commandOf window.config (.navigateTo location)) :=
      ⟨String.ofList (Text.ofUtf8Lossy path), by simp [commandOf, jump_eq, hp]⟩
    simp [ho]

/-- What a jump goes by is determined. -/
theorem JumpsIf.unique {p q : Prop} {window : Window} {location : Location}
    (hp : JumpsIf p window location) (hq : JumpsIf q window location) : p ↔ q := by
  obtain ⟨command, hc, hp, -⟩ := hp
  obtain ⟨other, ho, hq, -⟩ := hq
  rw [hc, List.append_cancel_left_eq, List.singleton_inj] at ho
  rw [← hp, ho, hq]

/-- A jump opens a location if its path begins with a slash and its host is this machine, whatever
its scheme is. So jumps open files of this machine and nothing else just in case the URI, if it has
such a path and host, is that of a file. -/
theorem jumpsIf_localFile_iff (window : Window) (text : String) {location : Location}
    (h : Uri.parse text = .ok location.uri) :
    JumpsIf (location.uri.IsRooted ∧ location.uri.IsHere) window location ∧
      (JumpsIf location.uri.IsLocalFile window location ↔
        (location.uri.IsRooted → location.uri.IsHere →
          location.uri.scheme = Uri.fileScheme)) := by
  have hj := jumpsIf_path window location
  have hl : location.uri.IsLocalFile ↔ (location.uri.IsRooted ∧ location.uri.IsHere) ∧
      location.uri.scheme = Uri.fileScheme :=
    ⟨fun hl => ⟨⟨Uri.isRooted_of_parse h hl.1, hl.2⟩, hl.1⟩, fun hl => ⟨hl.2, hl.1.2⟩⟩
  refine ⟨hj, fun hf hr hh => ((hf.unique hj).mpr ⟨hr, hh⟩).1, fun hs => ?_⟩
  have he : location.uri.IsLocalFile = (location.uri.IsRooted ∧ location.uri.IsHere) :=
    propext (hl.trans ⟨fun hl => hl.1, fun hl => ⟨hl, hs hl.1 hl.2⟩⟩)
  rw [he]
  exact hj

/-- A location of a scheme without hosts, at its beginning. -/
def customLocation : Location :=
  ⟨⟨"foo".toList, none, "/a/b".toList, none, none⟩, ⟨⟨0, 0⟩, ⟨0, 0⟩⟩⟩

/-- A path of another scheme is opened as a file. -/
theorem jumpsIf_customLocation :
    Uri.parse "foo:/a/b" = .ok customLocation.uri ∧
      JumpsIf (customLocation.uri.IsRooted ∧ customLocation.uri.IsHere) ⟨.builtIn, []⟩
        customLocation ∧
      (JumpsIf customLocation.uri.IsLocalFile ⟨.builtIn, []⟩ customLocation ↔
        (customLocation.uri.IsRooted → customLocation.uri.IsHere →
          customLocation.uri.scheme = Uri.fileScheme)) :=
  ⟨rfl, jumpsIf_localFile_iff ⟨.builtIn, []⟩ "foo:/a/b" rfl⟩

/-- A page of a web server on this machine, at its beginning. -/
def webLocation : Location :=
  ⟨⟨"http".toList, some ⟨[], .domain "localhost".toList, none⟩, "/x".toList, none, none⟩,
    ⟨⟨0, 0⟩, ⟨0, 0⟩⟩⟩

/-- A page of a web server on this machine is opened as a file. -/
theorem opensFile_webLocation :
    (Uri.parse "http://localhost/x").toOption = some webLocation.uri ∧
      ¬JumpsIf webLocation.uri.IsLocalFile ⟨.builtIn, []⟩ webLocation := by
  refine ⟨by decide +kernel, fun hf => ?_⟩
  have hh : webLocation.uri.IsRooted ∧ webLocation.uri.IsHere := by
    refine ⟨rfl, fun authority ha => .inr ?_⟩
    exact (Option.some.inj ha) ▸ rfl
  have hl := (hf.unique (jumpsIf_path _ _)).mpr hh
  exact absurd hl.1 (by decide)

end Window

end EditorBridge

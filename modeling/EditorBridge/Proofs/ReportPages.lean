import EditorBridge.Proofs.FilePlaces
import EditorBridge.Proofs.SessionMessages
import EditorBridge.Proofs.SlugNames

/-!
What window calls do to the files. A report that is shown may change one file, right inside the
directory for pages, and make that directory and those above it. Whatever comes of it, the report is
shown and one status tells the outcome; if that is a failure, all files are as they were.
-/

namespace EditorBridge

/-! ### Pages and their places -/

def PageFile.fileName (page : PageFile) : String := Text.slug page.title ++ ".html"

theorem slash_not_mem_fileName (page : PageFile) : '/' ∉ page.fileName.toList := by
  rw [PageFile.fileName, String.toList_append, List.mem_append]
  rintro (h | h)
  · obtain h | h := Text.isSlugChar_slug page.title _ h
    · exact absurd h (by decide)
    · exact absurd h (by decide)
  · exact absurd h (by decide)

theorem getLast_fileName (page : PageFile) : page.fileName.toList.getLast? = some 'l' := by
  have h : ".html".toList.getLast? = some 'l' := by decide
  rw [PageFile.fileName, String.toList_append, List.getLast?_append, h, Option.some_or]

theorem fileName_ne (page : PageFile) {s : String} (h : s.toList.getLast? ≠ some 'l') :
    page.fileName ≠ s := by
  rintro rfl
  exact h (getLast_fileName page)

def PageFile.directoryPlace (page : PageFile) (tree : FileTree) : Place :=
  FileTree.along (tree.start page.directory) (pathSteps page.directory)

def PageFile.place (page : PageFile) (tree : FileTree) : Place :=
  page.directoryPlace tree ++ [page.fileName]

theorem pathSteps_path (page : PageFile) :
    pathSteps page.path = pathSteps page.directory ++ [page.fileName] :=
  pathSteps_joinPath _ (slash_not_mem_fileName page) (fileName_ne page (by decide))

theorem start_path (page : PageFile) (tree : FileTree) :
    tree.start page.path = tree.start page.directory :=
  tree.start_joinPath _ (slash_not_mem_fileName page)

theorem place_eq_along (page : PageFile) (tree : FileTree) :
    FileTree.along (tree.start page.path) (pathSteps page.path) = page.place tree := by
  rw [pathSteps_path, start_path, FileTree.along_append, PageFile.place, PageFile.directoryPlace]
  simp [FileTree.along, fileName_ne page (s := ".") (by decide),
    fileName_ne page (s := "..") (by decide)]

/-! ### Writing a page -/

namespace FileTree

/-- Whether a page can be written: its directory is there or can be made, and then its file can be
written. -/
def CanWrite (tree : FileTree) (page : PageFile) : Prop :=
  (tree.makeDirectories page.directory).2 = none ∧
    ∃ written, (tree.makeDirectories page.directory).1.write page.path page.content = .ok written

structure WritesPage (tree : FileTree) (page : PageFile) (after : FileTree) : Prop where
  workingDirectory : after.workingDirectory = tree.workingDirectory
  /-- The page is right inside its directory, and was no directory itself. -/
  written : tree.CanWrite page → after.at? (page.directoryPlace tree) = some .directory ∧
    tree.at? (page.place tree) ≠ some .directory ∧
    after.at? (page.place tree) = some (.file page.content)
  /-- Nothing else has changed, except for directories that have been made. -/
  others (place : Place) : place ≠ page.place tree ∨ ¬tree.CanWrite page →
    after.at? place = tree.at? place ∨ tree.IsOnPath page.directory place ∧
      tree.at? place = none ∧ after.at? place = some .directory

theorem writePage_ok {tree : FileTree} {page : PageFile} (h : tree.CanWrite page) :
    ∃ written, (tree.makeDirectories page.directory).1.write page.path page.content = .ok written ∧
      tree.writePage page = (written, none) := by
  obtain ⟨hn, written, hk⟩ := h
  refine ⟨written, hk, ?_⟩
  unfold writePage
  generalize tree.makeDirectories page.directory = found at hn hk
  obtain ⟨made, fault⟩ := found
  obtain rfl : fault = none := hn
  simp [hk]

/-- A page that cannot be written leaves the directories that have been made. -/
theorem writePage_failed {tree : FileTree} {page : PageFile} (h : ¬tree.CanWrite page) :
    (tree.writePage page).1 = (tree.makeDirectories page.directory).1 ∧
      (tree.writePage page).2 ≠ none := by
  unfold CanWrite at h
  unfold writePage
  generalize tree.makeDirectories page.directory = found at h ⊢
  obtain ⟨made, fault⟩ := found
  cases fault with
  | some e => simp
  | none =>
    cases hk : made.write page.path page.content with
    | error e => simp [hk]
    | ok written => exact absurd ⟨rfl, written, hk⟩ h

theorem writePage_fault (tree : FileTree) (page : PageFile) :
    (tree.writePage page).2 = none ↔ tree.CanWrite page := by
  by_cases hc : tree.CanWrite page
  · obtain ⟨written, -, he⟩ := writePage_ok hc
    simp [he, hc]
  · simp [hc, (writePage_failed hc).2]

theorem start_congr {tree made : FileTree} (h : made.workingDirectory = tree.workingDirectory)
    (path : String) : made.start path = tree.start path := by
  rw [start, start, h]

theorem place_ne_nil (tree : FileTree) (page : PageFile) : page.place tree ≠ [] := by
  simp [PageFile.place]

theorem directoryPlace_ne (tree : FileTree) (page : PageFile) :
    page.directoryPlace tree ≠ page.place tree := by
  simp [PageFile.place]

/-- A page that is written after directories on its path have been made. -/
theorem writesPage_write {tree made written : FileTree} {page : PageFile}
    (h : OnlyMakes (tree.IsOnPath page.directory) tree made) (hc : tree.CanWrite page)
    (hk : made.write page.path page.content = .ok written) : tree.WritesPage page written := by
  obtain ⟨hw, hm⟩ := h
  obtain ⟨hd, hf, rfl⟩ := write_ok hk
  have hp := hd (pathSteps page.directory) page.fileName (pathSteps_path page)
  rw [start_congr hw, start_path] at hp
  rw [start_congr hw, place_eq_along] at hf ⊢
  refine ⟨hw, fun _ => ⟨?_, ?_, at?_put_same _ _ (tree.place_ne_nil page)⟩, fun place hne => ?_⟩
  · rw [at?_put_other _ _ (tree.directoryPlace_ne page)]
    exact hp
  · obtain hs | ⟨-, hs, -⟩ := hm (page.place tree)
    · rw [← hs]
      exact hf
    · simp [hs]
  · obtain hne | hn := hne
    · rw [at?_put_other _ _ hne]
      exact hm place
    · exact absurd hc hn

/-- A page is written to its place, or no file changes. -/
theorem writePage_writes (tree : FileTree) (page : PageFile) :
    tree.WritesPage page (tree.writePage page).1 := by
  have hm := tree.makeDirectories_makes page.directory
  by_cases hc : tree.CanWrite page
  · obtain ⟨written, hk, he⟩ := writePage_ok hc
    rw [he]
    exact writesPage_write hm hc hk
  · rw [(writePage_failed hc).1]
    exact ⟨hm.workingDirectory, fun h => absurd h hc, fun place _ => hm.entry place⟩

/-- Where a page cannot be written, the files are those that were there. -/
theorem WritesPage.files {tree after : FileTree} {page : PageFile} (h : tree.WritesPage page after)
    (hc : ¬tree.CanWrite page) (place : Place) (content : String) :
    after.at? place = some (.file content) ↔ tree.at? place = some (.file content) := by
  obtain he | ⟨-, hn, hd⟩ := h.others place (.inr hc)
  · rw [he]
  · simp [hn, hd]

/-- Whether a tree differs from another one at most in pages of some kind, and in directories on the
path of their directory where nothing was. -/
structure OnlyWrites (pages : PageFile → Prop) (directory : String) (tree after : FileTree) :
    Prop where
  workingDirectory : after.workingDirectory = tree.workingDirectory
  entry (place : Place) : after.at? place = tree.at? place ∨
    (∃ page, pages page ∧ page.directory = directory ∧ place = page.place tree ∧
      tree.at? place ≠ some .directory ∧ after.at? place = some (.file page.content)) ∨
    tree.IsOnPath directory place ∧ tree.at? place = none ∧ after.at? place = some .directory

section

variable {pages more : PageFile → Prop} {directory : String} {tree made later : FileTree}

theorem place_congr (h : made.workingDirectory = tree.workingDirectory) (page : PageFile) :
    page.place made = page.place tree := by
  rw [PageFile.place, PageFile.directoryPlace, start_congr h, PageFile.place,
    PageFile.directoryPlace]

theorem isOnPath_congr (h : made.workingDirectory = tree.workingDirectory) {place : Place} :
    made.IsOnPath directory place ↔ tree.IsOnPath directory place := by
  rw [IsOnPath, IsOnPath, start_congr h]

theorem OnlyWrites.refl (tree : FileTree) : OnlyWrites pages directory tree tree :=
  ⟨rfl, fun _ => .inl rfl⟩

theorem OnlyWrites.mono (h : OnlyWrites pages directory tree made)
    (hm : ∀ page, pages page → more page) : OnlyWrites more directory tree made := by
  refine ⟨h.workingDirectory, fun place => ?_⟩
  obtain he | ⟨page, hp, hw⟩ | hd := h.entry place
  · exact .inl he
  · exact .inr (.inl ⟨page, hm page hp, hw⟩)
  · exact .inr (.inr hd)

theorem OnlyWrites.trans (h : OnlyWrites pages directory tree made)
    (h' : OnlyWrites pages directory made later) : OnlyWrites pages directory tree later := by
  refine ⟨h'.workingDirectory.trans h.workingDirectory, fun place => ?_⟩
  obtain he' | ⟨page, hp, hd, hw, hn, hf⟩ | ⟨ho, hn, hd⟩ := h'.entry place
  · rw [he']
    exact h.entry place
  · rw [place_congr h.workingDirectory] at hw
    refine .inr (.inl ⟨page, hp, hd, hw, ?_, hf⟩)
    obtain he | ⟨_, _, _, _, ht, _⟩ | ⟨-, ht, -⟩ := h.entry place
    · rwa [← he]
    · exact ht
    · simp [ht]
  · rw [isOnPath_congr h.workingDirectory] at ho
    refine .inr (.inr ⟨ho, ?_, hd⟩)
    obtain he | ⟨_, _, _, _, _, ht⟩ | ⟨-, -, ht⟩ := h.entry place
    · rwa [← he]
    · simp [hn] at ht
    · simp [hn] at ht

/-- A page that is written is the only file that may change. -/
theorem WritesPage.onlyWrites {page : PageFile} (h : tree.WritesPage page made) (hp : pages page) :
    OnlyWrites pages page.directory tree made := by
  refine ⟨h.workingDirectory, fun place => ?_⟩
  by_cases hc : place = page.place tree ∧ tree.CanWrite page
  · obtain ⟨rfl, hc⟩ := hc
    obtain ⟨-, hn, hf⟩ := h.written hc
    exact .inr (.inl ⟨page, hp, rfl, rfl, hn, hf⟩)
  · obtain he | hd := h.others place (Classical.not_and_iff_not_or_not.mp hc)
    · exact .inl he
    · exact .inr (.inr hd)

end

end FileTree

/-! ### The status of a page -/

theorem getLast_path (page : PageFile) : page.path.toList.getLast? = some 'l' := by
  have h := getLast_fileName page
  have hp : page.path = joinPath page.directory page.fileName := rfl
  rw [hp, joinPath]
  split <;> simp only [String.toList_append, List.getLast?_append, h, Option.some_or]

theorem exists_getLast_message (e : FileError) :
    ∃ c, e.message.toList.getLast? = some c ∧ c ≠ 'l' := by
  cases e with
  | endInside => exact ⟨'e', rfl, by decide⟩
  | notText => exact ⟨'8', rfl, by decide⟩
  | _ => exact ⟨')', rfl, by decide⟩

/-- A page that has been written is told apart from any that could not be. -/
theorem written_ne_failed (page : PageFile) (e : FileError) :
    page.title ++ " written to " ++ page.path ≠
      "Failed to write " ++ page.path ++ ": " ++ e.message := by
  intro h
  obtain ⟨c, hc, hn⟩ := exists_getLast_message e
  have hl := congrArg (fun text : String => text.toList.getLast?) h
  simp only [String.toList_append, List.getLast?_append, getLast_path, hc, Option.some_or,
    Option.some.injEq] at hl
  exact hn hl.symm

namespace Session

/-! ### Calls among files -/

structure ShowsPage (now : Session) (page : PageFile) (shown : Script.Command) (next : Session) :
    Prop where
  /-- The report is shown and one status follows, which tells whether the page has been written. -/
  commands : ∃ status,
    next.window.commands = now.window.commands ++ [shown, Script.echo status] ∧
    (status = page.title ++ " written to " ++ page.path ↔ now.files.CanWrite page) ∧
    ((∃ e : FileError, status = "Failed to write " ++ page.path ++ ": " ++ e.message) ↔
      ¬now.files.CanWrite page)
  writes : now.files.WritesPage page next.files
  /-- A page that cannot be written leaves all files as they were. -/
  kept : ¬now.files.CanWrite page → ∀ place content,
    next.files.at? place = some (.file content) ↔ now.files.at? place = some (.file content)

theorem handle_showReport (session : Session) {directory : String} (title markdown : String)
    (style : Html.Style) (h : session.window.config.htmlDir = some directory) :
    session.ShowsPage ⟨title, directory, Html.page title markdown style⟩
      (Window.report session.window.config title markdown)
      (session.handle (.showReport title markdown style)).1 := by
  generalize hp : (⟨title, directory, Html.page title markdown style⟩ : PageFile) = page
  have hs : Window.page? session.window.config (.showReport title markdown style) = some page := by
    simp [Window.page?, h, hp]
  have hw := session.files.writePage_writes page
  have hf := session.files.writePage_fault page
  have hn : (session.handle (.showReport title markdown style)).1.files =
      (session.files.writePage page).1 := by simp [handle, hs]
  rw [← hn] at hw
  refine ⟨⟨Window.statusOf page ((session.files.writePage page).2.map FileError.message), ?_, ?_⟩,
    hw, hw.files⟩
  · simp [handle, hs, Window.commandOf]
  · cases he : (session.files.writePage page).2 with
    | none =>
      rw [he] at hf
      have hc := hf.mp rfl
      refine ⟨iff_of_true rfl hc, iff_of_false ?_ (not_not_intro hc)⟩
      rintro ⟨e, hm⟩
      exact written_ne_failed page e hm
    | some e =>
      have hc : ¬session.files.CanWrite page := by simp [← hf, he]
      exact ⟨iff_of_false (written_ne_failed page e).symm hc, iff_of_true ⟨e, rfl⟩ hc⟩

/-- A call that has no page changes no file. -/
theorem handle_other (session : Session) {call : WindowCall}
    (h : Window.page? session.window.config call = none) :
    (session.handle call).1.files = session.files ∧
      (session.handle call).1.window.commands =
        session.window.commands ++ [Window.commandOf session.window.config call] := by
  simp [handle, h]

def IsPageOf (directory : String) (calls : List WindowCall) (page : PageFile) : Prop :=
  ∃ title markdown style, .showReport title markdown style ∈ calls ∧
    page = ⟨title, directory, Html.page title markdown style⟩

theorem handle_onlyWrites (session : Session) {directory : String} (call : WindowCall)
    (h : session.window.config.htmlDir = some directory) :
    session.files.OnlyWrites (IsPageOf directory [call]) directory
      (session.handle call).1.files := by
  cases hp : Window.page? session.window.config call with
  | none =>
    rw [(handle_other session hp).1]
    exact .refl _
  | some page =>
    obtain ⟨title, markdown, style, place, rfl, hd, rfl⟩ := page_eq_some hp
    obtain rfl : place = directory := Option.some.inj (hd.symm.trans h)
    exact (handle_showReport session title markdown style h).writes.onlyWrites
      ⟨title, markdown, style, List.mem_singleton_self _, rfl⟩

theorem IsPageOf.mono {directory : String} {calls more : List WindowCall} {page : PageFile}
    (h : IsPageOf directory calls page) (hm : ∀ call ∈ calls, call ∈ more) :
    IsPageOf directory more page := by
  obtain ⟨title, markdown, style, hc, hp⟩ := h
  exact ⟨title, markdown, style, hm _ hc, hp⟩

theorem handleAll_onlyWrites (session : Session) {directory : String} (calls : List WindowCall)
    (h : session.window.config.htmlDir = some directory) :
    session.files.OnlyWrites (IsPageOf directory calls) directory
      (handleAll calls session).1.files := by
  induction calls generalizing session with
  | nil => exact .refl _
  | cons call calls ih =>
    have hf := handle_onlyWrites session call h
    have hr := ih (session.handle call).1 (by rwa [config_handle])
    exact (hf.mono fun _ hp => hp.mono (by simp)).trans (hr.mono fun _ hp => hp.mono (by simp +contextual))

theorem files_handleAll (session : Session) (calls : List WindowCall)
    (h : session.window.config.htmlDir = none) :
    (handleAll calls session).1.files = session.files := by
  induction calls generalizing session with
  | nil => rfl
  | cons call calls ih =>
    have hp : Window.page? session.window.config call = none := by
      cases call <;> simp [Window.page?, h]
    rw [handleAll_cons, ih _ (by rwa [config_handle]), (handle_other session hp).1]

/-- Calls change no file if there is no directory for pages; otherwise they change at most the pages
of the reports that they show, each right inside that directory, and make directories on its path.
At its place in a run, every report is shown, and one status tells whether its page has been written;
any other call leaves the files alone. -/
theorem handleAll_pages (session : Session) (calls : List WindowCall) :
    let config := session.window.config
    (config.htmlDir = none → (handleAll calls session).1.files = session.files) ∧
    (∀ directory, config.htmlDir = some directory →
      session.files.OnlyWrites (IsPageOf directory calls) directory
        (handleAll calls session).1.files) ∧
    ∀ before call rest, calls = before ++ call :: rest →
      let now := (handleAll before session).1
      let next := (now.handle call).1
      (∀ title markdown style directory, call = .showReport title markdown style →
        config.htmlDir = some directory →
        now.ShowsPage ⟨title, directory, Html.page title markdown style⟩
          (Window.report config title markdown) next) ∧
      ((config.htmlDir = none ∨ ∀ title markdown style, call ≠ .showReport title markdown style) →
        next.files = now.files ∧
          next.window.commands = now.window.commands ++ [Window.commandOf config call]) := by
  intro config
  refine ⟨files_handleAll session calls, fun _ => handleAll_onlyWrites session calls, ?_⟩
  rintro before call rest - now next
  have hc : now.window.config = config := config_handleAll before session
  refine ⟨?_, fun ho => ?_⟩
  · rintro title markdown style directory rfl hd
    simpa only [hc] using handle_showReport now title markdown style (hc.symm ▸ hd)
  · have hp : Window.page? now.window.config call = none := by
      rw [hc]
      obtain hn | hs := ho
      · cases call <;> simp [Window.page?, hn]
      · cases call with
        | showReport title markdown style => exact absurd rfl (hs title markdown style)
        | _ => rfl
    simpa only [hc] using handle_other now hp

end Session

end EditorBridge

import EditorBridge.Proofs.ScriptReader
import EditorBridge.Proofs.TextPositions
import EditorBridge.Session

/-!
What the script of a window runs: the steps that the calls ask for, in the order of the calls, and
nothing else, whatever stands in the texts of the calls and in the name of the client.
-/

namespace EditorBridge

open Script

namespace Window

def messageStep (message : String) : Step := .run [.bare "echo", .bare "--", .quoted message]

def clientStep (client : String) (commands : List Command) : Step :=
  .evaluate [.bare "evaluate-commands", .bare "-try-client", .bare client, .bare "--"]
    (commands.map .run)

/-- Shows a text in a new buffer that is named for a title. -/
def bufferCommands (title content : String) (filetype : Option String) : List Command :=
  [[.bare "edit!", .bare "-scratch", .quoted ("*" ++ title ++ "*")],
    [.bare "set-register", .bare "dquote", .quoted content],
    [.bare "execute-keys", .quoted "%R"]] ++
  filetype.toList.map (fun filetype =>
    [.bare "set-option", .bare "buffer", .bare "filetype", .quoted filetype]) ++
  [[.bare "execute-keys", .bare "gg"]]

def stepOf (config : Config) : WindowCall → Step
  | .reportStatus message => messageStep message
  | .navigateTo location =>
    match location.uri.filePath? with
    | some path =>
      let start := location.range.start
      clientStep config.jumpClient
        [[.bare "edit", .bare "-existing", .quoted (String.ofList (Text.ofUtf8Lossy path)),
          .bare (toString (ordinal start.line)), .bare (toString (ordinal start.character))]]
    | none => messageStep ("Cannot open " ++ location.uri.text)
  | .showText title content =>
    clientStep config.toolsClient (bufferCommands title (Html.plainText content) none)
  | .showReport title markdown _ =>
    clientStep config.toolsClient <|
      match config.display with
      | .buffer => bufferCommands title markdown (some config.filetype)
      | .info =>
        [[.bare "info", .bare "-markup", .bare "-style", .bare "modal", .bare "-title",
          .quoted title, .bare "--", .quoted (Markup.ofMarkdown markdown)]]

theorem isPlain_digits (n : Nat) : IsPlain (String.ofList (Nat.toDigits 10 n)) := by
  constructor
  · intro h
    simpa using congrArg String.toList h
  · intro c hc
    rw [String.toList_ofList] at hc
    have hd : c.isDigit = true := Nat.isDigit_of_mem_toDigits (by decide) (by decide) hc
    obtain ⟨hl, hu⟩ : 48 ≤ c.toNat ∧ c.toNat ≤ 57 := by
      simpa [Char.isDigit, UInt32.le_iff_toNat_le] using hd
    refine ⟨?_, by rintro rfl; simp at hu, by rintro rfl; simp at hl⟩
    simp only [Text.isBlank, Bool.or_eq_false_iff, Bool.and_eq_false_iff, decide_eq_false_iff_not]
    omega

theorem isSimple_echo (message : String) : IsSimple (echo message) := by
  have h : IsPlain "echo" ∧ IsPlain "--" := by decide
  simp [IsSimple, IsReadable, echo, Word.IsReadable, h]

theorem isSimple_edit (path : String) (line column : Nat) : IsSimple (edit path line column) := by
  have h : IsPlain "edit" ∧ IsPlain "-existing" := by decide
  simp [IsSimple, IsReadable, edit, Word.IsReadable, h, isPlain_digits]

theorem isSimple_info (title markup : String) : IsSimple (info title markup) := by
  have h : IsPlain "info" ∧ IsPlain "-markup" ∧ IsPlain "-style" ∧ IsPlain "modal" ∧
    IsPlain "-title" ∧ IsPlain "--" := by decide
  simp [IsSimple, IsReadable, info, Word.IsReadable, h]

theorem scratch_eq (title content : String) (filetype : Option String) :
    scratch title content filetype = bufferCommands title content filetype := by
  cases filetype <;> rfl

theorem isSimple_scratch (title content : String) (filetype : Option String) :
    ∀ c ∈ scratch title content filetype, IsSimple c := by
  have h : IsPlain "edit!" ∧ IsPlain "-scratch" ∧ IsPlain "set-register" ∧ IsPlain "dquote" ∧
    IsPlain "execute-keys" ∧ IsPlain "set-option" ∧ IsPlain "buffer" ∧ IsPlain "filetype" ∧
    IsPlain "gg" := by decide
  cases filetype <;> simp [scratch, IsSimple, IsReadable, Word.IsReadable, h]

variable {config : Config}

theorem runs_echo (semicolons : Bool) (message : String) :
    Runs semicolons [echo message] [messageStep message] := by
  have h : ∀ c ∈ [echo message], IsSimple c := by simp [isSimple_echo]
  exact runs_simple semicolons h

/-- The command of a call runs what the call asks for. -/
theorem runs_commandOf (semicolons : Bool) (hj : IsPlain config.jumpClient)
    (ht : IsPlain config.toolsClient) (call : WindowCall) :
    Runs semicolons [commandOf config call] [stepOf config call] := by
  cases call with
  | reportStatus message => exact runs_echo semicolons message
  | navigateTo location =>
    cases hp : location.uri.filePath? with
    | none =>
      simp only [commandOf, jump_eq, stepOf, hp, Option.map_none, Option.getD_none]
      exact runs_echo semicolons _
    | some path =>
      have hs (name : String) (line column : Nat) :
          ∀ c ∈ [edit name line column], IsSimple c := by simp [isSimple_edit]
      simp only [commandOf, jump_eq, stepOf, hp, Option.map_some, Option.getD_some]
      simpa [clientStep, edit, Nat.toString_eq_repr, Nat.repr_eq_ofList_toDigits] using
        runs_tryClient semicolons hj (hs _ _ _)
  | showText title content =>
    simp only [commandOf, stepOf, ← scratch_eq]
    exact runs_tryClient semicolons ht (isSimple_scratch _ _ _)
  | showReport title markdown style =>
    simp only [commandOf, report, stepOf]
    cases config.display with
    | buffer =>
      simp only [← scratch_eq]
      exact runs_tryClient semicolons ht (isSimple_scratch _ _ _)
    | info =>
      have hs (text : String) : ∀ c ∈ [info title text], IsSimple c := by simp [isSimple_info]
      exact runs_tryClient semicolons ht (hs _)

end Window

namespace Session

/-- What calls ask the editor to do, in their order. A page of a call is written among the files
that the pages before it have left, and its outcome is told behind the step of the call. -/
def stepsOf (config : Config) : FileTree → List WindowCall → List Step
  | _, [] => []
  | files, call :: calls =>
    match Window.page? config call with
    | none => Window.stepOf config call :: stepsOf config files calls
    | some page =>
      let (files, fault) := files.writePage page
      Window.stepOf config call ::
        Window.messageStep (Window.statusOf page (fault.map FileError.message)) ::
          stepsOf config files calls

variable {semicolons : Bool} {session : Session} {steps : List Step}

/-- One call adds its steps. -/
theorem runs_handle (hj : IsPlain session.window.config.jumpClient)
    (ht : IsPlain session.window.config.toolsClient) (call : WindowCall)
    (h : Runs semicolons session.window.commands steps) :
    Runs semicolons (session.handle call).1.window.commands
      (steps ++ stepsOf session.window.config session.files [call]) := by
  have hr := h.append (Window.runs_commandOf semicolons hj ht call)
  cases hp : Window.page? session.window.config call with
  | none => simpa [handle, stepsOf, hp] using hr
  | some page =>
    have he := hr.append (Window.runs_echo semicolons
      (Window.statusOf page ((session.files.writePage page).2.map FileError.message)))
    simpa [handle, stepsOf, hp] using he

/-- The steps of the first call come before those of the others. -/
theorem stepsOf_cons (session : Session) (call : WindowCall) (calls : List WindowCall) :
    stepsOf session.window.config session.files (call :: calls) =
      stepsOf session.window.config session.files [call] ++
        stepsOf session.window.config (session.handle call).1.files calls := by
  cases hp : Window.page? session.window.config call <;> simp [stepsOf, handle, hp]

theorem config_handle (session : Session) (call : WindowCall) :
    (session.handle call).1.window.config = session.window.config := by
  cases hp : Window.page? session.window.config call <;> simp [handle, hp]

/-- Any number of calls add their steps in order. -/
theorem runs_handleAll (hj : IsPlain session.window.config.jumpClient)
    (ht : IsPlain session.window.config.toolsClient) (calls : List WindowCall)
    (h : Runs semicolons session.window.commands steps) :
    Runs semicolons (handleAll calls session).1.window.commands
      (steps ++ stepsOf session.window.config session.files calls) := by
  induction calls generalizing session steps with
  | nil => simpa [stepsOf] using h
  | cons call calls ih =>
    have hc := config_handle session call
    have hs := ih (by rw [hc]; exact hj) (by rw [hc]; exact ht) (runs_handle hj ht call h)
    rw [hc, List.append_assoc, ← stepsOf_cons] at hs
    simpa using hs

theorem stepsOf_eq_nil {config : Config} {files : FileTree} {calls : List WindowCall} :
    stepsOf config files calls = [] ↔ calls = [] := by
  cases calls with
  | nil => simp [stepsOf]
  | cons call calls => cases hp : Window.page? config call <;> simp [stepsOf, hp]

/-- The script of any calls, wrapped for any client, is read as the steps that the calls ask for,
and there is no script without calls. No text in a call or in the name of the client becomes a
command or a word of its own, whether or not a semicolon ends a command and however deep scripts
inside the script are read. -/
theorem script_runs_calls (config : Config) (hj : IsPlain config.jumpClient)
    (ht : IsPlain config.toolsClient) (files : FileTree) (calls : List WindowCall)
    (client : Option String) (semicolons : Bool) (depth : Nat) :
    ((handleAll calls ⟨⟨config, []⟩, files⟩).1.window.script?).map
        (fun script => steps? semicolons (depth + 2) (forClient client script)) =
      if calls = [] then none else some (some (stepsFor client (stepsOf config files calls))) := by
  have hr := @runs_handleAll semicolons ⟨⟨config, []⟩, files⟩ [] hj ht calls (Runs.nil semicolons)
  rw [List.nil_append] at hr
  have he := hr.eq_nil_iff.trans stepsOf_eq_nil
  by_cases hn : calls = []
  · simp [Window.script?, hn]
  · have hc := mt he.mp hn
    simp [Window.script?, hc, hn, steps_forClient hr]

/-- Quotes, line feeds, semicolons and percent signs in texts stay in the words they stand in. -/
theorem script_runs_hostile_calls :
    IsPlain Config.builtIn.jumpClient ∧ IsPlain Config.builtIn.toolsClient ∧
    ((handleAll
        [.reportStatus "it's\n; %sh[x] \x27quit", .showReport "a\x27;b" "# T\x27\n" ⟨"", ""⟩]
        ⟨⟨.builtIn, []⟩, ⟨[], []⟩⟩).1.window.script?).map
        (fun script => steps? true 2 (forClient (some "o\x27k") script)) =
      some (some [.evaluate
        [.bare "evaluate-commands", .bare "-client", .quoted "o\x27k", .bare "--"]
        [.run [.bare "echo", .bare "--", .quoted "it's\n; %sh[x] \x27quit"],
          .evaluate
            [.bare "evaluate-commands", .bare "-try-client", .bare "%opt\x7btoolsclient\x7d",
              .bare "--"]
            [.run [.bare "edit!", .bare "-scratch", .quoted "*a\x27;b*"],
              .run [.bare "set-register", .bare "dquote", .quoted "# T\x27\n"],
              .run [.bare "execute-keys", .quoted "%R"],
              .run [.bare "set-option", .bare "buffer", .bare "filetype", .quoted "markdown"],
              .run [.bare "execute-keys", .bare "gg"]]]]) := by
  have hj : IsPlain Config.builtIn.jumpClient := by decide
  have ht : IsPlain Config.builtIn.toolsClient := by decide
  exact ⟨hj, ht, script_runs_calls _ hj ht _ _ _ true 0⟩

end Session

end EditorBridge

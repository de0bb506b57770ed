import EditorBridge.Proofs.CommandOutcome
import EditorBridge.Proofs.WindowScript
import Mathlib.Tactic.Tauto

/-!
What messages add to a window. Messages handled one after the other add their commands one behind
the other, and each adds what it would add to an empty window among the same files: nothing if it is
rejected or ignored, two commands for a report that is also written as a page, and otherwise one.
-/

namespace EditorBridge

open Json (Value)

namespace ClientCommand

def Refuses : ClientCommand → Value → Prop
  | gotoLocation, argument => ∃ cause, Location.ofValue argument = .error cause
  | showStacktrace, argument => ∀ html, argument ≠ .string html
  | doctorRun, argument => ∀ json, argument ≠ .string json
  | doctorReload, argument => ∀ json, argument ≠ .string json
  | unknown _, _ => False

/-- Whether parameters are ignored for their shape: they are no object, or name a known command
whose first argument is missing or of no use to it. -/
def Misshapen (params : Value) : Prop :=
  (∀ members, params ≠ .object members) ∨
    ∃ command name, name? command = some name ∧ command? params = some (.string name) ∧
      ∀ argument, firstArgument? params = some argument → command.Refuses argument

/-- Whether parameters ask for a health report, which can be read and has a text. -/
def Reports (params : Value) (markdown : String) : Prop :=
  (command? params = some (.string "metals-doctor-run") ∨
    command? params = some (.string "metals-doctor-reload")) ∧
  ∃ json, firstArgument? params = some (.string json) ∧ Doctor.render json = .ok markdown

theorem ofName_of_name {command : ClientCommand} {name : String} (h : command.name? = some name) :
    ofName name = command := by
  cases command <;> simp [name?] at h <;> subst h <;> decide

/-- An argument is refused exactly where nothing is called and no report is found unreadable. -/
theorem refuses_iff {command : ClientCommand} (hn : command.name? ≠ none) (argument : Value)
    (arguments : List Value) :
    command.Refuses argument ↔ (command.run (argument :: arguments)).calls = [] ∧
      (command.run (argument :: arguments)).failure = none := by
  cases command with
  | unknown name => exact absurd rfl hn
  | gotoLocation =>
    simp only [Refuses, run, gotoLocationIn]
    cases Location.ofValue argument <;> simp [Response.call, Response.warn]
  | showStacktrace =>
    cases argument <;> simp [Refuses, run, showStacktraceIn, Response.call, Response.warn]
  | _ =>
    cases argument with
    | string json =>
      simp only [Refuses, run, showDoctorIn]
      cases Doctor.render json <;> simp [Response.call, Response.after]
    | _ => simp [Refuses, run, showDoctorIn, Response.warn]

theorem run_nil {command : ClientCommand} (hn : command.name? ≠ none) :
    command.run [] = .nothing := by
  cases command with
  | unknown name => exact absurd rfl hn
  | _ => rfl

/-- The response to an object is that of its command, up to a record of the step. -/
theorem calls_execute_object (members : List (String × Value)) :
    (execute (.object members)).calls =
        ((ofName (nameIn members)).run (argumentsIn members)).calls ∧
      (execute (.object members)).failure =
        ((ofName (nameIn members)).run (argumentsIn members)).failure := ⟨rfl, rfl⟩

/-- Parameters are ignored for their shape exactly where nothing is called and no report is found
unreadable. -/
theorem misshapen_iff (params : Value) :
    Misshapen params ↔ (execute params).calls = [] ∧ (execute params).failure = none := by
  by_cases ho : ∃ members, params = .object members
  · obtain ⟨members, rfl⟩ := ho
    obtain ⟨hc, hf⟩ := calls_execute_object members
    have ha := head_argumentsIn members
    rw [hc, hf]
    constructor
    · rintro (h | ⟨command, name, hn, hm, hr⟩)
      · exact absurd rfl (h members)
      · have hk : command.name? ≠ none := by simp [hn]
        rw [nameIn_of_command hm, ofName_of_name hn]
        cases hl : argumentsIn members with
        | nil => simp [run_nil hk, Response.nothing]
        | cons argument arguments =>
          rw [hl] at ha
          exact (refuses_iff hk argument arguments).mp (hr argument ha.symm)
    · intro h
      cases hn : (ofName (nameIn members)).name? with
      | none =>
        obtain ⟨name, hu⟩ := name_ne_none hn
        simp [hu, run, Response.call] at h
      | some name =>
        have hk : (ofName (nameIn members)).name? ≠ none := by simp [hn]
        refine .inr ⟨_, name, hn, command_of_nameIn hn, fun argument hf => ?_⟩
        cases hl : argumentsIn members with
        | nil => simp [hl, hf] at ha
        | cons first arguments =>
          obtain rfl : first = argument := by simpa [hl, hf] using ha
          rw [hl] at h
          exact (refuses_iff hk first arguments).mpr h
  · have hm : ∀ members, params ≠ .object members := fun members h => ho ⟨members, h⟩
    simp [Misshapen, hm, (execute_other hm).1, Response.warn]

theorem showReport_mem_showDoctorIn (argument : Value) (title markdown : String)
    (style : Html.Style) :
    .showReport title markdown style ∈ (showDoctorIn argument).calls ↔
      title = Doctor.title ∧ style = Doctor.style ∧
        ∃ json, argument = .string json ∧ Doctor.render json = .ok markdown := by
  cases argument with
  | string json =>
    simp only [showDoctorIn]
    cases hr : Doctor.render json with
    | ok text => simp [Response.call, Response.after, hr]; grind
    | error cause => simp [hr]
  | _ => simp [showDoctorIn, Response.warn]

/-- A report is shown exactly where a command is to show one that can be read. -/
theorem showReport_mem_run (command : ClientCommand) (arguments : List Value)
    (title markdown : String) (style : Html.Style) :
    .showReport title markdown style ∈ (command.run arguments).calls ↔
      command.IsDoctor ∧ title = Doctor.title ∧ style = Doctor.style ∧
        ∃ json, arguments.head? = some (.string json) ∧ Doctor.render json = .ok markdown := by
  cases arguments with
  | nil => cases command <;> simp [run, Response.call, Response.nothing]
  | cons argument arguments =>
    cases command with
    | unknown name => simp [run, Response.call, IsDoctor]
    | gotoLocation =>
      simp only [run, gotoLocationIn]
      cases Location.ofValue argument <;> simp [Response.call, Response.warn, IsDoctor]
    | showStacktrace =>
      cases argument <;> simp [run, showStacktraceIn, Response.call, Response.warn, IsDoctor]
    | _ => simp [run, showReport_mem_showDoctorIn, IsDoctor]

theorem isDoctor_iff (members : List (String × Value)) :
    (ofName (nameIn members)).IsDoctor ↔
      (command? (.object members) = some (.string "metals-doctor-run") ∨
        command? (.object members) = some (.string "metals-doctor-reload")) := by
  constructor
  · rintro (h | h)
    · exact .inl (command_of_nameIn (by rw [h]; rfl))
    · exact .inr (command_of_nameIn (by rw [h]; rfl))
  · rintro (h | h)
    · exact .inl (by rw [nameIn_of_command h]; rfl)
    · exact .inr (by rw [nameIn_of_command h]; rfl)

/-- Parameters ask for a report exactly where one is shown. -/
theorem showReport_mem_execute (params : Value) (title markdown : String) (style : Html.Style) :
    .showReport title markdown style ∈ (execute params).calls ↔
      title = Doctor.title ∧ style = Doctor.style ∧ Reports params markdown := by
  by_cases ho : ∃ members, params = .object members
  · obtain ⟨members, rfl⟩ := ho
    rw [(calls_execute_object members).1, showReport_mem_run, isDoctor_iff,
      head_argumentsIn, Reports]
    tauto
  · have hm := execute_other fun members h => ho ⟨members, h⟩
    simp [hm.1, Response.warn, Reports, hm.2]

end ClientCommand

namespace Session

def fresh (config : Config) (files : FileTree) : Session := ⟨⟨config, []⟩, files⟩

def receiveAll : List String → Session → Session
  | [], session => session
  | message :: messages, session => receiveAll messages (session.receive message).1

/-- Whether a message is rejected, has a method that is not known, is ignored for its shape or holds
a report that cannot be read. -/
def IsSilent (message : String) : Prop :=
  (∃ reason, Notification.parse message = .error reason) ∨
    ∃ n, Notification.parse message = .ok n ∧
      (n.method ≠ Notification.executeClientCommand ∨ ClientCommand.Misshapen n.params ∨
        n.dispatch.failure ≠ none)

def AsksReport (message markdown : String) : Prop :=
  ∃ n, Notification.parse message = .ok n ∧ n.method = Notification.executeClientCommand ∧
    ClientCommand.Reports n.params markdown

def callsOf (message : String) : List WindowCall :=
  match Notification.parse message with
  | .ok n => n.dispatch.calls
  | .error _ => []

theorem receive_fst (session : Session) (message : String) :
    (session.receive message).1 = (handleAll (callsOf message) session).1 := by
  unfold receive callsOf
  cases Notification.parse message <;> simp

theorem dispatch_eq_execute {n : Notification}
    (h : n.method = Notification.executeClientCommand) :
    n.dispatch = ClientCommand.execute n.params := by simp [Notification.dispatch, h]

/-- A message makes one call, unless it is silent. -/
theorem callsOf_eq (message : String) :
    (IsSilent message ∧ callsOf message = []) ∨
      (¬IsSilent message ∧ ∃ call, callsOf message = [call]) := by
  cases hp : Notification.parse message with
  | error reason => exact .inl ⟨.inl ⟨reason, hp⟩, by simp [callsOf, hp]⟩
  | ok n =>
    have hc : callsOf message = n.dispatch.calls := by simp [callsOf, hp]
    by_cases hm : n.method = Notification.executeClientCommand
    · have hs : IsSilent message ↔ ClientCommand.Misshapen n.params ∨
          (ClientCommand.execute n.params).failure ≠ none := by
        simp [IsSilent, hp, hm, dispatch_eq_execute hm]
      rw [hs, hc, dispatch_eq_execute hm, ClientCommand.misshapen_iff]
      obtain ⟨outcome, ho⟩ := ClientCommand.execute_has_outcome n.params
      cases outcome <;> grind [Outcome.Describes]
    · have hd : n.dispatch.calls = [] := by simp [Notification.dispatch, hm, Response.warn]
      exact .inl ⟨.inr ⟨n, hp, .inl hm⟩, hc.trans hd⟩

/-- A message asks for a report exactly where its call shows one. -/
theorem showReport_mem_callsOf (message title markdown : String) (style : Html.Style) :
    .showReport title markdown style ∈ callsOf message ↔
      title = Doctor.title ∧ style = Doctor.style ∧ AsksReport message markdown := by
  unfold callsOf AsksReport
  cases hp : Notification.parse message with
  | error reason => simp
  | ok n =>
    by_cases hm : n.method = Notification.executeClientCommand
    · simp [dispatch_eq_execute hm, ClientCommand.showReport_mem_execute, hm]
    · simp [Notification.dispatch, hm, Response.warn]

/-- A session whose window has commands before those that it has. -/
def behind (commands : List Script.Command) (session : Session) : Session :=
  { session with window.commands := commands ++ session.window.commands }

/-- A call adds the same commands whatever commands are there. -/
theorem handle_behind (commands : List Script.Command) (session : Session) (call : WindowCall) :
    ((session.behind commands).handle call).1 = (session.handle call).1.behind commands := by
  cases hp : Window.page? session.window.config call <;>
    simp [handle, behind, hp, Window.handle, Window.tellWritten, Window.add]

theorem handleAll_behind (commands : List Script.Command) (calls : List WindowCall)
    (session : Session) :
    (handleAll calls (session.behind commands)).1 =
      (handleAll calls session).1.behind commands := by
  induction calls generalizing session with
  | nil => rfl
  | cons call calls ih => simp [handle_behind, ih]

theorem receiveAll_behind (commands : List Script.Command) (messages : List String)
    (session : Session) :
    receiveAll messages (session.behind commands) = (receiveAll messages session).behind commands := by
  induction messages generalizing session with
  | nil => rfl
  | cons message messages ih => simp only [receiveAll, receive_fst, handleAll_behind, ih]

theorem receiveAll_append (xs ys : List String) (session : Session) :
    receiveAll (xs ++ ys) session = receiveAll ys (receiveAll xs session) := by
  induction xs generalizing session with
  | nil => rfl
  | cons message xs ih => exact ih _

theorem config_handleAll (calls : List WindowCall) (session : Session) :
    (handleAll calls session).1.window.config = session.window.config := by
  induction calls generalizing session with
  | nil => rfl
  | cons call calls ih => simp [ih, config_handle]

theorem config_receiveAll (messages : List String) (session : Session) :
    (receiveAll messages session).window.config = session.window.config := by
  induction messages generalizing session with
  | nil => rfl
  | cons message messages ih => simp only [receiveAll, ih, receive_fst, config_handleAll]

/-- A session is that of an empty window among its files, with its commands put before all
others. -/
theorem behind_fresh (session : Session) :
    (fresh session.window.config session.files).behind session.window.commands = session := by
  simp [behind, fresh]

def reportPage (directory markdown : String) : PageFile :=
  ⟨Doctor.title, directory, Html.page Doctor.title markdown Doctor.style⟩

/-- What a message adds to the commands of a window, and what it makes of the files. -/
inductive Adds (config : Config) (files : FileTree) (message : String) :
    List Script.Command → FileTree → Prop where
  | nothing : IsSilent message → Adds config files message [] files
  | command (command : Script.Command) : ¬IsSilent message →
      (config.htmlDir = none ∨ ∀ markdown, ¬AsksReport message markdown) →
      Adds config files message [command] files
  /-- The report is shown, and then the outcome of its page. -/
  | report (directory markdown : String) : config.htmlDir = some directory →
      AsksReport message markdown →
      Adds config files message
        [Window.report config Doctor.title markdown,
          Script.echo (Window.statusOf (reportPage directory markdown)
            ((files.writePage (reportPage directory markdown)).2.map FileError.message))]
        (files.writePage (reportPage directory markdown)).1

/-- A page belongs to a call that shows a report, if there is a directory. -/
theorem page_eq_some {config : Config} {call : WindowCall} {page : PageFile}
    (h : Window.page? config call = some page) :
    ∃ title markdown style directory, call = .showReport title markdown style ∧
      config.htmlDir = some directory ∧ page = ⟨title, directory, Html.page title markdown style⟩ := by
  cases call with
  | showReport title markdown style =>
    obtain ⟨directory, hd, rfl⟩ := Option.map_eq_some_iff.mp h
    exact ⟨title, markdown, style, directory, rfl, hd, rfl⟩
  | _ => simp [Window.page?] at h

/-- One message adds its commands behind those that are there. -/
theorem receive_adds (session : Session) (message : String) :
    ∃ commands, Adds session.window.config session.files message commands
        (session.receive message).1.files ∧
      (session.receive message).1.window.commands = session.window.commands ++ commands := by
  rw [receive_fst]
  obtain ⟨hs, hc⟩ | ⟨hs, call, hc⟩ := callsOf_eq message
  · exact ⟨[], by simpa [hc] using .nothing hs, by simp [hc]⟩
  have hm := showReport_mem_callsOf message
  simp only [hc, List.mem_singleton, handleAll_cons, handleAll_nil] at hm ⊢
  cases hp : Window.page? session.window.config call with
  | none =>
    have hr : session.window.config.htmlDir = none ∨ ∀ markdown, ¬AsksReport message markdown := by
      rw [or_iff_not_imp_right]
      intro ha
      obtain ⟨markdown, ha⟩ := not_forall_not.mp ha
      obtain rfl := (hm Doctor.title markdown Doctor.style).mpr ⟨rfl, rfl, ha⟩
      simpa [Window.page?] using hp
    exact ⟨[Window.commandOf session.window.config call],
      by simpa [handle, hp] using .command _ hs hr, by simp [handle, hp]⟩
  | some page =>
    obtain ⟨title, markdown, style, directory, rfl, hd, rfl⟩ := page_eq_some hp
    obtain ⟨rfl, rfl, ha⟩ := (hm title markdown style).mp rfl
    exact ⟨_, by simpa [handle, hp] using .report directory markdown hd ha,
      by simp [handle, hp, Window.commandOf, reportPage]⟩

theorem Adds.eq_nil_iff {config : Config} {files after : FileTree} {message : String}
    {commands : List Script.Command} (h : Adds config files message commands after) :
    commands = [] ↔ IsSilent message := by
  cases h with
  | nothing hs => simp [hs]
  | command command hs => simp [hs]
  | report directory markdown hd ha =>
    have hn : ¬IsSilent message := by
      intro hs
      obtain ⟨-, hc⟩ | ⟨hn, -⟩ := callsOf_eq message
      · have hm := (showReport_mem_callsOf message Doctor.title markdown Doctor.style).mpr
          ⟨rfl, rfl, ha⟩
        simp [hc] at hm
      · exact hn hs
    simp [hn]

/-- A window without commands has none after messages exactly where all of them are silent. -/
theorem commands_receiveAll_eq_nil (messages : List String) (session : Session) :
    (receiveAll messages session).window.commands = [] ↔
      session.window.commands = [] ∧ ∀ message ∈ messages, IsSilent message := by
  induction messages generalizing session with
  | nil => simp [receiveAll]
  | cons message messages ih =>
    obtain ⟨commands, ha, hc⟩ := receive_adds session message
    simp [receiveAll, ih, hc, ha.eq_nil_iff, and_assoc]

/-- The commands after two lists of messages are those after the first one, and behind them those of
the second one alone among the files that the first one has left. Every message adds what it should
add at its place in a run, and there is a script exactly where a message is not silent. -/
theorem receiveAll_commands (config : Config) (files : FileTree) (xs ys : List String) :
    let left := receiveAll xs (fresh config files)
    let both := receiveAll (xs ++ ys) (fresh config files)
    let alone := receiveAll ys (fresh config left.files)
    (both.window.commands = left.window.commands ++ alone.window.commands ∧
      both.files = alone.files) ∧
    (∀ message, ∃ commands,
      Adds config left.files message commands (left.receive message).1.files ∧
        (left.receive message).1.window.commands = left.window.commands ++ commands) ∧
    (left.window.script? = none ↔ ∀ message ∈ xs, IsSilent message) ∧
    (left.window.script? ≠ none → left.window.script? =
      some ("\n".intercalate (left.window.commands.map Script.Command.text))) := by
  intro left both alone
  have hc : left.window.config = config := config_receiveAll xs (fresh config files)
  refine ⟨?_, ?_, ?_, ?_⟩
  · have hb : both = alone.behind left.window.commands := by
      change receiveAll (xs ++ ys) (fresh config files) = _
      rw [receiveAll_append, ← behind_fresh (receiveAll xs _), receiveAll_behind]
      change (receiveAll ys (fresh left.window.config left.files)).behind _ = _
      rw [hc]
    rw [hb]
    exact ⟨rfl, rfl⟩
  · intro message
    simpa [hc] using receive_adds left message
  · have hn : left.window.commands = [] ↔ _ :=
      commands_receiveAll_eq_nil xs (fresh config files)
    have he : (fresh config files).window.commands = [] := rfl
    simpa [Window.script?, he] using hn
  · intro h
    have hn : left.window.commands ≠ [] := by
      intro he
      simp [Window.script?, he] at h
    simp [Window.script?, hn, Script.text]

end Session

end EditorBridge

import EditorBridge.CommandLine.Run
import EditorBridge.Proofs.CommandOutcome
import EditorBridge.Proofs.TextUtf8

/-!
What a run comes to. Its status is zero exactly if its input is a notification in UTF-8 that can be
handled and the script, if there is one, arrives; a script that arrives is the same whether it is
printed or sent.
-/

namespace EditorBridge.CommandLine

def Hears (input : List UInt8) (n : Notification) : Prop :=
  ∃ text : String, input = Text.utf8 text.toList ∧ Notification.parse text = .ok n

/-- The script of the commands that the calls of a notification add, if they add any. -/
def collected? (files : FileTree) (config : Config) (n : Notification) : Option String :=
  (Session.handleAll n.dispatch.calls ⟨{ config }, files⟩).1.window.script?

/-- The script that shows why a health report could not be read. -/
def faultScript (e : Json.ReadError) : String :=
  Script.text [Script.echo ("metals: " ++ failureMessage e)]

/-- Whether a run delivers a script, or nothing: it is printed with a line feed behind it, or given
to the editor's program, if there is one, as it is. -/
def Outcome.Delivers (outcome : Outcome) (editor : Option Nat) (session : Option String) :
    Option String → Prop
  | none => outcome.output = "" ∧ outcome.sent = none
  | some script =>
    match session with
    | none => outcome.output = script ++ "\n" ∧ outcome.sent = none
    | some session =>
      outcome.output = "" ∧ outcome.sent = editor.map fun _ => (session, script)

/-- Whether a delivery succeeds: by printing, or if the editor's program ends with zero. -/
def Arrives (editor : Option Nat) (session : Option String) : Prop :=
  session = none ∨ editor = some 0

/-- What the script of a window comes to. -/
theorem conclude_delivers (editor : Option Nat) (a : Arguments) (received : Received)
    (window : Window) (logs : List LogRecord) :
    (conclude editor a received window logs).Delivers editor a.session
      (window.script?.map (Script.forClient a.client)) := by
  unfold conclude
  cases window.script? with
  | none => exact ⟨rfl, rfl⟩
  | some script =>
    cases a.session <;> simp [Outcome.Delivers, Delivery.of, Delivery.printed, sentBy]

theorem conclude_status (editor : Option Nat) (a : Arguments) (received : Received)
    (window : Window) (logs : List LogRecord) :
    let status := (conclude editor a received window logs).status
    (status = 0 ∨ status = 1) ∧ (status = 0 ↔ received.isFailed = false ∧
      (window.script? = none ∨ Arrives editor a.session)) := by
  unfold conclude
  cases window.script? with
  | none => cases received.isFailed <;> simp [statusOf]
  | some script =>
    cases received.isFailed <;> cases a.session <;> cases editor <;>
      simp [Delivery.of, deliver, statusOf, Arrives]
    exact Classical.em _

/-- Where the records go changes nothing about what a run comes to otherwise. -/
theorem logged_eq (path : Option String) (outcome : Outcome) (files : FileTree) :
    (Ended.logged path outcome files).status = outcome.status ∧
      (Ended.logged path outcome files).output = outcome.output ∧
      (Ended.logged path outcome files).sent = outcome.sent := by
  unfold Ended.logged
  cases path with
  | none => exact ⟨rfl, rfl, rfl⟩
  | some path => cases hw : files.write path "" <;> simp [hw]

theorem Outcome.Delivers.congr {outcome other : Outcome} {editor : Option Nat}
    {session script : Option String} (ho : other.output = outcome.output)
    (hs : other.sent = outcome.sent) (h : outcome.Delivers editor session script) :
    other.Delivers editor session script := by
  cases script with
  | none => exact ⟨ho.trans h.1, hs.trans h.2⟩
  | some script => cases session <;> exact ⟨ho.trans h.1, hs.trans h.2⟩

def windowAfter (around : Surroundings) (config : Config) : Window :=
  (Session.handleAll (Received.ofInput around.input).calls ⟨{ config }, around.files⟩).1.window

theorem runWith_delivers (around : Surroundings) (a : Arguments) (config : Config) :
    (runWith around a config).Delivers around.editor a.session
      ((windowAfter around config).script?.map (Script.forClient a.client)) := by
  unfold runWith windowAfter
  obtain ⟨-, ho, hs⟩ := logged_eq a.log _ _
  exact (conclude_delivers around.editor a _ _ _).congr ho hs

theorem runWith_status (around : Surroundings) (a : Arguments) (config : Config) :
    let status := (runWith around a config).status
    (status = 0 ∨ status = 1) ∧ (status = 0 ↔ (Received.ofInput around.input).isFailed = false ∧
      ((windowAfter around config).script? = none ∨ Arrives around.editor a.session)) := by
  unfold runWith windowAfter
  simp only [logged_eq]
  exact conclude_status around.editor a _ _ _

/-- An input is a notification of at most one kind. -/
theorem Hears.unique {input : List UInt8} {m n : Notification} (hm : Hears input m)
    (hn : Hears input n) : m = n := by
  obtain ⟨s, hs, hm⟩ := hm
  obtain ⟨t, ht, hn⟩ := hn
  have he : s.toList = t.toList := by
    have h := Text.ofUtf8_eq_some_iff.mpr hs
    rw [Text.ofUtf8_eq_some_iff.mpr ht] at h
    exact (Option.some.inj h).symm
  obtain rfl : s = t := String.toList_inj.mp he
  simpa [hm] using hn

/-- Nothing is called where a report cannot be read. -/
theorem calls_eq_nil_of_failure {n : Notification} {e : Json.ReadError}
    (h : n.dispatch.failure = some e) : n.dispatch.calls = [] := by
  unfold Notification.dispatch at h ⊢
  split at h
  case isTrue hm =>
    obtain ⟨outcome, ho⟩ := ClientCommand.execute_has_outcome n.params
    rw [if_pos hm]
    cases outcome <;> simp_all [EditorBridge.Outcome.Describes]
  case isFalse => simp [Response.warn] at h

/-- What an input asks for: nothing if it is no notification, a message about the report if there is
one that cannot be read, and otherwise what the notification asks for. -/
theorem ofInput_cases (input : List UInt8) :
    ((∀ n, ¬Hears input n) ∧ (Received.ofInput input).calls = [] ∧
        (Received.ofInput input).isFailed = true) ∨
      ∃ n, Hears input n ∧
        ((n.dispatch.failure = none ∧ (Received.ofInput input).calls = n.dispatch.calls ∧
            (Received.ofInput input).isFailed = false) ∨
          ∃ e, n.dispatch.failure = some e ∧ (Received.ofInput input).isFailed = true ∧
            (Received.ofInput input).calls =
              [.reportStatus ("metals: " ++ failureMessage e)]) := by
  unfold Received.ofInput
  cases hu : Text.ofUtf8? input with
  | none =>
    refine .inl ⟨?_, rfl, rfl⟩
    rintro n ⟨text, ht, -⟩
    rw [Text.ofUtf8_eq_some_iff.mpr ht] at hu
    exact absurd hu (by simp)
  | some text =>
    have ht := Text.ofUtf8_eq_some_iff.mp hu
    cases hp : Notification.parse (String.ofList text) with
    | error reason =>
      refine .inl ⟨?_, by simp [hp, Received.failure], by simp [hp, Received.failure]⟩
      rintro n ⟨other, ho, hn⟩
      have he := Text.ofUtf8_eq_some_iff.mpr ho
      obtain rfl : text = other.toList := by simpa [hu] using he
      rw [String.ofList_toList, hn] at hp
      exact absurd hp (by simp)
    | ok n =>
      refine .inr ⟨n, ⟨String.ofList text, by simpa using ht, hp⟩, ?_⟩
      cases hf : n.dispatch.failure with
      | none => exact .inl ⟨rfl, by simp only [hp, hf], by simp only [hp, hf]⟩
      | some e =>
        refine .inr ⟨e, rfl, by simp only [hp, hf], ?_⟩
        simp only [hp, hf, calls_eq_nil_of_failure hf, List.nil_append]

theorem windowAfter_script {around : Surroundings} {config : Config} {calls : List WindowCall}
    (h : (Received.ofInput around.input).calls = calls) :
    (windowAfter around config).script? =
      (Session.handleAll calls ⟨{ config }, around.files⟩).1.window.script? := by
  rw [windowAfter, h]

/-- What a run with a configuration comes to. -/
theorem runWith_outcome (around : Surroundings) (a : Arguments) (config : Config) :
    let ended := runWith around a config
    let Delivers := ended.Delivers around.editor a.session
    (ended.status = 0 ∨ ended.status = 1) ∧
    (ended.status = 0 ↔ ∃ n, Hears around.input n ∧ n.dispatch.failure = none ∧
      (collected? around.files config n = none ∨ Arrives around.editor a.session)) ∧
    ((∀ n, ¬Hears around.input n) → Delivers none) ∧
    ∀ n, Hears around.input n →
      (n.dispatch.failure = none →
        Delivers ((collected? around.files config n).map (Script.forClient a.client))) ∧
      ∀ e, n.dispatch.failure = some e →
        ended.status = 1 ∧ Delivers (some (Script.forClient a.client (faultScript e))) := by
  intro ended Delivers
  obtain ⟨hb, hz⟩ := runWith_status around a config
  have hd := runWith_delivers around a config
  refine ⟨hb, ?_⟩
  obtain ⟨hn, hc, hf⟩ | ⟨n, hn, ⟨hr, hc, hf⟩ | ⟨e, hr, hf, hc⟩⟩ := ofInput_cases around.input
  · rw [windowAfter_script hc] at hd
    refine ⟨⟨fun h => absurd (hz.mp h).1 (by simp [hf]), ?_⟩, fun _ => hd, ?_⟩
    · rintro ⟨n, hh, -⟩
      exact absurd hh (hn n)
    · exact fun n hh => absurd hh (hn n)
  · rw [windowAfter_script hc] at hz hd
    refine ⟨⟨fun h => ⟨n, hn, hr, (hz.mp h).2⟩, ?_⟩, fun h => absurd hn (h n), ?_⟩
    · rintro ⟨m, hm, -, ha⟩
      obtain rfl := hm.unique hn
      exact hz.mpr ⟨hf, ha⟩
    · intro m hm
      obtain rfl := hm.unique hn
      exact ⟨fun _ => hd, fun e he => absurd he (by simp [hr])⟩
  · rw [windowAfter_script hc] at hd
    refine ⟨⟨fun h => absurd (hz.mp h).1 (by simp [hf]), ?_⟩, fun h => absurd hn (h n), ?_⟩
    · rintro ⟨m, hm, hg, -⟩
      obtain rfl := hm.unique hn
      exact absurd hg (by simp [hr])
    · intro m hm
      obtain rfl := hm.unique hn
      refine ⟨fun hg => absurd hg (by simp [hr]), fun e' he => ?_⟩
      obtain rfl : e = e' := Option.some.inj (hr.symm.trans he)
      have hs : ended.status ≠ 0 := fun h => absurd (hz.mp h).1 (by simp [hf])
      exact ⟨hb.resolve_left hs, hd⟩

theorem run_eq_runWith {around : Surroundings} {arguments : List String} {a : Arguments}
    {config : Config} (ha : Request.ofArguments arguments = .ok (.run a))
    (hc : Config.load around.files (configPath? around a) = .ok config) :
    run around arguments = runWith around a (configured a config) := by
  simp only [run, runRequest, ha, hc]

/-- A script is the same whether it is printed or given to the editor's program. -/
theorem runWith_route (around : Surroundings) (a : Arguments) (config : Config) (session : String)
    (hs : a.session = none) (he : around.editor ≠ none) :
    let printed := runWith around a config
    let passed := runWith around { a with session := some session } config
    passed.output = "" ∧ printed.sent = none ∧
      ((printed.output = "" ∧ passed.sent = none) ∨
        ∃ script, printed.output = script ++ "\n" ∧ passed.sent = some (session, script)) := by
  intro printed passed
  have hp := runWith_delivers around a config
  have hq := runWith_delivers around { a with session := some session } config
  obtain ⟨status, hk⟩ := Option.ne_none_iff_exists'.mp he
  rw [hs] at hp
  cases hw : (windowAfter around config).script? with
  | none =>
    rw [hw] at hp hq
    exact ⟨hq.1, hp.2, .inl ⟨hp.1, hq.2⟩⟩
  | some script =>
    rw [hw] at hp hq
    rw [hk] at hq
    exact ⟨hq.1, hp.2, .inr ⟨_, hp.1, hq.2⟩⟩

/-- What a run comes to whose arguments ask for one and whose configuration can be read. Its status
is zero if it hears a notification that can be handled and its script, if there is one, arrives, and
otherwise one. Nothing is delivered without a notification, and one message if a report cannot be
read. With a session, the editor's program gets what would be printed without. -/
theorem run_status_and_delivery (around : Surroundings) (arguments : List String) (a : Arguments)
    (config : Config) (ha : Request.ofArguments arguments = .ok (.run a))
    (hc : Config.load around.files (configPath? around a) = .ok config) :
    let ended := run around arguments
    let collected := collected? around.files (configured a config)
    let Delivers := ended.Delivers around.editor a.session
    (ended.status = 0 ∨ ended.status = 1) ∧
    (ended.status = 0 ↔ ∃ n, Hears around.input n ∧ n.dispatch.failure = none ∧
      (collected n = none ∨ Arrives around.editor a.session)) ∧
    ((∀ n, ¬Hears around.input n) → Delivers none) ∧
    (∀ n, Hears around.input n →
      (n.dispatch.failure = none →
        Delivers ((collected n).map (Script.forClient a.client))) ∧
      ∀ e, n.dispatch.failure = some e →
        ended.status = 1 ∧ Delivers (some (Script.forClient a.client (faultScript e)))) ∧
    ∀ others session, a.session = none → around.editor ≠ none →
      Request.ofArguments others = .ok (.run { a with session := some session }) →
      let passed := run around others
      passed.output = "" ∧ ended.sent = none ∧
        ((ended.output = "" ∧ passed.sent = none) ∨
          ∃ script, ended.output = script ++ "\n" ∧ passed.sent = some (session, script)) := by
  intro ended collected Delivers
  have hw : ended = runWith around a (configured a config) := run_eq_runWith ha hc
  have ho := runWith_outcome around a (configured a config)
  simp only [← hw] at ho
  refine ⟨ho.1, ho.2.1, ho.2.2.1, ho.2.2.2, ?_⟩
  intro others session hs he hr passed
  have hp : passed = runWith around { a with session := some session } (configured a config) :=
    run_eq_runWith hr hc
  rw [hw, hp]
  exact runWith_route around a (configured a config) session hs he

/-- A report that breaks off, and an editor's program that ends with three. -/
def brokenOff : Surroundings where
  files := ⟨[], []⟩
  userConfig := "/home/user/.config/metals-kak/metals-kak.toml"
  editor := some 3
  input := Text.utf8 "[\"2.0\",\"metals/executeClientCommand\",\x7b\"command\":\"metals-doctor-run\",
    \"arguments\":[\"[\"]\x7d]".toList

/-- The message about a report that breaks off is printed, and the same is given to a session. -/
theorem run_brokenOff :
    let printed := run brokenOff ["--client", "it's"]
    let passed := run brokenOff ["--client", "it's", "-s42"]
    printed.status = 1 ∧ passed.output = "" ∧ printed.sent = none ∧
      ∃ script, printed.output = script ++ "\n" ∧ passed.sent = some ("42", script) := by
  have ha : Request.ofArguments ["--client", "it's"] = .ok (.run { client := some "it's" }) := rfl
  have hb : Request.ofArguments ["--client", "it's", "-s42"] =
      .ok (.run { client := some "it's", session := some "42" }) := rfl
  have hc : Config.load brokenOff.files (configPath? brokenOff { client := some "it's" }) =
      .ok .builtIn := rfl
  have hn : (run brokenOff ["--client", "it's"]).status ≠ 0 := by decide +kernel
  have hd : (run brokenOff ["--client", "it's"]).output ≠ "" := by decide +kernel
  obtain ⟨hs, -, -, -, hr⟩ := run_status_and_delivery brokenOff _ _ _ ha hc
  obtain ⟨ho, ht, hw⟩ := hr _ "42" rfl (by decide) hb
  exact ⟨hs.resolve_left hn, ho, ht, hw.resolve_left fun h => hd h.1⟩

end EditorBridge.CommandLine

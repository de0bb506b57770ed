import EditorBridge.ClientCommand
import Mathlib.Logic.ExistsUnique

/-!
What can come of the parameters of a command: a window call, a warning, a report that cannot be
read, or nothing at all, and never two of these. Which one it is depends on the command and its
first argument alone, and only a string can name a command.
-/

namespace EditorBridge

open Json (Value)

def Response.warnings (r : Response) : Nat := r.logs.countP fun record => record.severity = .warning

inductive Outcome where
  | called
  | warned
  | failed
  | idle
  deriving DecidableEq, Repr

def Outcome.Describes : Outcome → Response → Prop
  | called, r => (∃ call, r.calls = [call]) ∧ r.failure = none
  | warned, r => r.calls = [] ∧ r.failure = none ∧ r.warnings = 1
  | failed, r => r.calls = [] ∧ r.failure ≠ none
  | idle, r => r.calls = [] ∧ r.failure = none ∧ r.warnings = 0

/-- No response is of two kinds. -/
theorem Outcome.unique {a b : Outcome} {r : Response} (ha : a.Describes r) (hb : b.Describes r) :
    a = b := by
  cases a <;> cases b <;> simp_all [Describes]

/-- A record of a step changes nothing about the kind. -/
theorem Outcome.describes_after (a : Outcome) (message : String) (r : Response) :
    a.Describes (r.after (.debug message)) ↔ a.Describes r := by
  cases a <;> simp [Describes, Response.after, Response.warnings, LogRecord.debug]

theorem describes_call (call : WindowCall) : Outcome.called.Describes (.call call) := by
  simp [Outcome.Describes, Response.call]

theorem describes_warn (message : String) : Outcome.warned.Describes (.warn message) := by
  simp [Outcome.Describes, Response.warn, Response.warnings, LogRecord.warning]

theorem describes_nothing : Outcome.idle.Describes .nothing := by
  simp [Outcome.Describes, Response.nothing, Response.warnings]

namespace ClientCommand

def name? : ClientCommand → Option String
  | gotoLocation => some "metals-goto-location"
  | showStacktrace => some "metals-show-stacktrace"
  | doctorRun => some "metals-doctor-run"
  | doctorReload => some "metals-doctor-reload"
  | unknown _ => none

def command? : Value → Option Value
  | .object members => Json.member? "command" members
  | _ => none

def firstArgument? : Value → Option Value
  | .object members =>
    match Json.member? "arguments" members with
    | some (.array (argument :: _)) => some argument
    | _ => none
  | _ => none

theorem name_ofName {name known : String} (h : (ofName name).name? = some known) :
    known = name := by
  unfold ofName at h
  repeat' split at h
  all_goals simp_all [name?]

theorem name_ne_none {command : ClientCommand} (h : command.name? = none) :
    ∃ name, command = .unknown name := by
  cases command with
  | unknown name => exact ⟨name, rfl⟩
  | _ => simp [name?] at h

theorem head_name {command : ClientCommand} {name : String} (h : command.name? = some name) :
    name.toList.head? = some 'm' := by
  cases command <;> simp [name?] at h <;> subst h <;> decide

theorem not_mem_digits (n : Nat) : 'm' ∉ Nat.toDigits 10 n := by
  intro h
  exact absurd (Nat.isDigit_of_mem_toDigits (by decide) (by decide) h) (by decide)

theorem not_mem_printMagnitude (d : Decimal.Scientific) : 'm' ∉ Json.printMagnitude d := by
  have hd := not_mem_digits d.digits
  have ht (k : Nat) : 'm' ∉ (Nat.toDigits 10 d.digits).take k := fun h => hd (List.mem_of_mem_take h)
  have hr (k : Nat) : 'm' ∉ (Nat.toDigits 10 d.digits).drop k := fun h => hd (List.mem_of_mem_drop h)
  have hl : 'm' ∉ (Nat.toDigits 10 d.digits).tail := fun h => hd (List.mem_of_mem_tail h)
  simp only [Json.printMagnitude]
  repeat' split
  all_goals simp [ht, hr, hl, not_mem_digits]

theorem not_mem_printNumber (n : Json.Number) : 'm' ∉ Json.printNumber n := by
  cases n with
  | integer n =>
    simp only [Json.printNumber, Json.printInt]
    split <;> simp [not_mem_digits]
  | double x =>
    have hm := not_mem_printMagnitude (Decimal.shortest .even x.toBinary)
    simp only [Json.printNumber, Json.printDouble]
    split <;> simp [hm]

/-- The JSON text of what is no string is not the name of a command. -/
theorem head_text {value : Value} (h : ∀ s, value ≠ .string s) :
    value.text.toList.head? ≠ some 'm' := by
  cases value with
  | null => simp [Value.text, Json.printValue]
  | bool b => cases b <;> simp [Value.text, Json.printValue]
  | number n =>
    intro hm
    have hh : (Json.printNumber n).head? = some 'm' := by
      simpa [Value.text, Json.printValue] using hm
    exact not_mem_printNumber n (List.mem_of_mem_head? hh)
  | string s => exact absurd rfl (h s)
  | array items => simp [Value.text, Json.printValue]
  | object members => simp [Value.text, Json.printValue]

/-- Only a string names a command that is known. -/
theorem command_of_nameIn {members : List (String × Value)} {name : String}
    (h : (ofName (nameIn members)).name? = some name) :
    command? (.object members) = some (.string name) := by
  have hn := name_ofName h
  have hm := head_name h
  unfold command?
  cases hc : Json.member? "command" members with
  | none =>
    simp only [nameIn, hc] at hn
    exact absurd (hn ▸ hm) (head_text (by simp))
  | some value =>
    cases value with
    | string s => simp [hn, nameIn, hc]
    | _ =>
      simp only [nameIn, hc] at hn
      exact absurd (hn ▸ hm) (head_text (by simp))

theorem nameIn_of_command {members : List (String × Value)} {name : String}
    (h : command? (.object members) = some (.string name)) : nameIn members = name := by
  simp only [command?] at h
  simp [nameIn, h]

theorem nameIn_congr {members others : List (String × Value)}
    (h : command? (.object members) = command? (.object others)) :
    nameIn members = nameIn others := by
  simp only [command?] at h
  simp [nameIn, h]

theorem head_argumentsIn (members : List (String × Value)) :
    (argumentsIn members).head? = firstArgument? (.object members) := by
  simp only [argumentsIn, firstArgument?]
  cases Json.member? "arguments" members with
  | none => rfl
  | some value =>
    cases value with
    | array items => cases items <;> rfl
    | _ => rfl

/-- Arguments behind the first one are not looked at. -/
theorem run_congr (command : ClientCommand) {arguments others : List Value}
    (h : arguments.head? = others.head?) : command.run arguments = command.run others := by
  cases arguments with
  | nil =>
    have ho : others = [] := List.head?_eq_none_iff.mp h.symm
    rw [ho]
  | cons a as =>
    obtain ⟨bs, rfl⟩ : ∃ bs, others = a :: bs := by
      cases others with
      | nil => simp at h
      | cons b bs => exact ⟨bs, by simp_all⟩
    cases command <;> rfl

theorem gotoLocationIn_outcome (argument : Value) :
    Outcome.called.Describes (gotoLocationIn argument) ∨
      Outcome.warned.Describes (gotoLocationIn argument) := by
  unfold gotoLocationIn
  cases Location.ofValue argument with
  | ok location => exact .inl (describes_call _)
  | error cause => exact .inr (describes_warn _)

theorem showStacktraceIn_outcome (argument : Value) :
    Outcome.called.Describes (showStacktraceIn argument) ∨
      Outcome.warned.Describes (showStacktraceIn argument) := by
  cases argument with
  | string html => exact .inl (describes_call _)
  | _ => exact .inr (describes_warn _)

def unreadable (cause : Json.ReadError) : Response := ⟨[], [], some cause⟩

theorem showDoctorIn_unreadable {json : String} {cause : Json.ReadError}
    (h : Doctor.Report.parse json = .error cause) :
    showDoctorIn (.string json) = unreadable cause := by
  simp [showDoctorIn, Doctor.render, h, unreadable, Except.map]

theorem showDoctorIn_outcome (argument : Value) :
    Outcome.called.Describes (showDoctorIn argument) ∨
      Outcome.warned.Describes (showDoctorIn argument) ∨
      ∃ json cause, argument = .string json ∧ Doctor.Report.parse json = .error cause ∧
        showDoctorIn argument = unreadable cause := by
  cases argument with
  | string json =>
    cases hp : Doctor.Report.parse json with
    | ok report =>
      refine .inl ?_
      simp only [showDoctorIn, Doctor.render, hp, Except.map]
      exact (Outcome.describes_after _ _ _).mpr (describes_call _)
    | error cause => exact .inr (.inr ⟨json, cause, rfl, hp, showDoctorIn_unreadable hp⟩)
  | _ => exact .inr (.inl (describes_warn _))

def IsDoctor (command : ClientCommand) : Prop := command = .doctorRun ∨ command = .doctorReload

theorem run_doctor {command : ClientCommand} (h : command.IsDoctor) (argument : Value)
    (arguments : List Value) : command.run (argument :: arguments) = showDoctorIn argument := by
  rcases h with rfl | rfl <;> rfl

/-- All that can come of a command and its arguments. -/
theorem run_outcome (command : ClientCommand) (arguments : List Value) :
    Outcome.called.Describes (command.run arguments) ∨
      Outcome.warned.Describes (command.run arguments) ∨
      (∃ json cause, command.IsDoctor ∧ arguments.head? = some (.string json) ∧
        Doctor.Report.parse json = .error cause ∧ command.run arguments = unreadable cause) ∨
      (command.name? ≠ none ∧ arguments = [] ∧ command.run arguments = .nothing) := by
  cases arguments with
  | nil =>
    cases command with
    | unknown name => exact .inl (describes_call _)
    | _ => exact .inr (.inr (.inr ⟨by simp [name?], rfl, rfl⟩))
  | cons argument arguments =>
    cases command with
    | unknown name => exact .inl (describes_call _)
    | gotoLocation => exact (gotoLocationIn_outcome argument).imp_right .inl
    | showStacktrace => exact (showStacktraceIn_outcome argument).imp_right .inl
    | _ =>
      rcases showDoctorIn_outcome argument with h | h | ⟨json, cause, rfl, hp, hr⟩
      · exact .inl h
      · exact .inr (.inl h)
      · exact .inr (.inr (.inl ⟨json, cause, by simp [IsDoctor], rfl, hp, hr⟩))

theorem execute_object (members : List (String × Value)) :
    execute (.object members) =
      ((ofName (nameIn members)).run (argumentsIn members)).after
        (.debug ("Client command: " ++ nameIn members)) := rfl

/-- Parameters that are no object have no command. -/
theorem execute_other {params : Value} (h : ∀ members, params ≠ .object members) :
    execute params = .warn ("Ignoring executeClientCommand with params " ++ params.text) ∧
      command? params = none := by
  cases params with
  | object members => exact absurd rfl (h members)
  | _ => exact ⟨rfl, rfl⟩

theorem execute_has_outcome (params : Value) :
    ∃ outcome : Outcome, outcome.Describes (execute params) := by
  by_cases h : ∃ members, params = .object members
  · obtain ⟨members, rfl⟩ := h
    simp only [execute_object, Outcome.describes_after]
    rcases run_outcome (ofName (nameIn members)) (argumentsIn members) with
      h | h | ⟨json, cause, -, -, -, hr⟩ | ⟨-, -, hr⟩
    · exact ⟨_, h⟩
    · exact ⟨_, h⟩
    · exact ⟨.failed, by simp [hr, Outcome.Describes, unreadable]⟩
    · exact ⟨.idle, hr ▸ describes_nothing⟩
  · have ho := execute_other fun members hm => h ⟨members, hm⟩
    exact ⟨.warned, ho.1 ▸ describes_warn _⟩

/-- Nothing happens only where a known command has no argument. -/
theorem execute_idle {params : Value} (h : Outcome.idle.Describes (execute params)) :
    (∃ command name, name? command = some name ∧ command? params = some (.string name)) ∧
      firstArgument? params = none := by
  by_cases hp : ∃ members, params = .object members
  · obtain ⟨members, rfl⟩ := hp
    rw [execute_object, Outcome.describes_after] at h
    rcases run_outcome (ofName (nameIn members)) (argumentsIn members) with
      hr | hr | ⟨json, cause, -, -, -, hr⟩ | ⟨hn, ha, -⟩
    · exact absurd (Outcome.unique h hr) (by decide)
    · exact absurd (Outcome.unique h hr) (by decide)
    · simp [hr, Outcome.Describes, unreadable] at h
    · obtain ⟨name, hn⟩ := Option.ne_none_iff_exists'.mp hn
      refine ⟨⟨_, name, hn, command_of_nameIn hn⟩, ?_⟩
      rw [← head_argumentsIn, ha, List.head?_nil]
  · have ho := execute_other fun members hm => hp ⟨members, hm⟩
    rw [ho.1] at h
    exact absurd (Outcome.unique h (describes_warn _)) (by decide)

/-- A report is found unreadable exactly where a command is to show one that cannot be parsed. -/
theorem execute_failure_iff (params : Value) (cause : Json.ReadError) :
    (execute params).failure = some cause ↔
      (command? params = some (.string "metals-doctor-run") ∨
        command? params = some (.string "metals-doctor-reload")) ∧
      ∃ json, firstArgument? params = some (.string json) ∧
        Doctor.Report.parse json = .error cause := by
  constructor
  · intro h
    by_cases hp : ∃ members, params = .object members
    · obtain ⟨members, rfl⟩ := hp
      change ((ofName (nameIn members)).run (argumentsIn members)).failure = some cause at h
      rcases run_outcome (ofName (nameIn members)) (argumentsIn members) with
        hr | hr | ⟨json, found, hd, ha, hp, hr⟩ | ⟨-, -, hr⟩
      · simp [hr.2] at h
      · simp [hr.2.1] at h
      · obtain rfl : found = cause := by simpa [hr, unreadable] using h
        refine ⟨hd.imp (fun hn => ?_) (fun hn => ?_), json, head_argumentsIn members ▸ ha, hp⟩
        · exact command_of_nameIn (by rw [hn]; rfl)
        · exact command_of_nameIn (by rw [hn]; rfl)
      · simp [hr, Response.nothing] at h
    · have ho := execute_other fun members hm => hp ⟨members, hm⟩
      simp [ho.1, Response.warn] at h
  · rintro ⟨hc, json, ha, hp⟩
    cases params with
    | object members =>
      have hd : (ofName (nameIn members)).IsDoctor := by
        rcases hc with hc | hc
        · exact .inl (by rw [nameIn_of_command hc]; rfl)
        · exact .inr (by rw [nameIn_of_command hc]; rfl)
      obtain ⟨rest, hr⟩ := List.head?_eq_some_iff.mp ((head_argumentsIn members).trans ha)
      change ((ofName (nameIn members)).run (argumentsIn members)).failure = some cause
      rw [hr, run_doctor hd, showDoctorIn_unreadable hp]
      rfl
    | _ => simp [command?] at hc

/-- Of a call, a warning, an unreadable report and nothing at all, exactly one comes of any
parameters: nothing only of a known command without an argument, an unreadable report exactly of the
two commands that show one. A command that is no string, or has no known name, is reported. Of an
object, only the command and the first argument matter, and what is no object is warned about. -/
theorem execute_outcome (params : Value) :
    (∃! outcome : Outcome, outcome.Describes (execute params)) ∧
    (Outcome.idle.Describes (execute params) →
      (∃ command name, name? command = some name ∧ command? params = some (.string name)) ∧
        firstArgument? params = none) ∧
    (∀ cause, (execute params).failure = some cause ↔
      (command? params = some (.string "metals-doctor-run") ∨
        command? params = some (.string "metals-doctor-reload")) ∧
      ∃ json, firstArgument? params = some (.string json) ∧
        Doctor.Report.parse json = .error cause) ∧
    ((∀ members, params ≠ .object members) → Outcome.warned.Describes (execute params)) ∧
    ∀ members, params = .object members →
      (∀ name, (ofName (nameIn members)).name? = some name →
        command? params = some (.string name)) ∧
      ((∀ command name, name? command = some name → command? params ≠ some (.string name)) →
        (execute params).calls = [.reportStatus ("Unknown command " ++ nameIn members)]) ∧
      ∀ others, command? (.object others) = command? params →
        firstArgument? (.object others) = firstArgument? params →
          execute (.object others) = execute params := by
  obtain ⟨outcome, ho⟩ := execute_has_outcome params
  refine ⟨⟨outcome, ho, fun other h => Outcome.unique h ho⟩, execute_idle,
    execute_failure_iff params, fun h => (execute_other h).1 ▸ describes_warn _, ?_⟩
  rintro members rfl
  refine ⟨fun name => command_of_nameIn, fun h => ?_, fun others hc ha => ?_⟩
  · cases hn : (ofName (nameIn members)).name? with
    | some name => exact absurd (command_of_nameIn hn) (h _ name hn)
    | none =>
      obtain ⟨name, hu⟩ := name_ne_none hn
      have hs : name = nameIn members := by
        unfold ofName at hu
        repeat' split at hu
        all_goals simp_all
      subst hs
      rw [execute_object, hu]
      rfl
  · rw [← head_argumentsIn, ← head_argumentsIn] at ha
    rw [execute_object, execute_object, nameIn_congr hc, run_congr _ ha]

end ClientCommand

end EditorBridge

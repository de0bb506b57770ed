import EditorBridge.Json.Reader

/-!
Health reports of a build, and their JSON text. Every part of a report may be missing. The cells of
the table of build targets may hold any JSON value.
-/

namespace EditorBridge.Doctor

/-- What was found about the build as a whole. -/
structure Header where
  buildServer : Option String
  jdkInfo : Option String
  serverInfo : Option String
  buildTargetDescription : Option String
  deriving Repr

/-- A finding, and what to do about it. -/
structure Message where
  title : Option String
  recommendations : Option (List String)
  deriving Repr

structure Target where
  buildTarget : Option Json.Value
  targetType : Option Json.Value
  compilationStatus : Option Json.Value
  diagnostics : Option Json.Value
  interactive : Option Json.Value
  semanticdb : Option Json.Value
  debugging : Option Json.Value
  java : Option Json.Value
  recommendation : Option Json.Value
  deriving Repr

/-- What the signs in the table mean. -/
structure Explanation where
  title : Option String
  explanations : Option (List String)
  deriving Repr

structure Report where
  title : Option String
  header : Option Header
  messages : Option (List Message)
  targets : Option (List Target)
  explanations : Option (List Explanation)
  deriving Repr

open Json (Field Record readString readList)

def readCell : Json.Reader Json.Value := fun depth s =>
  (Json.value depth s).map fun (value, s) => (value.settled, s)

def Header.record : Record Header where
  name := "DoctorHeader"
  fields :=
    [.optional "buildServer" readString fun a h => { h with buildServer := a },
      .optional "jdkInfo" readString fun a h => { h with jdkInfo := a },
      .optional "serverInfo" readString fun a h => { h with serverInfo := a },
      .optional "buildTargetDescription" readString fun a h =>
        { h with buildTargetDescription := a }]
  empty := ⟨none, none, none, none⟩

def Message.record : Record Message where
  name := "DoctorMessage"
  fields :=
    [.optional "title" readString fun a m => { m with title := a },
      .optional "recommendations" (readList readString) fun a m =>
        { m with recommendations := a }]
  empty := ⟨none, none⟩

def Target.record : Record Target where
  name := "DoctorTarget"
  fields :=
    [.optional "buildTarget" readCell fun a t => { t with buildTarget := a },
      .optional "targetType" readCell fun a t => { t with targetType := a },
      .optional "compilationStatus" readCell fun a t => { t with compilationStatus := a },
      .optional "diagnostics" readCell fun a t => { t with diagnostics := a },
      .optional "interactive" readCell fun a t => { t with interactive := a },
      .optional "semanticdb" readCell fun a t => { t with semanticdb := a },
      .optional "debugging" readCell fun a t => { t with debugging := a },
      .optional "java" readCell fun a t => { t with java := a },
      .optional "recommendation" readCell fun a t => { t with recommendation := a }]
  empty := ⟨none, none, none, none, none, none, none, none, none⟩

def Explanation.record : Record Explanation where
  name := "DoctorExplanation"
  fields :=
    [.optional "title" readString fun a e => { e with title := a },
      .optional "explanations" (readList readString) fun a e => { e with explanations := a }]
  empty := ⟨none, none⟩

def Report.record : Record Report where
  name := "DoctorReport"
  fields :=
    [.optional "title" readString fun a r => { r with title := a },
      .optional "header" Header.record.read fun a r => { r with header := a },
      .optional "messages" (readList Message.record.read) fun a r => { r with messages := a },
      .optional "targets" (readList Target.record.read) fun a r => { r with targets := a },
      .optional "explanations" (readList Explanation.record.read) fun a r =>
        { r with explanations := a }]
  empty := ⟨none, none, none, none, none⟩

def Report.parse (json : String) : Except Json.ReadError Report :=
  Json.parseWith Report.record.read json

end EditorBridge.Doctor

import EditorBridge.Doctor.Document
import EditorBridge.Proofs.RecordMoves

/-!
Changes of the text of a health report that make no difference to its Markdown. The order of
members, members with unknown names, members without a value and white space do not show.
-/

namespace EditorBridge.Doctor

open Json (Agrees Fits Meaning Moves Reads Shape Slot Spaced Tree listMeaning recordMeaning
  stringMeaning valueMeaning)

/-! ### What is read -/

def cellMeaning : Meaning Json.Value := fun depth x => (valueMeaning depth x).map Json.Value.settled

theorem reads_cell : Reads readCell cellMeaning := Json.reads_value.map Json.Value.settled

theorem agrees_cellMeaning : Agrees 0 .cell cellMeaning id := by
  intro depth x y hd hm
  simpa [cellMeaning] using Json.agrees_cell hd hm

def Header.slots : List (Slot Header) :=
  [.optional "buildServer" stringMeaning fun a h => { h with buildServer := a },
    .optional "jdkInfo" stringMeaning fun a h => { h with jdkInfo := a },
    .optional "serverInfo" stringMeaning fun a h => { h with serverInfo := a },
    .optional "buildTargetDescription" stringMeaning fun a h =>
      { h with buildTargetDescription := a }]

def Message.slots : List (Slot Message) :=
  [.optional "title" stringMeaning fun a m => { m with title := a },
    .optional "recommendations" (listMeaning stringMeaning) fun a m =>
      { m with recommendations := a }]

def Target.slots : List (Slot Target) :=
  [.optional "buildTarget" cellMeaning fun a t => { t with buildTarget := a },
    .optional "targetType" cellMeaning fun a t => { t with targetType := a },
    .optional "compilationStatus" cellMeaning fun a t => { t with compilationStatus := a },
    .optional "diagnostics" cellMeaning fun a t => { t with diagnostics := a },
    .optional "interactive" cellMeaning fun a t => { t with interactive := a },
    .optional "semanticdb" cellMeaning fun a t => { t with semanticdb := a },
    .optional "debugging" cellMeaning fun a t => { t with debugging := a },
    .optional "java" cellMeaning fun a t => { t with java := a },
    .optional "recommendation" cellMeaning fun a t => { t with recommendation := a }]

def Explanation.slots : List (Slot Explanation) :=
  [.optional "title" stringMeaning fun a e => { e with title := a },
    .optional "explanations" (listMeaning stringMeaning) fun a e => { e with explanations := a }]

def Report.slots : List (Slot Report) :=
  [.optional "title" stringMeaning fun a r => { r with title := a },
    .optional "header" (recordMeaning Header.slots Header.record.empty) fun a r =>
      { r with header := a },
    .optional "messages" (listMeaning (recordMeaning Message.slots Message.record.empty))
      fun a r => { r with messages := a },
    .optional "targets" (listMeaning (recordMeaning Target.slots Target.record.empty))
      fun a r => { r with targets := a },
    .optional "explanations"
      (listMeaning (recordMeaning Explanation.slots Explanation.record.empty))
      fun a r => { r with explanations := a }]

def Report.meaning : Meaning Report := recordMeaning Report.slots Report.record.empty

theorem reads_header :
    Reads Header.record.read (recordMeaning Header.slots Header.record.empty) := by
  have h := fun name => @Slot.optional_describes Header _ _ _ Json.reads_string name
  exact Json.reads_record (.cons (h _ _) (.cons (h _ _) (.cons (h _ _) (.cons (h _ _) .nil))))

theorem reads_message :
    Reads Message.record.read (recordMeaning Message.slots Message.record.empty) :=
  Json.reads_record (.cons (Slot.optional_describes Json.reads_string _ _)
    (.cons (Slot.optional_describes (Json.reads_list Json.reads_string) _ _) .nil))

theorem reads_target :
    Reads Target.record.read (recordMeaning Target.slots Target.record.empty) := by
  have h := fun name => @Slot.optional_describes Target _ _ _ reads_cell name
  exact Json.reads_record (.cons (h _ _) (.cons (h _ _) (.cons (h _ _) (.cons (h _ _)
    (.cons (h _ _) (.cons (h _ _) (.cons (h _ _) (.cons (h _ _) (.cons (h _ _) .nil)))))))))

theorem reads_explanation :
    Reads Explanation.record.read (recordMeaning Explanation.slots Explanation.record.empty) :=
  Json.reads_record (.cons (Slot.optional_describes Json.reads_string _ _)
    (.cons (Slot.optional_describes (Json.reads_list Json.reads_string) _ _) .nil))

theorem reads_report : Reads Report.record.read Report.meaning :=
  Json.reads_record (.cons (Slot.optional_describes Json.reads_string _ _)
    (.cons (Slot.optional_describes reads_header _ _)
    (.cons (Slot.optional_describes (Json.reads_list reads_message) _ _)
    (.cons (Slot.optional_describes (Json.reads_list reads_target) _ _)
    (.cons (Slot.optional_describes (Json.reads_list reads_explanation) _ _) .nil)))))

theorem parse_ok_iff {text : String} {r : Report} :
    Report.parse text = .ok r ↔
      ∃ x, Report.meaning Json.depthLimit x = some r ∧ Spaced x.tokens text.toList :=
  Json.parseWith_ok_iff reads_report

/-! ### What shows -/

def Header.fields : List (String × Shape) :=
  [("buildServer", .text), ("jdkInfo", .text), ("serverInfo", .text),
    ("buildTargetDescription", .text)]

def Message.fields : List (String × Shape) :=
  [("title", .text), ("recommendations", .list .text)]

def Target.fields : List (String × Shape) :=
  [("buildTarget", .cell), ("targetType", .cell), ("compilationStatus", .cell),
    ("diagnostics", .cell), ("interactive", .cell), ("semanticdb", .cell), ("debugging", .cell),
    ("java", .cell), ("recommendation", .cell)]

def Explanation.fields : List (String × Shape) :=
  [("title", .text), ("explanations", .list .text)]

def Report.shape : Shape :=
  .record [("title", .text), ("header", .record Header.fields),
    ("messages", .list (.record Message.fields)), ("targets", .list (.record Target.fields)),
    ("explanations", .list (.record Explanation.fields))]

def Message.filled (m : Message) : Message :=
  { m with recommendations := some (m.recommendations.getD []) }

def Explanation.filled (e : Explanation) : Explanation :=
  { e with explanations := some (e.explanations.getD []) }

/-- A report with empty parts in place of those that are missing. -/
def Report.filled (r : Report) : Report where
  title := r.title
  header := some (r.header.getD Header.record.empty)
  messages := some ((r.messages.getD []).map Message.filled)
  targets := some (r.targets.getD [])
  explanations := some ((r.explanations.getD []).map Explanation.filled)

theorem Message.markdown_filled (m : Message) : m.filled.markdown = m.markdown := by
  simp [Message.markdown, Message.filled]

theorem Explanation.markdown_filled (e : Explanation) : e.filled.markdown = e.markdown := by
  simp [Explanation.markdown, Explanation.filled]

/-- Missing parts and empty parts show alike. -/
theorem Report.markdown_filled (r : Report) : r.filled.markdown = r.markdown := by
  have hm : Message.markdown ∘ Message.filled = Message.markdown := funext Message.markdown_filled
  have he : Explanation.markdown ∘ Explanation.filled = Explanation.markdown :=
    funext Explanation.markdown_filled
  have hh : Header.paragraphs (r.header.getD Header.record.empty) =
      (r.header.map Header.paragraphs).getD [] := by
    cases r.header <;> rfl
  simp [Report.markdown, Report.filled, hm, he, hh]

theorem Header.fits : Fits 0 id Header.record.empty Header.slots Header.fields where
  fit := by
    have h {name : String} {put : Option String → Header → Header}
        (he : put none Header.record.empty = Header.record.empty) :
        (Slot.optional name stringMeaning put).Fits 0 id Header.record.empty (name, .text) :=
      Json.text_fits (fun _ _ => rfl) he
    exact .cons (h rfl) (.cons (h rfl) (.cons (h rfl) (.cons (h rfl) .nil)))
  commute := by simp [Header.slots, Slot.optional_commute]

theorem Message.fits :
    Fits 2 Message.filled Message.record.empty Message.slots Message.fields where
  fit := .cons (Json.text_fits (fun _ _ => rfl) rfl) (.cons
    (@Json.list_fits _ 0 _ _ _ _ _ _ _ id Json.agrees_text (by simp [Message.filled]) rfl) .nil)
  commute := by simp [Message.slots, Slot.optional_commute]

theorem Target.fits : Fits 0 id Target.record.empty Target.slots Target.fields where
  fit := by
    have h {name : String} {put : Option Json.Value → Target → Target}
        (he : put none Target.record.empty = Target.record.empty) :
        (Slot.optional name cellMeaning put).Fits 0 id Target.record.empty (name, .cell) :=
      Json.cell_fits agrees_cellMeaning (fun _ _ => rfl) he
    exact .cons (h rfl) (.cons (h rfl) (.cons (h rfl) (.cons (h rfl) (.cons (h rfl)
      (.cons (h rfl) (.cons (h rfl) (.cons (h rfl) (.cons (h rfl) .nil))))))))
  commute := by simp [Target.slots, Slot.optional_commute]

theorem Explanation.fits :
    Fits 2 Explanation.filled Explanation.record.empty Explanation.slots Explanation.fields where
  fit := .cons (Json.text_fits (fun _ _ => rfl) rfl) (.cons
    (@Json.list_fits _ 0 _ _ _ _ _ _ _ id Json.agrees_text (by simp [Explanation.filled]) rfl)
    .nil)
  commute := by simp [Explanation.slots, Slot.optional_commute]

/-- Changes of a report's text do not show. -/
theorem agrees_report : Agrees 6 Report.shape Report.meaning Report.filled := by
  refine Json.agrees_record (n := 5) ⟨?_, by simp [Report.slots, Slot.optional_commute]⟩
  have hm := (Json.agrees_record Message.fits)
  have ht := (Json.agrees_record Target.fits).mono (show 1 ≤ 3 by decide)
  have he := (Json.agrees_record Explanation.fits)
  refine .cons ?_ (.cons ?_ (.cons ?_ (.cons ?_ (.cons ?_ .nil))))
  · exact Json.text_fits (fun _ _ => rfl) rfl
  · exact Json.record_fits (Header.fits.mono (show 0 ≤ 3 by decide)) (fun _ _ => rfl) rfl
  · exact Json.list_fits hm (fun _ _ => rfl) rfl
  · exact Json.list_fits ht (fun _ _ => by simp [Report.filled]) rfl
  · exact Json.list_fits he (fun _ _ => rfl) rfl

/-! ### Rendering -/

/-- A text that a report is read from has a syntax. Its Markdown is that of all texts whose syntax
comes of it by changes which do not show, with white space anywhere between the tokens. -/
theorem render_moves {s : String} {m : String} (h : render s = .ok m) :
    (∃ x : Tree, x.isJson = true ∧ Spaced x.tokens s.toList) ∧
      ∀ (x y : Tree) (t : String), x.isJson = true → Spaced x.tokens s.toList →
        Moves Report.shape x y → Spaced y.tokens t.toList → render t = .ok m := by
  obtain ⟨r, hr, hm⟩ : ∃ r, Report.parse s = .ok r ∧ r.markdown = m := by
    cases hp : Report.parse s with
    | error e => simp [render, hp, Except.map] at h
    | ok r => exact ⟨r, rfl, by simpa [render, hp, Except.map] using h⟩
  obtain ⟨z, hz, hzs⟩ := parse_ok_iff.mp hr
  have hj := reads_report.json hz
  refine ⟨⟨z, hj, hzs⟩, fun x y t hx hxs hxy hyt => ?_⟩
  have hf : Json.Follows [] := by simp [Json.Follows]
  have hmeet : Json.Meet (x.tokens ++ []) (z.tokens ++ []) :=
    ⟨s.toList, by simpa using hxs, by simpa using hzs⟩
  -- The syntax that is given is the one that was read, since a text has only one.
  obtain ⟨rfl, -⟩ := x.unique hx hj hf hf hmeet
  have hv := agrees_report.moves (show 6 ≤ Json.depthLimit by decide) hxy
  rw [hz] at hv
  obtain ⟨r', hr', hfill⟩ := Option.map_eq_some_iff.mp hv.symm
  have hp : Report.parse t = .ok r' := parse_ok_iff.mpr ⟨y, hr', hyt⟩
  have hmd : r'.markdown = m := by
    rw [← Report.markdown_filled, hfill, Report.markdown_filled, hm]
  simp [render, hp, Except.map, hmd]

/-! A report with a cell of two members, and the same report after changes that do not show. -/

/-- A string as it is written when none of its characters needs an escape. -/
def quoted (s : String) : List Char := '\x22' :: s.toList ++ ['\x22']

def sampleCell (isTurned : Bool) : List Char × Tree :=
  let a := (quoted "a", Tree.scalar ['n', 'u', 'l', 'l'])
  let b := (quoted "b", Tree.scalar ['1'])
  (quoted "java", .object (if isTurned then [a, b] else [b, a]))

/-- A member with a name that is unknown in a row of the table. -/
def sampleNote : List Char × Tree := (quoted "x", .array [.scalar ['0']])

def sampleTitle : List Char × Tree := (quoted "title", .scalar (quoted "T"))

def sampleTargets (row : List (List Char × Tree)) : List Char × Tree :=
  (quoted "targets", .array [.object row])

def sampleMessages : List Char × Tree := (quoted "messages", .array [])

def sampleTree : Tree := .object [sampleTitle, sampleTargets [sampleCell false]]

def turnedTree : Tree :=
  .object [sampleMessages, sampleTargets [sampleNote, sampleCell true], sampleTitle]

def sampleText : String :=
  "\x7b\"title\":\"T\",\"targets\":[\x7b\"java\":\x7b\"b\":1,\"a\":null\x7d\x7d]\x7d"

/-- The text of the report after the changes, with white space. -/
def turnedText : String :=
  " \x7b\"messages\" : [],\n\"targets\":[\x7b\"x\":[0]," ++
    "\"java\":\x7b\"a\":null,\"b\":1\x7d\x7d],\"title\":\"T\"\x7d\n"

theorem sample_moves : Moves Report.shape sampleTree turnedTree := by
  have hrow {row row' : List (List Char × Tree)}
      (h : Json.Move (.record Target.fields) (.object row) (.object row')) :
      Moves Report.shape (.object [sampleTitle, sampleTargets row])
        (.object [sampleTitle, sampleTargets row']) :=
    .rel _ _ (@Json.Move.member _ _ [_] [] _ "targets" _ _ rfl rfl
      (@Json.Move.item _ _ [] [] _ _ rfl h))
  have hcell : Json.Move (.record Target.fields) (.object [sampleCell false])
      (.object [sampleCell true]) :=
    @Json.Move.member _ .cell [] [] _ "java" _ _ rfl rfl (.permute (.swap _ _ _) (by decide))
  have hnote : Json.Move (.record Target.fields) (.object [sampleCell true])
      (.object [sampleNote, sampleCell true]) :=
    @Json.Move.unknown _ [] _ _ "x" _ rfl rfl rfl
  have hmessages : Moves Report.shape
      (.object [sampleTitle, sampleTargets [sampleNote, sampleCell true]])
      (.object [sampleMessages, sampleTitle, sampleTargets [sampleNote, sampleCell true]]) :=
    .rel _ _ (@Json.Move.missing _ [] _ _ "messages" _ _ rfl rfl (by decide) .array)
  have hturn : Moves Report.shape
      (.object [sampleMessages, sampleTitle, sampleTargets [sampleNote, sampleCell true]])
      turnedTree :=
    .rel _ _ (.permute (.cons _ (.swap _ _ _)) (by decide))
  exact ((hrow hcell).trans _ _ _ (hrow hnote)).trans _ _ _ (hmessages.trans _ _ _ hturn)

theorem sample_spaced : Spaced sampleTree.tokens sampleText.toList :=
  Json.spaced_of_isSpacedText (by decide +kernel)

theorem turned_spaced : Spaced turnedTree.tokens turnedText.toList :=
  Json.spaced_of_isSpacedText (by decide +kernel)

def sampleReport : Report where
  title := some "T"
  header := none
  messages := none
  targets := some [{ Target.record.empty with
    java := some (.object [("a", .null), ("b", .number (.integer 1))]) }]
  explanations := none

theorem parse_sample : Report.parse sampleText = .ok sampleReport :=
  parse_ok_iff.mpr ⟨sampleTree, by rfl, sample_spaced⟩

theorem render_turned :
    render sampleText = .ok sampleReport.markdown ∧
      render turnedText = .ok sampleReport.markdown := by
  have h : render sampleText = .ok sampleReport.markdown := by
    simp [render, parse_sample, Except.map]
  exact ⟨h, (render_moves h).2 sampleTree turnedTree turnedText (by rfl) sample_spaced
    sample_moves turned_spaced⟩

end EditorBridge.Doctor

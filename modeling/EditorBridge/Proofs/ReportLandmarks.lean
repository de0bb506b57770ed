import EditorBridge.Proofs.Landmarks
import EditorBridge.Proofs.TargetsDocument

/-!
The landmarks of a report. A report is written with a heading for its title and for each message,
items for the recommendations and the lines of explanations, and a section with the table of build
targets. As long as every text is a paragraph where it stands, these are the landmarks of the
report's document, in this order; but texts are not escaped, so others leave their place.
-/

namespace EditorBridge.Doctor

open Markdown

def Message.written (m : Message) : List Written :=
  .heading 3 (m.title.getD "") :: (m.recommendations.getD []).map .item

def writtenTargets (targets : List Doctor.Target) : List Written :=
  if targets.isEmpty then []
  else [.heading 2 "Build Targets",
    .code (Table.render columns (targets.map Target.cells) ++ "\n")]

def Explanation.written (e : Explanation) : List Written := (e.explanations.getD []).map .item

def Report.written (r : Report) : List Written :=
  .heading 1 (r.title.getD "") :: (r.messages.getD []).flatMap Message.written ++
    writtenTargets (r.targets.getD []) ++ (r.explanations.getD []).flatMap Explanation.written

/-- The text of a report stays in its place: the landmarks of the report's document are those that
it is written with, and no others. -/
def StaysInPlace (r : Report) : Prop := Shows (Markdown.parse r.markdown) r.written

instance : DecidablePred StaysInPlace :=
  fun r => inferInstanceAs (Decidable (Shows (Markdown.parse r.markdown) r.written))

/-! ### Texts that are taken as they are -/

/-- A text of lines that begin no block, or nothing. -/
def IsParagraph (s : String) : Prop := s = "" ∨ IsProse s.toList

def IsItemText (s : String) : Prop :=
  IsParagraph s ∧ thematicBreak? ('*' :: ' ' :: s.toList) = none

instance : DecidablePred IsParagraph :=
  fun s => inferInstanceAs (Decidable (s = "" ∨ IsProse s.toList))

instance : DecidablePred IsItemText := fun s =>
  inferInstanceAs (Decidable (IsParagraph s ∧ thematicBreak? ('*' :: ' ' :: s.toList) = none))

/-- A report of titles that are one line and texts that are paragraphs. -/
structure Report.IsPlain (r : Report) : Prop where
  title : IsLine (r.title.getD "").toList
  header : ∀ s ∈ (r.header.map Header.paragraphs).getD [], IsParagraph s
  messages : ∀ m ∈ r.messages.getD [], IsLine (m.title.getD "").toList ∧
    ∀ s ∈ m.recommendations.getD [], IsItemText s
  explanations : ∀ e ∈ r.explanations.getD [], IsParagraph (e.title.getD "") ∧
    ∀ s ∈ e.explanations.getD [], IsItemText s

/-! ### The parts of a report -/

theorem passes_title {s : String} (h : IsLine s.toList) (rest : List Char) :
    Passes ('#' :: ' ' :: (s.toList ++ '\n' :: '\n' :: rest)) rest [.heading 1 s] :=
  (Passes.heading ⟨_, rfl⟩ rfl rfl h).trans (.blank rest)

theorem passes_paragraph {s : String} (h : IsParagraph s) (rest : List Char) :
    Passes (s.toList ++ '\n' :: '\n' :: rest) rest [] := by
  obtain rfl | hs := h
  · exact (Passes.blank _).trans (.blank rest)
  · exact (Passes.paragraph hs rest).trans (.blank rest)

theorem passes_item {s : String} (h : IsItemText s) {rest : List Char}
    (he : EndsText [.item 2] rest) :
    Passes ('*' :: ' ' :: (s.toList ++ '\n' :: rest)) rest [.item s] := by
  obtain ⟨rfl | hs, hb⟩ := h
  · exact .emptyItem rest
  · have hk := isSome_thematicBreak_newline ('*' :: ' ' :: s.toList) rest
    rw [hb, Option.isSome_none, Option.isSome_eq_false_iff, Option.isNone_iff_eq_none] at hk
    exact .item hs he hk

theorem toList_bullets_cons (s : String) (items : List String) :
    (bullets (s :: items)).toList = '*' :: ' ' :: (s.toList ++ '\n' :: (bullets items).toList) := by
  simp [bullets]

theorem passes_bullets {items : List String} (h : ∀ s ∈ items, IsItemText s) (rest : List Char) :
    Passes ((bullets items).toList ++ rest) rest (items.map .item) := by
  induction items with
  | nil => exact .blank rest
  | cons s items ih =>
    obtain ⟨hs, hi⟩ := List.forall_mem_cons.mp h
    have he : EndsText [.item 2] ((bullets items).toList ++ rest) := by
      cases items with
      | nil => exact .blank _ rest
      | cons next items =>
        rw [toList_bullets_cons]
        exact .item _
    rw [toList_bullets_cons, List.cons_append, List.cons_append, List.append_assoc,
      List.cons_append]
    exact (passes_item hs he).trans (ih hi)

theorem passes_targets (targets : List Doctor.Target) (rest : List Char) :
    Passes ((targetSection targets).toList ++ rest) rest (writtenTargets targets) := by
  cases targets with
  | nil => exact .refl rest
  | cons first others =>
    let table := Table.render columns ((first :: others).map Target.cells)
    obtain ⟨lines, hn, hg, ht⟩ := Table.render_eq_lines columns ((first :: others).map Target.cells)
    have hk : codeText lines = table.toList ++ ['\n'] := by
      rw [codeText, ← Text.joinWith_newline hn, ← ht]
    have hc : String.ofList (codeText lines) = table ++ "\n" := by
      rw [hk]
      simp
    have hs : (targetSection (first :: others)).toList ++ rest = '#' :: '#' :: ' ' ::
        ("Build Targets".toList ++ '\n' ::
          (fence ++ '\n' :: (codeText lines ++ (fence ++ '\n' :: '\n' :: rest)))) := by
      simp [targetSection, hk, table, fence]
    have hl : IsLine "Build Targets".toList := by decide +kernel
    have hp := Passes.code (fun line hm => isCodeLine_of_isGridLine (hg line hm)) hn ('\n' :: rest)
    rw [hc] at hp
    rw [hs]
    exact (Passes.heading ⟨_, rfl⟩ rfl rfl hl).trans (hp.trans (.blank rest))

theorem passes_message {m : Message} (ht : IsLine (m.title.getD "").toList)
    (hi : ∀ s ∈ m.recommendations.getD [], IsItemText s) (rest : List Char) :
    Passes (m.markdown.toList ++ rest) rest m.written := by
  have hs : m.markdown.toList ++ rest = '#' :: '#' :: '#' :: ' ' :: ((m.title.getD "").toList ++
      '\n' :: ((bullets (m.recommendations.getD [])).toList ++ rest)) := by
    simp [Message.markdown]
  rw [hs]
  exact (Passes.heading ⟨_, rfl⟩ rfl rfl ht).trans (passes_bullets hi rest)

theorem passes_explanation {e : Explanation} (ht : IsParagraph (e.title.getD ""))
    (hi : ∀ s ∈ e.explanations.getD [], IsItemText s) (rest : List Char) :
    Passes (e.markdown.toList ++ rest) rest e.written := by
  have hp := passes_paragraph ht ((bullets (e.explanations.getD [])).toList ++ rest)
  have hs : e.markdown.toList ++ rest = (e.title.getD "").toList ++
      '\n' :: '\n' :: ((bullets (e.explanations.getD [])).toList ++ rest) := by
    simp [Explanation.markdown]
  rw [hs]
  exact hp.trans (passes_bullets hi rest)

theorem passes_join {α : Type} {f : α → String} {g : α → List Written} {l : List α}
    (h : ∀ a ∈ l, ∀ rest, Passes ((f a).toList ++ rest) rest (g a)) (rest : List Char) :
    Passes ((String.join (l.map f)).toList ++ rest) rest (l.flatMap g) := by
  induction l with
  | nil => exact .refl rest
  | cons a l ih =>
    obtain ⟨ha, hl⟩ := List.forall_mem_cons.mp h
    have hs : (String.join ((a :: l).map f)).toList ++ rest =
        (f a).toList ++ ((String.join (l.map f)).toList ++ rest) := by
      simp
    rw [hs]
    exact (ha _).trans (ih hl)

theorem passes_header {texts : List String} (h : ∀ s ∈ texts, IsParagraph s) (rest : List Char) :
    Passes ((String.join (texts.map fun s => s ++ "\n\n")).toList ++ rest) rest [] := by
  have hp : ∀ s ∈ texts, ∀ rest, Passes ((s ++ "\n\n").toList ++ rest) rest [] := by
    intro s hs rest
    simpa using passes_paragraph (h s hs) rest
  have hn : texts.flatMap (fun _ => ([] : List Written)) = [] :=
    List.flatMap_eq_nil_iff.mpr fun _ _ => rfl
  rw [← hn]
  exact passes_join hp rest

/-- A report of plain texts is passed section by section. -/
theorem passes_report {r : Report} (h : r.IsPlain) : Passes r.markdown.toList [] r.written := by
  have header (rest : List Char) := passes_header h.header rest
  have messages (rest : List Char) := passes_join (fun m hm rest =>
    passes_message (h.messages m hm).1 (h.messages m hm).2 rest) rest
  have targets (rest : List Char) := passes_targets (r.targets.getD []) rest
  have explanations (rest : List Char) := passes_join (fun e he rest =>
    passes_explanation (h.explanations e he).1 (h.explanations e he).2 rest) rest
  have hr := (passes_title h.title _).trans
    ((header _).trans ((messages _).trans ((targets _).trans (explanations []))))
  simpa [Report.markdown, Report.written] using hr

/-- The text of a report of plain texts stays in its place. -/
theorem staysInPlace_of_isPlain (r : Report) (h : r.IsPlain) : StaysInPlace r :=
  (passes_report h).shows

/-- A report of texts full of signs of Markdown, none of which begins a block where it stands. -/
def markedReport : Report where
  title := some "# </h1> * \x60\x60\x60"
  header := some ⟨some "sbt <b>1.10</b>\n*with* \x60\x60\x60\n-Xmx4g", some "", none,
    some "2.13 > 2.12"⟩
  messages := some [⟨some "1. \x60a - b", some ["#import\nthen <!-- wait", "", "\x60x\x60 # y"]⟩,
    ⟨none, none⟩]
  targets := none
  explanations := some [⟨some "**Legend**\n1.5 * 2", some ["x [y]: z", "+1\n_ok_"]⟩]

theorem staysInPlace_markedReport : markedReport.IsPlain ∧ StaysInPlace markedReport := by
  have h : markedReport.IsPlain :=
    ⟨by decide +kernel, by decide +kernel, by decide +kernel, by decide +kernel⟩
  exact ⟨h, staysInPlace_of_isPlain markedReport h⟩

/-- Other texts leave their place. A header begins a heading of its own, or swallows the messages
below it; so do a title, a recommendation, and the title and the lines of an explanation. -/
theorem not_staysInPlace_hostile :
    let r : Report := ⟨none, none, none, none, none⟩
    ¬StaysInPlace { r with title := some "T", header := some ⟨some "# sbt", none, none, none⟩ } ∧
    ¬StaysInPlace { r with
      header := some ⟨some "<!--", none, none, none⟩, messages := some [⟨some "m", some ["a"]⟩] } ∧
    ¬StaysInPlace { r with title := some "T\n\n### m" } ∧
    ¬StaysInPlace { r with messages := some [⟨some "m\n* a", none⟩] } ∧
    ¬StaysInPlace { r with messages := some [⟨some "m", some ["- a"]⟩] } ∧
    ¬StaysInPlace { r with explanations := some [⟨some "e\n---", some ["a"]⟩] } ∧
    ¬StaysInPlace { r with explanations := some [⟨none, some ["a\n\n\x60\x60\x60", "b"]⟩] } := by
  simp only [StaysInPlace, Markdown.parse]
  simp [Report.markdown, Header.paragraphs, Message.markdown, Explanation.markdown, bullets,
    targetSection]
  decide +kernel

end EditorBridge.Doctor

import EditorBridge.Doctor.Document
import EditorBridge.Proofs.BareText
import EditorBridge.Proofs.CompactJson
import EditorBridge.Proofs.MarkupText
import EditorBridge.Proofs.TableGrid

/-!
The table of build targets in a document. Whatever the cells of a table hold, the report in which it
stands is a heading, the heading of the table and one block of code whose text is the table; and the
table is seen as it is in the markup of the report.
-/

namespace EditorBridge.Markdown

/-- The title of the table is one text. -/
theorem numberSignHeading_title (rest : List Char) :
    let start := '#' :: '#' :: ' ' :: ("Build Targets".toList ++ '\n' :: rest)
    (numberSignHeading 2 start).1 = .ofPieces (.heading 2) start rest
      [⟨start.drop 3, '\n' :: rest, .text⟩] :=
  numberSignHeading_bare (s := "Build Targets".toList) (by decide +kernel) rfl

/-- The blocks of a report that has a table of lines of code alone: two headings and the table. -/
theorem ofText_targets {title : List Char} (ht : ∀ c ∈ title, isLineEnd c = false)
    {lines : List (List Char)} (hl : ∀ line ∈ lines, IsCodeLine '\x60' line) (hs : lines ≠ []) :
    let tail := fence ++ ['\n', '\n']
    let text := codeText lines ++ tail
    let code := fence ++ '\n' :: text
    let below := '#' :: '#' :: ' ' :: ("Build Targets".toList ++ '\n' :: code)
    let start := '#' :: ' ' :: (title ++ '\n' :: '\n' :: below)
    Outline.ofText start = .flat [(numberSignHeading 1 start).1, (numberSignHeading 2 below).1,
      .ofPieces (.code (some [])) code ['\n', '\n'] [⟨text, tail, .text⟩]] := by
  intro tail text code below start
  have ha : (Outline.flat []).readBlock start =
      (.flat [(numberSignHeading 1 start).1], '\n' :: below) := by
    rw [Outline.readBlock_flat (by decide), @Outline.addBlock_heading _ 1 ⟨_, rfl⟩ rfl,
      numberSignHeading_next ht rfl]
    rfl
  have hb (blocks : List Block) : (Outline.flat blocks).readBlock below =
      (.flat (blocks ++ [(numberSignHeading 2 below).1]), code) := by
    have hl : ∀ c ∈ "Build Targets".toList, isLineEnd c = false := by simp [isLineEnd]
    have hn : (numberSignHeading 2 below).2 = code := numberSignHeading_next hl rfl
    have he : below = '#' :: below.tail := rfl
    have hf := @Outline.addBlock_heading below 2 ⟨_, he⟩ rfl blocks
    rw [hn] at hf
    rw [he, Outline.readBlock_flat (by decide), ← he, hf]
  have hc (blocks : List Block) : (Outline.flat blocks).readBlock code =
      (.flat (blocks ++ [.ofPieces (.code (some [])) code ['\n', '\n'] [⟨text, tail, .text⟩]]),
        ['\n']) := by
    have he : code = '\x60' :: code.tail := rfl
    have hf := Outline.addBlock_fence text blocks
    rw [fencedCode_lines hl hs ['\n']] at hf
    rw [he, Outline.readBlock_flat (by decide), ← he]
    exact hf
  have hn : ∃ n, start.length = n + 5 := by
    refine ⟨start.length - 5, ?_⟩
    simp only [start, below, List.length_cons, List.length_append]
    omega
  obtain ⟨n, hn⟩ := hn
  have hr : Outline.readBlocks (start.length + 1) start .empty = .flat [(numberSignHeading 1 start).1,
      (numberSignHeading 2 below).1,
      .ofPieces (.code (some [])) code ['\n', '\n'] [⟨text, tail, .text⟩]] := by
    rw [hn, show Outline.empty = .flat [] from rfl, Outline.readBlocks_step (by simp [start]) ha,
      Outline.readBlocks_step (by simp) (Outline.readBlock_blank below _),
      Outline.readBlocks_step (by simp [below]) (hb _),
      Outline.readBlocks_step (by simp [code]) (hc _),
      Outline.readBlocks_step (by simp) (Outline.readBlock_blank [] _)]
    cases n <;> rfl
  simp only [Outline.ofText, hr]
  rfl

/-- A report that has a table of lines of code alone: two headings and the table. -/
theorem nodesOf_targets {title : List Char} (ht : ∀ c ∈ title, isLineEnd c = false)
    {lines : List (List Char)} (hl : ∀ line ∈ lines, IsCodeLine '\x60' line) (hs : lines ≠ []) :
    ∃ heading, InlineOnly heading ∧
      nodesOf ('#' :: ' ' :: (title ++ '\n' :: '\n' :: '#' :: '#' :: ' ' ::
        ("Build Targets".toList ++ '\n' ::
          (fence ++ '\n' :: (codeText lines ++ (fence ++ ['\n', '\n'])))))) =
        [.element (.heading 1) heading, .element (.heading 2) [.text "Build Targets"],
          .element (.codeBlock (some "")) [.text (String.ofList (codeText lines))]] := by
  have ho := ofText_targets ht hl hs
  simp only at ho
  generalize '#' :: ' ' :: (title ++ '\n' :: '\n' :: '#' :: '#' :: ' ' ::
    ("Build Targets".toList ++ '\n' ::
      (fence ++ '\n' :: (codeText lines ++ (fence ++ ['\n', '\n']))))) = start at ho ⊢
  obtain ⟨pieces, hp, he⟩ := numberSignHeading_eq 1 start
  refine ⟨inlines ⟨[], [], (numberSignHeading 1 start).2⟩ pieces, inlineOnly_inlines _ hp, ?_⟩
  rw [nodesOf, ho, he, numberSignHeading_title]
  apply inlines_nodes
  simp only [Outline.flat, resolveAll, List.map_cons, List.map_nil, resolve_ofPieces, inlines_text,
    between_append]
  rw [List.drop_succ_cons, List.drop_succ_cons, List.drop_succ_cons, List.drop_zero, between_append]
  rfl

end EditorBridge.Markdown

namespace EditorBridge.Text

/-- A text without white space at its ends is inside what is left when white space at both ends is
left out. -/
theorem infix_of_blank_ends {front mid back x t y : List Char} {c d : Char} {s u : List Char}
    (hf : ∀ c ∈ front, isBlank c) (hb : ∀ c ∈ back, isBlank c)
    (hs : t = c :: s ∧ isBlank c = false) (hu : t = u ++ [d] ∧ isBlank d = false)
    (h : front ++ mid ++ back = x ++ t ++ y) : t <:+: mid := by
  have hm : ∃ a, mid ++ back = a ++ (t ++ y) := by
    rw [List.append_assoc, List.append_assoc] at h
    obtain ⟨a, -, ha⟩ | ⟨a, ha, hr⟩ := List.append_eq_append_iff.mp h
    · exact ⟨a, ha⟩
    · cases a with
      | nil => exact ⟨[], by simpa using hr.symm⟩
      | cons e a =>
        obtain ⟨rfl, -⟩ : c = e ∧ s ++ y = a ++ (mid ++ back) := by simpa [hs.1] using hr
        exact absurd (hf c (by simp [ha])) (by simp [hs.2])
  obtain ⟨a, ha⟩ := hm
  rw [← List.append_assoc] at ha
  obtain ⟨b, hr, hk⟩ | ⟨b, hr, -⟩ := List.append_eq_append_iff.mp ha
  · obtain rfl | ⟨b, e, rfl⟩ := List.eq_nil_or_concat b
    · exact ⟨a, [], by simpa using hr⟩
    · rw [hu.1, List.concat_eq_append, ← List.append_assoc, ← List.append_assoc,
        List.append_singleton_inj] at hr
      exact absurd (hb d (by simp [hk, hr.2])) (by simp [hu.2])
  · exact ⟨a, b, hr.symm⟩

end EditorBridge.Text

namespace EditorBridge.Markup

open Markdown

/-- A text of a document is seen as it is. -/
theorem infix_layoutFrom {events : List Event} {s : String} (h : .text s ∈ events) (ctx : Context) :
    s.toList <:+: layoutFrom ctx events := by
  induction events generalizing ctx with
  | nil => simp at h
  | cons event rest ih =>
    obtain rfl | h := List.mem_cons.mp h
    · exact ⟨marks ctx (.text s), layoutFrom (read ctx (.text s)).1 rest, rfl⟩
    · exact (ih h _).trans (List.suffix_append _ _).isInfix

/-- A document that ends with a block of code ends with a tag. -/
theorem not_endsInLookalike_code (events : List Event) (info : Option String) :
    ¬EndsInLookalike (events ++ [.leave (.codeBlock info)]) := by
  rintro ⟨front, h⟩
  have hr : ∃ f : Face, rendered (events ++ [.leave (.codeBlock info)]) =
      tokensOf (spansFrom .start events) ++ [.tag f.name.toList] :=
    ⟨_, by rw [rendered, spansOf, spansFrom_append, tokensOf, List.flatMap_append]; rfl⟩
  obtain ⟨f, hr⟩ := hr
  rw [hr, lookalike, List.map_append, List.map_singleton, ← List.cons_append, ← List.append_assoc,
    List.append_singleton_inj] at h
  exact absurd h.2 (by simp)

/-- A text that a document ends with between the tags of a block of code is seen as it is, unless
it has white space at its ends. -/
theorem infix_visible_code {events : List Event} {info : Option String} {s : String}
    {t : List Char} (hs : t <:+: s.toList) {c d : Char} {u v : List Char}
    (hc : t = c :: u ∧ Text.isBlank c = false) (hd : t = v ++ [d] ∧ Text.isBlank d = false)
    (he : .text s ∈ events) :
    ∃ tokens, tokens? (ofEvents (events ++ [.leave (.codeBlock info)])) = some tokens ∧
      t <:+: tokens.flatMap Token.visible := by
  obtain ⟨front, mid, back, hr, hf, hb, ht⟩ :=
    tokens_ofEvents (not_endsInLookalike_code events info)
  refine ⟨mid, ht, ?_⟩
  have hv := visible_rendered (events ++ [.leave (.codeBlock info)])
  rw [hr, List.flatMap_append, List.flatMap_append] at hv
  obtain ⟨x, y, hx⟩ := hs.trans (infix_layoutFrom (List.mem_append_left _ he) .start)
  exact Text.infix_of_blank_ends (visible_of_isBlank hf) hb.visible hc hd (hv.trans hx.symm)

end EditorBridge.Markup

namespace EditorBridge.Doctor

/-- The text of a cell: that of a string, none where a value is missing or `null`, and the compact
JSON text of any other value. -/
inductive IsCellText : Option Json.Value → String → Prop
  | missing : IsCellText none ""
  | null : IsCellText (some .null) ""
  | string (s : String) : IsCellText (some (.string s)) s
  | other {value : Json.Value} {text : String} : value ≠ .null → (∀ s, value ≠ .string s) →
      Json.IsCompact value text.toList → IsCellText (some value) text

theorem isCellText_other {value : Json.Value} (hn : value ≠ .null) (hs : ∀ s, value ≠ .string s) :
    IsCellText (some value) value.text := by
  refine .other hn hs ?_
  rw [Json.Value.text, String.toList_ofList]
  exact Json.isCompact_printValue value

theorem isCellText_cellText (cell : Option Json.Value) : IsCellText cell (cellText cell) := by
  match cell with
  | none => exact .missing
  | some .null => exact .null
  | some (.string s) => exact .string s
  | some (.bool _) | some (.number _) | some (.array _) | some (.object _) =>
    exact isCellText_other (by simp) (by simp)

/-- The fields of a target, each under the title of its column. -/
def Target.labelled (t : Target) : List (String × Option Json.Value) :=
  [("Build Target", t.buildTarget), ("Type", t.targetType),
    ("Compilation status", t.compilationStatus), ("Diagnostics", t.diagnostics),
    ("Interactive", t.interactive), ("SemanticDB", t.semanticdb), ("Debugging", t.debugging),
    ("Java Support", t.java), ("Recommendation", t.recommendation)]

def IsRowOf (t : Target) (row : List String) : Prop :=
  List.Forall₂ (fun field text => IsCellText field.2 text) t.labelled row

theorem isRowOf_cells (t : Target) : IsRowOf t t.cells := by
  have hc : t.cells = t.labelled.map fun field => cellText field.2 := rfl
  rw [IsRowOf, hc, List.forall₂_map_right_iff, List.forall₂_same]
  exact fun field _ => isCellText_cellText field.2

open Markdown Markup

/-- The signs of a table's lines are none of a block of code. -/
theorem isCodeLine_of_isGridLine {line : List Char} (h : Table.IsGridLine line) :
    IsCodeLine '\x60' line := by
  obtain ⟨⟨c, rest, hc, hs⟩, ⟨front, d, hd, he⟩, hw⟩ := h
  refine ⟨⟨c, rest, hc, ?_⟩, ?_, hw⟩
  · obtain rfl | rfl := hs <;> decide
  · rw [hd, List.getLast?_concat]
    obtain rfl | rfl := he <;> decide

/-- The text of a report that has a title and a table alone. -/
theorem markdown_targets (title : Option String) (first : Target) (others : List Target)
    {lines : List (List Char)}
    (hl : codeText lines =
      (Table.render columns ((first :: others).map Target.cells)).toList ++ ['\n']) :
    (Report.mk title none none (some (first :: others)) none).markdown.toList =
      '#' :: ' ' :: ((title.getD "").toList ++ '\n' :: '\n' :: '#' :: '#' :: ' ' ::
        ("Build Targets".toList ++ '\n' ::
          (fence ++ '\n' :: (codeText lines ++ (fence ++ ['\n', '\n']))))) := by
  simp [Report.markdown, targetSection, hl, fence]

/-- A table is seen as it is in the markup of a document that ends with it. -/
theorem infix_markup_table (nodes : List Node) (table : String) {c d : Char} {u v : List Char}
    (hc : table.toList = c :: u ∧ Text.isBlank c = false)
    (hd : table.toList = v ++ [d] ∧ Text.isBlank d = false) :
    ∃ tokens,
      tokens? (ofEvents (eventsOf
        (nodes ++ [.element (.codeBlock (some "")) [.text (table ++ "\n")]]))) = some tokens ∧
      table.toList <:+: tokens.flatMap Token.visible := by
  have hi : table.toList <:+: (table ++ "\n").toList := by
    rw [String.toList_append]
    exact (List.prefix_append _ _).isInfix
  have he : eventsOf (nodes ++ [.element (.codeBlock (some "")) [.text (table ++ "\n")]]) =
      (eventsOf nodes ++ [.enter (.codeBlock (some "")), .text (table ++ "\n")]) ++
        [.leave (.codeBlock (some ""))] := by
    simp [Node.events]
  rw [he]
  exact infix_visible_code hi hc hd (by simp)

/-- Whatever the cells of a table of build targets hold, a report that has a title of one line and
the table alone is a heading, the heading of the table and one block of code with the table; and
the table is seen as it is in the markup of the report. The rows of the table show the targets, field
by field under the titles of the columns. -/
theorem parse_targets (title : Option String) (first : Target) (others : List Target)
    (h : ∀ s, title = some s → '\n' ∉ s.toList ∧ '\r' ∉ s.toList) :
    let report : Report := ⟨title, none, none, some (first :: others), none⟩
    ∃ rows, List.Forall₂ IsRowOf (first :: others) rows ∧
      let table := Table.render (first.labelled.map Prod.fst) rows
      (∃ heading, InlineOnly heading ∧ Markdown.parse report.markdown =
        [.element (.heading 1) heading, .element (.heading 2) [.text "Build Targets"],
          .element (.codeBlock (some "")) [.text (table ++ "\n")]]) ∧
      ∃ tokens, tokens? (Markup.ofMarkdown report.markdown).toList = some tokens ∧
        table.toList <:+: tokens.flatMap Token.visible := by
  intro report
  have hs : List.Forall₂ IsRowOf (first :: others) ((first :: others).map Target.cells) := by
    rw [List.forall₂_map_right_iff, List.forall₂_same]
    exact fun t _ => isRowOf_cells t
  refine ⟨_, hs, ?_⟩
  intro table
  obtain ⟨lines, hn, hg, ht⟩ := Table.render_eq_lines columns ((first :: others).map Target.cells)
  have hl : ∀ c ∈ (title.getD "").toList, isLineEnd c = false := by
    intro c hc
    cases title with
    | none => simp at hc
    | some s =>
      obtain ⟨hf, hr⟩ := h s rfl
      have hf : c ≠ '\n' := fun he => hf (he ▸ hc)
      have hr : c ≠ '\r' := fun he => hr (he ▸ hc)
      simp [isLineEnd, hf, hr]
  have hk : codeText lines = table.toList ++ ['\n'] := by
    rw [codeText, ← Text.joinWith_newline hn, ← ht]
    rfl
  have hc : String.ofList (codeText lines) = table ++ "\n" := by
    rw [hk]
    simp
  obtain ⟨heading, hi, hp⟩ :=
    nodesOf_targets hl (fun line hm => isCodeLine_of_isGridLine (hg line hm)) hn
  rw [hc, ← markdown_targets title first others hk, ← Markdown.parse] at hp
  refine ⟨⟨heading, hi, hp⟩, ?_⟩
  obtain ⟨⟨c, u, hc, hs⟩, v, d, hd, he⟩ := Table.joinWith_ends hn hg
  rw [← ht] at hc hd
  have hb : Text.isBlank c = false ∧ Text.isBlank d = false := by
    obtain rfl | rfl := hs <;> obtain rfl | rfl := he <;> decide
  rw [Markup.ofMarkdown, hp, String.toList_ofList]
  exact infix_markup_table [.element (.heading 1) heading,
    .element (.heading 2) [.text "Build Targets"]] table ⟨hc, hb.1⟩ ⟨hd, hb.2⟩

/-- A row whose cells look like the end of the block they stand in. -/
def hostileTarget : Target where
  buildTarget := some (.string "root\n\x60\x60\x60\n# x")
  targetType := some (.string "\x60\x60\x60\r\n")
  compilationStatus := some .null
  diagnostics := some (.object [("a|b", .array [.bool true])])
  interactive := none
  semanticdb := none
  debugging := none
  java := none
  recommendation := some (.string "</code>\r\x7bInfoDefault\x7d\\")

/-- The fences in the cells do not end the block of the table. -/
theorem parse_hostile_targets :
    let report : Report := ⟨some "It's \x60ok", none, none, some [hostileTarget], none⟩
    ('\n' ∉ "It's \x60ok".toList ∧ '\r' ∉ "It's \x60ok".toList) ∧
    ∃ rows, List.Forall₂ IsRowOf [hostileTarget] rows ∧
      let table := Table.render (hostileTarget.labelled.map Prod.fst) rows
      (∃ heading, InlineOnly heading ∧ Markdown.parse report.markdown =
        [.element (.heading 1) heading, .element (.heading 2) [.text "Build Targets"],
          .element (.codeBlock (some "")) [.text (table ++ "\n")]]) ∧
      ∃ tokens, tokens? (Markup.ofMarkdown report.markdown).toList = some tokens ∧
        table.toList <:+: tokens.flatMap Token.visible := by
  intro report
  have ht : '\n' ∉ "It's \x60ok".toList ∧ '\r' ∉ "It's \x60ok".toList := by decide
  refine ⟨ht, parse_targets (some "It's \x60ok") hostileTarget [] ?_⟩
  intro s hs
  exact Option.some.inj hs ▸ ht

end EditorBridge.Doctor

import EditorBridge.Markup.Span
import EditorBridge.Proofs.TextReplace
import EditorBridge.Text.Blank

/-!
Reading markup. Two backslashes stand for one, a backslash before an opening brace stands for the
brace, and any other opening brace begins a face tag that runs to the next closing brace. A span is
written as tokens of which each is read as it was: no character of a text becomes a part of a tag.
-/

namespace EditorBridge.Markup

/-- A text is escaped in one go, as it is by doubling its backslashes first and then writing one
before each opening brace. -/
theorem escapeAll_in_turn (s : List Char) :
    escapeAll s = Text.replaceAll ['\x7b'] ['\\', '\x7b']
      (Text.replaceAll ['\\'] ['\\', '\\'] s) := by
  let table := [('\\', ['\\', '\\']), ('\x7b', ['\\', '\x7b'])]
  have ht : table.Pairwise fun entry later => later.1 ∉ entry.2 := by decide
  have hc : escapeChar = Text.standIn table := by
    funext c
    simp [escapeChar, table]
  rw [escapeAll, hc]
  exact (Text.foldl_replaceAll_characters ht s).symm

inductive Token where
  /-- A face tag, with what stands between its braces. -/
  | tag (inside : List Char)
  /-- A character that has a backslash before it. -/
  | escaped (c : Char)
  | plain (c : Char)
  deriving DecidableEq, Repr

namespace Token

def written : Token → List Char
  | tag inside => tagOf inside
  | escaped c => ['\\', c]
  | plain c => [c]

def visible : Token → List Char
  | tag _ => []
  | escaped c => [c]
  | plain c => [c]

def inside? : Token → Option (List Char)
  | tag inside => some inside
  | _ => none

def isBlank : Token → Bool
  | plain c => Text.isBlank c
  | _ => false

/-- The characters of a token in markup, each with the tag that it is a part of. -/
def labelled (t : Token) : List (Char × Option (List Char)) := t.written.map (·, t.inside?)

/-- Whether a token in markup is read as that token, whatever follows it. -/
def IsRegular : Token → Prop
  | tag inside => '\x7b' ∉ inside ∧ '\x7d' ∉ inside
  | escaped c => c = '\\' ∨ c = '\x7b'
  | plain c => c ≠ '\\' ∧ c ≠ '\x7b'

theorem eq_plain_of_isBlank {t : Token} (h : t.isBlank) : ∃ c, t = plain c ∧ Text.isBlank c := by
  cases t with
  | plain c => exact ⟨c, rfl, h⟩
  | _ => simp [isBlank] at h

end Token

/-- Reads tokens, from inside a tag if there are characters of one, which are in reverse. -/
def tokensFrom : Option (List Char) → List Char → Option (List Token)
  | none, [] => some []
  | some _, [] => none
  | some inside, c :: rest =>
    if c = '\x7d' then (tokensFrom none rest).map (.tag inside.reverse :: ·)
    else tokensFrom (some (c :: inside)) rest
  | none, '\\' :: '\\' :: rest => (tokensFrom none rest).map (.escaped '\\' :: ·)
  | none, '\\' :: '\x7b' :: rest => (tokensFrom none rest).map (.escaped '\x7b' :: ·)
  | none, c :: rest =>
    if c = '\x7b' then tokensFrom (some []) rest
    else (tokensFrom none rest).map (.plain c :: ·)

/-- The tokens of markup; nothing if a tag has no end. -/
def tokens? (markup : List Char) : Option (List Token) := tokensFrom none markup

def begun : Option (List Char) → List Char
  | none => []
  | some inside => '\x7b' :: inside.reverse

/-- Nothing of the markup is lost or added when it is read. -/
theorem written_tokensFrom (inside : Option (List Char)) (s : List Char) (ts : List Token)
    (h : tokensFrom inside s = some ts) : ts.flatMap Token.written = begun inside ++ s := by
  fun_induction tokensFrom inside s generalizing ts
  case case1 => simp_all [begun]
  case case2 => simp at h
  case case3 inside rest ih =>
    obtain ⟨us, hu, rfl⟩ := Option.map_eq_some_iff.mp h
    simp [ih us hu, Token.written, tagOf, begun]
  case case4 inside c rest hc ih => simp [ih ts h, begun]
  case case5 rest ih =>
    obtain ⟨us, hu, rfl⟩ := Option.map_eq_some_iff.mp h
    simp [ih us hu, Token.written, begun]
  case case6 rest ih =>
    obtain ⟨us, hu, rfl⟩ := Option.map_eq_some_iff.mp h
    simp [ih us hu, Token.written, begun]
  case case7 rest _ _ ih => simp [ih ts h, begun]
  case case8 c rest _ _ hc ih =>
    obtain ⟨us, hu, rfl⟩ := Option.map_eq_some_iff.mp h
    simp [ih us hu, Token.written, begun]

theorem written_tokens {s : List Char} {ts : List Token} (h : tokens? s = some ts) :
    ts.flatMap Token.written = s := by
  simpa [begun] using written_tokensFrom none s ts h

/-- A tag that has begun ends at the next closing brace. -/
theorem tokensFrom_inside (read inside rest : List Char) (h : '\x7d' ∉ inside) :
    tokensFrom (some read) (inside ++ '\x7d' :: rest) =
      (tokensFrom none rest).map (.tag (read.reverse ++ inside) :: ·) := by
  induction inside generalizing read with
  | nil => simp [tokensFrom]
  | cons c inside ih =>
    have hc : c ≠ '\x7d' := by rintro rfl; simp at h
    have hi : '\x7d' ∉ inside := fun hm => h (by simp [hm])
    simp [tokensFrom, hc, ih _ hi]

theorem tokensFrom_written (t : Token) (rest : List Char) (h : t.IsRegular) :
    tokensFrom none (t.written ++ rest) = (tokensFrom none rest).map (t :: ·) := by
  cases t with
  | tag inside =>
    have hw : (Token.tag inside).written ++ rest = '\x7b' :: (inside ++ '\x7d' :: rest) := by
      simp [Token.written, tagOf]
    rw [hw, tokensFrom, if_pos rfl, tokensFrom_inside _ _ _ h.2]
    · simp
    all_goals simp
  | escaped c =>
    obtain rfl | rfl := h <;> simp [Token.written, tokensFrom]
  | plain c =>
    obtain ⟨hb, ho⟩ := h
    simp only [Token.written, List.cons_append, List.nil_append]
    rw [tokensFrom, if_neg ho]
    all_goals simp [hb]

/-- Tokens that are written as markup are read as they were. -/
theorem tokensFrom_flatMap (ts : List Token) (rest : List Char) (h : ∀ t ∈ ts, t.IsRegular) :
    tokensFrom none (ts.flatMap Token.written ++ rest) = (tokensFrom none rest).map (ts ++ ·) := by
  induction ts with
  | nil => simp
  | cons t ts ih =>
    obtain ⟨ht, hts⟩ := List.forall_mem_cons.mp h
    rw [List.flatMap_cons, List.append_assoc, tokensFrom_written _ _ ht, ih hts]
    simp [Function.comp_def]

theorem tokens_flatMap (ts : List Token) (h : ∀ t ∈ ts, t.IsRegular) :
    tokens? (ts.flatMap Token.written) = some ts := by
  simpa [tokens?, tokensFrom] using tokensFrom_flatMap ts [] h

def Token.ofChar (c : Char) : Token := if c = '\\' ∨ c = '\x7b' then .escaped c else .plain c

theorem written_ofChar (c : Char) : (Token.ofChar c).written = escapeChar c := by
  grind [Token.ofChar, escapeChar, Token.written]

theorem visible_ofChar (c : Char) : (Token.ofChar c).visible = [c] := by
  grind [Token.ofChar, Token.visible]

theorem inside_ofChar (c : Char) : (Token.ofChar c).inside? = none := by
  grind [Token.ofChar, Token.inside?]

theorem isRegular_ofChar (c : Char) : (Token.ofChar c).IsRegular := by
  grind [Token.ofChar, Token.IsRegular]

namespace Span

def tokens : Span → List Token
  | face f => [.tag f.name.toList]
  | stressed stress f => [.tag ('+' :: stress.letter :: '@' :: f.name.toList)]
  | sign s => s.map .plain
  | text s => s.map .ofChar

def inside? : Span → Option (List Char)
  | face f => some f.name.toList
  | stressed stress f => some ('+' :: stress.letter :: '@' :: f.name.toList)
  | _ => none

/-- The characters of a span in markup, each with the tag that it is a part of. -/
def labelled (span : Span) : List (Char × Option (List Char)) := span.write.map (·, span.inside?)

def IsRegular : Span → Prop
  | sign s => ∀ c ∈ s, c ≠ '\\' ∧ c ≠ '\x7b'
  | _ => True

theorem write_eq_tokens (span : Span) : span.write = span.tokens.flatMap Token.written := by
  cases span with
  | face f => simp [write, tokens, Token.written]
  | stressed stress f => simp [write, tokens, Token.written]
  | sign s => simp [write, tokens, Token.written, List.flatMap_map]
  | text s => simp [write, tokens, escapeAll, List.flatMap_map, written_ofChar]

theorem visible_eq_tokens (span : Span) : span.visible = span.tokens.flatMap Token.visible := by
  cases span with
  | face f => simp [visible, tokens, Token.visible]
  | stressed stress f => simp [visible, tokens, Token.visible]
  | sign s => simp [visible, tokens, Token.visible, List.flatMap_map]
  | text s => simp [visible, tokens, List.flatMap_map, visible_ofChar]

/-- All tokens of a span are in the tag that the span is, if it is one. -/
theorem inside_of_mem_tokens {span : Span} {t : Token} (h : t ∈ span.tokens) :
    t.inside? = span.inside? := by
  cases span with
  | face f => simp_all [tokens, inside?, Token.inside?]
  | stressed stress f => simp_all [tokens, inside?, Token.inside?]
  | sign s =>
    obtain ⟨c, -, rfl⟩ := List.mem_map.mp h
    rfl
  | text s =>
    obtain ⟨c, -, rfl⟩ := List.mem_map.mp h
    exact inside_ofChar c

theorem labelled_eq_tokens (span : Span) :
    span.labelled = span.tokens.flatMap Token.labelled := by
  have hl : ∀ ts : List Token, (∀ t ∈ ts, t.inside? = span.inside?) →
      (ts.flatMap Token.written).map (·, span.inside?) = ts.flatMap Token.labelled := by
    intro ts h
    induction ts with
    | nil => rfl
    | cons t ts ih =>
      obtain ⟨ht, hts⟩ := List.forall_mem_cons.mp h
      simp [Token.labelled, ht, ih hts]
  rw [labelled, write_eq_tokens, hl _ fun t ht => inside_of_mem_tokens ht]

end Span

theorem no_brace_name (f : Face) : '\x7b' ∉ f.name.toList ∧ '\x7d' ∉ f.name.toList := by
  cases f <;> decide

theorem Span.isRegular_tokens {span : Span} (h : span.IsRegular) :
    ∀ t ∈ span.tokens, t.IsRegular := by
  intro t ht
  cases span with
  | face f =>
    obtain rfl : t = .tag f.name.toList := by simpa [tokens] using ht
    exact no_brace_name f
  | stressed stress f =>
    obtain rfl : t = .tag ('+' :: stress.letter :: '@' :: f.name.toList) := by
      simpa [tokens] using ht
    have hf := no_brace_name f
    cases stress <;> simpa [Token.IsRegular, Stress.letter] using hf
  | sign s =>
    obtain ⟨c, hc, rfl⟩ := List.mem_map.mp ht
    exact h c hc
  | text s =>
    obtain ⟨c, -, rfl⟩ := List.mem_map.mp ht
    exact isRegular_ofChar c

def tokensOf (spans : List Span) : List Token := spans.flatMap Span.tokens

theorem write_eq_tokensOf (spans : List Span) :
    write spans = (tokensOf spans).flatMap Token.written := by
  simp [write, tokensOf, List.flatMap_assoc, ← Span.write_eq_tokens]

theorem labelled_tokensOf (spans : List Span) :
    (tokensOf spans).flatMap Token.labelled = spans.flatMap Span.labelled := by
  simp [tokensOf, List.flatMap_assoc, ← Span.labelled_eq_tokens]

theorem visible_tokensOf (spans : List Span) :
    (tokensOf spans).flatMap Token.visible = spans.flatMap Span.visible := by
  simp [tokensOf, List.flatMap_assoc, ← Span.visible_eq_tokens]

theorem isRegular_tokensOf {spans : List Span} (h : ∀ span ∈ spans, span.IsRegular) :
    ∀ t ∈ tokensOf spans, t.IsRegular := by
  intro t ht
  obtain ⟨span, hs, ht⟩ := List.mem_flatMap.mp ht
  exact Span.isRegular_tokens (h span hs) t ht

end EditorBridge.Markup

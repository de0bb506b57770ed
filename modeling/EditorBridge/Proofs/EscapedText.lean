import EditorBridge.Proofs.PlainTextReader

/-!
Escaped text as HTML. Escaping replaces one character after the other and decoding takes that back,
and a text that is laid out in lines stays as it is; so plain text that is escaped and made plain
again is the same, whatever entities or tags it seems to hold.
-/

namespace EditorBridge

namespace Html

open Text

/-! ### Decoding escaped text -/

def escapedChars : List Char := ['&', '<', '>', '\x22']

theorem escapeChar_other {c : Char} (h : c ∉ escapedChars) : escapeChar c = [c] := by
  simp only [escapedChars, List.mem_cons, List.not_mem_nil, or_false, not_or] at h
  simp [escapeChar, h]

theorem escapeChar_mem_entities {c : Char} (h : c ∈ escapedChars) :
    (escapeChar c, c) ∈ entities := by
  simp only [escapedChars, List.mem_cons, List.not_mem_nil, or_false] at h
  obtain rfl | rfl | rfl | rfl := h <;> simp [escapeChar, entities]

/-- A scan of escaped text shows what was escaped: what is escaped stands as an entity, and at any
other character no entity begins. -/
theorem decodes_escape (s : List Char) : Decodes entities (escape s) s := by
  induction s with
  | nil => exact .nil
  | cons c s ih =>
    rw [escape_cons]
    by_cases he : c ∈ escapedChars
    · exact .entity (escapeChar_mem_entities he) ih
    · rw [escapeChar_other he]
      refine .char (fun kind hk hp => he ?_) ih
      obtain ⟨more, hm⟩ := List.head?_eq_some_iff.mp (decodesInTurn_entities.marked kind hk).1
      rw [hm] at hp
      rw [← (List.cons_prefix_cons.mp hp).1]
      decide

/-- Decoding takes escaped text back to what was escaped. -/
theorem decode_escape (s : List Char) : decode (escape s) = s := decodes_iff.mp (decodes_escape s)

/-- Escaping changes all characters at once, as it does when they are replaced in turn with the
ampersand first. -/
theorem escape_in_turn (s : List Char) :
    escape s = replaceAll ['\x22'] "&quot;".toList (replaceAll ['>'] "&gt;".toList
      (replaceAll ['<'] "&lt;".toList (replaceAll ['&'] "&amp;".toList s))) := by
  let table := [('&', "&amp;".toList), ('<', "&lt;".toList), ('>', "&gt;".toList),
    ('\x22', "&quot;".toList)]
  have ht : table.Pairwise fun entry later => later.1 ∉ entry.2 := by decide
  have hc : escapeChar = standIn table := by
    funext c
    simp [escapeChar, table]
  rw [escape, hc]
  exact (foldl_replaceAll_characters ht s).symm

/-- Escaped text holds no character that is escaped, but for the ampersands of entities. -/
theorem not_mem_escape {c : Char} (h : c ∈ escapedChars) (ha : c ≠ '&') (s : List Char) :
    c ∉ escape s := by
  intro hm
  obtain ⟨d, -, hd⟩ := List.mem_flatMap.mp hm
  by_cases he : d ∈ escapedChars
  · have hs : (escapedChars.all fun c => escapedChars.all fun d =>
        !(escapeChar d).contains c || c = '&') = true := by decide
    have hc := List.all_eq_true.mp (List.all_eq_true.mp hs c h) d he
    simp only [Bool.or_eq_true, Bool.not_eq_true', List.contains_eq_mem, decide_eq_false_iff_not,
      decide_eq_true_eq] at hc
    exact hc.elim (absurd hd) ha
  · rw [escapeChar_other he] at hd
    obtain rfl := List.mem_singleton.mp hd
    exact he h

/-- Escaped text holds no less-than sign. -/
theorem angle_not_mem_escape (s : List Char) : '<' ∉ escape s :=
  not_mem_escape (by decide) (by decide) s

/-- Escaped text is one run of text, so it shows what was escaped. -/
theorem textOf_escape (s : List Char) : textOf (escape s) = s := by
  have hp := AreParts.last (angle_not_mem_escape s)
  rw [textOf, textWithin_parts hp (Nat.le_refl _)]
  simp [Part.shown, ← decode_eq_decodeOnce, decode_escape]

/-! ### Texts that are laid out -/

/-- Whether a text is laid out in lines: none of them ends with white space, no line feed stands at
an end, and cutting at line feeds alone or together with a carriage return gives the same lines. -/
structure IsLaidOut (s : List Char) : Prop where
  ends : ∀ line ∈ splitLineFeeds s, ∀ c ∈ line.getLast?, isBlank c = false
  first : s.head? ≠ some '\n'
  last : s.getLast? ≠ some '\n'
  lines : lines s = if s = [] then [] else splitLineFeeds s

theorem lines_of_ends {s : List Char}
    (h : ∀ line ∈ splitLineFeeds s, ∀ c ∈ line.getLast?, isBlank c = false)
    (hl : s.getLast? ≠ some '\n') : lines s = if s = [] then [] else splitLineFeeds s := by
  split
  · rename_i hs
    rw [hs]
    rfl
  · rename_i hs
    refine linesOfPieces_eq_self (fun line hm hr => ?_) (getLast_splitLineFeeds hs hl)
    exact absurd (h line hm '\r' hr) (by decide)

/-- The lines of a part of a text between line feeds are lines of the text. -/
theorem splitLineFeeds_infix {front back : List Char} (hf : ∀ c ∈ front, c = '\n')
    (hb : ∀ c ∈ back, c = '\n') (s : List Char) :
    ∀ line ∈ splitLineFeeds s, line ∈ splitLineFeeds (front ++ s ++ back) := by
  intro line hm
  induction front with
  | nil =>
    cases back with
    | nil => simpa using hm
    | cons c back =>
      obtain rfl : c = '\n' := hb c (by simp)
      rw [List.nil_append, splitLineFeeds_newline]
      exact List.mem_append_left _ hm
  | cons c front ih =>
    obtain ⟨hc, hr⟩ := List.forall_mem_cons.mp hf
    rw [List.cons_append, List.cons_append, splitLineFeeds, if_pos hc]
    exact List.mem_cons_of_mem _ (ih hr)

/-- Layout lays a text out. -/
theorem isLaidOut_layout (s : List Char) : IsLaidOut (layout s) := by
  have hn : ∀ line ∈ (splitLineFeeds s).map trimEnd, '\n' ∉ line := by
    intro line hm hc
    obtain ⟨piece, hp, rfl⟩ := List.mem_map.mp hm
    exact not_mem_splitLineFeeds s piece hp ((prefix_dropEndWhile isBlank piece).subset hc)
  have hj := splitLineFeeds_joinWith (by simpa using splitLineFeeds_ne_nil s) hn
  obtain ⟨front, back, he, hf, hb⟩ :=
    exists_trimWhile (· = '\n') (joinWith ['\n'] ((splitLineFeeds s).map trimEnd))
  have hl : ∀ line ∈ splitLineFeeds (layout s), ∀ c ∈ line.getLast?, isBlank c = false := by
    intro line hm
    rw [layout_eq_laidOut, laidOut] at hm
    have hm := splitLineFeeds_infix (by simpa using hf) (by simpa using hb) _ line hm
    rw [← he, hj] at hm
    obtain ⟨piece, -, rfl⟩ := List.mem_map.mp hm
    exact getLast_dropEndWhile isBlank piece
  have hfirst : (layout s).head? ≠ some '\n' := fun h => by
    simpa using head_trimWhile (· = '\n') _ '\n' h
  have hlast : (layout s).getLast? ≠ some '\n' := fun h => by
    simpa using getLast_dropEndWhile (· = '\n') _ '\n' h
  exact ⟨hl, hfirst, hlast, lines_of_ends hl hlast⟩

/-- A text that is laid out stays as it is. -/
theorem IsLaidOut.layout_eq {s : List Char} (h : IsLaidOut s) : layout s = s := by
  have ht : (splitLineFeeds s).map trimEnd = (splitLineFeeds s).map id :=
    List.map_congr_left fun line hm => dropEndWhile_eq_self (h.ends line hm)
  rw [layout_eq_laidOut, laidOut, ht, List.map_id, joinWith_splitLineFeeds]
  refine trimWhile_eq_self (fun c hc => decide_eq_false fun he => ?_)
    fun c hc => decide_eq_false fun he => ?_
  · exact h.first (he ▸ hc)
  · exact h.last (he ▸ hc)

/-! ### Plain text that is escaped -/

/-- Decoding takes escaped text back, of which nothing is taken for a tag. The plain text of HTML is
laid out, and escaped it is HTML that shows the same plain text. -/
theorem plainText_escape (s : List Char) (html : String) :
    decode (escape s) = s ∧ textOf (escape s) = s ∧ IsLaidOut (plainText html).toList ∧
      plainText (String.ofList (escape (plainText html).toList)) = plainText html := by
  have hl : IsLaidOut (plainText html).toList := by
    rw [plainText, String.toList_ofList]
    exact isLaidOut_layout _
  refine ⟨decode_escape s, textOf_escape s, hl, ?_⟩
  rw [plainText, String.toList_ofList, textOf_escape, hl.layout_eq, String.ofList_toList]

/-- An entity in plain text is not decoded again, and a tag in it stays text. -/
example : plainText (String.ofList (escape "&amp;lt;br>\n&nbsp;<p".toList)) =
    "&amp;lt;br>\n&nbsp;<p" := by
  decide +kernel

end Html

end EditorBridge

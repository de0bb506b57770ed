import EditorBridge.Html.Escape
import EditorBridge.Proofs.TextReplace

/-!
Decoding entities in one scan. Replacing one kind of entity after the other gives what a single scan
from left to right gives, in which every occurrence of an entity shows its character and nothing that
has been shown is read again. No kind brings in, cuts or reaches over an occurrence of a later one.
-/

namespace EditorBridge

namespace Html

open Text

/-! ### One scan -/

/-- What a text shows that is scanned once from left to right: where an entity begins, its character,
and behind it what the rest shows; elsewhere the character that stands there. -/
inductive Decodes (kinds : List (List Char × Char)) : List Char → List Char → Prop where
  | nil : Decodes kinds [] []
  | entity {name rest t : List Char} {shown : Char} (hm : (name, shown) ∈ kinds)
      (h : Decodes kinds rest t) : Decodes kinds (name ++ rest) (shown :: t)
  | char {c : Char} {rest t : List Char} (hn : ∀ kind ∈ kinds, ¬kind.1 <+: c :: rest)
      (h : Decodes kinds rest t) : Decodes kinds (c :: rest) (c :: t)

/-- Behind what is left out, decoding in one pass is such a scan. -/
theorem decodes_decodeFrom (skipped : Nat) (s : List Char) :
    Decodes entities (s.drop skipped) (decodeFrom skipped s) := by
  induction s generalizing skipped with
  | nil => simpa [decodeFrom] using Decodes.nil
  | cons c s ih =>
    cases skipped with
    | succ skipped => exact ih skipped
    | zero =>
      rw [List.drop_zero, decodeFrom]
      split
      · rename_i name shown he
        have hm := List.mem_of_find?_eq_some he
        have hp : name <+: c :: s := by
          simpa [List.isPrefixOf_iff_prefix] using List.find?_some he
        have hne : name ≠ [] := by
          rintro rfl
          exact absurd hm (by simp [entities])
        obtain ⟨d, more, rfl⟩ := List.exists_cons_of_ne_nil hne
        have hs := List.prefix_iff_eq_append.mp hp
        -- The pass leaves out as many characters as the name has behind its first one.
        rw [List.length_cons, List.drop_succ_cons] at hs
        rw [← hs, List.length_cons, Nat.add_sub_cancel]
        exact .entity hm (ih more.length)
      · rename_i he
        refine .char (fun kind hk hp => ?_) (ih 0)
        exact List.find?_eq_none.mp he kind hk (List.isPrefixOf_iff_prefix.mpr hp)

/-! ### One kind after the other -/

/-- Whether kinds of entity can be decoded one after the other: an ampersand begins each name and
stands nowhere else in it, of two names neither begins the other, and what a kind shows is in no name
that is decoded later. -/
structure DecodesInTurn (kinds : List (List Char × Char)) : Prop where
  marked : ∀ kind ∈ kinds, kind.1.head? = some '&' ∧ '&' ∉ kind.1.tail
  apart : kinds.Pairwise fun kind later =>
    ¬kind.1 <+: later.1 ∧ ¬later.1 <+: kind.1 ∧ kind.2 ∉ later.1

theorem decodesInTurn_entities : DecodesInTurn entities := ⟨by decide, by decide⟩

section

variable {kinds : List (List Char × Char)} {name s t : List Char} {shown : Char}

theorem DecodesInTurn.tail (h : DecodesInTurn ((name, shown) :: kinds)) : DecodesInTurn kinds :=
  ⟨(List.forall_mem_cons.mp h.marked).2, h.apart.of_cons⟩

/-- Replacing the first kind leaves a text that shows the same by the other kinds. -/
theorem Decodes.replaceFirst (hk : DecodesInTurn ((name, shown) :: kinds))
    (h : Decodes ((name, shown) :: kinds) s t) :
    Decodes kinds (replaceAll name [shown] s) t := by
  obtain ⟨⟨ho, -⟩, hmarked⟩ := List.forall_mem_cons.mp hk.marked
  obtain ⟨hapart, -⟩ := List.pairwise_cons.mp hk.apart
  induction h with
  | nil => exact .nil
  | @entity other rest t c hm _ ih =>
    obtain he | hm := List.mem_cons.mp hm
    · obtain ⟨rfl, rfl⟩ := Prod.mk.inj he
      have hne : other ≠ [] := by rintro rfl; simp at ho
      rw [replaceAll_self hne]
      refine .char (fun kind hkind hp => ?_) ih
      -- The character that has been written begins no entity of a later kind.
      obtain ⟨more, hmore⟩ := List.head?_eq_some_iff.mp (hmarked kind hkind).1
      obtain ⟨-, -, hshown⟩ := hapart kind hkind
      rw [hmore] at hp hshown
      exact hshown ((List.cons_prefix_cons.mp hp).1 ▸ List.mem_cons_self)
    · obtain ⟨hp, hb, -⟩ := hapart _ hm
      rw [replaceAll_piece ho (hmarked _ hm).2 hp hb]
      exact .entity hm ih
  | @char c rest t hn _ ih =>
    obtain ⟨hfirst, hlater⟩ := List.forall_mem_cons.mp hn
    have hc := replaceAll_cons hfirst [shown]
    rw [hc]
    refine .char (fun kind hkind hp => hlater kind hkind ?_) ih
    -- A later kind that begins here now began here before the replacement.
    rw [← hc] at hp
    exact prefix_of_prefix_replaceAll (hapart kind hkind).2.2 hp

theorem Decodes.eq_of_nil (h : Decodes [] s t) : s = t := by
  induction h with
  | nil => rfl
  | entity hm => exact absurd hm List.not_mem_nil
  | char _ _ ih => rw [ih]

/-- Replacing one kind after the other gives what one scan shows. -/
theorem Decodes.foldl_replaceAll (hk : DecodesInTurn kinds) (h : Decodes kinds s t) :
    kinds.foldl (fun s kind => replaceAll kind.1 [kind.2] s) s = t := by
  induction kinds generalizing s with
  | nil => exact h.eq_of_nil
  | cons kind kinds ih => exact ih hk.tail (h.replaceFirst hk)

/-- No entity reaches over an ampersand behind its first character, so a text in front of one is
scanned as if it stood alone. -/
theorem Decodes.append (hk : ∀ kind ∈ kinds, '&' ∉ kind.1.tail) (h : Decodes kinds s t)
    {after u : List Char} (ha : after.head? = some '&') (hu : Decodes kinds after u) :
    Decodes kinds (s ++ after) (t ++ u) := by
  induction h with
  | nil => exact hu
  | entity hm _ ih =>
    rw [List.append_assoc]
    exact .entity hm ih
  | @char c rest t hn _ ih =>
    rw [List.cons_append]
    refine .char (fun kind hkind hp => hn kind hkind ?_) ih
    obtain ⟨more, rfl⟩ := List.head?_eq_some_iff.mp ha
    have hm := hk kind hkind
    cases hname : kind.1 with
    | nil => exact List.nil_prefix
    | cons d name =>
      rw [hname, List.cons_prefix_cons] at hp
      rw [hname, List.tail_cons] at hm
      rw [List.cons_prefix_cons, ← List.isPrefixOf_iff_prefix, ← isPrefixOf_append hm rest more,
        List.isPrefixOf_iff_prefix]
      exact hp

end

/-! ### Decoding -/

/-- Decoding is the one scan that a text has. -/
theorem decodes_iff {s t : List Char} : Decodes entities s t ↔ decode s = t := by
  constructor
  · exact Decodes.foldl_replaceAll decodesInTurn_entities
  · rintro rfl
    have h := decodes_decodeFrom 0 s
    have he : decode s = decodeFrom 0 s := h.foldl_replaceAll decodesInTurn_entities
    rwa [he]

theorem decode_eq_decodeOnce (s : List Char) : decode s = decodeOnce s :=
  decodes_iff.mp (decodes_decodeFrom 0 s)

/-- An entity shows its character wherever it stands, whatever is in front of it and behind it. -/
theorem decode_occurrence {kind : List Char × Char} (hk : kind ∈ entities)
    (before after : List Char) :
    decode (before ++ kind.1 ++ after) = decode before ++ kind.2 :: decode after := by
  obtain ⟨name, shown⟩ := kind
  have hbefore : Decodes entities before (decode before) := decodes_iff.mpr rfl
  have hafter : Decodes entities after (decode after) := decodes_iff.mpr rfl
  have hmarked := decodesInTurn_entities.marked
  have hname : name.head? = some '&' := (hmarked _ hk).1
  have hhead : (name ++ after).head? = some '&' := by rw [List.head?_append, hname, Option.some_or]
  rw [List.append_assoc]
  exact decodes_iff.mp
    (hbefore.append (fun kind hkind => (hmarked kind hkind).2) hhead (.entity hk hafter))

/-- Decoding one kind of entity after the other is decoding in one pass. It scans a text once from
left to right, replaces each of the six entities by its character, and reads nothing again that it
has written; and it does so at every place where an entity stands. -/
theorem decode_scans_once (s : List Char) :
    decode s = decodeOnce s ∧
      (∀ t, Decodes [("&lt;".toList, '<'), ("&gt;".toList, '>'), ("&quot;".toList, '\x22'),
        ("&#39;".toList, '\x27'), ("&nbsp;".toList, ' '), ("&amp;".toList, '&')] s t ↔
          decode s = t) ∧
      ∀ kind ∈ entities, ∀ before after, s = before ++ kind.1 ++ after →
        decode s = decode before ++ kind.2 :: decode after := by
  refine ⟨decode_eq_decodeOnce s, fun t => decodes_iff, ?_⟩
  rintro kind hk before after rfl
  exact decode_occurrence hk before after

/-- The ampersands that are decoded stand in front of the names of other entities, and all of them
between the two halves of one more. -/
theorem decode_scans_nested_once :
    ("&amp;".toList, '&') ∈ entities ∧
      "&g&amp;lt;&amp;#39;t;".toList = "&g".toList ++ "&amp;".toList ++ "lt;&amp;#39;t;".toList ∧
      decode "&g&amp;lt;&amp;#39;t;".toList =
        decode "&g".toList ++ '&' :: decode "lt;&amp;#39;t;".toList ∧
      Decodes entities "&g&amp;lt;&amp;#39;t;".toList "&g&lt;&#39;t;".toList := by
  have hk : ("&amp;".toList, '&') ∈ entities := by decide
  have hs : "&g&amp;lt;&amp;#39;t;".toList =
      "&g".toList ++ "&amp;".toList ++ "lt;&amp;#39;t;".toList := by decide
  obtain ⟨-, hd, ho⟩ := decode_scans_once "&g&amp;lt;&amp;#39;t;".toList
  exact ⟨hk, hs, ho _ hk _ _ hs, (hd _).mpr (by decide +kernel)⟩

end Html

end EditorBridge

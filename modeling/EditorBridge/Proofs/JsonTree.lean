import EditorBridge.Proofs.JsonScalars

/-!
The syntax of JSON text: lists, objects, and scalars as they are written. Two texts with the same
syntax differ only in the white space between its tokens, and a text has one syntax.
-/

namespace EditorBridge.Json

/-- A JSON text without the white space between its tokens. Words, numbers, strings and the names of
members are kept as they are written. -/
inductive Tree where
  | scalar (text : List Char)
  | array (items : List Tree)
  | object (members : List (List Char × Tree))

/-- The tokens between two items or members, none in front of the first one. -/
def separator (isFirst : Bool) : List (List Char) := if isFirst then [] else [[',']]

mutual

def Tree.tokens : Tree → List (List Char)
  | .scalar text => [text]
  | .array items => ['['] :: (itemTokens true items ++ [[']']])
  | .object members => ['\x7b'] :: (memberTokens true members ++ [['\x7d']])

def itemTokens (isFirst : Bool) : List Tree → List (List Char)
  | [] => []
  | item :: rest => separator isFirst ++ item.tokens ++ itemTokens false rest

def memberTokens (isFirst : Bool) : List (List Char × Tree) → List (List Char)
  | [] => []
  | (name, value) :: rest =>
    separator isFirst ++ name :: [':'] :: value.tokens ++ memberTokens false rest

end

def IsBlank (s : List Char) : Prop := ∀ c ∈ s, isSpace c = true

/-- A text of tokens, with white space anywhere between them and at both ends. -/
inductive Spaced : List (List Char) → List Char → Prop
  | nil {w : List Char} : IsBlank w → Spaced [] w
  | cons {w t s : List Char} {ts : List (List Char)} : IsBlank w → Spaced ts s →
      Spaced (t :: ts) (w ++ (t ++ s))

/-- Tries to take the tokens off a text one after the other. -/
def isSpacedText : List (List Char) → List Char → Bool
  | [], s => s.all isSpace
  | t :: ts, s => t.isPrefixOf (skipSpace s) && isSpacedText ts ((skipSpace s).drop t.length)

/-- Whether tokens begin with one that may follow a value. -/
def Follows (ts : List (List Char)) : Prop :=
  ∀ t ∈ ts.head?, t = [','] ∨ t = [']'] ∨ t = ['\x7d'] ∨ t = [':']

section Spacing

variable {t s r w : List Char} {ts : List (List Char)}

theorem isBlank_nil : IsBlank [] := by simp [IsBlank]

theorem IsBlank.append (hw : IsBlank w) (hs : IsBlank s) : IsBlank (w ++ s) :=
  List.forall_mem_append.mpr ⟨hw, hs⟩

theorem Spaced.after_blank (hw : IsBlank w) (h : Spaced ts s) : Spaced ts (w ++ s) := by
  cases h with
  | nil hs => exact .nil (hw.append hs)
  | cons hv hs =>
    rw [← List.append_assoc]
    exact .cons (hw.append hv) hs

/-- A token in front of a text. -/
theorem Spaced.token (t : List Char) (h : Spaced ts s) : Spaced (t :: ts) (t ++ s) :=
  .cons isBlank_nil h

theorem exists_blank (s : List Char) : ∃ w, IsBlank w ∧ s = w ++ skipSpace s :=
  ⟨s.takeWhile isSpace, List.all_eq_true.mp List.all_takeWhile,
    List.takeWhile_append_dropWhile.symm⟩

theorem spaced_of_skipSpace (h : Spaced ts (skipSpace s)) : Spaced ts s := by
  obtain ⟨w, hw, hs⟩ := exists_blank s
  rw [hs]
  exact h.after_blank hw

theorem spaced_of_isSpacedText (h : isSpacedText ts s = true) : Spaced ts s := by
  induction ts generalizing s with
  | nil => exact .nil (List.all_eq_true.mp h)
  | cons t ts ih =>
    simp only [isSpacedText, Bool.and_eq_true, List.isPrefixOf_iff_prefix] at h
    obtain ⟨⟨rest, ht⟩, hr⟩ := h
    rw [← ht, List.drop_left] at hr
    exact spaced_of_skipSpace (ht ▸ (ih hr).token t)

theorem skipSpace_blank (hw : IsBlank w) {c : Char} (hc : isSpace c = false) :
    skipSpace (w ++ c :: s) = c :: s := by
  rw [skipSpace, List.dropWhile_append_of_pos hw]
  simp [hc]

theorem skipSpace_all_blank (hw : IsBlank w) : skipSpace w = [] := by
  simpa [skipSpace] using @List.dropWhile_append_of_pos _ isSpace w [] hw

/-- The first token of a text is found behind white space. -/
theorem Spaced.skip {c : Char} (h : Spaced ((c :: t) :: ts) s) (hc : isSpace c = false) :
    ∃ r, skipSpace s = c :: (t ++ r) ∧ Spaced ts r := by
  cases h with
  | @cons w _ r _ hw hr => exact ⟨r, skipSpace_blank hw hc, hr⟩

theorem Spaced.blank (h : Spaced [] s) : skipSpace s = [] := by
  cases h with
  | nil hw => exact skipSpace_all_blank hw

theorem ends_of_blank (hw : IsBlank w) (hs : Ends s) : Ends (w ++ s) := by
  intro c hc
  cases w with
  | nil => exact hs c hc
  | cons d w =>
    obtain rfl : d = c := by simpa using hc
    have hd : isSpace d = true := hw d (by simp)
    simp only [isSpace, Bool.or_eq_true, decide_eq_true_eq] at hd
    obtain ((rfl | rfl) | rfl) | rfl := hd <;> decide

/-- A number ends where a value may end. -/
theorem Spaced.ends (h : Spaced ts s) (hf : Follows ts) : Ends s := by
  cases h with
  | nil hw => simpa using ends_of_blank hw ends_nil
  | @cons w t r ts hw hr =>
    apply ends_of_blank hw
    intro c hc
    obtain rfl | rfl | rfl | rfl := hf t rfl <;>
      (have he := by simpa using hc
       subst he
       decide)

end Spacing

/-! ### Well-formed texts -/

/-- Whether a text is a word, a number or a string and nothing else. -/
def isScalarText : List Char → Bool
  | [] => false
  | c :: rest =>
    match skipScalar c rest with
    | .ok [] => true
    | _ => false

def isNameText (t : List Char) : Bool := decide (t.head? = some '\x22') && isScalarText t

mutual

/-- Whether the scalars and names of a text are written as they should be. -/
def Tree.isJson : Tree → Bool
  | .scalar text => isScalarText text
  | .array items => areJson items
  | .object members => areJsonMembers members

def areJson : List Tree → Bool
  | [] => true
  | item :: rest => item.isJson && areJson rest

def areJsonMembers : List (List Char × Tree) → Bool
  | [] => true
  | (name, value) :: rest => isNameText name && value.isJson && areJsonMembers rest

end

theorem areJson_iff {items : List Tree} : areJson items = true ↔ ∀ x ∈ items, x.isJson = true := by
  induction items with
  | nil => simp [areJson]
  | cons x items ih => simp [areJson, ih]

theorem areJsonMembers_iff {members : List (List Char × Tree)} :
    areJsonMembers members = true ↔
      ∀ m ∈ members, isNameText m.1 = true ∧ m.2.isJson = true := by
  induction members with
  | nil => simp [areJsonMembers]
  | cons m members ih =>
    obtain ⟨t, x⟩ := m
    simp [areJsonMembers, ih]

/-- A property of all texts holds of lists and objects if it passes on to them from what is
inside. -/
theorem Tree.induct {P : Tree → Prop} (scalar : ∀ t, P (.scalar t))
    (array : ∀ items, (∀ x ∈ items, P x) → P (.array items))
    (object : ∀ members : List (List Char × Tree), (∀ m ∈ members, P m.2) → P (.object members))
    (x : Tree) : P x := by
  refine @Tree.rec P (fun items => ∀ x ∈ items, P x) (fun members => ∀ m ∈ members, P m.2)
    (fun m => P m.2) scalar array object ?_ ?_ ?_ ?_ ?_ x
  · simp
  · intro x items hx hi
    simpa using ⟨hx, hi⟩
  · simp
  · intro m members hm hi
    simpa using ⟨hm, by simpa using hi⟩
  · intro t x hx
    exact hx

/-- A character that a value may begin with. -/
def Starts (c : Char) : Prop :=
  isSpace c = false ∧ c ≠ ',' ∧ c ≠ ']' ∧ c ≠ '\x7d'

theorem isScalarText_iff {t : List Char} :
    isScalarText t = true ↔ ∃ c u, t = c :: u ∧ skipScalar c u = .ok [] := by
  cases t with
  | nil => simp [isScalarText]
  | cons c u =>
    simp only [isScalarText, List.cons.injEq]
    constructor
    · intro h
      split at h
      · rename_i hs
        exact ⟨c, u, ⟨rfl, rfl⟩, hs⟩
      · simp at h
    · rintro ⟨c, u, ⟨rfl, rfl⟩, hs⟩
      simp [hs]

/-- A well-formed scalar is skipped up to its end. -/
theorem skipScalar_append {c : Char} {u r : List Char} (h : skipScalar c u = .ok [])
    (hr : Ends r) : skipScalar c (u ++ r) = .ok r := by
  obtain ⟨t, ht, hs⟩ := skipScalar_ok h
  obtain rfl : u = t := by simpa using ht
  exact hs r hr

/-- A scalar that is skipped is well-formed. -/
theorem isScalarText_of_skip {c : Char} {s r : List Char} (h : skipScalar c s = .ok r) :
    ∃ u, s = u ++ r ∧ isScalarText (c :: u) = true := by
  obtain ⟨u, rfl, hu⟩ := skipScalar_ok h
  have hn : skipScalar c u = .ok [] := by simpa using hu [] ends_nil
  exact ⟨u, rfl, isScalarText_iff.mpr ⟨c, u, rfl, hn⟩⟩

theorem isSpace_of_isDigit {c : Char} (h : isDigit c = true) : isSpace c = false := by
  cases hs : isSpace c with
  | false => rfl
  | true =>
    simp only [isSpace, Bool.or_eq_true, decide_eq_true_eq] at hs
    obtain ((rfl | rfl) | rfl) | rfl := hs <;> simp [isDigit] at h

/-- A scalar begins as a value does, and not as a list or an object does. -/
theorem starts_of_skipScalar {c : Char} {s r : List Char} (h : skipScalar c s = .ok r) :
    Starts c ∧ c ≠ '[' ∧ c ≠ '\x7b' := by
  by_cases hd : isDigit c = true
  · refine ⟨⟨isSpace_of_isDigit hd, ?_, ?_, ?_⟩, ?_, ?_⟩
    all_goals
      rintro rfl
      simp [isDigit] at hd
  · have hc : c = 'n' ∨ c = 't' ∨ c = 'f' ∨ c = '-' ∨ c = '\x22' := by
      apply Decidable.of_not_not
      intro hc
      simp only [not_or] at hc
      simp [skipScalar, Kind.of, hc, hd, failPast] at h
    obtain rfl | rfl | rfl | rfl | rfl := hc <;> simp [Starts, isSpace]

/-- The first token of a value. -/
theorem Tree.exists_first {x : Tree} (h : x.isJson = true) :
    ∃ c t ts, x.tokens = (c :: t) :: ts ∧ Starts c := by
  cases x with
  | scalar t =>
    obtain ⟨c, u, rfl, hs⟩ := isScalarText_iff.mp h
    exact ⟨c, u, [], rfl, (starts_of_skipScalar hs).1⟩
  | array items => exact ⟨'[', [], _, rfl, by simp [Starts, isSpace]⟩
  | object members => exact ⟨'\x7b', [], _, rfl, by simp [Starts, isSpace]⟩

theorem isScalarText_of_isNameText {t : List Char} (h : isNameText t = true) :
    isScalarText t = true := by
  simp only [isNameText, Bool.and_eq_true] at h
  exact h.2

/-! ### A text has one syntax -/

section Unique

variable {s : List Char} {ts ts' : List (List Char)}

/-- Two ways to go on from the same place, behind what has been taken off two texts. -/
def Meet (ts ts' : List (List Char)) : Prop := ∃ r, Spaced ts r ∧ Spaced ts' r

theorem Meet.skip {c c' : Char} {t t' : List Char}
    (h : Meet ((c :: t) :: ts) ((c' :: t') :: ts')) (hc : isSpace c = false)
    (hc' : isSpace c' = false) :
    ∃ r r', Spaced ts r ∧ Spaced ts' r' ∧ c = c' ∧ t ++ r = t' ++ r' := by
  obtain ⟨s, h, h'⟩ := h
  obtain ⟨r, hs, hr⟩ := h.skip hc
  obtain ⟨r', hs', hr'⟩ := h'.skip hc'
  rw [hs] at hs'
  obtain ⟨rfl, he⟩ := List.cons.inj hs'
  exact ⟨r, r', hr, hr', rfl, he⟩

theorem Meet.char {c : Char} (h : Meet ([c] :: ts) ([c] :: ts')) (hc : isSpace c = false) :
    Meet ts ts' := by
  obtain ⟨r, r', hr, hr', -, he⟩ := h.skip hc hc
  obtain rfl : r = r' := by simpa using he
  exact ⟨r, hr, hr'⟩

theorem Meet.separator {isFirst : Bool} (h : Meet (separator isFirst ++ ts)
    (Json.separator isFirst ++ ts')) : Meet ts ts' := by
  cases isFirst with
  | true => exact h
  | false => exact Meet.char h (by decide)

theorem Meet.scalar {t t' : List Char} (h : Meet (t :: ts) (t' :: ts'))
    (ht : isScalarText t = true) (ht' : isScalarText t' = true) (hf : Follows ts)
    (hf' : Follows ts') : t = t' ∧ Meet ts ts' := by
  obtain ⟨c, u, rfl, hs⟩ := isScalarText_iff.mp ht
  obtain ⟨c', u', rfl, hs'⟩ := isScalarText_iff.mp ht'
  obtain ⟨r, r', hr, hr', rfl, he⟩ := h.skip (starts_of_skipScalar hs).1.1
    (starts_of_skipScalar hs').1.1
  have hk := skipScalar_append hs (hr.ends hf)
  have hk' := skipScalar_append hs' (hr'.ends hf')
  rw [he, hk'] at hk
  obtain rfl : r' = r := by simpa using hk
  obtain rfl : u = u' := by simpa using he
  exact ⟨rfl, r', hr, hr'⟩

/-- Whether no other text is spelled as a text is. -/
def Tree.IsOnly (x : Tree) : Prop :=
  ∀ {y : Tree} {ts ts' : List (List Char)}, x.isJson = true → y.isJson = true → Follows ts →
    Follows ts' → Meet (x.tokens ++ ts) (y.tokens ++ ts') → x = y ∧ Meet ts ts'

theorem Meet.symm (h : Meet ts ts') : Meet ts' ts := by
  obtain ⟨r, hr, hr'⟩ := h
  exact ⟨r, hr', hr⟩

/-- Where a list or an object ends there is no other item or member. -/
theorem Meet.not_end {c d : Char} {t : List Char} {isFirst : Bool} (hc : c = ']' ∨ c = '\x7d')
    (hd : Starts d) : ¬Meet ([c] :: ts) (Json.separator isFirst ++ (d :: t) :: ts') := by
  intro h
  have hs : isSpace c = false := by obtain rfl | rfl := hc <;> decide
  cases isFirst with
  | true =>
    obtain ⟨r, r', -, -, rfl, -⟩ := Meet.skip h hs hd.1
    obtain rfl | rfl := hc
    · exact hd.2.2.1 rfl
    · exact hd.2.2.2 rfl
  | false =>
    obtain ⟨r, r', -, -, rfl, -⟩ := Meet.skip h hs (by decide)
    simp at hc

theorem follows_items (items : List Tree) (ts : List (List Char)) :
    Follows (itemTokens false items ++ [']'] :: ts) := by
  cases items <;> simp [Follows, itemTokens, Json.separator]

theorem follows_members (members : List (List Char × Tree)) (ts : List (List Char)) :
    Follows (memberTokens false members ++ ['\x7d'] :: ts) := by
  cases members <;> simp [Follows, memberTokens, Json.separator]

theorem items_unique {items items' : List Tree} (hi : ∀ x ∈ items, x.IsOnly)
    (hj : ∀ x ∈ items, x.isJson = true) (hj' : ∀ x ∈ items', x.isJson = true) {isFirst : Bool}
    (h : Meet (itemTokens isFirst items ++ [']'] :: ts)
      (itemTokens isFirst items' ++ [']'] :: ts')) : items = items' ∧ Meet ts ts' := by
  induction items generalizing items' isFirst with
  | nil =>
    cases items' with
    | nil => exact ⟨rfl, Meet.char h (by decide)⟩
    | cons y items' =>
      obtain ⟨c, t, us, hy, hc⟩ := Tree.exists_first (hj' y (by simp))
      simp only [itemTokens, hy, List.nil_append, List.append_assoc, List.cons_append] at h
      exact absurd h (Meet.not_end (.inl rfl) hc)
  | cons x items ih =>
    cases items' with
    | nil =>
      obtain ⟨c, t, us, hx, hc⟩ := Tree.exists_first (hj x (by simp))
      simp only [itemTokens, hx, List.nil_append, List.append_assoc, List.cons_append] at h
      exact absurd h.symm (Meet.not_end (.inl rfl) hc)
    | cons y items' =>
      simp only [itemTokens, List.append_assoc] at h
      obtain ⟨rfl, hm⟩ := hi x (by simp) (hj x (by simp)) (hj' y (by simp)) (follows_items _ _)
        (follows_items _ _) h.separator
      obtain ⟨rfl, hr⟩ := ih (fun z hz => hi z (by simp [hz])) (fun z hz => hj z (by simp [hz]))
        (fun z hz => hj' z (by simp [hz])) hm
      exact ⟨rfl, hr⟩

/-- The first character of a name. -/
theorem isNameText_first {t : List Char} (h : isNameText t = true) :
    ∃ u, t = '\x22' :: u ∧ Starts '\x22' := by
  simp only [isNameText, Bool.and_eq_true, decide_eq_true_eq] at h
  obtain ⟨u, rfl⟩ := List.head?_eq_some_iff.mp h.1
  exact ⟨u, rfl, by simp [Starts, isSpace]⟩

theorem members_unique {members members' : List (List Char × Tree)}
    (hi : ∀ m ∈ members, m.2.IsOnly)
    (hj : ∀ m ∈ members, isNameText m.1 = true ∧ m.2.isJson = true)
    (hj' : ∀ m ∈ members', isNameText m.1 = true ∧ m.2.isJson = true) {isFirst : Bool}
    (h : Meet (memberTokens isFirst members ++ ['\x7d'] :: ts)
      (memberTokens isFirst members' ++ ['\x7d'] :: ts')) : members = members' ∧ Meet ts ts' := by
  induction members generalizing members' isFirst with
  | nil =>
    cases members' with
    | nil => exact ⟨rfl, Meet.char h (by decide)⟩
    | cons n members' =>
      obtain ⟨u, hu, hc⟩ := isNameText_first (hj' n (by simp)).1
      simp only [memberTokens, hu, List.nil_append, List.append_assoc, List.cons_append] at h
      exact absurd h (Meet.not_end (.inr rfl) hc)
  | cons m members ih =>
    cases members' with
    | nil =>
      obtain ⟨u, hu, hc⟩ := isNameText_first (hj m (by simp)).1
      simp only [memberTokens, hu, List.nil_append, List.append_assoc, List.cons_append] at h
      exact absurd h.symm (Meet.not_end (.inr rfl) hc)
    | cons n members' =>
      obtain ⟨t, x⟩ := m
      obtain ⟨t', y⟩ := n
      simp only [memberTokens, List.append_assoc, List.cons_append] at h
      have hm := hj (t, x) (by simp)
      have hn := hj' (t', y) (by simp)
      obtain ⟨rfl, hs⟩ := h.separator.scalar (isScalarText_of_isNameText hm.1)
        (isScalarText_of_isNameText hn.1) (by simp [Follows]) (by simp [Follows])
      obtain ⟨rfl, hv⟩ := hi (t, x) (by simp) hm.2 hn.2 (follows_members _ _)
        (follows_members _ _) (hs.char (by decide))
      obtain ⟨rfl, hr⟩ := ih (fun z hz => hi z (by simp [hz])) (fun z hz => hj z (by simp [hz]))
        (fun z hz => hj' z (by simp [hz])) hv
      exact ⟨rfl, hr⟩

/-- A text spells one value only, and the text behind the value is given. -/
theorem Tree.unique (x : Tree) : x.IsOnly := by
  -- The first character tells scalars, lists and objects apart.
  induction x using Tree.induct with
  | scalar t =>
    intro y ts ts' hx hy hf hf' h
    obtain ⟨c, u, rfl, hs⟩ := isScalarText_iff.mp hx
    have hc := starts_of_skipScalar hs
    cases y with
    | scalar t' =>
      obtain ⟨rfl, hm⟩ := Meet.scalar h hx hy hf hf'
      exact ⟨rfl, hm⟩
    | array items =>
      obtain ⟨-, -, -, -, he, -⟩ := Meet.skip h hc.1.1 (by decide)
      exact absurd he hc.2.1
    | object members =>
      obtain ⟨-, -, -, -, he, -⟩ := Meet.skip h hc.1.1 (by decide)
      exact absurd he hc.2.2
  | array items ih =>
    intro y ts ts' hx hy hf hf' h
    cases y with
    | scalar t' =>
      obtain ⟨c, u, rfl, hs⟩ := isScalarText_iff.mp hy
      have hc := starts_of_skipScalar hs
      obtain ⟨-, -, -, -, he, -⟩ := Meet.skip h (by decide) hc.1.1
      exact absurd he.symm hc.2.1
    | array items' =>
      simp only [Tree.tokens, List.cons_append, List.append_assoc, List.nil_append] at h
      obtain ⟨rfl, hm⟩ := items_unique ih (areJson_iff.mp hx) (areJson_iff.mp hy)
        (h.char (by decide))
      exact ⟨rfl, hm⟩
    | object members =>
      obtain ⟨-, -, -, -, he, -⟩ := Meet.skip h (by decide) (by decide)
      exact absurd he (by decide)
  | object members ih =>
    intro y ts ts' hx hy hf hf' h
    cases y with
    | scalar t' =>
      obtain ⟨c, u, rfl, hs⟩ := isScalarText_iff.mp hy
      have hc := starts_of_skipScalar hs
      obtain ⟨-, -, -, -, he, -⟩ := Meet.skip h (by decide) hc.1.1
      exact absurd he.symm hc.2.2
    | array items =>
      obtain ⟨-, -, -, -, he, -⟩ := Meet.skip h (by decide) (by decide)
      exact absurd he (by decide)
    | object members' =>
      simp only [Tree.tokens, List.cons_append, List.append_assoc, List.nil_append] at h
      obtain ⟨rfl, hm⟩ := members_unique ih (areJsonMembers_iff.mp hx) (areJsonMembers_iff.mp hy)
        (h.char (by decide))
      exact ⟨rfl, hm⟩

end Unique

end EditorBridge.Json

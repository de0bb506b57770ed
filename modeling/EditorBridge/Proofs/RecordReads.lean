import EditorBridge.Proofs.JsonReads
import Mathlib.Data.List.Forall2

/-!
What readers of options, lists and records make of the syntax of a text. A record takes its known
members in any order, and once each; it takes no notice of members with other names.
-/

namespace EditorBridge.Json

section Options

variable {α : Type} {read : Reader α} {meaning : Meaning α}

def Tree.isNull : Tree → Bool
  | .scalar t => decide (t = ['n', 'u', 'l', 'l'])
  | _ => false

def optionMeaning (meaning : Meaning α) : Meaning (Option α) := fun depth x =>
  if x.isNull then some none else (meaning depth x).map some

theorem Tree.isNull_iff {x : Tree} : x.isNull = true ↔ x = .scalar ['n', 'u', 'l', 'l'] := by
  cases x <;> simp [Tree.isNull]

/-- Only `null` begins with its first letter. -/
theorem Tree.first_ne_n {x : Tree} (hj : x.isJson = true) (hn : x.isNull = false) :
    ∃ c t ts, x.tokens = (c :: t) :: ts ∧ Starts c ∧ c ≠ 'n' := by
  obtain ⟨c, t, ts, hx, hc⟩ := Tree.exists_first hj
  refine ⟨c, t, ts, hx, hc, ?_⟩
  rintro rfl
  cases x with
  | scalar u =>
    obtain ⟨d, v, rfl, hs⟩ := isScalarText_iff.mp hj
    obtain ⟨⟨rfl, rfl⟩, rfl⟩ : (d = 'n' ∧ v = t) ∧ [] = ts := by simpa [Tree.tokens] using hx
    have hw : word ['u', 'l', 'l'] v = .ok [] := by simpa [skipScalar, Kind.of] using hs
    obtain rfl : v = ['u', 'l', 'l'] := by simpa using word_ok hw
    simp [Tree.isNull] at hn
  | array items => simp [Tree.tokens] at hx
  | object members => simp [Tree.tokens] at hx

/-- Some text can stand behind anything. -/
theorem spaced_any (r : List Char) : Spaced [r] r := by
  simpa using (Spaced.nil isBlank_nil).token r

theorem skipSpace_skipSpace (s : List Char) : skipSpace (skipSpace s) = skipSpace s := by
  cases h : skipSpace s with
  | nil => rfl
  | cons c r =>
    have hc : isSpace c = false := by
      have hn := List.head?_dropWhile_not isSpace s
      rw [show s.dropWhile isSpace = c :: r from h] at hn
      simpa using hn
    simp [skipSpace, hc]

theorem reads_option (h : Reads read meaning) :
    Reads (readOption read) (optionMeaning meaning) where
  json {depth x a} hx := by
    unfold optionMeaning at hx
    split at hx
    · rename_i hn
      rw [Tree.isNull_iff.mp hn]
      rfl
    · obtain ⟨b, hb, -⟩ := Option.map_eq_some_iff.mp hx
      exact h.json hb
  complete {depth x a ts s} hx hf hs := by
    unfold optionMeaning at hx
    split at hx
    · rename_i hn
      obtain rfl := Option.some.inj hx
      rw [Tree.isNull_iff.mp hn] at hs
      obtain ⟨r, hs, hr⟩ := Spaced.skip hs (by decide)
      refine ⟨r, ?_, hr⟩
      simp only [readOption, hs, word_append]
      rfl
    · rename_i hn
      obtain ⟨b, hb, rfl⟩ := Option.map_eq_some_iff.mp hx
      obtain ⟨c, t, us, ht, hc, hcn⟩ := Tree.first_ne_n (h.json hb) (by simpa using hn)
      have hk : Spaced (x.tokens ++ ts) (skipSpace s) := by
        rw [ht] at hs ⊢
        exact hs.skipped hc.1
      obtain ⟨r, hread, hr⟩ := h.complete hb hf hk
      refine ⟨r, ?_, hr⟩
      rw [ht] at hs
      obtain ⟨r', hs, -⟩ := Spaced.skip hs hc.1
      rw [hs] at hread
      simp [readOption, hs, hcn, hread, Except.map]
  sound {depth s r a} hs := by
    unfold readOption at hs
    split at hs
    · rename_i rest hk
      cases hw : word ['u', 'l', 'l'] rest with
      | error fault => simp [hw, Except.map] at hs
      | ok r' =>
        obtain ⟨rfl, rfl⟩ : none = a ∧ r' = r := by simpa [hw, Except.map] using hs
        have hr := word_ok hw
        subst hr
        exact ⟨.scalar ['n', 'u', 'l', 'l'], rfl, fun ts hsp => spaced_of_skip hk hsp⟩
    · rename_i hne
      obtain ⟨b, hb, rfl⟩ := map_ok hs
      obtain ⟨x, hx, hsp⟩ := h.sound hb
      refine ⟨x, ?_, fun ts hr => spaced_of_skipSpace (hsp ts hr)⟩
      -- The text of `null` would have been taken before.
      have hn : x.isNull = false := by
        cases hn : x.isNull with
        | false => rfl
        | true =>
          have ht := hsp [r] (spaced_any r)
          rw [Tree.isNull_iff.mp hn] at ht
          obtain ⟨r', hk, -⟩ := Spaced.skip ht (by decide)
          rw [skipSpace_skipSpace] at hk
          exact (hne _ hk).elim
      simp [optionMeaning, hn, hx]

def listMeaning (meaning : Meaning α) : Meaning (List α) := fun depth x =>
  match x with
  | .array items => if depth ≤ 1 then none else items.mapM (meaning (depth - 1))
  | _ => none

theorem listMeaning_array {depth : Nat} {x : Tree} {as : List α}
    (h : listMeaning meaning depth x = some as) :
    ∃ items, x = .array items ∧ 1 < depth ∧ items.mapM (meaning (depth - 1)) = some as := by
  cases x with
  | scalar t => simp [listMeaning] at h
  | object members => simp [listMeaning] at h
  | array items =>
    simp only [listMeaning] at h
    split at h
    · simp at h
    · exact ⟨items, rfl, by omega, h⟩

theorem reads_list (h : Reads read meaning) : Reads (readList read) (listMeaning meaning) where
  json {depth x as} hx := by
    obtain ⟨items, rfl, -, hi⟩ := listMeaning_array hx
    refine areJson_iff.mpr fun x hx => ?_
    obtain ⟨a, ha⟩ := exists_of_mapM hi hx
    exact h.json ha
  complete {depth x as ts s} hx hf hs := by
    obtain ⟨items, rfl, hd, hi⟩ := listMeaning_array hx
    simp only [Tree.tokens, List.cons_append, List.append_assoc, List.nil_append] at hs
    obtain ⟨r₁, hs, hr₁⟩ := hs.skip (by decide)
    have hj : ∀ x ∈ items, x.isJson = true := by
      intro x hx
      obtain ⟨a, ha⟩ := exists_of_mapM hi hx
      exact h.json ha
    have hl : (itemTokens true items ++ [[']']]).length ≤ r₁.length := by
      refine @length_le_of_spaced _ ts _ (by simpa using hr₁) fun t ht => ?_
      obtain ht | ht := List.mem_append.mp ht
      · exact itemTokens_ne_nil (fun x hx => x.tokens_ne_nil (hj x hx)) ht
      · obtain rfl : t = [']'] := by simpa using ht
        simp
    simp only [List.length_append, List.length_cons, List.length_nil] at hl
    have hr : ∀ x ∈ items, IsRead (fun _ => read) meaning x := by
      intro x _ n depth a ts s ha _ hf hs
      exact h.complete ha hf hs
    have hn : (itemTokens true items).length + 1 < r₁.length + 1 := by omega
    obtain ⟨r₂, r, hread, hend, hr⟩ := itemsFrom_complete hr hj hi hn hr₁
    refine ⟨r, ?_, hr⟩
    rw [← readItems_eq] at hread
    simp only [readList, hs]
    exact enter_ok.mpr ⟨hd, closeWith_ok.mpr ⟨r₂, hread, hend⟩⟩
  sound {depth s r as} hs := by
    unfold readList at hs
    split at hs
    · rename_i rest hk
      obtain ⟨hd, hs⟩ := enter_ok.mp hs
      obtain ⟨r₁, hs, hend⟩ := closeWith_ok.mp hs
      rw [readItems_eq] at hs
      have hm : ∀ m < rest.length + 1, IsMeant (fun _ => read) meaning m :=
        fun m _ depth s r a ha => h.sound ha
      obtain ⟨items, r', hi, rfl, hsp⟩ := itemsFrom_sound hm hs
      refine ⟨.array items, ?_, fun ts hr => ?_⟩
      · rw [listMeaning, if_neg (by omega), hi]
      · obtain rfl : r' = r := by simpa [listEnd, skipSpace, isSpace] using hend
        simpa [Tree.tokens] using spaced_of_skip hk (hsp ts hr)
    · exact (wrongType_not_ok hs).elim

end Options

/-! ### Records -/

/-- What a field of a record does: its name, and what its value makes of a record. -/
structure Slot (σ : Type) where
  name : String
  meaning : σ → Meaning σ

structure Slot.Describes {σ : Type} (slot : Slot σ) (field : Field σ) : Prop where
  name : field.name = slot.name
  reads (record : σ) : Reads (field.read record) (slot.meaning record)

/-- A slot whose value may be missing or `null`. -/
def Slot.optional {σ α : Type} (name : String) (meaning : Meaning α) (put : Option α → σ → σ) :
    Slot σ :=
  ⟨name, fun record depth x => (optionMeaning meaning depth x).map fun a => put a record⟩

theorem Slot.optional_describes {σ α : Type} {read : Reader α} {meaning : Meaning α}
    (h : Reads read meaning) (name : String) (put : Option α → σ → σ) :
    (Slot.optional name meaning put).Describes (.optional name read put) where
  name := rfl
  reads record := (reads_option h).map fun a => put a record

section Records

variable {σ : Type} {slots : List (Slot σ)} {fields : List (Field σ)}

def slot? (slots : List (Slot σ)) (name : String) : Option (Slot σ) :=
  slots.find? fun slot => slot.name = name

def memberMeaning (slots : List (Slot σ)) (depth : Nat) (record : σ) (m : List Char × Tree) :
    Option σ :=
  match textOf? m.1 with
  | none => none
  | some name =>
    match slot? slots name with
    | none => if m.2.isJson then some record else none
    | some slot => slot.meaning record depth m.2

def knownName? (slots : List (Slot σ)) (m : List Char × Tree) : Option String :=
  (textOf? m.1).filter fun name => (slot? slots name).isSome

def fieldsMeaning (depth : Nat) : List (Slot σ) → σ → List Tree → Option σ
  | [], record, [] => some record
  | slot :: slots, record, x :: items =>
    (slot.meaning record depth x).bind fun record => fieldsMeaning depth slots record items
  | _, _, _ => none

def recordMeaning (slots : List (Slot σ)) (empty : σ) : Meaning σ := fun depth x =>
  match x with
  | .scalar _ => none
  | .array items => if depth ≤ 1 then none else fieldsMeaning (depth - 1) slots empty items
  | .object members =>
    if 1 < depth ∧ (members.filterMap (knownName? slots)).Nodup then
      members.foldlM (memberMeaning slots (depth - 1)) empty
    else none

/-- Fields are found by name where their slots are. -/
theorem find_field (h : List.Forall₂ Slot.Describes slots fields) (name : String) :
    (slot? slots name = none ∧ (fields.find? fun field => field.name = name) = none) ∨
      ∃ slot field, slot? slots name = some slot ∧
        (fields.find? fun field => field.name = name) = some field ∧ slot.Describes field := by
  induction h with
  | nil => exact .inl ⟨rfl, rfl⟩
  | @cons slot field slots fields hd _ ih =>
    by_cases hn : slot.name = name
    · have hf : field.name = name := hd.name.trans hn
      exact .inr ⟨slot, field, by simp [slot?, hn], by simp [hf], hd⟩
    · have hf : ¬field.name = name := fun hf => hn (hd.name.symm.trans hf)
      simpa [slot?, hn, hf] using ih

theorem memberMeaning_unknown {name : String} {depth : Nat} {record record' : σ}
    {m : List Char × Tree} (ht : textOf? m.1 = some name) (hs : slot? slots name = none) :
    memberMeaning slots depth record m = some record' ↔
      m.2.isJson = true ∧ record = record' := by
  simp [memberMeaning, ht, hs]

theorem memberMeaning_known {name : String} {depth : Nat} {record : σ} {m : List Char × Tree}
    {slot : Slot σ} (ht : textOf? m.1 = some name) (hs : slot? slots name = some slot) :
    memberMeaning slots depth record m = slot.meaning record depth m.2 := by
  simp [memberMeaning, ht, hs]

theorem memberMeaning_isJson (h : List.Forall₂ Slot.Describes slots fields) {depth : Nat}
    {record record' : σ} {m : List Char × Tree}
    (hm : memberMeaning slots depth record m = some record') :
    isNameText m.1 = true ∧ m.2.isJson = true := by
  cases ht : textOf? m.1 with
  | none => simp [memberMeaning, ht] at hm
  | some name =>
    refine ⟨textOf_isNameText ht, ?_⟩
    obtain ⟨hs, -⟩ | ⟨slot, field, hs, -, hd⟩ := find_field h name
    · exact ((memberMeaning_unknown ht hs).mp hm).1
    · rw [memberMeaning_known ht hs] at hm
      exact (hd.reads record).json hm

theorem foldlM_isJson (h : List.Forall₂ Slot.Describes slots fields) {depth : Nat}
    {record record' : σ} {members : List (List Char × Tree)}
    (hm : members.foldlM (memberMeaning slots depth) record = some record') :
    areJsonMembers members = true := by
  induction members generalizing record with
  | nil => rfl
  | cons m members ih =>
    obtain ⟨record₁, h₁, hr⟩ : ∃ record₁, memberMeaning slots depth record m = some record₁ ∧
        members.foldlM (memberMeaning slots depth) record₁ = some record' := by
      simpa [List.foldlM_cons, Option.bind_eq_some_iff] using hm
    have hj := memberMeaning_isJson h h₁
    simp [areJsonMembers, hj, ih hr]

theorem fieldsMeaning_isJson (h : List.Forall₂ Slot.Describes slots fields) {depth : Nat}
    {record record' : σ} {items : List Tree}
    (hm : fieldsMeaning depth slots record items = some record') : areJson items = true := by
  induction h generalizing record items with
  | nil =>
    cases items with
    | nil => rfl
    | cons x items => simp [fieldsMeaning] at hm
  | cons hd _ ih =>
    cases items with
    | nil => simp [fieldsMeaning] at hm
    | cons x items =>
      obtain ⟨record₁, h₁, hr⟩ := Option.bind_eq_some_iff.mp hm
      simp [areJson, (hd.reads record).json h₁, ih hr]

/-- What the members of an object make of a record is read, if none of them has been seen. -/
theorem readMembers_complete {r : Record σ} (h : List.Forall₂ Slot.Describes slots r.fields)
    {members : List (List Char × Tree)} {n depth : Nat} {isFirst : Bool} {seen : List String}
    {record record' : σ} {ts : List (List Char)} {s : List Char}
    (hm : members.foldlM (memberMeaning slots depth) record = some record')
    (hd : (members.filterMap (knownName? slots)).Nodup)
    (hseen : ∀ name ∈ members.filterMap (knownName? slots), name ∉ seen)
    (hn : members.length < n)
    (hs : Spaced (memberTokens isFirst members ++ ['\x7d'] :: ts) s) :
    ∃ rest rest', r.readMembers n isFirst seen record depth s = .ok (record', rest) ∧
      objectEnd rest = .ok rest' ∧ Spaced ts rest' := by
  obtain ⟨n, rfl⟩ : ∃ m, n = m + 1 := ⟨n - 1, by omega⟩
  induction members generalizing n isFirst seen record s with
  | nil =>
    obtain rfl : record = record' := by simpa using hm
    obtain ⟨rest, hr, hsp⟩ := nextName_end hs isFirst
    obtain ⟨rest', hr', hsp'⟩ := objectEnd_spaced (hsp.token ['\x7d'])
    exact ⟨'\x7d' :: rest, rest', by simp [Record.readMembers, hr], hr', hsp'⟩
  | cons m members ih =>
    obtain ⟨t, x⟩ := m
    obtain ⟨record₁, h₁, hrest⟩ : ∃ record₁,
        memberMeaning slots depth record (t, x) = some record₁ ∧
          members.foldlM (memberMeaning slots depth) record₁ = some record' := by
      simpa [List.foldlM_cons, Option.bind_eq_some_iff] using hm
    obtain ⟨n, rfl⟩ : ∃ m, n = m + 1 := ⟨n - 1, by simp at hn; omega⟩
    simp only [List.length_cons] at hn
    simp only [memberTokens, List.append_assoc, List.cons_append] at hs
    cases ht : textOf? t with
    | none => simp [memberMeaning, ht] at h₁
    | some name =>
      obtain ⟨r₁, r₂, hnext, hcolon, hr₂⟩ := nextName_spaced hs ht
      rw [Record.readMembers, hnext]
      obtain ⟨hslot, hfield⟩ | ⟨slot, field, hslot, hfield, hdesc⟩ := find_field h name
      · obtain ⟨hj, rfl⟩ := (memberMeaning_unknown ht hslot).mp h₁
        obtain ⟨r₃, hskip, hr₃⟩ := skipValue_spaced hj (follows_members members ts) hr₂
        have hk : knownName? slots (t, x) = none := by simp [knownName?, ht, hslot]
        rw [List.filterMap_cons_none hk] at hd hseen
        have hgo := ih hrest hd hseen hr₃ n (by omega)
        simpa only [hfield, hcolon, Except.bind, hskip] using hgo
      · rw [memberMeaning_known ht hslot] at h₁
        have hk : knownName? slots (t, x) = some name := by simp [knownName?, ht, hslot]
        rw [List.filterMap_cons_some hk] at hd hseen
        -- The name is new, and from here on it counts as seen.
        obtain ⟨hfresh, hd⟩ := List.nodup_cons.mp hd
        obtain ⟨hnew, hseen⟩ := List.forall_mem_cons.mp hseen
        obtain ⟨r₃, hread, hr₃⟩ :=
          (hdesc.reads record).complete h₁ (follows_members members ts) hr₂
        have hseen' : ∀ v ∈ members.filterMap (knownName? slots), v ∉ name :: seen := by
          intro v hv hmem
          obtain rfl | hmem := List.mem_cons.mp hmem
          · exact hfresh hv
          · exact hseen v hv hmem
        have hgo := ih hrest hd hseen' hr₃ n (by omega)
        simpa [hfield, hnew, hcolon, Except.bind, hread] using hgo

/-- What is read of the members of an object is what they make of a record. -/
theorem readMembers_sound {r : Record σ} (h : List.Forall₂ Slot.Describes slots r.fields)
    {n depth : Nat} {isFirst : Bool} {seen : List String} {record record' : σ}
    {s rest : List Char}
    (hs : r.readMembers n isFirst seen record depth s = .ok (record', rest)) :
    ∃ members rest', members.foldlM (memberMeaning slots depth) record = some record' ∧
      (members.filterMap (knownName? slots)).Nodup ∧
      (∀ name ∈ members.filterMap (knownName? slots), name ∉ seen) ∧ rest = '\x7d' :: rest' ∧
      ∀ ts, Spaced ts rest' → Spaced (memberTokens isFirst members ++ ['\x7d'] :: ts) s := by
  induction n generalizing isFirst seen record s with
  | zero => simp [Record.readMembers, failPast] at hs
  | succ n ih =>
    rw [Record.readMembers] at hs
    split at hs
    · simp at hs
    · rename_i s₁ hnext
      obtain ⟨rfl, rfl⟩ : record = record' ∧ s₁ = rest := by simpa using hs
      obtain ⟨rest', rfl, hsp⟩ := nextName_none hnext
      exact ⟨[], rest', rfl, by simp, by simp, rfl,
        fun ts hr => by simpa [memberTokens] using hsp ts hr⟩
    · rename_i name s₁ hnext
      obtain ⟨t, ht, hsp⟩ := nextName_some hnext
      obtain ⟨hslot, hfield⟩ | ⟨slot, field, hslot, hfield, hdesc⟩ := find_field h name
      · simp only [hfield] at hs
        split at hs
        · simp at hs
        · rename_i s₃ hskip
          cases hc : colon s₁ with
          | error fault => simp [hc, Except.bind] at hskip
          | ok s₂ =>
            rw [hc] at hskip
            obtain ⟨x, hx, hsx⟩ := skipValue_ok hskip
            obtain ⟨members, rest', hm, hd, hseen, rfl, hsm⟩ := ih hs
            have hk : knownName? slots (t, x) = none := by simp [knownName?, ht, hslot]
            have h₁ : memberMeaning slots depth record (t, x) = some record :=
              (memberMeaning_unknown ht hslot).mpr ⟨hx, rfl⟩
            refine ⟨(t, x) :: members, rest', ?_, ?_, ?_, rfl, fun ts hr => ?_⟩
            · simp [List.foldlM_cons, h₁, hm]
            · rwa [List.filterMap_cons_none hk]
            · rwa [List.filterMap_cons_none hk]
            · simpa [memberTokens] using hsp _ (colon_ok hc (hsx _ (hsm ts hr)))
      · simp only [hfield] at hs
        split at hs
        · simp [complain] at hs
        · rename_i hnew
          split at hs
          · simp at hs
          · rename_i record₁ s₃ hread
            cases hc : colon s₁ with
            | error fault => simp [hc, Except.bind] at hread
            | ok s₂ =>
              rw [hc] at hread
              obtain ⟨x, hx, hsx⟩ := (hdesc.reads record).sound hread
              obtain ⟨members, rest', hm, hd, hseen, rfl, hsm⟩ := ih hs
              have hk : knownName? slots (t, x) = some name := by simp [knownName?, ht, hslot]
              have h₁ : memberMeaning slots depth record (t, x) = some record₁ := by
                rw [memberMeaning_known ht hslot]
                exact hx
              refine ⟨(t, x) :: members, rest', ?_, ?_, ?_, rfl, fun ts hr => ?_⟩
              · simp [List.foldlM_cons, h₁, hm]
              · rw [List.filterMap_cons_some hk]
                exact List.nodup_cons.mpr ⟨fun hmem => hseen name hmem (by simp), hd⟩
              · rw [List.filterMap_cons_some hk]
                refine List.forall_mem_cons.mpr ⟨by simpa using hnew, fun v hv hmem => ?_⟩
                exact hseen v hv (List.mem_cons_of_mem _ hmem)
              · simpa [memberTokens] using hsp _ (colon_ok hc (hsx _ (hsm ts hr)))

theorem readFields_complete {r : Record σ} (h : List.Forall₂ Slot.Describes slots fields)
    {items : List Tree} {depth : Nat} {isFirst : Bool} {record record' : σ}
    {ts : List (List Char)} {s : List Char}
    (hm : fieldsMeaning depth slots record items = some record')
    (hs : Spaced (itemTokens isFirst items ++ [']'] :: ts) s) :
    ∃ rest rest', r.readFields isFirst record depth s fields = .ok (record', rest) ∧
      listEnd rest = .ok rest' ∧ Spaced ts rest' := by
  induction h generalizing items isFirst record s with
  | nil =>
    cases items with
    | nil =>
      obtain rfl : record = record' := by simpa [fieldsMeaning] using hm
      obtain ⟨rest, hr, hsp⟩ := listEnd_spaced hs
      exact ⟨s, rest, rfl, hr, hsp⟩
    | cons x items => simp [fieldsMeaning] at hm
  | @cons slot field slots fields hd _ ih =>
    cases items with
    | nil => simp [fieldsMeaning] at hm
    | cons x items =>
      obtain ⟨record₁, h₁, hrest⟩ := Option.bind_eq_some_iff.mp hm
      obtain ⟨c, t, us, ht, hc⟩ := Tree.exists_first ((hd.reads record).json h₁)
      have hp := hs
      simp only [itemTokens, ht, List.append_assoc, List.cons_append] at hp
      obtain ⟨r₁, _, hnext, hr₁⟩ := nextItem_spaced hp ⟨hc.1, hc.2.2.1⟩
      have hv : Spaced (x.tokens ++ (itemTokens false items ++ [']'] :: ts)) r₁ := by
        rw [ht]
        exact hr₁
      obtain ⟨r₂, hread, hr₂⟩ := (hd.reads record).complete h₁ (follows_items items ts) hv
      obtain ⟨rest, rest', hgo, hend, hr⟩ := ih hrest hr₂
      refine ⟨rest, rest', ?_, hend, hr⟩
      simp only [Record.readFields, hnext, hread]
      exact hgo

theorem readFields_sound {r : Record σ} (h : List.Forall₂ Slot.Describes slots fields)
    {depth : Nat} {isFirst : Bool} {record record' : σ} {s rest rest' : List Char}
    (hs : r.readFields isFirst record depth s fields = .ok (record', rest))
    (hend : listEnd rest = .ok rest') :
    ∃ items, fieldsMeaning depth slots record items = some record' ∧
      ∀ ts, Spaced ts rest' → Spaced (itemTokens isFirst items ++ [']'] :: ts) s := by
  induction h generalizing isFirst record s with
  | nil =>
    obtain ⟨rfl, rfl⟩ : record = record' ∧ s = rest := by simpa [Record.readFields] using hs
    exact ⟨[], rfl, fun ts hr => listEnd_ok hend hr⟩
  | @cons slot field slots fields hd _ ih =>
    rw [Record.readFields] at hs
    split at hs
    · simp at hs
    · simp [complain] at hs
    · rename_i s₁ s₂ hnext
      split at hs
      · simp at hs
      · rename_i record₁ s₃ hread
        obtain ⟨x, hx, hsx⟩ := (hd.reads record).sound hread
        obtain ⟨items, hi, hsi⟩ := ih hs
        refine ⟨x :: items, by simp [fieldsMeaning, hx, hi], fun ts hr => ?_⟩
        simpa [itemTokens] using nextItem_some hnext (hsx _ (hsi ts hr))

theorem length_members_le (members : List (List Char × Tree)) (isFirst : Bool) :
    members.length ≤ (memberTokens isFirst members).length := by
  induction members generalizing isFirst with
  | nil => simp
  | cons m members ih =>
    have hr := ih false
    simp only [memberTokens, List.length_cons, List.length_append]
    omega

theorem recordMeaning_object {empty record : σ} {depth : Nat} {members : List (List Char × Tree)} :
    recordMeaning slots empty depth (.object members) = some record ↔
      1 < depth ∧ (members.filterMap (knownName? slots)).Nodup ∧
        members.foldlM (memberMeaning slots (depth - 1)) empty = some record := by
  simp only [recordMeaning]
  split
  · tauto
  · simp
    tauto

theorem recordMeaning_array {empty record : σ} {depth : Nat} {items : List Tree} :
    recordMeaning slots empty depth (.array items) = some record ↔
      1 < depth ∧ fieldsMeaning (depth - 1) slots empty items = some record := by
  simp only [recordMeaning]
  split
  · simp
    omega
  · simp
    omega

/-- A record is read as its slots say. -/
theorem reads_record {r : Record σ} (h : List.Forall₂ Slot.Describes slots r.fields) :
    Reads r.read (recordMeaning slots r.empty) where
  json {depth x record} hx := by
    cases x with
    | scalar t => simp [recordMeaning] at hx
    | array items => exact fieldsMeaning_isJson h (recordMeaning_array.mp hx).2
    | object members => exact foldlM_isJson h (recordMeaning_object.mp hx).2.2
  complete {depth x record ts s} hx hf hs := by
    cases x with
    | scalar t => simp [recordMeaning] at hx
    | array items =>
      obtain ⟨hd, hm⟩ := recordMeaning_array.mp hx
      simp only [Tree.tokens, List.cons_append, List.append_assoc, List.nil_append] at hs
      obtain ⟨r₁, hs, hr₁⟩ := hs.skip (by decide)
      obtain ⟨r₂, rest, hread, hend, hr⟩ := readFields_complete h hm hr₁
      refine ⟨rest, ?_, hr⟩
      simp only [Record.read, hs]
      exact enter_ok.mpr ⟨hd, closeWith_ok.mpr ⟨r₂, hread, hend⟩⟩
    | object members =>
      obtain ⟨hd, hn, hm⟩ := recordMeaning_object.mp hx
      have hj := areJsonMembers_iff.mp (foldlM_isJson h hm)
      simp only [Tree.tokens, List.cons_append, List.append_assoc, List.nil_append] at hs
      obtain ⟨r₁, hs, hr₁⟩ := hs.skip (by decide)
      have hl : (memberTokens true members).length ≤ r₁.length := by
        refine length_le_of_spaced hr₁ fun t ht => memberTokens_ne_nil (fun m hm => ?_) ht
        obtain ⟨u, hu, -⟩ := isNameText_first (hj m hm).1
        exact ⟨by simp [hu], m.2.tokens_ne_nil (hj m hm).2⟩
      have hk := length_members_le members true
      obtain ⟨r₂, rest, hread, hend, hr⟩ := @readMembers_complete _ _ r h members
        (r₁.length + 1) _ true [] _ _ _ _ hm hn (by simp) (by omega) hr₁
      refine ⟨rest, ?_, hr⟩
      simp only [Record.read, hs]
      exact enter_ok.mpr ⟨hd, closeWith_ok.mpr ⟨r₂, hread, hend⟩⟩
  sound {depth s rest record} hs := by
    unfold Record.read at hs
    split at hs
    · rename_i r₁ hk
      obtain ⟨hd, hs⟩ := enter_ok.mp hs
      obtain ⟨r₂, hs, hend⟩ := closeWith_ok.mp hs
      obtain ⟨members, r', hm, hn, -, rfl, hsp⟩ := readMembers_sound h hs
      refine ⟨.object members, recordMeaning_object.mpr ⟨hd, hn, hm⟩, fun ts hr => ?_⟩
      obtain rfl : r' = rest := by simpa [objectEnd, skipSpace, isSpace] using hend
      simpa [Tree.tokens] using spaced_of_skip hk (hsp ts hr)
    · rename_i r₁ hk
      obtain ⟨hd, hs⟩ := enter_ok.mp hs
      obtain ⟨r₂, hs, hend⟩ := closeWith_ok.mp hs
      obtain ⟨items, hm, hsp⟩ := readFields_sound h hs hend
      refine ⟨.array items, recordMeaning_array.mpr ⟨hd, hm⟩, fun ts hr => ?_⟩
      simpa [Tree.tokens] using spaced_of_skip hk (hsp ts hr)
    · exact (wrongType_not_ok hs).elim

end Records

end EditorBridge.Json

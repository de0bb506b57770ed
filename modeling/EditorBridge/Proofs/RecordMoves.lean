import EditorBridge.Proofs.JsonMoves
import Mathlib.Data.List.Pairwise

/-!
Changes of the text of a record that make no difference to what is read. Its slots take their values
in any order, each of them from members of its name only, and a slot whose value is missing holds
what an empty value would leave there.
-/

namespace EditorBridge.Json

/-- Whether a slot reads a field so that changes of its value make no difference, nor does a value
that says no more than a missing one. -/
structure Slot.Fits {σ τ : Type} (n : Nat) (view : σ → τ) (empty : σ) (slot : Slot σ)
    (field : String × Shape) : Prop where
  name : slot.name = field.1
  agrees {depth : Nat} {x y : Tree} {record record' : σ} : n ≤ depth → Alike field.2 x y →
    view record = view record' →
    (slot.meaning record depth x).map view = (slot.meaning record' depth y).map view
  vacant {depth : Nat} {x : Tree} : n ≤ depth → Vacant field.2 x →
    (slot.meaning empty depth x).map view = some (view empty)

/-- Whether two slots may take their values in any order. -/
def Slot.Commute {σ : Type} (slot slot' : Slot σ) : Prop :=
  ∀ record depth x y, (slot.meaning record depth x).bind (slot'.meaning · depth y) =
    (slot'.meaning record depth y).bind (slot.meaning · depth x)

instance {σ : Type} : Std.Symm (@Slot.Commute σ) where
  symm _ _ h := fun record depth x y => (h record depth y x).symm

/-- Whether slots read the fields of a record so that changes make no difference. -/
structure Fits {σ τ : Type} (n : Nat) (view : σ → τ) (empty : σ) (slots : List (Slot σ))
    (fields : List (String × Shape)) : Prop where
  fit : List.Forall₂ (Slot.Fits n view empty) slots fields
  commute : slots.Pairwise Slot.Commute

section Records

variable {σ τ : Type} {n depth : Nat} {view : σ → τ} {empty : σ} {slots : List (Slot σ)}
  {fields : List (String × Shape)}

theorem bind_agrees {o o' : Option σ} {f g : σ → Option σ} (h : o.map view = o'.map view)
    (hf : ∀ record record', view record = view record' →
      (f record).map view = (g record').map view) :
    (o.bind f).map view = (o'.bind g).map view := by
  cases o with
  | none =>
    cases o' with
    | none => rfl
    | some record' => simp at h
  | some record =>
    cases o' with
    | none => simp at h
    | some record' => exact hf record record' (by simpa using h)

/-- Slots and fields of a name are found together. -/
theorem find_slot (h : List.Forall₂ (Slot.Fits n view empty) slots fields) (name : String) :
    (slot? slots name = none ∧ (Shape.record fields).member? name = none) ∨
      ∃ slot shape, slot? slots name = some slot ∧
        (Shape.record fields).member? name = some shape ∧ slot.name = name ∧
        slot.Fits n view empty (slot.name, shape) := by
  induction h with
  | nil => exact .inl ⟨rfl, rfl⟩
  | @cons slot field slots fields hf _ ih =>
    obtain ⟨other, shape⟩ := field
    obtain rfl : slot.name = other := hf.name
    by_cases hn : slot.name = name
    · exact .inr ⟨slot, shape, by simp [slot?, hn], by simp [Shape.member?, hn], hn, hf⟩
    · simpa [slot?, Shape.member?, hn] using ih

theorem memberMeaning_agrees (h : List.Forall₂ (Slot.Fits n view empty) slots fields)
    (hd : n ≤ depth) {t : List Char} {x y : Tree} {name : String} {shape : Shape}
    (ht : textOf? t = some name) (hs : (Shape.record fields).member? name = some shape)
    (hm : Alike shape x y) {record record' : σ} (hv : view record = view record') :
    (memberMeaning slots depth record (t, x)).map view =
      (memberMeaning slots depth record' (t, y)).map view := by
  obtain ⟨-, hnone⟩ | ⟨slot, shape', hslot, hsome, -, hf⟩ := find_slot h name
  · simp [hnone] at hs
  · obtain rfl : shape' = shape := Option.some.inj (hsome.symm.trans hs)
    rw [memberMeaning_known ht hslot, memberMeaning_known ht hslot]
    exact hf.agrees hd hm hv

theorem Fits.mono (h : Fits n view empty slots fields) {k : Nat} (hk : n ≤ k) :
    Fits k view empty slots fields where
  fit := h.fit.imp fun _ _ hf =>
    ⟨hf.name, fun hd => hf.agrees (hk.trans hd), fun hd => hf.vacant (hk.trans hd)⟩
  commute := h.commute

/-- One member makes the same of records that look the same. -/
theorem memberMeaning_view (h : List.Forall₂ (Slot.Fits n view empty) slots fields)
    (hd : n ≤ depth) (m : List Char × Tree) {record record' : σ}
    (hv : view record = view record') :
    (memberMeaning slots depth record m).map view =
      (memberMeaning slots depth record' m).map view := by
  cases ht : textOf? m.1 with
  | none => simp [memberMeaning, ht]
  | some name =>
    obtain ⟨hslot, -⟩ | ⟨slot, shape, -, hs, -, -⟩ := find_slot h name
    · simp only [memberMeaning, ht, hslot]
      split
      · simpa using hv
      · rfl
    · exact memberMeaning_agrees h hd ht hs (.inl rfl) hv

theorem foldlM_view (h : List.Forall₂ (Slot.Fits n view empty) slots fields) (hd : n ≤ depth)
    (members : Members) {record record' : σ} (hv : view record = view record') :
    (members.foldlM (memberMeaning slots depth) record).map view =
      (members.foldlM (memberMeaning slots depth) record').map view := by
  induction members generalizing record record' with
  | nil => simpa using hv
  | cons m members ih =>
    simp only [List.foldlM_cons]
    exact bind_agrees (memberMeaning_view h hd m hv) fun _ _ => ih

/-- Members with different names may come in any order. -/
theorem memberMeaning_comm (h : Fits n view empty slots fields) {m m' : List Char × Tree}
    (hm : ∀ name, knownName? slots m = some name → knownName? slots m' ≠ some name) (record : σ) :
    (memberMeaning slots depth record m).bind (memberMeaning slots depth · m') =
      (memberMeaning slots depth record m').bind (memberMeaning slots depth · m) := by
  cases ht : textOf? m.1 with
  | none => cases memberMeaning slots depth record m' <;> simp [memberMeaning, ht]
  | some name =>
    cases ht' : textOf? m'.1 with
    | none => cases memberMeaning slots depth record m <;> simp [memberMeaning, ht']
    | some name' =>
      cases hs : slot? slots name with
      | none =>
        have hu (record : σ) : memberMeaning slots depth record m =
            if m.2.isJson then some record else none := by simp [memberMeaning, ht, hs]
        cases hj : m.2.isJson <;> cases hm' : memberMeaning slots depth record m' <;>
          simp [hu, hj, hm']
      | some slot =>
        cases hs' : slot? slots name' with
        | none =>
          have hu (record : σ) : memberMeaning slots depth record m' =
              if m'.2.isJson then some record else none := by simp [memberMeaning, ht', hs']
          cases hj : m'.2.isJson <;> cases hm' : memberMeaning slots depth record m <;>
            simp [hu, hj, hm']
        | some slot' =>
          have hne : name ≠ name' := by
            rintro rfl
            exact hm name (by simp [knownName?, ht, hs]) (by simp [knownName?, ht', hs])
          have hslot : slot ≠ slot' := by
            rintro rfl
            have hn := List.find?_some hs
            have hn' := List.find?_some hs'
            simp only [decide_eq_true_eq] at hn hn'
            exact hne (hn.symm.trans hn')
          have hc := h.commute.forall (List.mem_of_find?_eq_some hs)
            (List.mem_of_find?_eq_some hs') hslot
          simpa [memberMeaning, ht, ht', hs, hs'] using hc record depth m.2 m'.2

theorem foldl_bind (f : σ → List Char × Tree → Option σ) (members : Members) (o : Option σ) :
    members.foldl (fun o m => o.bind fun record => f record m) o =
      o.bind fun record => members.foldlM f record := by
  induction members generalizing o with
  | nil => cases o <;> rfl
  | cons m members ih =>
    rw [List.foldl_cons, ih]
    cases o <;> rfl

theorem eq_of_nodup_filterMap {α β : Type} {f : α → Option β} {xs : List α}
    (h : (xs.filterMap f).Nodup) {x y : α} (hx : x ∈ xs) (hy : y ∈ xs) {b : β}
    (hfx : f x = some b) (hfy : f y = some b) : x = y := by
  induction xs with
  | nil => simp at hx
  | cons w xs ih =>
    cases hw : f w with
    | none =>
      have hne : ∀ z, f z = some b → z ≠ w := by
        rintro z hz rfl
        simp [hz] at hw
      rw [List.filterMap_cons_none hw] at h
      exact ih h (List.mem_of_ne_of_mem (hne x hfx) hx) (List.mem_of_ne_of_mem (hne y hfy) hy)
    | some c =>
      rw [List.filterMap_cons_some hw] at h
      obtain ⟨hc, h⟩ := List.nodup_cons.mp h
      have hne : ∀ z ∈ xs, f z = some b → c ≠ b := by
        rintro z hz hfz rfl
        exact hc (List.mem_filterMap.mpr ⟨z, hz, hfz⟩)
      obtain rfl | hx' := List.mem_cons.mp hx
      · obtain rfl | hy' := List.mem_cons.mp hy
        · rfl
        · exact absurd (Option.some.inj (hw.symm.trans hfx)) (hne y hy' hfy)
      · obtain rfl | hy' := List.mem_cons.mp hy
        · exact absurd (Option.some.inj (hw.symm.trans hfy)) (hne x hx' hfx)
        · exact ih h hx' hy'

theorem foldlM_perm (h : Fits n view empty slots fields) {members members' : Members}
    (hp : members.Perm members') (hn : (members.filterMap (knownName? slots)).Nodup)
    (record : σ) :
    members.foldlM (memberMeaning slots depth) record =
      members'.foldlM (memberMeaning slots depth) record := by
  have hf : members.foldl (fun o m => o.bind (memberMeaning slots depth · m)) (some record) =
      members'.foldl (fun o m => o.bind (memberMeaning slots depth · m)) (some record) := by
    -- Members with one known name are one member, so those that change places commute.
    refine hp.foldl_eq' (fun m hm m' hm' o => ?_) (some record)
    by_cases he : m = m'
    · rw [he]
    · cases o with
      | none => rfl
      | some record =>
        refine memberMeaning_comm h (fun name hk hk' => ?_) record
        exact he (eq_of_nodup_filterMap hn hm hm' hk hk')
  simpa [foldl_bind] using hf

theorem fieldsMeaning_view (h : List.Forall₂ (Slot.Fits n view empty) slots fields)
    (hd : n ≤ depth) (items : List Tree) {record record' : σ} (hv : view record = view record') :
    (fieldsMeaning depth slots record items).map view =
      (fieldsMeaning depth slots record' items).map view := by
  induction h generalizing record record' items with
  | nil =>
    cases items with
    | nil => simpa [fieldsMeaning] using hv
    | cons x items => rfl
  | cons hf _ ih =>
    cases items with
    | nil => rfl
    | cons x items => exact bind_agrees (hf.agrees hd (.inl rfl) hv) fun _ _ => ih items

/-- One field of a record that is written as a list is changed. -/
theorem fieldsMeaning_middle (h : List.Forall₂ (Slot.Fits n view empty) slots fields)
    (hd : n ≤ depth) {items items' : List Tree} {part : Shape} {x y : Tree}
    (hi : (Shape.record fields).item? items.length = some part) (hm : Alike part x y)
    (record : σ) :
    (fieldsMeaning depth slots record (items ++ x :: items')).map view =
      (fieldsMeaning depth slots record (items ++ y :: items')).map view := by
  induction h generalizing record items with
  | nil => simp [Shape.item?] at hi
  | @cons slot field slots fields hf hr ih =>
    cases items with
    | nil =>
      obtain rfl : field.2 = part := by simpa [Shape.item?] using hi
      exact bind_agrees (hf.agrees hd hm rfl) fun _ _ => fieldsMeaning_view hr hd items'
    | cons w items =>
      have hi' : (Shape.record fields).item? items.length = some part := by
        simpa [Shape.item?] using hi
      simp only [List.cons_append, fieldsMeaning]
      cases slot.meaning record depth w with
      | none => rfl
      | some record' => exact ih hi' record'

theorem recordMeaning_object_eq (depth : Nat) (members : Members) :
    recordMeaning slots empty depth (.object members) =
      if 1 < depth ∧ (members.filterMap (knownName? slots)).Nodup then
        members.foldlM (memberMeaning slots (depth - 1)) empty
      else none := rfl

/-- A member that says nothing may stand among the others. -/
theorem foldlM_vacant (h : Fits n view empty slots fields) (hd : n ≤ depth)
    {members members' : Members} {t : List Char} {name : String} {shape : Shape} {x : Tree}
    (ht : textOf? t = some name) (hs : (Shape.record fields).member? name = some shape)
    (hx : Vacant shape x)
    (hn : ((members ++ (t, x) :: members').filterMap (knownName? slots)).Nodup) :
    ((members ++ (t, x) :: members').foldlM (memberMeaning slots depth) empty).map view =
      ((members ++ members').foldlM (memberMeaning slots depth) empty).map view := by
  obtain ⟨-, hnone⟩ | ⟨slot, shape', hslot, hsome, -, hf⟩ := find_slot h.fit name
  · simp [hnone] at hs
  · obtain rfl : shape' = shape := Option.some.inj (hsome.symm.trans hs)
    -- In front of all others the member meets the empty record, which it leaves as it looks.
    rw [foldlM_perm h List.perm_middle hn empty, List.foldlM_cons, memberMeaning_known ht hslot]
    obtain ⟨record, hr, he⟩ := Option.map_eq_some_iff.mp (hf.vacant hd hx)
    simp only [hr]
    exact foldlM_view h.fit hd (members ++ members') he

theorem agrees_record (h : Fits n view empty slots fields) :
    Agrees (n + 1) (.record fields) (recordMeaning slots empty) view := by
  intro depth x y hd hm
  cases hm with
  | @permute _ members members' hp hn =>
    simp only [recordMeaning_object_eq, (hp.filterMap (knownName? slots)).nodup_iff]
    split
    · rename_i hc
      have hk := (hp.filterMap (knownName? slots)).nodup_iff.mpr hc.2
      rw [foldlM_perm h hp hk]
    · rfl
  | @unknown _ members members' t name x ht hs hj =>
    obtain ⟨hslot, -⟩ | ⟨slot, shape, -, hsome, -, -⟩ := find_slot h.fit name
    · have hk : knownName? slots (t, x) = none := by simp [knownName?, ht, hslot]
      have hu (record : σ) : memberMeaning slots (depth - 1) record (t, x) = some record := by
        simp [memberMeaning, ht, hslot, hj]
      simp only [recordMeaning_object_eq, List.filterMap_append, List.filterMap_cons_none hk,
        List.foldlM_append, List.foldlM_cons, hu]
      rfl
    · simp [hsome] at hs
  | @missing _ members members' t name shape x ht hs hnew hx =>
    obtain ⟨-, hnone⟩ | ⟨slot, shape', hslot, -, -, -⟩ := find_slot h.fit name
    · simp [hnone] at hs
    · have hk : knownName? slots (t, x) = some name := by simp [knownName?, ht, hslot]
      have hfresh : name ∉ (members ++ members').filterMap (knownName? slots) := by
        intro hmem
        obtain ⟨m, hm, hname⟩ := List.mem_filterMap.mp hmem
        simp only [knownName?, Option.filter_eq_some_iff] at hname
        exact hnew m hm hname.1
      have hp : (members ++ (t, x) :: members').Perm ((t, x) :: (members ++ members')) :=
        List.perm_middle
      have hn : ((members ++ (t, x) :: members').filterMap (knownName? slots)).Nodup ↔
          ((members ++ members').filterMap (knownName? slots)).Nodup := by
        rw [(hp.filterMap _).nodup_iff, List.filterMap_cons_some hk, List.nodup_cons]
        exact and_iff_right hfresh
      simp only [recordMeaning_object_eq, hn]
      split
      · rename_i hc
        exact (foldlM_vacant h (by omega) ht hs hx (hn.mpr hc.2)).symm
      · rfl
  | @empty _ part items items' x y hi hx hy =>
    simp only [recordMeaning]
    split
    · rfl
    · exact fieldsMeaning_middle h.fit (by omega) hi (.inr (.inr ⟨hx, hy⟩)) empty
  | @item _ part items items' x y hi hm =>
    simp only [recordMeaning]
    split
    · rfl
    · exact fieldsMeaning_middle h.fit (by omega) hi (.inr (.inl hm)) empty
  | @member _ part members members' t name x y ht hs hm =>
    have hk : (members ++ (t, x) :: members').filterMap (knownName? slots) =
        (members ++ (t, y) :: members').filterMap (knownName? slots) := by
      simp [List.filterMap_append, List.filterMap_cons, knownName?]
    simp only [recordMeaning_object_eq, hk]
    split
    · simp only [List.foldlM_append, List.foldlM_cons]
      refine bind_agrees rfl fun record record' hv => bind_agrees ?_ fun _ _ =>
        foldlM_view h.fit (by omega) members'
      exact memberMeaning_agrees h.fit (by omega) ht hs (.inr (.inl hm)) hv
    · rfl

/-- A slot for a value that may be missing or `null`. The view of the record depends on the value by
`g`, and the value that is missing looks like the one in the empty record. -/
theorem Slot.optional_fits {α β : Type} {meaning : Meaning α} {put : Option α → σ → σ}
    (place : β → τ → τ) (g : Option α → β) {name : String} {shape : Shape}
    (hview : ∀ a record, view (put a record) = place (g a) (view record))
    (hempty : place (g none) (view empty) = view empty)
    (hmove : Agrees n shape (optionMeaning meaning) g)
    (hvacant : ∀ {depth : Nat} {x : Tree}, n ≤ depth → Vacant shape x →
      (optionMeaning meaning depth x).map g = some (g none)) :
    (Slot.optional name meaning put).Fits n view empty (name, shape) where
  name := rfl
  agrees {depth x y record record'} hd hm hv := by
    have hg : (optionMeaning meaning depth x).map g = (optionMeaning meaning depth y).map g := by
      obtain rfl | hm | ⟨hx, hy⟩ := hm
      · rfl
      · exact hmove hd hm
      · rw [hvacant hd hx, hvacant hd hy]
    have hp := congrArg (Option.map fun b => place b (view record)) hg
    simpa [Slot.optional, Option.map_map, Function.comp_def, hview, hv] using hp
  vacant {depth x} hd hx := by
    have hp := congrArg (Option.map fun b => place b (view empty)) (hvacant hd hx)
    simpa [Slot.optional, Option.map_map, Function.comp_def, hview, hempty] using hp

theorem Slot.optional_commute {α β : Type} {meaning : Meaning α} {meaning' : Meaning β}
    {put : Option α → σ → σ} {put' : Option β → σ → σ} {name name' : String}
    (h : ∀ a b record, put' b (put a record) = put a (put' b record)) :
    (Slot.optional name meaning put).Commute (Slot.optional name' meaning' put') := by
  intro record depth x y
  cases hx : optionMeaning meaning depth x <;> cases hy : optionMeaning meaning' depth y <;>
    simp [Slot.optional, hx, hy, h]

/-! ### Fields that may be missing -/

section Fields

variable {α : Type} {meaning : Meaning α} {put : Option α → σ → σ} {name : String} {shape : Shape}
  {view : σ → σ}

theorem vacant_null {x : Tree} (hx : Vacant .text x ∨ Vacant .cell x) : x.isNull = true := by
  obtain hx | hx := hx <;> cases hx <;> rfl

theorem text_fits {put : Option String → σ → σ}
    (hview : ∀ a record, view (put a record) = put a (view record))
    (hempty : put none (view empty) = view empty) :
    (Slot.optional name stringMeaning put).Fits n view empty (name, .text) := by
  refine Slot.optional_fits put id hview hempty ?_ fun _ hx => ?_
  · have ha : Agrees 0 .text stringMeaning some := agrees_text
    exact (agrees_option ha (f := id) fun _ => rfl).mono (Nat.zero_le n)
  · simp [optionMeaning, vacant_null (.inl hx)]

theorem cell_fits (h : Agrees 0 .cell meaning id)
    (hview : ∀ a record, view (put a record) = put a (view record))
    (hempty : put none (view empty) = view empty) :
    (Slot.optional name meaning put).Fits n view empty (name, .cell) := by
  refine Slot.optional_fits put id hview hempty ?_ fun _ hx => ?_
  · exact (agrees_option h (f := some) fun _ => rfl).mono (Nat.zero_le n)
  · simp [optionMeaning, vacant_null (.inr hx)]

/-- A list that is missing looks like one without items. -/
theorem list_fits {put : Option (List α) → σ → σ} {item : α → α} (h : Agrees n shape meaning item)
    (hview : ∀ as record, view (put as record) = put (some ((as.getD []).map item)) (view record))
    (hempty : put (some []) (view empty) = view empty) :
    (Slot.optional name (listMeaning meaning) put).Fits (n + 2) view empty
      (name, .list shape) := by
  refine Slot.optional_fits (fun as record => put (some as) record)
    (fun as => (as.getD []).map item) hview hempty ?_ fun {depth _} hd hx => ?_
  · exact (agrees_option (agrees_list h) (f := id) fun _ => rfl).mono (by omega)
  · cases hx with
    | null => rfl
    | array => simp [optionMeaning, Tree.isNull, listMeaning, show ¬depth ≤ 1 by omega]

/-- A record that is missing looks like one of which no field is known. -/
theorem record_fits {slots : List (Slot α)} {fields : List (String × Shape)} {nothing : α}
    {part : α → α} (h : Fits n part nothing slots fields)
    (hview : ∀ a record,
      view (put a record) = put (some (part (a.getD nothing))) (view record))
    (hempty : put (some (part nothing)) (view empty) = view empty) :
    (Slot.optional name (recordMeaning slots nothing) put).Fits (n + 2) view empty
      (name, .record fields) := by
  refine Slot.optional_fits (fun a record => put (some a) record)
    (fun a => part (a.getD nothing)) hview hempty ?_ fun {depth _} hd hx => ?_
  · exact (agrees_option (agrees_record h) (f := id) fun _ => rfl).mono (by omega)
  · cases hx with
    | null => rfl
    | object => simp [optionMeaning, Tree.isNull, recordMeaning, show 1 < depth by omega]

end Fields

end Records

end EditorBridge.Json

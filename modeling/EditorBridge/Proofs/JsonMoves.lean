import EditorBridge.Proofs.RecordReads
import Mathlib.Data.List.Nodup
import Mathlib.Data.List.Perm.Basic
import Mathlib.Data.String.Basic
import Mathlib.Logic.Relation

/-!
Changes of a JSON text that make no difference to what is read: the order of members, members whose
names nobody knows, and members that say nothing. A shape tells where these changes may be made.
-/

namespace EditorBridge.Json

/-- What kind of value is read at a place. -/
inductive Shape where
  /-- A string. -/
  | text
  /-- Any value. -/
  | cell
  | list (item : Shape)
  | record (fields : List (String × Shape))

def Shape.item? : Shape → Nat → Option Shape
  | .text, _ => none
  | .cell, _ => some .cell
  | .list item, _ => some item
  | .record fields, i => fields[i]?.map Prod.snd

def Shape.member? : Shape → String → Option Shape
  | .text, _ => none
  | .cell, _ => some .cell
  | .list _, _ => none
  | .record fields, name => (fields.find? fun field => field.1 = name).map Prod.snd

/-- Values that say no more than a member that is missing. -/
inductive Vacant : Shape → Tree → Prop
  | null {shape : Shape} : Vacant shape (.scalar ['n', 'u', 'l', 'l'])
  | object {fields : List (String × Shape)} : Vacant (.record fields) (.object [])
  | array {item : Shape} : Vacant (.list item) (.array [])

/-- Members of a JSON text: their names as they are written, and their values. -/
abbrev Members := List (List Char × Tree)

/-- One change of a text that is read as a shape says. Members are permuted only where no two of
them have the same name. What a member with an unknown name holds may be changed in any way, by
taking the member away and putting another one in its place. -/
inductive Move : Shape → Tree → Tree → Prop
  /-- The members of an object are permuted. -/
  | permute {shape : Shape} {members members' : Members} : members.Perm members' →
      (members.map fun m => textOf? m.1).Nodup → Move shape (.object members) (.object members')
  /-- A member with an unknown name is put in. -/
  | unknown {fields : List (String × Shape)} {members members' : Members} {t : List Char}
      {name : String} {x : Tree} : textOf? t = some name →
      (Shape.record fields).member? name = none → x.isJson = true →
      Move (.record fields) (.object (members ++ members'))
        (.object (members ++ (t, x) :: members'))
  /-- A member that is missing is put in with a value that says nothing. -/
  | missing {fields : List (String × Shape)} {members members' : Members} {t : List Char}
      {name : String} {shape : Shape} {x : Tree} : textOf? t = some name →
      (Shape.record fields).member? name = some shape →
      (∀ m ∈ members ++ members', textOf? m.1 ≠ some name) → Vacant shape x →
      Move (.record fields) (.object (members ++ members'))
        (.object (members ++ (t, x) :: members'))
  /-- In a record that is written as a list, a value that says nothing takes the place of another. -/
  | empty {fields : List (String × Shape)} {part : Shape} {items items' : List Tree} {x y : Tree} :
      (Shape.record fields).item? items.length = some part → Vacant part x → Vacant part y →
      Move (.record fields) (.array (items ++ x :: items')) (.array (items ++ y :: items'))
  /-- An item is changed. -/
  | item {shape part : Shape} {items items' : List Tree} {x y : Tree} :
      shape.item? items.length = some part → Move part x y →
      Move shape (.array (items ++ x :: items')) (.array (items ++ y :: items'))
  /-- The value of a member is changed. -/
  | member {shape part : Shape} {members members' : Members} {t : List Char} {name : String}
      {x y : Tree} : textOf? t = some name → shape.member? name = some part → Move part x y →
      Move shape (.object (members ++ (t, x) :: members'))
        (.object (members ++ (t, y) :: members'))

/-- Whether values of a field are the same, or differ by a change, or by how they say nothing. -/
def Alike (shape : Shape) (x y : Tree) : Prop :=
  x = y ∨ Move shape x y ∨ (Vacant shape x ∧ Vacant shape y)

/-- Any number of changes, forth and back. -/
def Moves (shape : Shape) : Tree → Tree → Prop := Relation.EqvGen (Move shape)

/-- Whether a change makes no difference to what is made of what is read, if there are so many
levels left. -/
def Agrees {α β : Type} (n : Nat) (shape : Shape) (meaning : Meaning α) (view : α → β) : Prop :=
  ∀ ⦃depth : Nat⦄ ⦃x y : Tree⦄, n ≤ depth → Move shape x y →
    (meaning depth x).map view = (meaning depth y).map view

section Agreement

variable {α β γ : Type} {n k : Nat} {shape : Shape} {meaning : Meaning α} {view : α → β}

theorem Agrees.mono (h : Agrees n shape meaning view) (hk : n ≤ k) :
    Agrees k shape meaning view := fun _ _ _ hd hm => h (by omega) hm

theorem Agrees.moves (h : Agrees n shape meaning view) {depth : Nat} (hd : n ≤ depth) {x y : Tree}
    (hm : Moves shape x y) : (meaning depth x).map view = (meaning depth y).map view := by
  induction hm with
  | rel x y hm => exact h hd hm
  | refl x => rfl
  | symm x y _ ih => exact ih.symm
  | trans x y z _ _ ih ih' => exact ih.trans ih'

/-- A change leaves `null` alone. -/
theorem Move.not_null {x y : Tree} (h : Move shape x y) : x.isNull = false ∧ y.isNull = false := by
  cases h <;> exact ⟨rfl, rfl⟩

/-- A value that may be missing agrees in whatever way the value does. -/
theorem agrees_option (h : Agrees n shape meaning view) {g : Option α → γ} {f : β → γ}
    (hg : ∀ a, g (some a) = f (view a)) : Agrees n shape (optionMeaning meaning) g := by
  intro depth x y hd hm
  obtain ⟨hx, hy⟩ := hm.not_null
  have ha := congrArg (Option.map f) (h hd hm)
  simpa [optionMeaning, hx, hy, Function.comp_def, hg] using ha

theorem agrees_text {view : String → β} : Agrees 0 .text stringMeaning view := by
  intro depth x y _ hm
  cases hm with
  | permute hp hn => rfl
  | item hi _ => simp [Shape.item?] at hi
  | member ht hi _ => simp [Shape.member?] at hi

/-- One item is changed. -/
theorem mapM_middle {f : γ → Option α} {x y : γ} (h : (f x).map view = (f y).map view)
    (xs ys : List γ) :
    ((xs ++ x :: ys).mapM f).map (List.map view) =
      ((xs ++ y :: ys).mapM f).map (List.map view) := by
  induction xs with
  | nil =>
    simp only [List.nil_append, List.mapM_cons]
    cases hx : f x <;> cases hy : f y <;> simp only [hx, hy] at h
    · rfl
    · simp at h
    · simp at h
    · rename_i a b
      have hv : view a = view b := by simpa using h
      cases ys.mapM f <;> simp [hv]
  | cons w xs ih =>
    simp only [List.cons_append, List.mapM_cons]
    cases f w with
    | none => rfl
    | some a =>
      cases hx : (xs ++ x :: ys).mapM f <;> cases hy : (xs ++ y :: ys).mapM f <;>
        simp only [hx, hy] at ih
      · rfl
      · simp at ih
      · simp at ih
      · simpa using ih

theorem agrees_list (h : Agrees n shape meaning view) :
    Agrees (n + 1) (.list shape) (listMeaning meaning) (List.map view) := by
  intro depth x y hd hm
  cases hm with
  | permute hp hn => rfl
  | item hi hm =>
    obtain rfl := Option.some.inj hi
    simp only [listMeaning]
    split
    · rfl
    · exact mapM_middle (h (by omega) hm) _ _
  | member ht hi _ => simp [Shape.member?] at hi

end Agreement

/-! ### Cells -/

section Cells

theorem insertMember_comm {name name' : String} (h : name ≠ name') (v v' : Value)
    (members : List (String × Value)) :
    insertMember name v (insertMember name' v' members) =
      insertMember name' v' (insertMember name v members) := by
  induction members with
  | nil =>
    obtain hl | hl := lt_or_gt_of_ne h
    · simp only [insertMember, if_neg h, if_neg h.symm, if_pos hl, if_neg hl.asymm]
    · simp only [insertMember, if_neg h, if_neg h.symm, if_pos hl, if_neg hl.asymm]
  | cons m members ih =>
    obtain ⟨other, w⟩ := m
    by_cases ho : name = other
    · subst ho
      obtain hl | hl := lt_or_gt_of_ne h
      · simp only [insertMember, if_neg h.symm, if_neg hl.asymm, if_true]
      · simp only [insertMember, if_neg h, if_neg h.symm, if_pos hl, if_neg hl.asymm, if_true]
    · by_cases ho' : name' = other
      · subst ho'
        obtain hl | hl := lt_or_gt_of_ne h
        · simp only [insertMember, if_neg h, if_neg h.symm, if_pos hl, if_neg hl.asymm, if_true]
        · simp only [insertMember, if_neg h, if_neg hl.asymm, if_true]
      · obtain ha | ha := lt_or_gt_of_ne ho <;> obtain hb | hb := lt_or_gt_of_ne ho'
        · obtain hl | hl := lt_or_gt_of_ne h <;>
            simp only [insertMember, if_neg h, if_neg h.symm, if_neg ho, if_neg ho', if_pos hl,
              if_neg hl.asymm, if_pos ha, if_pos hb]
        · have hl : name < name' := ha.trans hb
          simp only [insertMember, if_neg h.symm, if_neg ho, if_neg ho', if_neg hl.asymm, if_pos ha,
            if_neg hb.asymm]
        · have hl : name' < name := hb.trans ha
          simp only [insertMember, if_neg h, if_neg ho, if_neg ho', if_neg hl.asymm,
            if_neg ha.asymm, if_pos hb]
        · simp only [insertMember, if_neg ho, if_neg ho', if_neg ha.asymm, if_neg hb.asymm, ih]

/-- Members are sorted the same in whatever order they come, if their names differ. -/
theorem sortMembers_perm {vs ws : List (String × Value)} (h : vs.Perm ws)
    (hn : (vs.map Prod.fst).Nodup) : sortMembers vs = sortMembers ws := by
  refine h.foldl_eq' (fun m hm m' hm' sorted => ?_) []
  by_cases he : m = m'
  · rw [he]
  · have hd : m'.1 ≠ m.1 := fun hf => he (List.inj_on_of_nodup_map hn hm hm' hf.symm)
    exact insertMember_comm hd m'.2 m.2 sorted

theorem mapM_perm {α β : Type} {f : α → Option β} {xs ys : List α} (h : xs.Perm ys)
    {vs : List β} (hv : xs.mapM f = some vs) : ∃ ws, ys.mapM f = some ws ∧ vs.Perm ws := by
  induction h generalizing vs with
  | nil => exact ⟨vs, hv, .refl vs⟩
  | cons x _ ih =>
    simp only [List.mapM_cons, Option.bind_eq_bind, Option.pure_def, Option.bind_eq_some_iff] at hv
    obtain ⟨v, hx, vs', hv', he⟩ := hv
    obtain rfl := Option.some.inj he
    obtain ⟨ws, hw, hp⟩ := ih hv'
    exact ⟨v :: ws, by simp [List.mapM_cons, hx, hw], hp.cons v⟩
  | swap x y zs =>
    simp only [List.mapM_cons, Option.bind_eq_bind, Option.pure_def, Option.bind_eq_some_iff] at hv
    obtain ⟨v, hy, vs', ⟨w, hx, vs'', hv', he'⟩, he⟩ := hv
    obtain rfl := Option.some.inj he
    obtain rfl := Option.some.inj he'
    exact ⟨w :: v :: vs'', by simp [List.mapM_cons, hx, hy, hv'], .swap w v vs''⟩
  | trans _ _ ih ih' =>
    obtain ⟨us, hu, hp⟩ := ih hv
    obtain ⟨ws, hw, hp'⟩ := ih' hu
    exact ⟨ws, hw, hp.trans hp'⟩

theorem settledItems_eq (items : List Value) : settledItems items = items.map Value.settled := by
  induction items with
  | nil => rfl
  | cons v items ih => simp [settledItems, ih]

theorem settledMembers_eq (members : List (String × Value)) :
    settledMembers members = members.map fun m => (m.1, m.2.settled) := by
  induction members with
  | nil => rfl
  | cons m members ih =>
    obtain ⟨name, v⟩ := m
    simp [settledMembers, ih]

def memberValue? (depth : Nat) (m : List Char × Tree) : Option (String × Value) :=
  (textOf? m.1).bind fun name => (valueMeaning depth m.2).map fun v => (name, v)

theorem names_of_memberValues {depth : Nat} {members : Members} {vs : List (String × Value)}
    (h : members.mapM (memberValue? depth) = some vs) :
    members.map (fun m => textOf? m.1) = vs.map fun v => some v.1 := by
  induction members generalizing vs with
  | nil =>
    obtain rfl : [] = vs := by simpa using h
    rfl
  | cons m members ih =>
    simp only [List.mapM_cons, Option.bind_eq_bind, Option.pure_def, Option.bind_eq_some_iff] at h
    obtain ⟨v, hm, vs', hv, he⟩ := h
    obtain rfl := Option.some.inj he
    obtain ⟨name, ht, hx⟩ := Option.bind_eq_some_iff.mp hm
    obtain ⟨w, -, rfl⟩ := Option.map_eq_some_iff.mp hx
    simp [ht, ih hv]

theorem valueMeaning_object (depth : Nat) (members : Members) :
    valueMeaning depth (.object members) =
      if depth ≤ 1 then none
      else (members.mapM (memberValue? (depth - 1))).map .object := by
  rw [valueMeaning, memberValues_eq]
  rfl

theorem settled_perm {depth : Nat} {members members' : Members} (hp : members.Perm members')
    (hn : (members.map fun m => textOf? m.1).Nodup) {v : Value}
    (h : valueMeaning depth (.object members) = some v) :
    (valueMeaning depth (.object members')).map Value.settled = some v.settled := by
  rw [valueMeaning_object] at h ⊢
  split at h
  · simp at h
  · rename_i hd
    rw [if_neg hd]
    obtain ⟨vs, hv, rfl⟩ := Option.map_eq_some_iff.mp h
    obtain ⟨ws, hw, hvw⟩ := mapM_perm hp hv
    rw [names_of_memberValues hv] at hn
    have hd : ((vs.map fun m => (m.1, m.2.settled)).map Prod.fst).Nodup := by
      rw [List.map_map]
      exact List.Nodup.of_map some (by rwa [List.map_map])
    have hs := sortMembers_perm (hvw.map fun m => (m.1, m.2.settled)) hd
    simp [hw, Value.settled, settledMembers_eq, hs]

/-- The settled value of a cell does not change. -/
theorem Move.settled {shape : Shape} {x y : Tree} (h : Move shape x y) (hs : shape = .cell)
    (depth : Nat) :
    (valueMeaning depth x).map Value.settled = (valueMeaning depth y).map Value.settled := by
  induction h generalizing depth with
  | @permute shape members members' hp hn =>
    cases hx : valueMeaning depth (.object members) with
    | some v => exact (settled_perm hp hn hx).symm
    | none =>
      cases hy : valueMeaning depth (.object members') with
      | none => rfl
      | some v =>
        have hn' := (hp.map fun m => textOf? m.1).nodup_iff.mp hn
        have hx' := settled_perm hp.symm hn' hy
        simp [hx] at hx'
  | unknown => simp at hs
  | missing => simp at hs
  | empty => simp at hs
  | @item shape part items items' x y hi _ ih =>
    subst hs
    obtain rfl := Option.some.inj hi
    have hm := mapM_middle (ih rfl (depth - 1)) items items'
    simp only [valueMeaning, itemValues_eq]
    split
    · rfl
    · have ha := congrArg (Option.map Value.array) hm
      simpa [Option.map_map, Function.comp_def, Value.settled, settledItems_eq] using ha
  | @member shape part members members' t name x y ht hi _ ih =>
    subst hs
    obtain rfl := Option.some.inj hi
    have hv : (memberValue? (depth - 1) (t, x)).map (fun m => (m.1, m.2.settled)) =
        (memberValue? (depth - 1) (t, y)).map fun m => (m.1, m.2.settled) := by
      have hp := congrArg (Option.map fun v => (name, v)) (ih rfl (depth - 1))
      simpa [memberValue?, ht, Option.map_map, Function.comp_def] using hp
    have hm := mapM_middle hv members members'
    simp only [valueMeaning_object]
    split
    · rfl
    · have ha := congrArg (Option.map fun vs => Value.object (sortMembers vs)) hm
      simpa [Option.map_map, Function.comp_def, Value.settled, settledMembers_eq] using ha

theorem agrees_cell : Agrees 0 .cell valueMeaning Value.settled :=
  fun _ _ _ _ hm => hm.settled rfl _

end Cells

end EditorBridge.Json

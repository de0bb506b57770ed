import EditorBridge.Json.Reader
import EditorBridge.Proofs.JsonSkip

/-!
What readers make of the syntax of a text. The meaning of a reader says of each value, and of each
number of levels that are left, what is read of it, if anything is. A reader reads what its meaning
says from every text of the value, and nothing from other texts.
-/

namespace EditorBridge.Json

/-- What is read of a value, as deep inside lists and objects as the first argument allows. -/
abbrev Meaning (α : Type) := Nat → Tree → Option α

structure Reads {α : Type} (read : Reader α) (meaning : Meaning α) : Prop where
  json {depth : Nat} {x : Tree} {a : α} : meaning depth x = some a → x.isJson = true
  complete {depth : Nat} {x : Tree} {a : α} {ts : List (List Char)} {s : List Char} :
    meaning depth x = some a → Follows ts → Spaced (x.tokens ++ ts) s →
      ∃ r, read depth s = .ok (a, r) ∧ Spaced ts r
  sound {depth : Nat} {s r : List Char} {a : α} : read depth s = .ok (a, r) →
    ∃ x, meaning depth x = some a ∧ ∀ ts, Spaced ts r → Spaced (x.tokens ++ ts) s

theorem exists_of_mapM {α β : Type} {f : α → Option β} {xs : List α} {ys : List β}
    (h : xs.mapM f = some ys) {x : α} (hx : x ∈ xs) : ∃ y, f x = some y := by
  induction xs generalizing ys with
  | nil => simp at hx
  | cons w xs ih =>
    obtain ⟨y, hy, zs, hz, -⟩ : ∃ y, f w = some y ∧ ∃ zs, xs.mapM f = some zs ∧ y :: zs = ys := by
      simpa [List.mapM_cons, Option.bind_eq_some_iff] using h
    obtain rfl | hx := List.mem_cons.mp hx
    · exact ⟨y, hy⟩
    · exact ih hz hx

section Parts

variable {α β : Type} {s r : List Char} {ts : List (List Char)}

theorem Reads.map {read : Reader α} {meaning : Meaning α} (h : Reads read meaning) (f : α → β) :
    Reads (fun depth s => (read depth s).map fun found => (f found.1, found.2))
      (fun depth x => (meaning depth x).map f) where
  json hx := by
    obtain ⟨a, ha, -⟩ := Option.map_eq_some_iff.mp hx
    exact h.json ha
  complete hx hf hs := by
    obtain ⟨a, ha, rfl⟩ := Option.map_eq_some_iff.mp hx
    obtain ⟨r, hr, hsp⟩ := h.complete ha hf hs
    exact ⟨r, by simp [hr, Except.map], hsp⟩
  sound hs := by
    obtain ⟨a, ha, rfl⟩ := map_ok hs
    obtain ⟨x, hx, hsp⟩ := h.sound ha
    exact ⟨x, by simp [hx], hsp⟩

theorem wrongType_not_ok {expected : String} {a : α} (h : wrongType expected s = .ok a) :
    False := by
  unfold wrongType at h
  split at h
  · simp [failPast] at h
  · split at h
    · simp [failAt] at h
    · split at h
      · simp [failAt] at h
      · split at h <;> simp [failAt] at h

/-- A token stays where it is when the white space in front of it is skipped. -/
theorem Spaced.skipped {c : Char} {t : List Char} (h : Spaced ((c :: t) :: ts) s)
    (hc : isSpace c = false) : Spaced ((c :: t) :: ts) (skipSpace s) := by
  obtain ⟨r, hs, hr⟩ := h.skip hc
  rw [hs]
  exact hr.token (c :: t)

/-! ### Strings -/

def stringMeaning : Meaning String := fun _ x =>
  match x with
  | .scalar t => textOf? t
  | _ => none

theorem reads_string : Reads readString stringMeaning where
  json {depth x v} hx := by
    cases x with
    | scalar t => exact isScalarText_of_isNameText (textOf_isNameText hx)
    | array items => simp [stringMeaning] at hx
    | object members => simp [stringMeaning] at hx
  complete {depth x v ts s} hx hf hs := by
    cases x with
    | scalar t =>
      obtain ⟨u, rfl, hu⟩ := textOf_ok hx
      obtain ⟨r, hs, hr⟩ := Spaced.skip hs (by decide)
      exact ⟨r, by simp [readString, hs, (hu r).1], hr⟩
    | array items => simp [stringMeaning] at hx
    | object members => simp [stringMeaning] at hx
  sound {depth s r v} h := by
    unfold readString at h
    split at h
    · rename_i hs
      obtain ⟨u, rfl, hu⟩ := textOf_of_string h
      exact ⟨.scalar ('\x22' :: u), hu, fun ts hr => spaced_of_skip hs hr⟩
    · exact (wrongType_not_ok h).elim

/-! ### Lists and objects -/

theorem enter_ok {depth : Nat} {inside : Nat → Result α} {found : α × List Char} :
    enter depth s inside = .ok found ↔ 1 < depth ∧ inside (depth - 1) = .ok found := by
  unfold enter
  split
  · simp [failPast]
    omega
  · simp
    omega

theorem closeWith_ok {finish : List Char → Except Fault (List Char)} {result : Result α} {a : α} :
    closeWith finish result = .ok (a, r) ↔ ∃ s, result = .ok (a, s) ∧ finish s = .ok r := by
  cases result with
  | error fault => by_cases hf : fault.isSettled = true <;> simp [closeWith, hf]
  | ok found =>
    obtain ⟨b, s⟩ := found
    cases hf : finish s with
    | error fault =>
      simp only [closeWith, hf, Except.map]
      constructor
      · simp
      · rintro ⟨s', h, hs'⟩
        obtain ⟨rfl, rfl⟩ := by simpa using h
        simp [hf] at hs'
    | ok rest =>
      simp only [closeWith, hf, Except.map]
      constructor
      · intro h
        obtain ⟨rfl, rfl⟩ := by simpa using h
        exact ⟨s, rfl, hf⟩
      · rintro ⟨s', h, hs'⟩
        obtain ⟨rfl, rfl⟩ := by simpa using h
        rw [hf] at hs'
        simpa using hs'

def itemsFrom (read : Nat → Reader α) : Nat → (isFirst : Bool) → Reader (List α)
  | 0, _, _, s => failPast .endInList s
  | n + 1, isFirst, depth, s =>
    match nextItem isFirst s with
    | .error fault => .error fault
    | .ok (none, s) => .ok ([], s)
    | .ok (some s, _) =>
      match read n depth s with
      | .error fault => .error fault
      | .ok (item, s) =>
        (itemsFrom read n false depth s).map fun found => (item :: found.1, found.2)

theorem itemsWithin_eq (n : Nat) : itemsWithin n = itemsFrom valueWithin n := by
  induction n with
  | zero => rfl
  | succ n ih =>
    funext isFirst depth s
    cases hn : nextItem isFirst s with
    | error fault => simp [itemsWithin, itemsFrom, hn]
    | ok found =>
      obtain ⟨next, s'⟩ := found
      cases next with
      | none => simp [itemsWithin, itemsFrom, hn]
      | some s =>
        cases hv : valueWithin n depth s <;> simp [itemsWithin, itemsFrom, hn, hv, ih]

theorem readItems_eq (read : Reader α) (n : Nat) :
    readItems read n = itemsFrom (fun _ => read) n := by
  induction n with
  | zero => rfl
  | succ n ih =>
    funext isFirst depth s
    cases hn : nextItem isFirst s with
    | error fault => simp [readItems, itemsFrom, hn]
    | ok found =>
      obtain ⟨next, s'⟩ := found
      cases next with
      | none => simp [readItems, itemsFrom, hn]
      | some s => cases hv : read depth s <;> simp [readItems, itemsFrom, hn, hv, ih]

/-- Whether a value is read in more steps than it has tokens. -/
def IsRead (read : Nat → Reader α) (meaning : Meaning α) (x : Tree) : Prop :=
  ∀ {n depth : Nat} {a : α} {ts : List (List Char)} {s : List Char}, meaning depth x = some a →
    x.tokens.length < n → Follows ts → Spaced (x.tokens ++ ts) s →
    ∃ r, read n depth s = .ok (a, r) ∧ Spaced ts r

def IsMeant (read : Nat → Reader α) (meaning : Meaning α) (n : Nat) : Prop :=
  ∀ {depth : Nat} {s r : List Char} {a : α}, read n depth s = .ok (a, r) →
    ∃ x, meaning depth x = some a ∧ ∀ ts, Spaced ts r → Spaced (x.tokens ++ ts) s

theorem itemsFrom_complete {read : Nat → Reader α} {meaning : Meaning α} {items : List Tree}
    (hi : ∀ x ∈ items, IsRead read meaning x) (hj : ∀ x ∈ items, x.isJson = true) {n depth : Nat}
    {isFirst : Bool} {as : List α} (ha : items.mapM (meaning depth) = some as)
    (hn : (itemTokens isFirst items).length + 1 < n)
    (hs : Spaced (itemTokens isFirst items ++ [']'] :: ts) s) :
    ∃ r r', itemsFrom read n isFirst depth s = .ok (as, r) ∧ listEnd r = .ok r' ∧
      Spaced ts r' := by
  obtain ⟨n, rfl⟩ : ∃ m, n = m + 1 := ⟨n - 1, by omega⟩
  induction items generalizing n isFirst s as with
  | nil =>
    obtain rfl : as = [] := by simpa using ha.symm
    obtain ⟨r, hr, hsp⟩ := nextItem_end hs isFirst
    obtain ⟨r', hr', hsp'⟩ := listEnd_spaced (hsp.token [']'])
    exact ⟨']' :: r, r', by simp [itemsFrom, hr], hr', hsp'⟩
  | cons x items ih =>
    obtain ⟨a, hx, as', has, rfl⟩ : ∃ a, meaning depth x = some a ∧
        ∃ as', items.mapM (meaning depth) = some as' ∧ a :: as' = as := by
      simpa [List.mapM_cons, Option.bind_eq_some_iff] using ha
    obtain ⟨c, t, us, ht, hc⟩ := Tree.exists_first (hj x (by simp))
    have hp := hs
    simp only [itemTokens, ht, List.append_assoc, List.cons_append] at hp
    obtain ⟨r₁, _, hnext, hr₁⟩ := nextItem_spaced hp ⟨hc.1, hc.2.2.1⟩
    have hv : Spaced (x.tokens ++ (itemTokens false items ++ [']'] :: ts)) r₁ := by
      rw [ht]
      exact hr₁
    have hl : 0 < x.tokens.length := by simp [ht]
    simp only [itemTokens, List.length_append] at hn
    obtain ⟨r₂, hread, hr₂⟩ := @hi x (by simp) n depth a _ _ hx (by omega)
      (follows_items items ts) hv
    obtain ⟨n, rfl⟩ : ∃ m, n = m + 1 := ⟨n - 1, by omega⟩
    obtain ⟨r, r', hrest, hend, hr⟩ := ih (fun y hy => hi y (by simp [hy]))
      (fun y hy => hj y (by simp [hy])) has hr₂ n (by omega)
    refine ⟨r, r', ?_, hend, hr⟩
    rw [itemsFrom, hnext]
    simp only [hread, hrest, Except.map]

theorem itemsFrom_sound {read : Nat → Reader α} {meaning : Meaning α} {n depth : Nat}
    (hi : ∀ m < n, IsMeant read meaning m) {isFirst : Bool} {as : List α}
    (h : itemsFrom read n isFirst depth s = .ok (as, r)) :
    ∃ items r', items.mapM (meaning depth) = some as ∧ r = ']' :: r' ∧
      ∀ ts, Spaced ts r' → Spaced (itemTokens isFirst items ++ [']'] :: ts) s := by
  induction n generalizing isFirst s as with
  | zero => simp [itemsFrom, failPast] at h
  | succ n ih =>
    rw [itemsFrom] at h
    split at h
    · simp at h
    · rename_i s₁ hnext
      obtain ⟨rfl, rfl⟩ : [] = as ∧ s₁ = r := by simpa using h
      obtain ⟨r', rfl, hsp⟩ := nextItem_none hnext
      exact ⟨[], r', rfl, rfl, fun ts hr => by simpa [itemTokens] using hsp ts hr⟩
    · rename_i s₁ s₂ hnext
      split at h
      · simp at h
      · rename_i a s₃ hread
        obtain ⟨as', hrest, rfl⟩ := map_ok h
        obtain ⟨x, hx, hsx⟩ := hi n (by omega) hread
        obtain ⟨items, r', has, rfl, hsp⟩ := ih (fun m hm => hi m (by omega)) hrest
        refine ⟨x :: items, r', ?_, rfl, fun ts hr => ?_⟩
        · simp [List.mapM_cons, hx, has]
        · simpa [itemTokens] using nextItem_some hnext (hsx _ (hsp ts hr))

/-! ### Values -/

def scalarValue? : List Char → Option Value
  | [] => none
  | c :: rest =>
    match scalar c rest with
    | .ok (v, []) => some v
    | _ => none

mutual

def valueMeaning : Nat → Tree → Option Value
  | _, .scalar t => scalarValue? t
  | depth, .array items =>
    if depth ≤ 1 then none else (itemValues? (depth - 1) items).map .array
  | depth, .object members =>
    if depth ≤ 1 then none else (memberValues? (depth - 1) members).map .object

def itemValues? (depth : Nat) : List Tree → Option (List Value)
  | [] => some []
  | x :: items =>
    (valueMeaning depth x).bind fun v => (itemValues? depth items).bind fun vs => some (v :: vs)

def memberValues? (depth : Nat) : List (List Char × Tree) → Option (List (String × Value))
  | [] => some []
  | (t, x) :: members =>
    ((textOf? t).bind fun name => (valueMeaning depth x).map fun v => (name, v)).bind fun v =>
      (memberValues? depth members).bind fun vs => some (v :: vs)

end

theorem itemValues_eq (depth : Nat) (items : List Tree) :
    itemValues? depth items = items.mapM (valueMeaning depth) := by
  induction items with
  | nil => rfl
  | cons x items ih =>
    simp only [itemValues?, List.mapM_cons, ih]
    rfl

theorem memberValues_eq (depth : Nat) (members : List (List Char × Tree)) :
    memberValues? depth members = members.mapM fun m =>
      (textOf? m.1).bind fun name => (valueMeaning depth m.2).map fun v => (name, v) := by
  induction members with
  | nil => rfl
  | cons m members ih =>
    obtain ⟨t, x⟩ := m
    simp only [memberValues?, List.mapM_cons, ih]
    rfl

theorem scalarValue_iff {t : List Char} {v : Value} :
    scalarValue? t = some v ↔ ∃ c u, t = c :: u ∧ scalar c u = .ok (v, []) := by
  cases t with
  | nil => simp [scalarValue?]
  | cons c u =>
    simp only [scalarValue?, List.cons.injEq]
    constructor
    · intro h
      split at h
      · rename_i w hs
        obtain rfl := Option.some.inj h
        exact ⟨c, u, ⟨rfl, rfl⟩, hs⟩
      · simp at h
    · rintro ⟨c, u, ⟨rfl, rfl⟩, hs⟩
      simp [hs]

/-- A scalar that is read is read from every text that begins with it. -/
theorem scalar_append {c : Char} {u : List Char} {v : Value} (h : scalar c u = .ok (v, []))
    (hr : Ends r) : scalar c (u ++ r) = .ok (v, r) ∧ skipScalar c u = .ok [] := by
  obtain ⟨t, ht, hs⟩ := scalar_ok h
  obtain rfl : u = t := by simpa using ht
  exact ⟨(hs r hr).1, by simpa using (hs [] ends_nil).2⟩

theorem valueMeaning_isJson {depth : Nat} {x : Tree} {v : Value}
    (h : valueMeaning depth x = some v) : x.isJson = true := by
  induction x using Tree.induct generalizing depth v with
  | scalar t =>
    obtain ⟨c, u, rfl, hs⟩ := scalarValue_iff.mp h
    exact isScalarText_iff.mpr ⟨c, u, rfl, (scalar_append hs ends_nil).2⟩
  | array items ih =>
    simp only [valueMeaning] at h
    split at h
    · simp at h
    · obtain ⟨vs, hvs, -⟩ := Option.map_eq_some_iff.mp h
      rw [itemValues_eq] at hvs
      refine areJson_iff.mpr fun x hx => ?_
      obtain ⟨w, hw⟩ := exists_of_mapM hvs hx
      exact ih x hx hw
  | object members ih =>
    simp only [valueMeaning] at h
    split at h
    · simp at h
    · obtain ⟨vs, hvs, -⟩ := Option.map_eq_some_iff.mp h
      rw [memberValues_eq] at hvs
      refine areJsonMembers_iff.mpr fun m hm => ?_
      obtain ⟨w, hw⟩ := exists_of_mapM hvs hm
      obtain ⟨name, hn, hv⟩ := Option.bind_eq_some_iff.mp hw
      obtain ⟨v, hv, -⟩ := Option.map_eq_some_iff.mp hv
      exact ⟨textOf_isNameText hn, ih m hm hv⟩

theorem membersWithin_complete {members : List (List Char × Tree)}
    (hi : ∀ m ∈ members, IsRead valueWithin valueMeaning m.2) {n depth : Nat} {isFirst : Bool}
    {vs : List (String × Value)} (hv : memberValues? depth members = some vs)
    (hn : (memberTokens isFirst members).length + 1 < n)
    (hs : Spaced (memberTokens isFirst members ++ ['\x7d'] :: ts) s) :
    ∃ r r', membersWithin n isFirst depth s = .ok (vs, r) ∧ objectEnd r = .ok r' ∧
      Spaced ts r' := by
  obtain ⟨n, rfl⟩ : ∃ m, n = m + 1 := ⟨n - 1, by omega⟩
  induction members generalizing n isFirst s vs with
  | nil =>
    obtain rfl : [] = vs := by simpa [memberValues?] using hv
    obtain ⟨r, hr, hsp⟩ := nextName_end hs isFirst
    obtain ⟨r', hr', hsp'⟩ := objectEnd_spaced (hsp.token ['\x7d'])
    exact ⟨'\x7d' :: r, r', by simp [membersWithin, hr], hr', hsp'⟩
  | cons m members ih =>
    obtain ⟨t, x⟩ := m
    obtain ⟨name, ht, v, hx, vs', hvs, rfl⟩ : ∃ name, textOf? t = some name ∧
        ∃ v, valueMeaning depth x = some v ∧
        ∃ vs', memberValues? depth members = some vs' ∧ (name, v) :: vs' = vs := by
      simpa [memberValues?, Option.bind_eq_some_iff, Option.map_eq_some_iff] using hv
    simp only [memberTokens, List.append_assoc, List.cons_append] at hs
    obtain ⟨r₁, r₂, hnext, hcolon, hr₂⟩ := nextName_spaced hs ht
    simp only [memberTokens, List.length_append, List.length_cons] at hn
    obtain ⟨r₃, hread, hr₃⟩ := @hi (t, x) (by simp) n depth v _ _ hx (by simp only; omega)
      (follows_members members ts) hr₂
    obtain ⟨n, rfl⟩ : ∃ m, n = m + 1 := ⟨n - 1, by omega⟩
    obtain ⟨r, r', hrest, hend, hr⟩ := ih (fun y hy => hi y (by simp [hy])) hvs hr₃ n (by omega)
    refine ⟨r, r', ?_, hend, hr⟩
    rw [membersWithin, hnext]
    simp only [hcolon, hread, hrest, Except.map]

theorem membersWithin_sound {n depth : Nat} (hi : ∀ m < n, IsMeant valueWithin valueMeaning m)
    {isFirst : Bool} {vs : List (String × Value)}
    (h : membersWithin n isFirst depth s = .ok (vs, r)) :
    ∃ members r', memberValues? depth members = some vs ∧ r = '\x7d' :: r' ∧
      ∀ ts, Spaced ts r' → Spaced (memberTokens isFirst members ++ ['\x7d'] :: ts) s := by
  induction n generalizing isFirst s vs with
  | zero => simp [membersWithin, failPast] at h
  | succ n ih =>
    rw [membersWithin] at h
    split at h
    · simp at h
    · rename_i s₁ hnext
      obtain ⟨rfl, rfl⟩ : [] = vs ∧ s₁ = r := by simpa using h
      obtain ⟨r', rfl, hsp⟩ := nextName_none hnext
      exact ⟨[], r', rfl, rfl, fun ts hr => by simpa [memberTokens] using hsp ts hr⟩
    · rename_i name s₁ hnext
      obtain ⟨t, ht, hsp⟩ := nextName_some hnext
      split at h
      · simp at h
      · rename_i s₂ hcolon
        split at h
        · simp at h
        · rename_i v s₃ hread
          obtain ⟨vs', hrest, rfl⟩ := map_ok h
          obtain ⟨x, hx, hsx⟩ := hi n (by omega) hread
          obtain ⟨members, r', hvs, rfl, hsm⟩ := ih (fun m hm => hi m (by omega)) hrest
          refine ⟨(t, x) :: members, r', by simp [memberValues?, ht, hx, hvs], rfl,
            fun ts hr => ?_⟩
          simpa [memberTokens] using hsp _ (colon_ok hcolon (hsx _ (hsm ts hr)))

theorem valueWithin_complete (x : Tree) : IsRead valueWithin valueMeaning x := by
  induction x using Tree.induct with
  | scalar t =>
    intro n depth v ts s hx hn hf hs
    obtain ⟨n, rfl⟩ : ∃ m, n = m + 1 := ⟨n - 1, by omega⟩
    obtain ⟨c, u, rfl, hu⟩ := scalarValue_iff.mp hx
    obtain ⟨hc, hl, ho⟩ := starts_of_skipScalar (scalar_append hu ends_nil).2
    obtain ⟨r, hs, hr⟩ := Spaced.skip hs hc.1
    refine ⟨r, ?_, hr⟩
    simp only [valueWithin, hs, if_neg hl, if_neg ho]
    exact (scalar_append hu (hr.ends hf)).1
  | array items ih =>
    intro n depth v ts s hx hn hf hs
    obtain ⟨n, rfl⟩ : ∃ m, n = m + 1 := ⟨n - 1, by omega⟩
    have hj := areJson_iff.mp (valueMeaning_isJson hx)
    simp only [valueMeaning] at hx
    split at hx
    · simp at hx
    · obtain ⟨vs, hvs, rfl⟩ := Option.map_eq_some_iff.mp hx
      rw [itemValues_eq] at hvs
      simp only [Tree.tokens, List.cons_append, List.append_assoc, List.nil_append] at hs
      simp only [Tree.tokens, List.length_cons, List.length_append, List.length_nil] at hn
      obtain ⟨r₁, hs, hr₁⟩ := hs.skip (by decide)
      have hl : (itemTokens true items).length + 1 < n := by omega
      obtain ⟨r₂, r, hread, hend, hr⟩ := itemsFrom_complete ih hj hvs hl hr₁
      refine ⟨r, ?_, hr⟩
      rw [← itemsWithin_eq] at hread
      simp only [valueWithin, hs, if_true]
      refine enter_ok.mpr ⟨by omega, closeWith_ok.mpr ⟨r₂, ?_, hend⟩⟩
      simp [hread, Except.map]
  | object members ih =>
    intro n depth v ts s hx hn hf hs
    obtain ⟨n, rfl⟩ : ∃ m, n = m + 1 := ⟨n - 1, by omega⟩
    simp only [valueMeaning] at hx
    split at hx
    · simp at hx
    · obtain ⟨vs, hvs, rfl⟩ := Option.map_eq_some_iff.mp hx
      simp only [Tree.tokens, List.cons_append, List.append_assoc, List.nil_append] at hs
      simp only [Tree.tokens, List.length_cons, List.length_append, List.length_nil] at hn
      obtain ⟨r₁, hs, hr₁⟩ := hs.skip (by decide)
      have hl : (memberTokens true members).length + 1 < n := by omega
      obtain ⟨r₂, r, hread, hend, hr⟩ := membersWithin_complete ih hvs hl hr₁
      refine ⟨r, ?_, hr⟩
      simp only [valueWithin, hs]
      rw [if_neg (by decide), if_pos trivial]
      refine enter_ok.mpr ⟨by omega, closeWith_ok.mpr ⟨r₂, ?_, hend⟩⟩
      simp [hread, Except.map]

theorem valueWithin_sound (n : Nat) : IsMeant valueWithin valueMeaning n := by
  induction n using Nat.strongRecOn with
  | ind n ih =>
    intro depth s r v h
    cases n with
    | zero => simp [valueWithin, failPast] at h
    | succ n =>
      have hm : ∀ m < n, IsMeant valueWithin valueMeaning m := fun m hm => ih m (by omega)
      rw [valueWithin] at h
      split at h
      · simp [failPast] at h
      · rename_i c rest hs
        split at h
        · rename_i hc
          subst hc
          obtain ⟨hd, h⟩ := enter_ok.mp h
          obtain ⟨r₁, h, hend⟩ := closeWith_ok.mp h
          obtain ⟨vs, hread, rfl⟩ := map_ok h
          rw [itemsWithin_eq] at hread
          obtain ⟨items, r', hvs, rfl, hsp⟩ := itemsFrom_sound hm hread
          refine ⟨.array items, ?_, fun ts hr => ?_⟩
          · rw [valueMeaning, if_neg (by omega), itemValues_eq, hvs]
            rfl
          · obtain rfl : r' = r := by simpa [listEnd, skipSpace, isSpace] using hend
            simpa [Tree.tokens] using spaced_of_skip hs (hsp ts hr)
        · split at h
          · rename_i hc
            subst hc
            obtain ⟨hd, h⟩ := enter_ok.mp h
            obtain ⟨r₁, h, hend⟩ := closeWith_ok.mp h
            obtain ⟨vs, hread, rfl⟩ := map_ok h
            obtain ⟨members, r', hvs, rfl, hsp⟩ := membersWithin_sound hm hread
            refine ⟨.object members, ?_, fun ts hr => ?_⟩
            · rw [valueMeaning, if_neg (by omega), hvs]
              rfl
            · obtain rfl : r' = r := by simpa [objectEnd, skipSpace, isSpace] using hend
              simpa [Tree.tokens] using spaced_of_skip hs (hsp ts hr)
          · obtain ⟨u, rfl, hu⟩ := scalar_ok h
            refine ⟨.scalar (c :: u), ?_, fun ts hr => spaced_of_skip hs hr⟩
            exact scalarValue_iff.mpr ⟨c, u, rfl, by simpa using (hu [] ends_nil).1⟩

theorem reads_value : Reads value valueMeaning where
  json hx := valueMeaning_isJson hx
  complete {depth x v ts s} hx hf hs := by
    have hl := Tree.length_tokens_le (valueMeaning_isJson hx) hs
    exact valueWithin_complete x hx (by omega) hf hs
  sound h := valueWithin_sound _ h

/-! ### Whole texts -/

/-- A whole text is read as its syntax says. -/
theorem parseWith_ok_iff {read : Reader α} {meaning : Meaning α} (h : Reads read meaning)
    {text : String} {a : α} :
    parseWith read text = .ok a ↔
      ∃ x, meaning depthLimit x = some a ∧ Spaced x.tokens text.toList := by
  constructor
  · intro hs
    unfold parseWith at hs
    dsimp only at hs
    split at hs
    · simp at hs
    · rename_i b rest hread
      split at hs
      · rename_i he
        obtain rfl := Except.ok.inj hs
        obtain ⟨x, hx, hsp⟩ := h.sound hread
        have hb : Spaced [] rest := by
          refine spaced_of_skipSpace ?_
          rw [List.isEmpty_iff.mp he]
          exact .nil isBlank_nil
        exact ⟨x, hx, by simpa using hsp [] hb⟩
      · simp at hs
  · rintro ⟨x, hx, hsp⟩
    have hf : Follows [] := by simp [Follows]
    have hsp' : Spaced (x.tokens ++ []) text.toList := by simpa using hsp
    obtain ⟨rest, hread, hr⟩ := h.complete hx hf hsp'
    simp [parseWith, hread, hr.blank]

end Parts

end EditorBridge.Json

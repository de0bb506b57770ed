import EditorBridge.Proofs.JsonItems

/-!
Skipping a value of any depth. The machine that skips keeps the brackets of the lists and objects
around the place where it is. It skips what is a well-formed value, and nothing else.
-/

namespace EditorBridge.Json

/-! ### The number of tokens -/

theorem length_le_of_spaced {us ts : List (List Char)} {s : List Char}
    (h : Spaced (us ++ ts) s) (hu : ∀ t ∈ us, t ≠ []) : us.length ≤ s.length := by
  induction us generalizing s with
  | nil => simp
  | cons t us ih =>
    cases h with
    | @cons w _ r _ hw hr =>
      obtain ⟨ht, hu⟩ := List.forall_mem_cons.mp hu
      have hp : 0 < t.length := List.length_pos_iff.mpr ht
      have hi := ih hr hu
      simp only [List.length_cons, List.length_append]
      omega

theorem itemTokens_ne_nil {items : List Tree} (h : ∀ x ∈ items, ∀ t ∈ x.tokens, t ≠ [])
    {isFirst : Bool} {t : List Char} (ht : t ∈ itemTokens isFirst items) : t ≠ [] := by
  induction items generalizing isFirst with
  | nil => simp [itemTokens] at ht
  | cons x items ih =>
    simp only [itemTokens, List.mem_append] at ht
    obtain (ht | ht) | ht := ht
    · cases isFirst with
      | true => simp [separator] at ht
      | false =>
        obtain rfl : t = [','] := by simpa [separator] using ht
        simp
    · exact h x (by simp) t ht
    · exact ih (fun y hy => h y (by simp [hy])) ht

theorem memberTokens_ne_nil {members : List (List Char × Tree)}
    (h : ∀ m ∈ members, m.1 ≠ [] ∧ ∀ t ∈ m.2.tokens, t ≠ [])
    {isFirst : Bool} {t : List Char} (ht : t ∈ memberTokens isFirst members) : t ≠ [] := by
  induction members generalizing isFirst with
  | nil => simp [memberTokens] at ht
  | cons m members ih =>
    obtain ⟨name, x⟩ := m
    obtain ⟨hn, hx⟩ := h (name, x) (by simp)
    simp only [memberTokens, List.mem_append, List.mem_cons] at ht
    obtain (ht | rfl | rfl | ht) | ht := ht
    · cases isFirst with
      | true => simp [separator] at ht
      | false =>
        obtain rfl : t = [','] := by simpa [separator] using ht
        simp
    · exact hn
    · simp
    · exact hx t ht
    · exact ih (fun n hm => h n (by simp [hm])) ht

theorem Tree.tokens_ne_nil (x : Tree) (h : x.isJson = true) : ∀ t ∈ x.tokens, t ≠ [] := by
  induction x using Tree.induct with
  | scalar t =>
    obtain ⟨c, u, rfl, -⟩ := isScalarText_iff.mp h
    simp [Tree.tokens]
  | array items ih =>
    have hj := areJson_iff.mp h
    intro t ht
    simp only [Tree.tokens, List.mem_cons, List.mem_append] at ht
    obtain rfl | ht | rfl | ht := ht
    · simp
    · exact itemTokens_ne_nil (fun x hx => ih x hx (hj x hx)) ht
    · simp
    · simp at ht
  | object members ih =>
    have hj := areJsonMembers_iff.mp h
    intro t ht
    simp only [Tree.tokens, List.mem_cons, List.mem_append] at ht
    obtain rfl | ht | rfl | ht := ht
    · simp
    · refine memberTokens_ne_nil (fun m hm => ⟨?_, ih m hm (hj m hm).2⟩) ht
      obtain ⟨u, hu, -⟩ := isNameText_first (hj m hm).1
      simp [hu]
    · simp
    · simp at ht

/-- A value has at most as many tokens as its text has characters. -/
theorem Tree.length_tokens_le {x : Tree} {ts : List (List Char)} {s : List Char}
    (h : x.isJson = true) (hs : Spaced (x.tokens ++ ts) s) : x.tokens.length ≤ s.length :=
  length_le_of_spaced hs (x.tokens_ne_nil h)

/-! ### Steps of the machine -/

/-- How the machine goes on behind a value inside open lists and objects. -/
def resume (n : Nat) (around : List Char) (s : List Char) : Except Fault (List Char) :=
  if around.isEmpty then .ok s else skipWithin n around true s

section Steps

variable {c : Char} {s r t rest outer around : List Char} {ts : List (List Char)} {n : Nat}
  {isBegun : Bool}

theorem skipScalar_eq (c : Char) (rest : List Char) :
    skipScalar c rest =
      if c = 'n' then word ['u', 'l', 'l'] rest
      else if c = 't' then word ['r', 'u', 'e'] rest
      else if c = 'f' then word ['a', 'l', 's', 'e'] rest
      else if c = '-' then skipNumber rest
      else if isDigit c then skipNumber (c :: rest)
      else if c = '\x22' then skipString rest
      else failPast .expectedValue (c :: rest) := by
  unfold skipScalar Kind.of
  repeat' split
  all_goals simp_all

theorem skipValueWithin_scalar (hs : skipSpace s = c :: rest) (hl : c ≠ '[') (ho : c ≠ '\x7b') :
    skipWithin.skipValueWithin (n + 1) around s = match skipScalar c rest with
      | .error fault => .error fault
      | .ok s => resume n around s := by
  have hk := skipScalar_eq c rest
  cases h : skipScalar c rest <;>
    simp only [skipWithin.skipValueWithin, hs, hl, ho, ← hk, h, decide_false, Bool.or_self,
      Bool.false_eq_true, if_false, resume]

theorem skipValueWithin_open (hs : skipSpace s = c :: rest) (hc : c = '[' ∨ c = '\x7b') :
    skipWithin.skipValueWithin (n + 1) around s = skipWithin n (c :: around) false rest := by
  rw [skipWithin.skipValueWithin, hs]
  simp [hc]

theorem skipWithin_listEnd (hs : skipSpace s = ']' :: rest) :
    skipWithin (n + 1) ('[' :: outer) isBegun s = resume n outer rest := by
  rw [skipWithin, hs]
  simp [resume]

theorem skipWithin_objectEnd (hs : skipSpace s = '\x7d' :: rest) :
    skipWithin (n + 1) ('\x7b' :: outer) isBegun s = resume n outer rest := by
  rw [skipWithin, hs]
  simp [resume]

/-- Past the comma in front of an item or a member, if it is not the first one. -/
theorem skipWithin_item (hs : skipSpace s = c :: rest) (hc : c ≠ ']')
    (hb : isBegun = true → c = ',') :
    skipWithin (n + 1) ('[' :: outer) isBegun s =
      skipWithin.skipValueWithin n ('[' :: outer) (if isBegun then rest else c :: rest) := by
  rw [skipWithin, hs]
  cases isBegun with
  | true => simp [hb]
  | false => simp [hc]

theorem skipWithin_member (hs : skipSpace s = c :: rest) (hc : c ≠ '\x7d')
    (hb : isBegun = true → c = ',')
    (hn : skipSpace (if isBegun then rest else c :: rest) = '\x22' :: t) :
    skipWithin (n + 1) ('\x7b' :: outer) isBegun s = match (skipString t).bind colon with
      | .error fault => .error fault
      | .ok s => skipWithin.skipValueWithin n ('\x7b' :: outer) s := by
  cases h : (skipString t).bind colon with
  | error fault => cases isBegun <;> simp_all [skipWithin]
  | ok rest' => cases isBegun <;> simp_all [skipWithin]

end Steps

/-! ### Well-formed values are skipped -/

section Complete

variable {s t : List Char} {ts : List (List Char)} {isBegun : Bool}

theorem skipString_of_isNameText {u : List Char} (h : isNameText ('\x22' :: u) = true)
    (r : List Char) : skipString (u ++ r) = .ok r := by
  obtain ⟨c, v, hv, hs⟩ := isScalarText_iff.mp (isScalarText_of_isNameText h)
  obtain ⟨rfl, rfl⟩ := List.cons.inj hv
  have hk : skipString u = .ok [] := by simpa [skipScalar, Kind.of, isDigit] using hs
  obtain ⟨w, hw, hr⟩ := skipString_ok hk
  obtain rfl : u = w := by simpa using hw
  exact hr r

theorem skipWithin_to_item {c : Char} (hc : Starts c)
    (h : Spaced (separator (!isBegun) ++ (c :: t) :: ts) s) :
    ∃ r, Spaced ((c :: t) :: ts) r ∧ ∀ n outer,
      skipWithin (n + 1) ('[' :: outer) isBegun s =
        skipWithin.skipValueWithin n ('[' :: outer) r := by
  cases isBegun with
  | true =>
    obtain ⟨r, hs, hr⟩ := Spaced.skip h (by decide)
    exact ⟨r, hr, fun n outer => skipWithin_item hs (by decide) (fun _ => rfl)⟩
  | false =>
    obtain ⟨r, hs, hr⟩ := Spaced.skip h hc.1
    exact ⟨_, hr.token (c :: t), fun n outer => skipWithin_item hs hc.2.2.1 (by simp)⟩

theorem skipWithin_to_member (ht : isNameText t = true)
    (h : Spaced (separator (!isBegun) ++ t :: [':'] :: ts) s) :
    ∃ r, Spaced ts r ∧ ∀ n outer,
      skipWithin (n + 1) ('\x7b' :: outer) isBegun s =
        skipWithin.skipValueWithin n ('\x7b' :: outer) r := by
  obtain ⟨u, rfl, hq⟩ := isNameText_first ht
  cases isBegun with
  | true =>
    obtain ⟨r, hs, hr⟩ := Spaced.skip h (by decide)
    obtain ⟨r₁, hs₁, hr₁⟩ := hr.skip hq.1
    obtain ⟨r₂, hc, hr₂⟩ := colon_spaced hr₁
    refine ⟨r₂, hr₂, fun n outer => ?_⟩
    have hstep : skipWithin (n + 1) ('\x7b' :: outer) true s = _ :=
      skipWithin_member hs (by decide) (fun _ => rfl) hs₁
    rw [hstep, skipString_of_isNameText ht]
    simp only [Except.bind, hc]
  | false =>
    obtain ⟨r₁, hs₁, hr₁⟩ := Spaced.skip h hq.1
    obtain ⟨r₂, hc, hr₂⟩ := colon_spaced hr₁
    refine ⟨r₂, hr₂, fun n outer => ?_⟩
    have hn : skipSpace ('\x22' :: (u ++ r₁)) = '\x22' :: (u ++ r₁) := by
      simp [skipSpace, hq.1]
    have hstep : skipWithin (n + 1) ('\x7b' :: outer) false s = _ :=
      skipWithin_member hs₁ (by decide) (by simp) hn
    rw [hstep, skipString_of_isNameText ht]
    simp only [Except.bind, hc]

/-- Whether the machine gets past a value, in less than two steps for each of its tokens. -/
def Tree.IsSkipped (x : Tree) : Prop :=
  ∀ {ts : List (List Char)} {s : List Char}, Follows ts → Spaced (x.tokens ++ ts) s →
    ∃ r k, Spaced ts r ∧ k < 2 * x.tokens.length ∧
      ∀ n around, skipWithin.skipValueWithin (n + k) around s = resume n around r

theorem items_skipped {items : List Tree} (hi : ∀ x ∈ items, x.IsSkipped)
    (hj : ∀ x ∈ items, x.isJson = true)
    (h : Spaced (itemTokens (!isBegun) items ++ [']'] :: ts) s) :
    ∃ r k, Spaced ts r ∧ k ≤ 2 * (itemTokens (!isBegun) items).length + 1 ∧
      ∀ n outer, skipWithin (n + k) ('[' :: outer) isBegun s = resume n outer r := by
  induction items generalizing isBegun s with
  | nil =>
    obtain ⟨r, hs, hr⟩ := Spaced.skip h (by decide)
    exact ⟨r, 1, hr, by omega, fun n outer => skipWithin_listEnd hs⟩
  | cons x items ih =>
    obtain ⟨c, t, us, hx, hc⟩ := Tree.exists_first (hj x (by simp))
    have hp := h
    simp only [itemTokens, hx, List.append_assoc, List.cons_append] at hp
    obtain ⟨r₁, hr₁, hstep⟩ := skipWithin_to_item hc hp
    have hv : Spaced (x.tokens ++ (itemTokens false items ++ [']'] :: ts)) r₁ := by
      rw [hx]
      exact hr₁
    obtain ⟨r₂, k, hr₂, hk, hvalue⟩ := hi x (by simp) (follows_items items ts) hv
    obtain ⟨r, m, hr, hm, hrest⟩ := @ih r₂ true (fun y hy => hi y (by simp [hy]))
      (fun y hy => hj y (by simp [hy])) hr₂
    refine ⟨r, m + k + 1, hr, ?_, fun n outer => ?_⟩
    · simp only [itemTokens, List.length_append]
      simp only [Bool.not_true] at hm
      omega
    · calc skipWithin (n + (m + k + 1)) ('[' :: outer) isBegun s
          = skipWithin (n + m + k + 1) ('[' :: outer) isBegun s := by
            rw [show n + (m + k + 1) = n + m + k + 1 by omega]
        _ = skipWithin.skipValueWithin (n + m + k) ('[' :: outer) r₁ := hstep (n + m + k) outer
        _ = resume (n + m) ('[' :: outer) r₂ := hvalue (n + m) ('[' :: outer)
        _ = resume n outer r := hrest n outer

theorem members_skipped {members : List (List Char × Tree)} (hi : ∀ m ∈ members, m.2.IsSkipped)
    (hj : ∀ m ∈ members, isNameText m.1 = true)
    (h : Spaced (memberTokens (!isBegun) members ++ ['\x7d'] :: ts) s) :
    ∃ r k, Spaced ts r ∧ k ≤ 2 * (memberTokens (!isBegun) members).length + 1 ∧
      ∀ n outer, skipWithin (n + k) ('\x7b' :: outer) isBegun s = resume n outer r := by
  induction members generalizing isBegun s with
  | nil =>
    obtain ⟨r, hs, hr⟩ := Spaced.skip h (by decide)
    exact ⟨r, 1, hr, by omega, fun n outer => skipWithin_objectEnd hs⟩
  | cons m members ih =>
    obtain ⟨t, x⟩ := m
    simp only [memberTokens, List.append_assoc, List.cons_append] at h
    obtain ⟨r₁, hr₁, hstep⟩ := skipWithin_to_member (hj (t, x) (by simp)) h
    obtain ⟨r₂, k, hr₂, hk, hvalue⟩ := hi (t, x) (by simp) (follows_members members ts) hr₁
    obtain ⟨r, m, hr, hm, hrest⟩ := @ih r₂ true (fun y hy => hi y (by simp [hy]))
      (fun y hy => hj y (by simp [hy])) hr₂
    refine ⟨r, m + k + 1, hr, ?_, fun n outer => ?_⟩
    · simp only [memberTokens, List.length_append, List.length_cons]
      simp only [Bool.not_true] at hm
      simp only at hk
      omega
    · calc skipWithin (n + (m + k + 1)) ('\x7b' :: outer) isBegun s
          = skipWithin (n + m + k + 1) ('\x7b' :: outer) isBegun s := by
            rw [show n + (m + k + 1) = n + m + k + 1 by omega]
        _ = skipWithin.skipValueWithin (n + m + k) ('\x7b' :: outer) r₁ := hstep (n + m + k) outer
        _ = resume (n + m) ('\x7b' :: outer) r₂ := hvalue (n + m) ('\x7b' :: outer)
        _ = resume n outer r := hrest n outer

theorem Tree.isSkipped (x : Tree) (h : x.isJson = true) : x.IsSkipped := by
  induction x using Tree.induct with
  | scalar t =>
    intro ts s hf hs
    obtain ⟨c, u, rfl, hu⟩ := isScalarText_iff.mp h
    obtain ⟨hc, hl, ho⟩ := starts_of_skipScalar hu
    obtain ⟨r, hs, hr⟩ := Spaced.skip hs hc.1
    refine ⟨r, 1, hr, by simp [Tree.tokens], fun n around => ?_⟩
    rw [skipValueWithin_scalar hs hl ho, skipScalar_append hu (hr.ends hf)]
  | array items ih =>
    intro ts s hf hs
    have hj := areJson_iff.mp h
    simp only [Tree.tokens, List.cons_append, List.append_assoc, List.nil_append] at hs
    obtain ⟨r₁, hs, hr₁⟩ := hs.skip (by decide)
    obtain ⟨r, k, hr, hk, hrest⟩ := @items_skipped r₁ ts false items
      (fun x hx => ih x hx (hj x hx)) hj hr₁
    refine ⟨r, k + 1, hr, ?_, fun n around => ?_⟩
    · simp only [Tree.tokens, List.length_cons, List.length_append, List.length_nil]
      simp only [Bool.not_false] at hk
      omega
    · calc skipWithin.skipValueWithin (n + (k + 1)) around s
          = skipWithin (n + k) ('[' :: around) false r₁ := skipValueWithin_open hs (.inl rfl)
        _ = resume n around r := hrest n around
  | object members ih =>
    intro ts s hf hs
    have hj := areJsonMembers_iff.mp h
    simp only [Tree.tokens, List.cons_append, List.append_assoc, List.nil_append] at hs
    obtain ⟨r₁, hs, hr₁⟩ := hs.skip (by decide)
    obtain ⟨r, k, hr, hk, hrest⟩ := @members_skipped r₁ ts false members
      (fun m hm => ih m hm (hj m hm).2) (fun m hm => (hj m hm).1) hr₁
    refine ⟨r, k + 1, hr, ?_, fun n around => ?_⟩
    · simp only [Tree.tokens, List.length_cons, List.length_append, List.length_nil]
      simp only [Bool.not_false] at hk
      omega
    · calc skipWithin.skipValueWithin (n + (k + 1)) around s
          = skipWithin (n + k) ('\x7b' :: around) false r₁ := skipValueWithin_open hs (.inr rfl)
        _ = resume n around r := hrest n around

theorem skipValue_spaced {x : Tree} (hx : x.isJson = true) (hf : Follows ts)
    (h : Spaced (x.tokens ++ ts) s) : ∃ r, skipValue s = .ok r ∧ Spaced ts r := by
  obtain ⟨r, k, hr, hk, hv⟩ := x.isSkipped hx hf h
  have hl := Tree.length_tokens_le hx h
  obtain ⟨n, hn⟩ : ∃ n, 4 * s.length + 3 = n + k := ⟨4 * s.length + 3 - k, by omega⟩
  refine ⟨r, ?_, hr⟩
  calc skipValue s = skipWithin.skipValueWithin (4 * s.length + 3) [] s := rfl
    _ = resume n [] r := by rw [hn, hv]
    _ = .ok r := rfl

end Complete

/-! ### What is skipped is a well-formed value -/

section Sound

variable {s r outer : List Char} {n : Nat} {isBegun : Bool}

/-- What a step inside a list comes to: the end of the list, or its next item. -/
theorem skipWithin_list (h : skipWithin (n + 1) ('[' :: outer) isBegun s = .ok r) :
    (∃ r', (∀ ts, Spaced ts r' → Spaced ([']'] :: ts) s) ∧ resume n outer r' = .ok r) ∨
      ∃ s', (∀ ts, Spaced ts s' → Spaced (separator (!isBegun) ++ ts) s) ∧
        skipWithin.skipValueWithin n ('[' :: outer) s' = .ok r := by
  cases hs : skipSpace s with
  | nil => simp [skipWithin, hs, failPast] at h
  | cons c rest =>
    by_cases hc : c = ']'
    · subst hc
      rw [skipWithin_listEnd hs] at h
      exact .inl ⟨rest, fun ts hr => spaced_of_skip hs hr, h⟩
    · cases isBegun with
      | true =>
        by_cases hk : c = ','
        · subst hk
          rw [skipWithin_item hs hc (fun _ => rfl)] at h
          exact .inr ⟨rest, fun ts hr => spaced_of_skip hs hr, h⟩
        · simp [skipWithin, hs, hc, hk, failPast] at h
      | false =>
        rw [skipWithin_item hs hc (by simp)] at h
        exact .inr ⟨c :: rest, fun ts hr => spaced_of_skipSpace (hs ▸ hr), h⟩

/-- The name and the colon of a member. -/
theorem skipName_ok {t s' : List Char} (hs : skipSpace s = '\x22' :: t)
    (h : (skipString t).bind colon = .ok s') :
    ∃ name, isNameText name = true ∧
      ∀ ts, Spaced ts s' → Spaced (name :: [':'] :: ts) s := by
  cases hk : skipString t with
  | error fault => simp [hk, Except.bind] at h
  | ok after =>
    have hc : colon after = .ok s' := by simpa [hk, Except.bind] using h
    obtain ⟨u, rfl, hu⟩ := skipString_ok hk
    have hn : skipScalar '\x22' u = .ok [] := by
      simpa [skipScalar, Kind.of, isDigit] using hu []
    refine ⟨'\x22' :: u, ?_, fun ts hr => spaced_of_skip hs (colon_ok hc hr)⟩
    simpa [isNameText] using isScalarText_iff.mpr ⟨_, u, rfl, hn⟩

/-- What a step inside an object comes to: the end of the object, or its next member. -/
theorem skipWithin_object (h : skipWithin (n + 1) ('\x7b' :: outer) isBegun s = .ok r) :
    (∃ r', (∀ ts, Spaced ts r' → Spaced (['\x7d'] :: ts) s) ∧ resume n outer r' = .ok r) ∨
      ∃ name s', isNameText name = true ∧
        (∀ ts, Spaced ts s' → Spaced (separator (!isBegun) ++ name :: [':'] :: ts) s) ∧
        skipWithin.skipValueWithin n ('\x7b' :: outer) s' = .ok r := by
  cases hs : skipSpace s with
  | nil => simp [skipWithin, hs, failPast] at h
  | cons c rest =>
    by_cases hc : c = '\x7d'
    · subst hc
      rw [skipWithin_objectEnd hs] at h
      exact .inl ⟨rest, fun ts hr => spaced_of_skip hs hr, h⟩
    · by_cases hb : isBegun = true → c = ','
      · cases hd : skipSpace (if isBegun then rest else c :: rest) with
        | nil => cases isBegun <;> simp_all [skipWithin, failPast]
        | cons d t =>
          by_cases hq : d = '\x22'
          · subst hq
            rw [skipWithin_member hs hc hb hd] at h
            split at h
            · simp at h
            · rename_i s' hm
              obtain ⟨name, hn, hsp⟩ := skipName_ok hd hm
              refine .inr ⟨name, s', hn, fun ts hr => ?_, h⟩
              cases isBegun with
              | true =>
                obtain rfl := hb rfl
                exact spaced_of_skip hs (hsp ts hr)
              | false => exact spaced_of_skipSpace (hs ▸ hsp ts hr)
          · cases isBegun <;> simp_all [skipWithin, failPast]
      · obtain ⟨rfl, hk⟩ : isBegun = true ∧ c ≠ ',' := by simpa using hb
        simp [skipWithin, hs, hc, hk, failPast] at h

/-- Whether what the machine gets past in `n` steps is a value. -/
def SkipsValues (n : Nat) : Prop :=
  ∀ {around s r : List Char}, skipWithin.skipValueWithin n around s = .ok r →
    ∃ (x : Tree) (r' : List Char) (m : Nat), x.isJson = true ∧ m < n ∧
      (∀ ts, Spaced ts r' → Spaced (x.tokens ++ ts) s) ∧ resume m around r' = .ok r

/-- Whether what the machine gets past in `n` steps inside a list is the rest of the list. -/
def SkipsItems (n : Nat) : Prop :=
  ∀ {outer s r : List Char} {isBegun : Bool}, skipWithin n ('[' :: outer) isBegun s = .ok r →
    ∃ (items : List Tree) (r' : List Char) (m : Nat), (∀ x ∈ items, x.isJson = true) ∧ m < n ∧
      (∀ ts, Spaced ts r' → Spaced (itemTokens (!isBegun) items ++ [']'] :: ts) s) ∧
      resume m outer r' = .ok r

/-- Whether what the machine gets past in `n` steps inside an object is the rest of the object. -/
def SkipsMembers (n : Nat) : Prop :=
  ∀ {outer s r : List Char} {isBegun : Bool}, skipWithin n ('\x7b' :: outer) isBegun s = .ok r →
    ∃ (members : List (List Char × Tree)) (r' : List Char) (m : Nat),
      (∀ m ∈ members, isNameText m.1 = true ∧ m.2.isJson = true) ∧ m < n ∧
      (∀ ts, Spaced ts r' → Spaced (memberTokens (!isBegun) members ++ ['\x7d'] :: ts) s) ∧
      resume m outer r' = .ok r

theorem skipsValues_step (hi : SkipsItems n) (hm : SkipsMembers n) : SkipsValues (n + 1) := by
  intro around s r h
  cases hs : skipSpace s with
  | nil => simp [skipWithin.skipValueWithin, hs, failPast] at h
  | cons c rest =>
    by_cases hl : c = '['
    · subst hl
      rw [skipValueWithin_open hs (.inl rfl)] at h
      obtain ⟨items, r', m, hj, hlt, hsp, hr⟩ := hi h
      refine ⟨.array items, r', m, areJson_iff.mpr hj, by omega, fun ts ht => ?_, hr⟩
      simpa [Tree.tokens] using spaced_of_skip hs (hsp ts ht)
    · by_cases ho : c = '\x7b'
      · subst ho
        rw [skipValueWithin_open hs (.inr rfl)] at h
        obtain ⟨members, r', m, hj, hlt, hsp, hr⟩ := hm h
        refine ⟨.object members, r', m, areJsonMembers_iff.mpr hj, by omega, fun ts ht => ?_, hr⟩
        simpa [Tree.tokens] using spaced_of_skip hs (hsp ts ht)
      · rw [skipValueWithin_scalar hs hl ho] at h
        split at h
        · simp at h
        · rename_i r' hk
          obtain ⟨u, rfl, hu⟩ := isScalarText_of_skip hk
          exact ⟨.scalar (c :: u), r', n, hu, by omega, fun ts ht => spaced_of_skip hs ht, h⟩

theorem skipsItems_step (hn : ∀ m ≤ n, SkipsValues m ∧ SkipsItems m) : SkipsItems (n + 1) := by
  intro outer s r isBegun h
  obtain ⟨r', hsp, hr⟩ | ⟨s', hsp, hv⟩ := skipWithin_list h
  · exact ⟨[], r', n, by simp, by omega, fun ts ht => by simpa [itemTokens] using hsp ts ht, hr⟩
  · obtain ⟨x, s₁, m, hx, hm, hx', h₁⟩ := (hn n (by omega)).1 hv
    obtain ⟨items, r', k, hj, hk, hi, hr⟩ :=
      @(hn m (by omega)).2 outer s₁ r true (by simpa [resume] using h₁)
    refine ⟨x :: items, r', k, by simpa using ⟨hx, hj⟩, by omega, fun ts ht => ?_, hr⟩
    simpa [itemTokens] using hsp _ (hx' _ (hi ts ht))

theorem skipsMembers_step (hn : ∀ m ≤ n, SkipsValues m ∧ SkipsMembers m) :
    SkipsMembers (n + 1) := by
  intro outer s r isBegun h
  obtain ⟨r', hsp, hr⟩ | ⟨name, s', ht, hsp, hv⟩ := skipWithin_object h
  · exact ⟨[], r', n, by simp, by omega, fun ts ht => by simpa [memberTokens] using hsp ts ht, hr⟩
  · obtain ⟨x, s₁, m, hx, hm, hx', h₁⟩ := (hn n (by omega)).1 hv
    obtain ⟨members, r', k, hj, hk, hi, hr⟩ :=
      @(hn m (by omega)).2 outer s₁ r true (by simpa [resume] using h₁)
    refine ⟨(name, x) :: members, r', k, ?_, by omega, fun ts hs => ?_, hr⟩
    · exact List.forall_mem_cons.mpr ⟨⟨ht, hx⟩, hj⟩
    · simpa [memberTokens] using hsp _ (hx' _ (hi ts hs))

theorem skips (n : Nat) : SkipsValues n ∧ SkipsItems n ∧ SkipsMembers n := by
  -- Behind a value the machine goes on with an unknown but smaller number of steps.
  induction n using Nat.strongRecOn with
  | ind n ih =>
    cases n with
    | zero =>
      refine ⟨?_, ?_, ?_⟩
      · intro around s r h
        simp [skipWithin.skipValueWithin, failPast] at h
      · intro outer s r isBegun h
        simp [skipWithin, failPast] at h
      · intro outer s r isBegun h
        simp [skipWithin, failPast] at h
    | succ n =>
      obtain ⟨-, hi, hm⟩ := ih n (by omega)
      refine ⟨skipsValues_step hi hm, ?_, ?_⟩
      · exact skipsItems_step fun m hm => ⟨(ih m (by omega)).1, (ih m (by omega)).2.1⟩
      · exact skipsMembers_step fun m hm => ⟨(ih m (by omega)).1, (ih m (by omega)).2.2⟩

theorem skipValue_ok (h : skipValue s = .ok r) :
    ∃ x : Tree, x.isJson = true ∧ ∀ ts, Spaced ts r → Spaced (x.tokens ++ ts) s := by
  have hv : skipWithin.skipValueWithin (4 * s.length + 3) [] s = .ok r := h
  obtain ⟨x, r', m, hx, -, hsp, hr⟩ := (skips _).1 hv
  obtain rfl : r' = r := by simpa [resume] using hr
  exact ⟨x, hx, hsp⟩

end Sound

end EditorBridge.Json

import EditorBridge.Proofs.SlugNames

/-!
The form of a slug: groups of letters and digits, joined by single hyphens. The lower case of a
letter is a letter without another lower case. The one exception is the dotted capital I, which
becomes a letter and a combining dot; the dot is no letter, so it would end a group in the title of
another slug. Hence a slug has its form, and is its own slug, exactly if there is no dotted capital I
in its title.
-/

namespace EditorBridge.Text

/-! ### Lower case of letters -/

def dottedI : Char := Char.ofNat 0x130

def combiningDot : Char := Char.ofNat 0x307

/-- Whether one of the ranges holds all numbers from `low` to `high`. -/
def coversRange (low high : Nat) : List Nat → Bool
  | first :: past :: rest =>
    Nat.ble first low && (Nat.blt high past || coversRange low high rest)
  | _ => false

theorem inRanges_of_coversRange {low high n : Nat} {ranges : List Nat}
    (h : coversRange low high ranges = true) (hl : low ≤ n) (hh : n ≤ high) :
    inRanges n ranges = true := by
  fun_induction coversRange low high ranges with
  | case1 first past rest ih =>
    obtain ⟨hf, hp⟩ := Bool.and_eq_true_iff.mp h
    have hn : ¬n < first := by
      have hf := Nat.le_of_ble_eq_true hf
      omega
    rw [inRanges_cons, if_neg hn]
    obtain hp | hr := Bool.or_eq_true_iff.mp hp
    · have hp : high < past := Nat.le_of_ble_eq_true hp
      simp [show n < past by omega]
    · rw [ih hr, Bool.or_true]
  | case2 => simp at h

/-- Whether no run takes a number that `step` divides behind `low`, up to `high`: it ends before
them, or it begins behind them, or it takes every second number and they are the others. -/
def skipsRuns (low high step : Nat) : List (Nat × Nat × Nat × Nat) → Bool
  | [] => true
  | run :: rest =>
    Nat.blt high run.1 ||
      (Nat.blt run.2.1 low || ((Nat.beq step 2 || Nat.beq low high) && Nat.beq run.2.2.1 2 &&
        Nat.beq ((low + run.1) % 2) 1)) && skipsRuns low high step rest

theorem imageInRuns_of_skipsRuns {low high step n : Nat} {runs : List (Nat × Nat × Nat × Nat)}
    (h : skipsRuns low high step runs = true) (hl : low ≤ n) (hh : n ≤ high)
    (hs : (n - low) % step = 0) : imageInRuns n runs = none := by
  induction runs with
  | nil => rfl
  | cons run rest ih =>
    obtain ⟨first, last, every, image⟩ := run
    unfold imageInRuns
    split
    · rfl
    · rename_i hf
      simp only [skipsRuns, Bool.or_eq_true, Bool.and_eq_true, Nat.beq_eq, Nat.blt_eq] at h
      obtain ht | ⟨hn, hr⟩ := h
      · omega
      · rw [if_neg, ih hr]
        simp only [Bool.and_eq_true, decide_eq_true_eq, not_and]
        intro hle
        obtain hb | ⟨⟨rfl | rfl, rfl⟩, ho⟩ := hn <;> omega

theorem coversRange_lowerCaseRuns : (lowerCaseRuns.all fun run =>
    coversRange run.2.2.2 (run.2.2.2 + (run.2.1 - run.1)) alphanumericRanges) = true := by
  decide +kernel

theorem skipsRuns_lowerCaseRuns : (lowerCaseRuns.all fun run =>
    skipsRuns run.2.2.2 (run.2.2.2 + (run.2.1 - run.1)) run.2.2.1 lowerCaseRuns) = true := by
  decide +kernel

/-- A letter or digit without a lower case of its own. -/
structure IsSettled (c : Char) : Prop where
  alphanumeric : isAlphanumeric c = true
  lower : lowerChar c = [c]
  not_sigma : c ≠ 'Σ'

instance (c : Char) : Decidable (IsSettled c) :=
  decidable_of_iff (isAlphanumeric c = true ∧ lowerChar c = [c] ∧ c ≠ 'Σ')
    ⟨fun h => ⟨h.1, h.2.1, h.2.2⟩, fun h => ⟨h.alphanumeric, h.lower, h.not_sigma⟩⟩

theorem isSettled_of_toNat {c : Char} (ha : isAlphanumeric c = true)
    (hi : imageInRuns c.toNat lowerCaseRuns = none) (hc : c ≠ dottedI) : IsSettled c := by
  have hn : c.toNat ≠ 0x130 := fun he => hc (by rw [← Char.ofNat_toNat c, he]; rfl)
  refine ⟨ha, ?_, ?_⟩
  · rw [lowerChar, if_neg hn, hi]
  · rintro rfl
    exact absurd hi (by decide +kernel)

theorem lowerCaseRuns_ne_dottedI : ∀ run ∈ lowerCaseRuns,
    run.2.2.2 + (run.2.1 - run.1) < 0x130 ∨ 0x130 < run.2.2.2 := by
  decide +kernel

/-- The lower case of a letter is settled. -/
theorem isSettled_lowerChar {c : Char} (ha : isAlphanumeric c = true) (hc : c ≠ dottedI) :
    ∀ d ∈ lowerChar c, IsSettled d := by
  have hn : c.toNat ≠ 0x130 := fun he => hc (by rw [← Char.ofNat_toNat c, he]; rfl)
  unfold lowerChar
  rw [if_neg hn]
  split
  · rename_i image hi
    obtain ⟨run, hr, hf, hl, hstep, he⟩ := imageInRuns_some hi
    have hv := (lowerCaseRuns_bounds run hr).2
    have hcover := List.all_eq_true.mp coversRange_lowerCaseRuns run hr
    have hskip := List.all_eq_true.mp skipsRuns_lowerCaseRuns run hr
    intro d hd
    obtain rfl : d = Char.ofNat image := by simpa using hd
    have ht : (Char.ofNat image).toNat = image := toNat_ofNat_char (by omega)
    have hlow : run.2.2.2 ≤ image := by omega
    have hhigh : image ≤ run.2.2.2 + (run.2.1 - run.1) := by omega
    refine isSettled_of_toNat ?_ ?_ ?_
    · rw [isAlphanumeric, ht]
      exact inRanges_of_coversRange hcover hlow hhigh
    · rw [ht]
      refine imageInRuns_of_skipsRuns hskip hlow hhigh ?_
      rwa [he, Nat.add_sub_cancel_left]
    · have hd := lowerCaseRuns_ne_dottedI run hr
      intro hm
      have hm : image = 0x130 := by rw [← ht, hm]; decide
      omega
  · rename_i hi
    simpa using isSettled_of_toNat ha hi hc

theorem isSettled_sigma : IsSettled 'σ' ∧ IsSettled 'ς' := by
  decide +kernel

/-- The dotted capital I becomes a settled letter and the dot. -/
theorem lowerChar_dottedI : lowerChar dottedI = ['i', combiningDot] ∧ IsSettled 'i' := by
  decide +kernel

/-- The dot is no letter. -/
theorem isAlphanumeric_combiningDot : isAlphanumeric combiningDot = false := by decide +kernel

theorem lowerChar_ne_nil (c : Char) : lowerChar c ≠ [] := by
  unfold lowerChar
  split
  · simp
  · split <;> simp

theorem IsSettled.ne_combiningDot {c : Char} (h : IsSettled c) : c ≠ combiningDot := by
  rintro rfl
  exact absurd h.alphanumeric (by rw [isAlphanumeric_combiningDot]; exact Bool.false_ne_true)

theorem isAlphanumeric_dottedI : isAlphanumeric dottedI = true := by decide +kernel

/-- The lower case of a text begins with that of its first letter: settled letters, or for a dotted
capital I a letter and the dot. -/
theorem exists_lowerAfter_cons (before : List Char) {c : Char} (h : isAlphanumeric c = true)
    (s : List Char) : ∃ first, lowerAfter before (c :: s) = first ++ lowerAfter (c :: before) s ∧
      first ≠ [] ∧ (c = dottedI ∧ first = ['i', combiningDot] ∨
        c ≠ dottedI ∧ ∀ d ∈ first, IsSettled d) := by
  refine ⟨_, rfl, ?_⟩
  by_cases hs : c = 'Σ'
  · have hd : 'Σ' ≠ dottedI := by decide
    rw [if_pos hs, hs]
    split
    · exact ⟨by simp, .inr ⟨hd, by simpa using isSettled_sigma.2⟩⟩
    · exact ⟨by simp, .inr ⟨hd, by simpa using isSettled_sigma.1⟩⟩
  · rw [if_neg hs]
    by_cases hc : c = dottedI
    · rw [hc, lowerChar_dottedI.1]
      exact ⟨by simp, .inl ⟨rfl, rfl⟩⟩
    · exact ⟨lowerChar_ne_nil c, .inr ⟨hc, isSettled_lowerChar h hc⟩⟩

/-- The lower case of letters is settled but for dots, of which there are as many as there were
dotted capital letters. -/
theorem lowerAfter_settles (before : List Char) {s : List Char}
    (h : ∀ c ∈ s, isAlphanumeric c = true) :
    (∀ d ∈ lowerAfter before s, IsSettled d ∨ d = combiningDot) ∧
      (lowerAfter before s).count combiningDot = s.count dottedI := by
  induction s generalizing before with
  | nil => simp [lowerAfter]
  | cons c s ih =>
    obtain ⟨hc, hs⟩ := List.forall_mem_cons.mp h
    obtain ⟨hi, hn⟩ := ih (c :: before) hs
    obtain ⟨first, he, -, ⟨rfl, rfl⟩ | ⟨hd, hf⟩⟩ := exists_lowerAfter_cons before hc s
    · have hd : 'i' ≠ combiningDot := lowerChar_dottedI.2.ne_combiningDot
      rw [he, List.count_append, hn, List.count_cons_self]
      refine ⟨List.forall_mem_append.mpr ⟨?_, hi⟩, ?_⟩
      · simp [lowerChar_dottedI.2]
      · simp [hd, Nat.add_comm]
    · have hz : first.count combiningDot = 0 :=
        List.count_eq_zero.mpr fun hm => (hf _ hm).ne_combiningDot rfl
      rw [he, List.count_append, hn, hz, List.count_cons_of_ne hd, Nat.zero_add]
      exact ⟨List.forall_mem_append.mpr ⟨fun d hm => .inl (hf d hm), hi⟩, rfl⟩

/-- Settled text is its own lower case. -/
theorem lowerAfter_settled (before : List Char) {s : List Char} (h : ∀ c ∈ s, IsSettled c) :
    lowerAfter before s = s := by
  induction s generalizing before with
  | nil => rfl
  | cons c s ih =>
    obtain ⟨hc, hs⟩ := List.forall_mem_cons.mp h
    rw [lowerAfter, if_neg hc.not_sigma, hc.lower, ih _ hs, List.singleton_append]

/-! ### Groups that are joined -/

/-- Whether a text consists of groups of characters that satisfy a property, with a hyphen between
any two. -/
def IsJoined (p : Char → Prop) (s : List Char) : Prop :=
  ∃ groups, groups ≠ [] ∧ s = joinWith ['-'] groups ∧
    ∀ group ∈ groups, group ≠ [] ∧ ∀ c ∈ group, p c

def IsSlug (s : List Char) : Prop := IsJoined (isAlphanumeric · = true) s

theorem subset_joinWith {separator part : List Char} {parts : List (List Char)}
    (h : part ∈ parts) : part ⊆ joinWith separator parts := by
  induction parts with
  | nil => simp at h
  | cons first parts ih =>
    cases parts with
    | nil =>
      obtain rfl : part = first := by simpa using h
      simp [joinWith]
    | cons next more =>
      intro c hc
      rw [joinWith_cons]
      obtain rfl | hm := List.mem_cons.mp h
      · simp [hc]
      · exact List.mem_append_right _ (ih hm hc)

theorem count_joinWith {c : Char} {separator : List Char} (hs : c ∉ separator)
    (parts : List (List Char)) : (joinWith separator parts).count c = parts.flatten.count c := by
  induction parts with
  | nil => rfl
  | cons part parts ih =>
    cases parts with
    | nil => simp [joinWith]
    | cons next more =>
      rw [joinWith_cons, List.count_append, List.count_append, ih, List.count_eq_zero.mpr hs,
        Nat.add_zero, List.flatten_cons (l := part), List.count_append]

/-- Letters up to something else, or to the end, are one group. -/
theorem alphanumericGroups_append {group rest : List Char} (hn : group ≠ [])
    (hg : ∀ c ∈ group, isAlphanumeric c = true) (hr : ∀ c ∈ rest.head?, isAlphanumeric c = false) :
    alphanumericGroups (group ++ rest) = group :: alphanumericGroups rest := by
  induction group with
  | nil => exact absurd rfl hn
  | cons c group ih =>
    obtain ⟨hc, hg⟩ := List.forall_mem_cons.mp hg
    cases group with
    | nil =>
      cases rest with
      | nil => simp [alphanumericGroups, hc]
      | cons d rest =>
        have hd : isAlphanumeric d = false := hr d rfl
        simp [alphanumericGroups, hc, hd]
    | cons d group =>
      have hd : isAlphanumeric d = true := hg d List.mem_cons_self
      have hi := ih (List.cons_ne_nil d group) hg
      rw [List.cons_append] at hi
      rw [List.cons_append, List.cons_append, alphanumericGroups, if_pos hc]
      simp only [hd, hi, if_true]

/-- Groups that are joined are found again. -/
theorem alphanumericGroups_joinWith {groups : List (List Char)}
    (h : ∀ group ∈ groups, group ≠ [] ∧ ∀ c ∈ group, isAlphanumeric c = true) :
    alphanumericGroups (joinWith ['-'] groups) = groups := by
  have hh : isAlphanumeric '-' = false := by decide +kernel
  induction groups with
  | nil => rfl
  | cons group groups ih =>
    obtain ⟨⟨hn, hg⟩, hr⟩ := List.forall_mem_cons.mp h
    cases groups with
    | nil => simpa [joinWith, alphanumericGroups] using @alphanumericGroups_append group [] hn hg
    | cons next more =>
      have hs : ∀ c ∈ ('-' :: joinWith ['-'] (next :: more)).head?, isAlphanumeric c = false := by
        simpa using hh
      have he (rest : List Char) : alphanumericGroups ('-' :: rest) = alphanumericGroups rest := by
        simp [alphanumericGroups, hh]
      rw [joinWith_cons, List.append_assoc, List.singleton_append,
        alphanumericGroups_append hn hg hs, he, ih hr]

/-- The groups of a text hold its letters and digits, and each of them holds one. -/
theorem flatten_alphanumericGroups (s : List Char) :
    (alphanumericGroups s).flatten = s.filter isAlphanumeric ∧ [] ∉ alphanumericGroups s := by
  fun_induction alphanumericGroups s with
  | case1 => simp
  | case2 c hc => simp [hc]
  | case3 c hc d rest hd hg ih => simp_all
  | case4 c hc d rest hd group groups hg ih => simp_all
  | case5 c hc d rest hd ih => simp_all
  | case6 c rest hc ih => simp_all

namespace IsJoined

variable {p q : Char → Prop} {s : List Char}

theorem mono (h : IsJoined p s) (hq : ∀ c ∈ s, p c → q c) : IsJoined q s := by
  obtain ⟨groups, hn, rfl, hg⟩ := h
  refine ⟨groups, hn, rfl, fun group hm => ⟨(hg group hm).1, fun c hc => ?_⟩⟩
  exact hq c (subset_joinWith hm hc) ((hg group hm).2 c hc)

/-- Every character is a hyphen or satisfies the property. -/
theorem of_mem (h : IsJoined p s) {c : Char} (hc : c ∈ s) : c = '-' ∨ p c := by
  obtain ⟨groups, -, rfl, hg⟩ := h
  obtain hs | ⟨group, hm, hc⟩ := mem_joinWith hc
  · exact .inl (by simpa using hs)
  · exact .inr ((hg group hm).2 c hc)

/-- A group stands at each end. -/
theorem ends (h : IsJoined p s) : (∃ c, s.head? = some c ∧ p c) ∧ ∃ c, s.getLast? = some c ∧ p c := by
  obtain ⟨groups, hn, rfl, hg⟩ := h
  induction groups with
  | nil => exact absurd rfl hn
  | cons group groups ih =>
    obtain ⟨⟨hne, hp⟩, hr⟩ := List.forall_mem_cons.mp hg
    obtain ⟨c, more, rfl⟩ := List.exists_cons_of_ne_nil hne
    cases groups with
    | nil =>
      refine ⟨⟨c, by simp [joinWith], hp c List.mem_cons_self⟩, ?_⟩
      obtain ⟨d, hd⟩ := List.getLast?_isSome.mpr hne |> Option.isSome_iff_exists.mp
      exact ⟨d, by simpa [joinWith] using hd, hp d (List.mem_of_getLast? hd)⟩
    | cons next groups =>
      obtain ⟨-, d, hd, hpd⟩ := ih (by simp) hr
      rw [joinWith_cons]
      exact ⟨⟨c, rfl, hp c List.mem_cons_self⟩, d,
        by rw [List.getLast?_append, hd, Option.some_or], hpd⟩

end IsJoined

/-! ### Slugs -/

theorem lower_ne_nil {group : List Char} (hn : group ≠ [])
    (hg : ∀ c ∈ group, isAlphanumeric c = true) : lower group ≠ [] := by
  obtain ⟨c, rest, rfl⟩ := List.exists_cons_of_ne_nil hn
  obtain ⟨first, he, hf, -⟩ := exists_lowerAfter_cons [] (hg c List.mem_cons_self) rest
  rw [lower, he]
  simp [hf]

def slugGroups (title : List Char) : List (List Char) :=
  if alphanumericGroups title = [] then ["report".toList] else (alphanumericGroups title).map lower

theorem slugGroups_ne_nil (title : List Char) : slugGroups title ≠ [] := by
  unfold slugGroups
  split <;> simp_all

theorem toList_slug (title : String) :
    (slug title).toList = joinWith ['-'] (slugGroups title.toList) := by
  unfold slug slugGroups
  dsimp only
  cases hg : alphanumericGroups title.toList with
  | nil => rfl
  | cons group groups =>
    have hm : group ∈ alphanumericGroups title.toList := by simp [hg]
    have hl : lower group ≠ [] := lower_ne_nil
      (fun he => (flatten_alphanumericGroups _).2 (he ▸ hm)) (isAlphanumeric_of_mem_groups _ _ hm)
    have hj : joinWith ['-'] ((group :: groups).map lower) ≠ [] := by
      obtain ⟨c, rest, hc⟩ := List.exists_cons_of_ne_nil hl
      exact List.ne_nil_of_mem (subset_joinWith (List.mem_map_of_mem List.mem_cons_self)
        (hc ▸ List.mem_cons_self))
    rw [if_neg (by simpa using hj), if_neg (List.cons_ne_nil _ _), String.toList_ofList]

theorem count_lower {groups : List (List Char)}
    (h : ∀ group ∈ groups, ∀ c ∈ group, isAlphanumeric c = true) :
    (groups.map lower).flatten.count combiningDot = groups.flatten.count dottedI := by
  induction groups with
  | nil => rfl
  | cons group groups ih =>
    obtain ⟨hg, hr⟩ := List.forall_mem_cons.mp h
    rw [List.map_cons, List.flatten_cons, List.flatten_cons, List.count_append, List.count_append,
      ih hr, lower, (lowerAfter_settles [] hg).2]

/-- What a slug consists of: groups of settled letters and of dots, as many as there are dotted
capital letters in its title. -/
theorem slug_settles (title : String) :
    IsJoined (fun c => IsSettled c ∨ c = combiningDot) (slug title).toList ∧
      (slug title).toList.count combiningDot = title.toList.count dottedI := by
  obtain ⟨hf, hn⟩ := flatten_alphanumericGroups title.toList
  have hi : title.toList.count dottedI = (alphanumericGroups title.toList).flatten.count dottedI := by
    rw [hf, List.count_filter isAlphanumeric_dottedI]
  have ha := isAlphanumeric_of_mem_groups title.toList
  rw [toList_slug, count_joinWith (by decide), hi]
  by_cases hg : alphanumericGroups title.toList = []
  · have hr : ∀ c ∈ "report".toList, IsSettled c := by
      have hs : ("report".toList.all fun c => IsSettled c) = true := by decide +kernel
      exact fun c hc => of_decide_eq_true (List.all_eq_true.mp hs c hc)
    rw [slugGroups, if_pos hg, hg]
    refine ⟨⟨["report".toList], by simp, rfl, List.forall_mem_singleton.mpr ⟨by decide, ?_⟩⟩,
      by decide⟩
    exact fun c hc => .inl (hr c hc)
  · refine ⟨⟨_, slugGroups_ne_nil _, rfl, fun group hm => ?_⟩, ?_⟩
    · rw [slugGroups, if_neg hg] at hm
      obtain ⟨letters, hl, rfl⟩ := List.mem_map.mp hm
      exact ⟨lower_ne_nil (fun he => hn (he ▸ hl)) (ha letters hl),
        (lowerAfter_settles [] (ha letters hl)).1⟩
    · rw [slugGroups, if_neg hg, count_lower ha]

/-- Groups of settled letters are their own slug. -/
theorem slug_eq_self {title : String} (h : IsJoined IsSettled title.toList) :
    slug title = title := by
  obtain ⟨groups, hn, he, hg⟩ := h
  have ha : alphanumericGroups title.toList = groups := by
    rw [he]
    exact alphanumericGroups_joinWith fun group hm =>
      ⟨(hg group hm).1, fun c hc => ((hg group hm).2 c hc).alphanumeric⟩
  have hl : groups.map lower = groups.map id :=
    List.map_congr_left fun group hm => lowerAfter_settled [] (hg group hm).2
  rw [List.map_id] at hl
  rw [← String.toList_inj, toList_slug, slugGroups, ha, if_neg hn, hl, he]

/-- Without a dotted capital I in its title a slug is settled. -/
theorem slug_settled {title : String} (h : dottedI ∉ title.toList) :
    IsJoined IsSettled (slug title).toList := by
  obtain ⟨hj, hc⟩ := slug_settles title
  rw [List.count_eq_zero.mpr h, List.count_eq_zero] at hc
  refine hj.mono fun c hm hp => hp.resolve_right ?_
  rintro rfl
  exact hc hm

/-- A slug has no dotted capital I. -/
theorem dottedI_not_mem_slug (title : String) : dottedI ∉ (slug title).toList := by
  intro hm
  obtain he | hs | he := (slug_settles title).1.of_mem hm
  · exact absurd he (by decide)
  · exact absurd hs.lower (by decide)
  · exact absurd he (by decide)

/-- A slug consists of groups of letters, digits and dots with a hyphen between any two, and the dots
are those of the dotted capital letters of its title. It has the form of a slug, and is its own slug,
exactly if there are none; its own slug always does and is. -/
theorem slug_form_iff (title : String) :
    ((slug title).toList.head? ≠ some '-' ∧ (slug title).toList.getLast? ≠ some '-' ∧
      IsJoined (fun c => isAlphanumeric c = true ∨ c = combiningDot) (slug title).toList ∧
      (slug title).toList.count combiningDot = title.toList.count dottedI) ∧
    (IsSlug (slug title).toList ↔ dottedI ∉ title.toList) ∧
    (slug (slug title) = slug title ↔ dottedI ∉ title.toList) ∧
    IsSlug (slug (slug title)).toList ∧ slug (slug (slug title)) = slug (slug title) := by
  obtain ⟨hj, hc⟩ := slug_settles title
  have hform (t : String) (ht : dottedI ∉ t.toList) :
      IsSlug (slug t).toList ∧ slug (slug t) = slug t :=
    ⟨(slug_settled ht).mono fun _ _ hs => hs.alphanumeric, slug_eq_self (slug_settled ht)⟩
  have hhyphen : ¬(IsSettled '-' ∨ '-' = combiningDot) := by
    rintro (hs | he)
    · exact absurd hs.alphanumeric (by decide +kernel)
    · exact absurd he (by decide)
  have hdot : combiningDot ∉ (slug title).toList → dottedI ∉ title.toList := by
    rw [← List.count_eq_zero, ← List.count_eq_zero, hc]
    exact id
  refine ⟨⟨?_, ?_, ?_, hc⟩, ⟨fun hs => ?_, fun ht => (hform title ht).1⟩,
    ⟨fun he => ?_, fun ht => (hform title ht).2⟩, hform _ (dottedI_not_mem_slug title)⟩
  · obtain ⟨⟨c, hh, hp⟩, -⟩ := hj.ends
    rw [hh]
    rintro ⟨rfl⟩
    exact hhyphen hp
  · obtain ⟨-, c, hl, hp⟩ := hj.ends
    rw [hl]
    rintro ⟨rfl⟩
    exact hhyphen hp
  · exact hj.mono fun _ _ hs => hs.imp_left IsSettled.alphanumeric
  · refine hdot fun hm => ?_
    obtain he | ha := hs.of_mem hm
    · exact absurd he (by decide)
    · exact absurd ha (by rw [isAlphanumeric_combiningDot]; exact Bool.false_ne_true)
  · -- The dots of the second slug are those of dotted letters of the first, which has none.
    refine hdot ?_
    rw [← he, ← List.count_eq_zero, (slug_settles (slug title)).2, List.count_eq_zero]
    exact dottedI_not_mem_slug title

/-- A dot that lower case has brought in is a separator in the title of another slug. -/
theorem slug_breaks_form : ¬IsSlug (slug "\u0130stanbul").toList ∧
    slug (slug "\u0130stanbul") ≠ slug "\u0130stanbul" := by
  have ha : slug "\u0130stanbul" = "i\u0307stanbul" := by decide +kernel
  have hb : slug "i\u0307stanbul" = "i-stanbul" := by decide +kernel
  rw [ha, hb]
  refine ⟨fun hs => ?_, by decide⟩
  obtain he | ha := @IsJoined.of_mem _ _ hs combiningDot (by decide)
  · exact absurd he (by decide)
  · exact absurd ha (by rw [isAlphanumeric_combiningDot]; exact Bool.false_ne_true)

end EditorBridge.Text

import EditorBridge.FileTree
import EditorBridge.Proofs.TextLines
import EditorBridge.Proofs.TextUtf8
import EditorBridge.Text.Slug

/-!
File names of titles. A slug has hyphens, and no other character before the digits in it, whatever
its title holds; so a path that ends in a slug goes one step beyond its directory.
-/

namespace EditorBridge

namespace Text

/-! ### The characters of a slug -/

/-- A number in ascending ranges is not less than the first of them. -/
theorem le_of_inRanges {n first past : Nat} {rest : List Nat}
    (h : inRanges n (first :: past :: rest) = true) : first ≤ n := by
  rw [inRanges_cons] at h
  split at h
  · simp at h
  · omega

/-- A number with an image is in a run, and its image is as far from the beginning. -/
theorem imageInRuns_some {n image : Nat} {runs : List (Nat × Nat × Nat × Nat)}
    (h : imageInRuns n runs = some image) :
    ∃ run ∈ runs, run.1 ≤ n ∧ n ≤ run.2.1 ∧ (n - run.1) % run.2.2.1 = 0 ∧
      image = run.2.2.2 + (n - run.1) := by
  induction runs with
  | nil => simp [imageInRuns] at h
  | cons run rest ih =>
    obtain ⟨first, last, step, begins⟩ := run
    unfold imageInRuns at h
    split at h
    · simp at h
    · split at h
      · rename_i hn hl
        obtain ⟨hl, hs⟩ : n ≤ last ∧ (n - first) % step = 0 := by simpa using hl
        exact ⟨_, List.mem_cons_self, Nat.le_of_not_lt hn, hl, hs, (Option.some.inj h).symm⟩
      · obtain ⟨run, hr, hi⟩ := ih h
        exact ⟨run, List.mem_cons_of_mem _ hr, hi⟩

/-- No lower case is a sign before the digits, and all of them are characters. -/
theorem lowerCaseRuns_bounds : ∀ run ∈ lowerCaseRuns,
    0x30 ≤ run.2.2.2 ∧ (run.2.2.2 + (run.2.1 - run.1) < 0xD800 ∨
      0xDFFF < run.2.2.2 ∧ run.2.2.2 + (run.2.1 - run.1) < 0x110000) := by
  decide +kernel

/-- A character that is no hyphen is not before the digits. -/
def IsSlugChar (c : Char) : Prop := c = '-' ∨ 0x30 ≤ c.toNat

theorem isSlugChar_lowerChar {c : Char} (h : 0x30 ≤ c.toNat) : ∀ d ∈ lowerChar c, IsSlugChar d := by
  unfold lowerChar
  split
  · intro d hd
    obtain rfl | rfl : d = 'i' ∨ d = Char.ofNat 0x307 := by simpa using hd
    · exact .inr (by decide)
    · exact .inr (by decide)
  · split
    · rename_i image hi
      obtain ⟨run, hr, hf, hl, -, he⟩ := imageInRuns_some hi
      have hb := lowerCaseRuns_bounds run hr
      intro d hd
      obtain rfl : d = Char.ofNat image := by simpa using hd
      refine .inr ?_
      rw [toNat_ofNat_char (by omega)]
      omega
    · simpa using .inr h

theorem isSlugChar_lowerAfter (before : List Char) {s : List Char} (h : ∀ c ∈ s, 0x30 ≤ c.toNat) :
    ∀ d ∈ lowerAfter before s, IsSlugChar d := by
  induction s generalizing before with
  | nil => simp [lowerAfter]
  | cons c s ih =>
    obtain ⟨hc, hs⟩ := List.forall_mem_cons.mp h
    refine List.forall_mem_append.mpr ⟨?_, ih _ hs⟩
    split
    · split <;> simp [IsSlugChar]
    · exact isSlugChar_lowerChar hc

theorem le_of_isAlphanumeric {c : Char} (h : isAlphanumeric c = true) : 0x30 ≤ c.toNat := by
  obtain ⟨rest, hr⟩ : ∃ rest, alphanumericRanges = 0x30 :: 0x3A :: rest := ⟨_, rfl⟩
  rw [isAlphanumeric, hr] at h
  exact le_of_inRanges h

/-- A group holds letters and digits alone. -/
theorem isAlphanumeric_of_mem_groups (s : List Char) :
    ∀ group ∈ alphanumericGroups s, ∀ c ∈ group, isAlphanumeric c = true := by
  fun_induction alphanumericGroups s with
  | case1 => simp
  | case2 c hc => simpa using hc
  | case3 c hc d rest hd hg ih => simpa [hg] using hc
  | case4 c hc d rest hd group groups hg ih =>
    obtain ⟨hm, hr⟩ := List.forall_mem_cons.mp (hg ▸ ih)
    have hs : ∀ e ∈ c :: group, isAlphanumeric e = true := List.forall_mem_cons.mpr ⟨hc, hm⟩
    rw [hg]
    exact List.forall_mem_cons.mpr ⟨hs, hr⟩
  | case5 c hc d rest hd ih => exact List.forall_mem_cons.mpr ⟨by simpa using hc, ih⟩
  | case6 c rest hc ih => exact ih

/-- Only hyphens of a slug stand before the digits. -/
theorem isSlugChar_slug (title : String) : ∀ c ∈ (slug title).toList, IsSlugChar c := by
  have hj : ∀ c ∈ joinWith ['-'] ((alphanumericGroups title.toList).map lower), IsSlugChar c := by
    intro c hc
    obtain hs | ⟨group, hg, hc⟩ := mem_joinWith hc
    · exact .inl (by simpa using hs)
    · obtain ⟨letters, hl, rfl⟩ := List.mem_map.mp hg
      exact isSlugChar_lowerAfter [] (fun d hd =>
        le_of_isAlphanumeric (isAlphanumeric_of_mem_groups _ letters hl d hd)) c hc
  unfold slug
  dsimp only
  split
  · intro c hc
    have hd : "report".toList.all (fun d => 0x30 ≤ d.toNat) = true := by decide
    exact .inr (by simpa using List.all_eq_true.mp hd c hc)
  · rwa [String.toList_ofList]

end Text

end EditorBridge

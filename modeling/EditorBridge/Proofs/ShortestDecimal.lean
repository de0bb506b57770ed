import EditorBridge.Decimal.Shortest
import EditorBridge.Proofs.NearestBinary
import Mathlib.Data.Nat.Log

/-!
The shortest decimal of a double. It reads as the double, no decimal with a greater exponent does, and
no decimal with the same exponent that does is nearer. So it is the only one, and reading it gives the
double again.
-/

namespace EditorBridge.Decimal

def Scientific.value (d : Scientific) : ℚ := d.digits * 10 ^ d.exponent

/-- Which of two decimals next to each other may be taken where both are equally near. -/
def Tie.Takes : Tie → (taken other : Nat) → Prop
  | .even, taken, _ => Even taken
  | .above, taken, other => other < taken

structure IsShortest (tie : Tie) (x : Binary) (d : Scientific) : Prop where
  reads : ReadsAs d.value x
  greatest (c : Scientific) : ReadsAs c.value x → c.exponent ≤ d.exponent
  nearest (c : Scientific) : ReadsAs c.value x → c.exponent = d.exponent →
    |x.value - d.value| ≤ |x.value - c.value|
  halfway (c : Scientific) : ReadsAs c.value x → c.exponent = d.exponent →
    |x.value - d.value| = |x.value - c.value| → c.digits ≠ d.digits → tie.Takes d.digits c.digits

variable {x : Binary}

/-! ### Comparing ratios -/

theorem Scientific.ratio_value (d : Scientific) : (d.ratio.1 : ℚ) / d.ratio.2 = d.value := by
  rw [ratio, scaleDown_value (by decide), value, zpow_neg]
  simp

theorem Binary.ratio_value (x : Binary) : (x.ratio.1 : ℚ) / x.ratio.2 = x.value := by
  rw [ratio, scaleDown_value (by decide), value, zpow_neg]
  simp

theorem isBelow_iff {included : Bool} {a b : Nat × Nat} (ha : 0 < a.2) (hb : 0 < b.2) :
    isBelow included a b = true ↔
      Before (included = true) (a.1 / a.2 : ℚ) (b.1 / b.2 : ℚ) := by
  have ha : (0 : ℚ) < a.2 := by exact_mod_cast ha
  have hb : (0 : ℚ) < b.2 := by exact_mod_cast hb
  have hl : (a.1 / a.2 : ℚ) < b.1 / b.2 ↔ a.1 * b.2 < b.1 * a.2 := by
    rw [div_lt_div_iff₀ ha hb]
    exact_mod_cast Iff.rfl
  have he : (a.1 / a.2 : ℚ) = b.1 / b.2 ↔ a.1 * b.2 = b.1 * a.2 := by
    rw [div_eq_div_iff ha.ne' hb.ne']
    exact_mod_cast Iff.rfl
  rw [isBelow, Before, hl, he]
  cases included with
  | false => simp
  | true => simp [Nat.le_iff_lt_or_eq]

/-- The check by which a decimal is taken holds of the decimals that read as a number. -/
theorem readsBack_iff (h : x.significand ≠ 0) {d : Scientific} :
    readsBack x d = true ↔ ReadsAs d.value x := by
  have hp (n : Nat) : 0 < (scaleDown 2 n 4 (-x.exponent)).2 := scaleDown_pos (by decide) (by decide)
  have hd : 0 < d.ratio.2 := scaleDown_pos (by decide) (by decide)
  have hv (n : Nat) : ((scaleDown 2 n 4 (-x.exponent)).1 : ℚ) / (scaleDown 2 n 4 (-x.exponent)).2 =
      n / 4 * x.gapAbove := by
    rw [scaleDown_value (by decide), zpow_neg, Binary.gapAbove]
    simp
  have he : (x.significand % 2 == 0) = true ↔ Even x.significand := by
    rw [beq_iff_eq, Nat.even_iff]
  have hf : (x.significand = Nat.pow 2 52 && x.exponent != leastExponent) = true ↔ x.IsFirst := by
    simp [Binary.IsFirst]
  have hl : (((if (x.significand = Nat.pow 2 52 && x.exponent != leastExponent) = true
      then 4 * x.significand - 1 else 4 * x.significand - 2 : Nat) : ℚ)) / 4 * x.gapAbove = x.low := by
    rw [Binary.low, Binary.gapBelow, Binary.value_eq]
    by_cases hi : x.IsFirst
    · rw [if_pos (hf.mpr hi), if_pos hi, Nat.cast_sub (by omega)]
      push_cast
      ring
    · rw [if_neg (mt hf.mp hi), if_neg hi, Nat.cast_sub (by omega)]
      push_cast
      ring
  have hh : ((4 * x.significand + 2 : Nat) : ℚ) / 4 * x.gapAbove = x.high := by
    rw [Binary.high, Binary.value_eq]
    push_cast
    ring
  rw [readsAs_iff h, readsBack, Bool.and_eq_true, isBelow_iff (hp _) hd, isBelow_iff hd (hp _), hv,
    hv, hl, hh, d.ratio_value, he]

/-! ### The first digit -/

/-- Powers of two and of ten, compared by `2 ^ 93 < 10 ^ 28` and `10 ^ 31 < 2 ^ 103`. -/
theorem two_zpow_le {p q : ℤ} (h : 28 * p ≤ 93 * q) (hn : 31 * p ≤ 103 * q) :
    (2 : ℚ) ^ p ≤ 10 ^ q := by
  have h10 : (0 : ℚ) ≤ 10 ^ q := (zpow_pos (by norm_num) _).le
  obtain ⟨k, rfl | rfl⟩ := p.eq_nat_or_neg
  · refine le_of_pow_le_pow_left₀ (by decide : 93 ≠ 0) h10 ?_
    calc ((2 : ℚ) ^ (k : ℤ)) ^ 93
      _ = (2 ^ 93) ^ k := by rw [zpow_natCast, pow_right_comm]
      _ ≤ (10 ^ 28) ^ k := pow_le_pow_left₀ (by norm_num) (by norm_num) k
      _ = 10 ^ (28 * (k : ℤ)) := by rw [zpow_mul, zpow_natCast, zpow_ofNat]
      _ ≤ 10 ^ (q * 93) := zpow_le_zpow_right₀ (by norm_num) (by omega)
      _ = (10 ^ q) ^ 93 := by rw [zpow_mul, zpow_ofNat]
  · refine le_of_pow_le_pow_left₀ (by decide : 103 ≠ 0) h10 ?_
    calc ((2 : ℚ) ^ (-(k : ℤ))) ^ 103
      _ = ((2 ^ 103) ^ k)⁻¹ := by rw [zpow_neg, zpow_natCast, inv_pow, pow_right_comm]
      _ ≤ ((10 ^ 31) ^ k)⁻¹ :=
          inv_anti₀ (by positivity) (pow_le_pow_left₀ (by norm_num) (by norm_num) k)
      _ = 10 ^ (31 * -(k : ℤ)) := by rw [zpow_mul, zpow_neg, zpow_natCast, zpow_ofNat]
      _ ≤ 10 ^ (q * 103) := zpow_le_zpow_right₀ (by norm_num) (by omega)
      _ = (10 ^ q) ^ 103 := by rw [zpow_mul, zpow_ofNat]

theorem ten_zpow_le {p q : ℤ} (h : 93 * q ≤ 28 * p) (hn : 103 * q ≤ 31 * p) :
    (10 : ℚ) ^ q ≤ 2 ^ p := by
  have hi := two_zpow_le (p := -p) (q := -q) (by omega) (by omega)
  rwa [zpow_neg, zpow_neg, inv_le_inv₀ (zpow_pos (by norm_num) _) (zpow_pos (by norm_num) _)] at hi

/-- A ratio lies between the powers of two that the logarithms of its numbers give. -/
theorem log_bounds {num den : Nat} (hn : num ≠ 0) (hd : den ≠ 0) :
    (2 : ℚ) ^ ((num.log2 : ℤ) - den.log2 - 1) < num / den ∧
      (num / den : ℚ) < 2 ^ ((num.log2 : ℤ) - den.log2 + 1) := by
  have hp : (0 : ℚ) < den := by exact_mod_cast Nat.pos_of_ne_zero hd
  have hnl : (2 : ℚ) ^ num.log2 ≤ num := by exact_mod_cast Nat.log2_self_le hn
  have hnu : (num : ℚ) < 2 ^ (num.log2 + 1) := by exact_mod_cast @Nat.lt_log2_self num
  have hdl : (2 : ℚ) ^ den.log2 ≤ den := by exact_mod_cast Nat.log2_self_le hd
  have hdu : (den : ℚ) < 2 ^ (den.log2 + 1) := by exact_mod_cast @Nat.lt_log2_self den
  constructor
  · calc (2 : ℚ) ^ ((num.log2 : ℤ) - den.log2 - 1)
      _ = 2 ^ num.log2 / 2 ^ (den.log2 + 1) := by
          rw [sub_sub, zpow_sub₀ (by norm_num)]
          norm_cast
      _ < 2 ^ num.log2 / den := by gcongr
      _ ≤ num / den := by gcongr
  · calc (num / den : ℚ)
      _ < 2 ^ (num.log2 + 1) / den := by gcongr
      _ ≤ 2 ^ (num.log2 + 1) / 2 ^ den.log2 := by gcongr
      _ = 2 ^ ((num.log2 : ℤ) - den.log2 + 1) := by
          rw [sub_add_eq_add_sub, zpow_sub₀ (by norm_num)]
          norm_cast

/-- The search for the first digit, begun at most so many digits above it. -/
theorem firstDigitFrom_spec {value : Nat × Nat} (h : 0 < value.2) {n : Nat} {e : ℤ}
    (hu : (value.1 / value.2 : ℚ) < 10 ^ (e + 1)) (hl : (10 : ℚ) ^ (e - n) ≤ value.1 / value.2) :
    (10 : ℚ) ^ firstDigitFrom value n e ≤ value.1 / value.2 ∧
      (value.1 / value.2 : ℚ) < 10 ^ (firstDigitFrom value n e + 1) := by
  induction n generalizing e with
  | zero => exact ⟨by simpa [firstDigitFrom] using hl, hu⟩
  | succ n ih =>
    have hr : 0 < (Scientific.ratio ⟨1, e⟩).2 := scaleDown_pos (by decide) (by decide)
    have hb : isBelow true (Scientific.ratio ⟨1, e⟩) value = true ↔
        (10 : ℚ) ^ e ≤ value.1 / value.2 := by
      rw [isBelow_iff hr h, Scientific.ratio_value, Scientific.value, le_iff_lt_or_eq]
      simp [Before]
    rw [firstDigitFrom]
    split
    · exact ⟨hb.mp ‹_›, hu⟩
    · have hg := not_le.mp (mt hb.mpr ‹_›)
      exact ih (by simpa using hg) (by convert hl using 2; push_cast; ring)

theorem firstDigit_spec {value : Nat × Nat} (hn : value.1 ≠ 0) (hd : value.2 ≠ 0)
    (hl : (2 : ℚ) ^ (-2000 : ℤ) < value.1 / value.2) (hu : (value.1 / value.2 : ℚ) < 2 ^ (2000 : ℤ)) :
    (10 : ℚ) ^ firstDigit value ≤ value.1 / value.2 ∧
      (value.1 / value.2 : ℚ) < 10 ^ (firstDigit value + 1) := by
  obtain ⟨hlow, hhigh⟩ := log_bounds hn hd
  have h1 := (zpow_lt_zpow_iff_right₀ (by norm_num)).mp (hl.trans hhigh)
  have h2 := (zpow_lt_zpow_iff_right₀ (by norm_num)).mp (hlow.trans hu)
  rw [firstDigit]
  refine firstDigitFrom_spec (Nat.pos_of_ne_zero hd) ?_ ?_
  · exact hhigh.trans_le (two_zpow_le (by omega) (by omega))
  · exact (ten_zpow_le (by omega) (by omega)).trans hlow.le

/-! ### The decimals next to a number -/

section Neighbours

variable {tie : Tie} {e : ℤ}

theorem ten_zpow_pos (e : ℤ) : (0 : ℚ) < 10 ^ e := zpow_pos (by norm_num) e

theorem eq_of_mul_ten_zpow {m n : Nat} (h : (m * 10 ^ e : ℚ) = n * 10 ^ e) : m = n := by
  exact_mod_cast mul_right_cancel₀ (ten_zpow_pos e).ne' h

theorem lt_of_mul_ten_zpow {m n : Nat} (h : (m * 10 ^ e : ℚ) < n * 10 ^ e) : m < n := by
  exact_mod_cast lt_of_mul_lt_mul_right h (ten_zpow_pos e).le

theorem ten_zpow_succ (e : ℤ) : (10 : ℚ) ^ (e + 1) = 10 * 10 ^ e := by
  rw [zpow_add_one₀ (by norm_num), mul_comm]

/-- What is taken on an exponent is one of the two decimals next to the number: one that reads as it,
and of two that do the nearer one. -/
theorem nearestOn_eq (tie : Tie) (x : Binary) (e : ℤ) :
    ∃ (k : Nat) (isLowNearer : Bool),
      (k * 10 ^ e : ℚ) ≤ x.value ∧ x.value < (k + 1) * 10 ^ e ∧
      (isLowNearer = true ↔ Before (tie.takesBelow k = true) (x.value - k * 10 ^ e)
        ((k + 1) * 10 ^ e - x.value)) ∧
      nearestOn? tie x e = match readsBack x ⟨k, e⟩, readsBack x ⟨k + 1, e⟩ with
        | true, true => some (if isLowNearer then ⟨k, e⟩ else ⟨k + 1, e⟩)
        | true, false => some ⟨k, e⟩
        | false, true => some ⟨k + 1, e⟩
        | false, false => none := by
  have hp := ten_zpow_pos e
  have hr : 0 < (scaleDown 10 x.ratio.1 x.ratio.2 e).2 :=
    scaleDown_pos (by decide) (scaleDown_pos (by decide) (by decide)).ne'
  have hv : x.value = ((scaleDown 10 x.ratio.1 x.ratio.2 e).1 : ℚ) /
      (scaleDown 10 x.ratio.1 x.ratio.2 e).2 * 10 ^ e := by
    rw [scaleDown_value (by decide), x.ratio_value]
    simp [hp.ne']
  rw [nearestOn?]
  obtain ⟨⟨n, d⟩, hs⟩ : ∃ s, scaleDown 10 x.ratio.1 x.ratio.2 e = s := ⟨_, rfl⟩
  rw [hs] at hr hv ⊢
  obtain ⟨part, hq, h0, h1, hl, hg⟩ := exists_part n hr.ne'
  dsimp only at hv hr
  rw [hq] at hv
  refine ⟨n / d, 2 * (n % d) < d || (2 * (n % d) == d && tie.takesBelow (n / d)), ?_, ?_, ?_, rfl⟩
  · rw [hv]
    nlinarith
  · rw [hv]
    nlinarith
  · have he : 2 * (n % d) = d ↔ part = 1 / 2 := by
      rw [le_antisymm_iff, le_antisymm_iff, ← not_lt, ← not_lt, ← not_lt, ← not_lt, hl, hg]
    have hb : x.value - (n / d : Nat) * 10 ^ e = part * 10 ^ e ∧
        ((n / d : Nat) + 1) * 10 ^ e - x.value = (1 - part) * 10 ^ e := by
      rw [hv]
      constructor <;> ring
    rw [hb.1, hb.2, Before, mul_lt_mul_iff_left₀ hp, mul_left_inj' hp.ne']
    simp only [Bool.or_eq_true, Bool.and_eq_true, decide_eq_true_eq, beq_iff_eq, hl, he]
    constructor
    · rintro (hlt | ⟨he, ht⟩)
      · exact .inl (by linarith)
      · exact .inr ⟨by linarith, ht⟩
    · rintro (hlt | ⟨he, ht⟩)
      · exact .inl (by linarith)
      · exact .inr ⟨by linarith, ht⟩

theorem Tie.takes_below {k n : Nat} (h : tie.takesBelow k = true) : tie.Takes k n := by
  cases tie with
  | even => exact Nat.even_iff.mpr (by simpa [takesBelow] using h)
  | above => simp [takesBelow] at h

theorem Tie.takes_above {k n : Nat} (h : ¬tie.takesBelow k = true) (hn : n ≤ k) :
    tie.Takes (k + 1) n := by
  cases tie with
  | even =>
    rw [takesBelow, decide_eq_true_eq, ← Nat.even_iff] at h
    exact Nat.even_add_one.mpr h
  | above => exact Nat.lt_succ_of_le hn

/-- Of the decimals next to a number, that on the side of one that reads as it does so too, and it is
nearer. -/
theorem reads_beside (h : x.significand ≠ 0) {k n : Nat} (hk : (k * 10 ^ e : ℚ) ≤ x.value)
    (hu : x.value < (k + 1) * 10 ^ e) (hr : ReadsAs (n * 10 ^ e) x) :
    (n ≤ k ∧ readsBack x ⟨k, e⟩ = true ∧ (n * 10 ^ e : ℚ) ≤ k * 10 ^ e) ∨
      (k + 1 ≤ n ∧ readsBack x ⟨k + 1, e⟩ = true ∧ ((k + 1) * 10 ^ e : ℚ) ≤ n * 10 ^ e) := by
  have hp := (ten_zpow_pos e).le
  rw [readsBack_iff h, readsBack_iff h, Scientific.value, Scientific.value]
  push_cast
  obtain hn | hn := le_or_gt n k
  · have hm : (n * 10 ^ e : ℚ) ≤ k * 10 ^ e :=
      mul_le_mul_of_nonneg_right (by exact_mod_cast hn) hp
    exact .inl ⟨hn, hr.between h (readsAs_self x) hm hk, hm⟩
  · have hm : ((k + 1) * 10 ^ e : ℚ) ≤ n * 10 ^ e :=
      mul_le_mul_of_nonneg_right (by exact_mod_cast hn) hp
    exact .inr ⟨hn, (readsAs_self x).between h hr hu.le hm, hm⟩

theorem not_readsAs_of_nearestOn (h : x.significand ≠ 0) (hn : nearestOn? tie x e = none) (n : Nat) :
    ¬ReadsAs (n * 10 ^ e) x := by
  intro hr
  obtain ⟨k, isLowNearer, hk, hu, -, he⟩ := nearestOn_eq tie x e
  rw [he] at hn
  obtain ⟨-, hb, -⟩ | ⟨-, hb, -⟩ := reads_beside h hk hu hr <;> rw [hb] at hn <;>
    split at hn <;> simp_all

/-- What is taken is the decimal below, if that above does not read as the number or is not the nearer
one, and otherwise the one above. -/
theorem nearestOn_cases {d : Scientific} (hd : nearestOn? tie x e = some d) :
    ∃ k : Nat, (k * 10 ^ e : ℚ) ≤ x.value ∧ x.value < (k + 1) * 10 ^ e ∧
      (d = ⟨k, e⟩ ∧ readsBack x ⟨k, e⟩ = true ∧ (readsBack x ⟨k + 1, e⟩ = true →
          Before (tie.takesBelow k = true) (x.value - k * 10 ^ e) ((k + 1) * 10 ^ e - x.value)) ∨
        d = ⟨k + 1, e⟩ ∧ readsBack x ⟨k + 1, e⟩ = true ∧ (readsBack x ⟨k, e⟩ = true →
          ¬Before (tie.takesBelow k = true) (x.value - k * 10 ^ e)
            ((k + 1) * 10 ^ e - x.value))) := by
  obtain ⟨k, isLowNearer, hk, hu, hl, he⟩ := nearestOn_eq tie x e
  refine ⟨k, hk, hu, ?_⟩
  rw [he] at hd
  rw [← hl]
  split at hd
  · obtain rfl := Option.some.inj hd
    cases isLowNearer <;> simp_all
  · simp_all
  · simp_all
  · exact absurd hd nofun

/-- What is taken on an exponent is the nearest decimal with that exponent that reads as the
number. -/
theorem nearestOn_spec (h : x.significand ≠ 0) {d : Scientific}
    (hd : nearestOn? tie x e = some d) :
    d.exponent = e ∧ ReadsAs d.value x ∧ ∀ n : Nat, ReadsAs (n * 10 ^ e) x →
      |x.value - d.value| ≤ |x.value - n * 10 ^ e| ∧
        (|x.value - d.value| = |x.value - n * 10 ^ e| → n ≠ d.digits → tie.Takes d.digits n) := by
  obtain ⟨k, hk, hu, ⟨rfl, hr, hb⟩ | ⟨rfl, hr, hb⟩⟩ := nearestOn_cases hd
  · refine ⟨rfl, (readsBack_iff h).mp hr, fun n hn => ?_⟩
    have hv : |x.value - k * 10 ^ e| = x.value - k * 10 ^ e := abs_of_nonneg (by linarith)
    rw [Scientific.value, hv]
    obtain ⟨hle, -, hm⟩ | ⟨hle, ha, hm⟩ := reads_beside h hk hu hn
    · rw [abs_of_nonneg (by linarith)]
      exact ⟨by linarith, fun he hne => absurd (eq_of_mul_ten_zpow (e := e) (by linarith)) hne⟩
    · rw [abs_of_nonpos (by linarith)]
      obtain hlt | ⟨he, ht⟩ := hb ha
      · exact ⟨by linarith, fun he => by linarith⟩
      · exact ⟨by linarith, fun _ _ => Tie.takes_below ht⟩
  · refine ⟨rfl, (readsBack_iff h).mp hr, fun n hn => ?_⟩
    have hv : |x.value - ((k + 1 : Nat) : ℚ) * 10 ^ e| = (k + 1) * 10 ^ e - x.value := by
      push_cast
      rw [abs_of_nonpos (by linarith)]
      ring
    rw [Scientific.value, hv]
    obtain ⟨hle, ha, hm⟩ | ⟨hle, -, hm⟩ := reads_beside h hk hu hn
    · have hb := hb ha
      rw [Before, not_or, not_lt, not_and] at hb
      rw [abs_of_nonneg (by linarith)]
      exact ⟨by linarith, fun he _ => Tie.takes_above (hb.2 (by linarith)) hle⟩
    · rw [abs_of_nonpos (by linarith)]
      refine ⟨by linarith, fun he hne => absurd (eq_of_mul_ten_zpow (e := e) ?_) hne⟩
      push_cast
      linarith

/-- Seventeen digits are enough: with an exponent so small a decimal next to the number reads as it. -/
theorem exists_reads (he : (10 ^ 16 * 10 ^ e : ℚ) ≤ x.value) :
    ∃ n : Nat, ReadsAs (n * 10 ^ e) x := by
  have hg := x.gapAbove_pos
  have hb : (10 : ℚ) ^ e < x.gapBelow := by
    rw [Binary.value_eq] at he
    unfold Binary.gapBelow
    split
    · rename_i hi
      have hm : (x.significand : ℚ) = 2 ^ 52 := by exact_mod_cast hi.1
      rw [hm] at he
      linarith
    · have hm : (x.significand : ℚ) < 2 ^ 53 := by exact_mod_cast x.significand_lt
      nlinarith
  have ha := x.gapBelow_le
  obtain ⟨k, -, hk, hu, -, -⟩ := nearestOn_eq .even x e
  obtain hn | hn := le_or_gt (x.value - k * 10 ^ e) (10 ^ e / 2)
  · refine ⟨k, readsAs_of_before (.inl ?_) (.inl ?_)⟩
    · rw [Binary.low]
      linarith
    · rw [Binary.high]
      linarith
  · refine ⟨k + 1, readsAs_of_before (.inl ?_) (.inl ?_)⟩
    · rw [Binary.low]
      push_cast
      linarith [x.gapBelow_pos]
    · rw [Binary.high]
      push_cast
      linarith

/-- The search ends on the first exponent on which a decimal reads as the number. -/
theorem shortestFrom_spec {n k : Nat} (hk : k ≤ n) (hs : nearestOn? tie x (e - k) ≠ none) :
    ∃ j ≤ k, nearestOn? tie x (e - j) = some (shortestFrom tie x n e) ∧
      ∀ i < j, nearestOn? tie x (e - i) = none := by
  induction n generalizing e k with
  | zero =>
    obtain rfl := Nat.le_zero.mp hk
    rw [Nat.cast_zero, sub_zero] at hs
    obtain ⟨d, hd⟩ := Option.ne_none_iff_exists'.mp hs
    exact ⟨0, le_rfl, by simp [shortestFrom, hd], by simp⟩
  | succ n ih =>
    rw [shortestFrom]
    cases hd : nearestOn? tie x e with
    | some d => exact ⟨0, Nat.zero_le _, by simp [hd], by simp⟩
    | none =>
      obtain _ | k := k
      · simp [hd] at hs
      · have hm (i : Nat) : e - 1 - i = e - (i + 1 : Nat) := by
          push_cast
          ring
        obtain ⟨j, hj, hr, hn⟩ := ih (e := e - 1) (Nat.le_of_succ_le_succ hk) (by rwa [hm])
        refine ⟨j + 1, Nat.succ_le_succ hj, by simpa [hm] using hr, fun i hi => ?_⟩
        obtain _ | i := i
        · simpa using hd
        · rw [← hm]
          exact hn i (Nat.lt_of_succ_lt_succ hi)

end Neighbours

/-! ### The shortest decimal -/

/-- What reads as a number is not more than half of it away. -/
theorem ReadsAs.bounds (h : x.significand ≠ 0) {q : ℚ} (hq : ReadsAs q x) :
    x.value / 2 ≤ q ∧ q ≤ x.value + x.gapAbove / 2 ∧ x.gapAbove ≤ x.value := by
  have hm : (1 : ℚ) ≤ x.significand := by exact_mod_cast Nat.pos_of_ne_zero h
  have hg := x.gapAbove_pos
  have hb := x.gapBelow_le
  have hv : x.gapAbove ≤ x.value := by
    rw [Binary.value_eq]
    nlinarith
  obtain ⟨hl, hr⟩ := (readsAs_iff h).mp hq
  rw [Binary.low] at hl
  rw [Binary.high] at hr
  refine ⟨?_, ?_, hv⟩
  · obtain hl | ⟨hl, -⟩ := hl <;> linarith
  · obtain hr | ⟨hr, -⟩ := hr <;> linarith

theorem Binary.value_pos (h : x.significand ≠ 0) : 0 < x.value :=
  mul_pos (by exact_mod_cast Nat.pos_of_ne_zero h) x.gapAbove_pos

theorem inverse_bounds {n k : Nat} (hl : 49 * Nat.pow 2 n < 10 * Nat.pow 10 k)
    (hu : Nat.pow 10 k < 5 * Nat.pow 2 n) :
    (49 / 10 * 10 ^ (-(k : ℤ)) : ℚ) < 2 ^ (-(n : ℤ)) ∧
      (2 ^ (-(n : ℤ)) : ℚ) < 5 * 10 ^ (-(k : ℤ)) := by
  have hl : (49 * 2 ^ n : ℚ) < 10 * 10 ^ k := by exact_mod_cast hl
  have hu : (10 ^ k : ℚ) < 5 * 2 ^ n := by exact_mod_cast hu
  have h2 : (0 : ℚ) < 2 ^ n := by positivity
  have h10 : (0 : ℚ) < 10 ^ k := by positivity
  rw [zpow_neg, zpow_neg, zpow_natCast, zpow_natCast, ← one_div, ← one_div, mul_one_div,
    mul_one_div, div_lt_div_iff₀ h10 h2, div_lt_div_iff₀ h2 h10]
  constructor <;> linarith

/-- The least positive number, to two digits. -/
theorem least_bounds : (49 / 10 * 10 ^ (-324 : ℤ) : ℚ) < 2 ^ (-1074 : ℤ) ∧
    (2 ^ (-1074 : ℤ) : ℚ) < 5 * 10 ^ (-324 : ℤ) :=
  @inverse_bounds 1074 324 (by decide +kernel) (by decide +kernel)

/-- A number that the next power of ten reads as is so near to it that it is nearer than the last
decimal with one digit. The only such number is twice the least one. -/
theorem lt_value_of_reads (h : x.significand ≠ 0) {f : ℤ} (hl : (10 : ℚ) ^ f ≤ x.value)
    (hu : x.value < 10 ^ (f + 1)) (hr : ReadsAs (10 ^ (f + 1)) x) :
    (19 / 2 * 10 ^ f : ℚ) < x.value := by
  by_contra hv
  rw [not_lt] at hv
  obtain ⟨-, hb, hg⟩ := hr.bounds h
  have hten := ten_zpow_succ f
  rw [hten] at hb hu
  have hw : (10 : ℚ) ^ f ≤ x.gapAbove := by linarith
  have hm : x.significand < 10 := by
    have hm : (x.significand : ℚ) * x.gapAbove < 10 * x.gapAbove := by
      rw [← Binary.value_eq]
      linarith
    exact_mod_cast lt_of_mul_lt_mul_right hm x.gapAbove_pos.le
  have he : x.exponent = leastExponent := x.full.resolve_left fun hf => by
    have hf : 4503599627370496 ≤ x.significand := hf
    omega
  have hs : x.gapAbove = 2 ^ (-1074 : ℤ) := by rw [Binary.gapAbove, he, leastExponent]
  obtain ⟨hlow, hhigh⟩ := least_bounds
  rw [← hs] at hlow hhigh
  have hf : f = -324 := by
    have h1 : (10 : ℚ) ^ f < 10 ^ (-324 + 1 : ℤ) := by
      rw [ten_zpow_succ]
      linarith
    have h2 : (10 : ℚ) ^ (-324 : ℤ) < 10 ^ (f + 1) := by
      rw [hten]
      linarith
    have h1 := (zpow_lt_zpow_iff_right₀ (by norm_num)).mp h1
    have h2 := (zpow_lt_zpow_iff_right₀ (by norm_num)).mp h2
    omega
  subst hf
  rw [Binary.value_eq] at hb hv
  have hm : 2 ≤ x.significand := by
    by_contra hm
    have hm : (x.significand : ℚ) ≤ 1 := by exact_mod_cast Nat.le_of_lt_succ (not_le.mp hm)
    nlinarith
  have hm : (2 : ℚ) ≤ x.significand := by exact_mod_cast hm
  nlinarith

theorem ReadsAs.digits_ne_zero (h : x.significand ≠ 0) {c : Scientific} (hc : ReadsAs c.value x) :
    c.digits ≠ 0 := by
  intro hn
  obtain ⟨hl, -⟩ := hc.bounds h
  rw [Scientific.value, hn, Nat.cast_zero, zero_mul] at hl
  linarith [Binary.value_pos h]

/-- A decimal with an exponent past the first digit is at least the next power of ten, which so reads
as the number if the decimal does. -/
theorem reads_next (h : x.significand ≠ 0) {f : ℤ} (hu : x.value < 10 ^ (f + 1)) {c : Scientific}
    (hc : ReadsAs c.value x) (hf : f < c.exponent) :
    ReadsAs (10 ^ (f + 1)) x ∧ (10 ^ c.exponent : ℚ) ≤ c.value := by
  have hp := ten_zpow_pos c.exponent
  have hn : (1 : ℚ) ≤ c.digits := by exact_mod_cast Nat.pos_of_ne_zero (hc.digits_ne_zero h)
  have hv : (10 ^ c.exponent : ℚ) ≤ c.value := by
    rw [Scientific.value]
    nlinarith
  have hm : (10 ^ (f + 1) : ℚ) ≤ 10 ^ c.exponent :=
    zpow_le_zpow_right₀ (by norm_num) (Int.add_one_le_of_lt hf)
  exact ⟨(readsAs_self x).between h hc hu.le (hm.trans hv), hv⟩

theorem dropZeros_eq_self {n : Nat} {d : Scientific} (h : d.digits % 10 ≠ 0) : dropZeros n d = d := by
  cases n with
  | zero => rfl
  | succ n => simp [dropZeros, h]

/-- What is taken on an exponent is the shortest decimal, if none with a greater one reads as the
number. -/
theorem isShortest_of_nearestOn (h : x.significand ≠ 0) {tie : Tie} {e : ℤ} {d : Scientific}
    (hd : nearestOn? tie x e = some d)
    (hg : ∀ c : Scientific, ReadsAs c.value x → c.exponent ≤ e) {n : Nat} :
    IsShortest tie x (dropZeros n d) := by
  obtain ⟨rfl, hr, hn⟩ := nearestOn_spec h hd
  have hm : d.digits % 10 ≠ 0 := by
    intro hm
    have hv : (⟨d.digits / 10, d.exponent + 1⟩ : Scientific).value = d.value := by
      have hm : (d.digits : ℚ) = (d.digits / 10 : Nat) * 10 := by
        exact_mod_cast (Nat.div_mul_cancel (Nat.dvd_of_mod_eq_zero hm)).symm
      rw [Scientific.value, Scientific.value, hm, zpow_add_one₀ (by norm_num)]
      ring
    have hl := hg ⟨d.digits / 10, d.exponent + 1⟩ (by rwa [hv])
    dsimp only at hl
    omega
  rw [dropZeros_eq_self hm]
  have hv {c : Scientific} (he : c.exponent = d.exponent) :
      c.value = c.digits * 10 ^ d.exponent := by rw [Scientific.value, he]
  refine ⟨hr, hg, fun c hc he => ?_, fun c hc he hs hne => ?_⟩
  · rw [hv he] at hc ⊢
    exact (hn c.digits hc).1
  · rw [hv he] at hc hs
    exact (hn c.digits hc).2 hs hne

/-- What is taken for a number that the next power of ten reads as is that power. -/
theorem nearestOn_power (h : x.significand ≠ 0) {tie : Tie} {f : ℤ} {d : Scientific}
    (hl : (10 : ℚ) ^ f ≤ x.value) (hu : x.value < 10 ^ (f + 1)) (hr : ReadsAs (10 ^ (f + 1)) x)
    (hd : nearestOn? tie x f = some d) : d = ⟨10, f⟩ := by
  have hten := ten_zpow_succ f
  have hv := lt_value_of_reads h hl hu hr
  obtain ⟨he, -, hn⟩ := nearestOn_spec h hd
  have hn := (hn 10 (by push_cast; rwa [← hten])).1
  push_cast at hn
  rw [← hten, abs_of_neg (sub_neg.mpr hu), Scientific.value, he, abs_le] at hn
  -- Less than one half of a unit away, the decimal is ten units.
  have h1 : d.digits < 11 := lt_of_mul_ten_zpow (e := f) (by push_cast; linarith)
  have h2 : 9 < d.digits := lt_of_mul_ten_zpow (e := f) (by push_cast; linarith)
  have hs : d.digits = 10 := by omega
  rw [← he, ← hs]

/-- The shortest decimal of a number that the next power of ten reads as is that power. -/
theorem isShortest_power (h : x.significand ≠ 0) {tie : Tie} {f : ℤ} (hu : x.value < 10 ^ (f + 1))
    (hr : ReadsAs (10 ^ (f + 1)) x) : IsShortest tie x ⟨1, f + 1⟩ := by
  have h1 : (⟨1, f + 1⟩ : Scientific).value = 10 ^ (f + 1) := by simp [Scientific.value]
  have hpast {c : Scientific} (hc : ReadsAs c.value x) (hf : c.exponent = f + 1) :
      (10 ^ (f + 1) : ℚ) ≤ c.value :=
    hf ▸ (reads_next h hu hc (hf ▸ Int.lt_succ f)).2
  refine ⟨by rwa [h1], fun c hc => ?_, fun c hc hf => ?_, fun c hc hf hv hne => ?_⟩
  · -- The power of ten after the next one is too far away.
    by_contra hf
    dsimp only at hf
    have hc10 := (reads_next h hu hc (by omega)).2
    obtain ⟨-, hb, hg⟩ := hc.bounds h
    have hp := ten_zpow_pos (f + 1)
    have hm : (10 ^ (f + 1 + 1) : ℚ) ≤ 10 ^ c.exponent :=
      zpow_le_zpow_right₀ (by norm_num) (by omega)
    rw [ten_zpow_succ] at hm
    linarith
  · have hc10 := hpast hc hf
    rw [h1, abs_of_neg (by linarith), abs_of_neg (by linarith)]
    linarith
  · have hc10 := hpast hc hf
    rw [h1, abs_of_neg (by linarith), abs_of_neg (by linarith), Scientific.value, hf] at hv
    exact absurd (eq_of_mul_ten_zpow (e := f + 1) (by push_cast; linarith)) hne

theorem Double.value_bounds (x : Double) (h : x.significand ≠ 0) :
    (2 : ℚ) ^ (-2000 : ℤ) < x.value ∧ x.value < 2 ^ (2000 : ℤ) := by
  have hm : (1 : ℚ) ≤ x.significand := by exact_mod_cast Nat.pos_of_ne_zero h
  have hs : (x.significand : ℚ) < 2 ^ (53 : ℤ) := by exact_mod_cast x.significand_lt
  have hl : (-1074 : ℤ) ≤ x.exponent := x.leastExponent_le
  have hu : x.exponent ≤ 971 := x.exponent_le
  have hg := x.gapAbove_pos
  constructor
  · calc (2 : ℚ) ^ (-2000 : ℤ)
      _ < 2 ^ x.exponent := zpow_lt_zpow_right₀ (by norm_num) (by omega)
      _ ≤ x.significand * 2 ^ x.exponent := le_mul_of_one_le_left hg.le hm
  · calc x.value
      _ < 2 ^ (53 : ℤ) * 2 ^ x.exponent := mul_lt_mul_of_pos_right hs hg
      _ = 2 ^ (53 + x.exponent) := (zpow_add₀ (by norm_num) _ _).symm
      _ ≤ 2 ^ (2000 : ℤ) := zpow_le_zpow_right₀ (by norm_num) (by omega)

/-- What is computed as the shortest decimal of a double is that. -/
theorem isShortest_shortest (tie : Tie) (x : Double) (h : x.significand ≠ 0) :
    IsShortest tie x.toBinary (shortest tie x.toBinary) := by
  obtain ⟨hlow, hhigh⟩ := x.value_bounds h
  have hd : x.ratio.2 ≠ 0 := (scaleDown_pos (by decide) (by decide)).ne'
  have hn : x.ratio.1 ≠ 0 := by
    intro hn
    have hv := x.ratio_value
    rw [hn, Nat.cast_zero, zero_div] at hv
    exact (Binary.value_pos h).ne hv
  have hf := firstDigit_spec hn hd (x.ratio_value ▸ hlow) (x.ratio_value ▸ hhigh)
  rw [x.ratio_value] at hf
  obtain ⟨f, hff⟩ : ∃ f, firstDigit x.ratio = f := ⟨_, rfl⟩
  have hz : x.isZero = false := decide_eq_false h
  rw [shortest, hz, hff]
  rw [hff] at hf
  obtain ⟨hl, hu⟩ := hf
  have hs : (10 ^ 16 * 10 ^ (f - (16 : Nat)) : ℚ) ≤ x.value := by
    rw [zpow_sub₀ (by norm_num), zpow_natCast, mul_div_cancel₀ _ (by norm_num)]
    exact hl
  obtain ⟨n, hr⟩ := exists_reads hs
  obtain ⟨j, -, hd, hj⟩ := shortestFrom_spec (by decide : 16 ≤ 17)
    fun hn => @not_readsAs_of_nearestOn _ tie _ h hn n hr
  by_cases hr : ReadsAs (10 ^ (f + 1)) x.toBinary
  · obtain _ | j := j
    · rw [Nat.cast_zero, sub_zero] at hd
      have hz : dropZeros 20 ⟨10, f⟩ = ⟨1, f + 1⟩ := by simp [dropZeros]
      rw [nearestOn_power h hl hu hr hd, hz]
      exact isShortest_power h hu hr
    · have hn := hj 0 (Nat.succ_pos j)
      rw [Nat.cast_zero, sub_zero] at hn
      refine absurd ?_ (not_readsAs_of_nearestOn h hn 10)
      rw [ten_zpow_succ] at hr
      exact_mod_cast hr
  · refine isShortest_of_nearestOn h hd fun c hc => ?_
    by_contra hg
    obtain hf | hf := lt_or_ge f c.exponent
    · exact hr (reads_next h hu hc hf).1
    · have hi : f - ((f - c.exponent).toNat : Nat) = c.exponent := by omega
      have hn := hj (f - c.exponent).toNat (by omega)
      rw [hi] at hn
      exact not_readsAs_of_nearestOn h hn c.digits hc

/-- A number has one shortest decimal. -/
theorem IsShortest.unique {tie : Tie} {c d : Scientific}
    (hc : IsShortest tie x c) (hd : IsShortest tie x d) : c = d := by
  have he : c.exponent = d.exponent :=
    le_antisymm (hd.greatest c hc.reads) (hc.greatest d hd.reads)
  have hv := le_antisymm (hc.nearest d hd.reads he.symm) (hd.nearest c hc.reads he)
  by_contra hne
  have hn : c.digits ≠ d.digits := fun hs => hne (by cases c; cases d; simp_all)
  have h1 := hc.halfway d hd.reads he.symm hv hn.symm
  have h2 := hd.halfway c hc.reads he hv.symm hn
  cases tie with
  | above => exact absurd h1 h2.not_gt
  | even =>
    -- Halfway between two even decimals is another one, which would be nearer.
    have hp := ten_zpow_pos d.exponent
    obtain ⟨m, hm⟩ := Even.add h1 h2
    have hm : (c.digits + d.digits : ℚ) = m + m := by exact_mod_cast hm
    have hcv : c.value = c.digits * 10 ^ d.exponent := by rw [Scientific.value, he]
    obtain hs | hs := abs_eq_abs.mp hv
    · rw [hcv, Scientific.value] at hs
      exact hn (eq_of_mul_ten_zpow (e := d.exponent) (by linarith))
    · have hmv : (⟨m, d.exponent⟩ : Scientific).value = x.value := by
        have hd : d.value = d.digits * 10 ^ d.exponent := rfl
        rw [Scientific.value]
        dsimp only
        nlinarith
      have hz := hd.nearest ⟨m, d.exponent⟩ (hmv ▸ readsAs_self x) rfl
      have hy := hc.nearest ⟨m, d.exponent⟩ (hmv ▸ readsAs_self x) he.symm
      rw [hmv, sub_self, abs_zero, abs_nonpos_iff, sub_eq_zero] at hz hy
      rw [hy, hcv] at hz
      exact hn (eq_of_mul_ten_zpow hz)

/-- The shortest decimal of a double that is not zero is read as the double. -/
theorem ofRatio_shortest (tie : Tie) (x : Double) (h : x.significand ≠ 0) :
    Double.ofRatio? x.isNegative (shortest tie x.toBinary).ratio.1
      (shortest tie x.toBinary).ratio.2 = some x := by
  have hr := (isShortest_shortest tie x h).reads
  have hp : 0 < (shortest tie x.toBinary).ratio.2 := scaleDown_pos (by decide) (by decide)
  rw [← Scientific.ratio_value] at hr
  refine Double.ofRatio_of_readsAs (fun hn => ?_) hp.ne' hr
  obtain ⟨hl, -⟩ := hr.bounds h
  rw [hn, Nat.cast_zero, zero_div] at hl
  linarith [Binary.value_pos h]

end EditorBridge.Decimal

import EditorBridge.Decimal.Double
import Mathlib.Algebra.Order.Field.Power
import Mathlib.Algebra.Order.Field.Rat
import Mathlib.Algebra.Ring.Parity
import Mathlib.Data.Rat.Cast.Order
import Mathlib.Tactic.FieldSimp
import Mathlib.Tactic.Linarith
import Mathlib.Tactic.Positivity
import Mathlib.Tactic.Ring

/-!
Which numbers are nearest to a binary number. The next binary numbers above and below it are as far
as the power of two of its exponent, or half as far below if it is itself a power of two; so what
reads as it are the numbers between the points halfway to them.
-/

namespace EditorBridge.Decimal

namespace Binary

def value (x : Binary) : ℚ := x.significand * 2 ^ x.exponent

/-- Whether a number is the first one with its exponent, behind those with a smaller one. -/
def IsFirst (x : Binary) : Prop := x.significand = Nat.pow 2 52 ∧ x.exponent ≠ leastExponent

instance (x : Binary) : Decidable x.IsFirst := inferInstanceAs (Decidable (_ ∧ _))

def gapAbove (x : Binary) : ℚ := 2 ^ x.exponent

def gapBelow (x : Binary) : ℚ := if x.IsFirst then x.gapAbove / 2 else x.gapAbove

variable {x y : Binary}

theorem gapAbove_pos (x : Binary) : 0 < x.gapAbove := zpow_pos (by norm_num) _

theorem gapBelow_pos (x : Binary) : 0 < x.gapBelow := by
  have hg := x.gapAbove_pos
  unfold gapBelow
  split <;> linarith

theorem gapBelow_le (x : Binary) : x.gapBelow ≤ x.gapAbove := by
  have hg := x.gapAbove_pos
  unfold gapBelow
  split <;> linarith

theorem value_eq (x : Binary) : x.value = x.significand * x.gapAbove := rfl

/-- A number with a greater exponent is a multiple of the gap. -/
theorem exists_multiple (h : x.exponent ≤ y.exponent) : ∃ n : Nat, y.value = n * x.gapAbove := by
  obtain ⟨k, hk⟩ := Int.le.dest h
  refine ⟨y.significand * 2 ^ k, ?_⟩
  rw [value, gapAbove, ← hk, zpow_add₀ (by norm_num), zpow_natCast]
  push_cast
  ring

/-- A number with a smaller exponent is below the numbers of 53 bits, and not between the last two of
its own. -/
theorem value_le_of_exponent_lt (h : y.exponent < x.exponent) :
    y.value ≤ (2 ^ 52 - 1 / 2) * x.gapAbove := by
  have hs : (y.significand : ℚ) ≤ 2 ^ 53 - 1 := by
    have hs : y.significand + 1 ≤ 2 ^ 53 := y.significand_lt
    have hs : (y.significand : ℚ) + 1 ≤ 2 ^ 53 := by exact_mod_cast hs
    linarith
  have hg : y.gapAbove ≤ x.gapAbove / 2 := by
    have hp : (2 : ℚ) ^ x.exponent / 2 = 2 ^ (x.exponent - 1) := by
      rw [zpow_sub_one₀ (by norm_num)]
      ring
    rw [gapAbove, gapAbove, hp]
    exact zpow_le_zpow_right₀ (by norm_num) (by omega)
  calc y.value
    _ ≤ (2 ^ 53 - 1) * y.gapAbove := mul_le_mul_of_nonneg_right hs y.gapAbove_pos.le
    _ ≤ (2 ^ 53 - 1) * (x.gapAbove / 2) := mul_le_mul_of_nonneg_left hg (by norm_num)
    _ = (2 ^ 52 - 1 / 2) * x.gapAbove := by ring

/-- Above the least exponent a number has 53 bits. -/
theorem le_significand (h : y.exponent < x.exponent) : (2 : ℚ) ^ 52 ≤ x.significand := by
  have hf : 2 ^ 52 ≤ x.significand := x.full.resolve_right fun he => by
    have hl := y.leastExponent_le
    omega
  exact_mod_cast hf

theorem value_lt_of_exponent_lt (h : y.exponent < x.exponent) : y.value < x.value := by
  have hg := x.gapAbove_pos
  have hs := mul_le_mul_of_nonneg_right (le_significand h) hg.le
  have hy := value_le_of_exponent_lt h
  rw [value_eq x]
  linarith

/-- No number is between a number and the next one above it. -/
theorem value_add_le (h : x.value < y.value) : x.value + x.gapAbove ≤ y.value := by
  obtain hl | hg := lt_or_ge y.exponent x.exponent
  · exact absurd (value_lt_of_exponent_lt hl) h.not_gt
  · obtain ⟨n, hn⟩ := exists_multiple hg
    rw [hn, value_eq] at h
    have hm : x.significand < n := by exact_mod_cast lt_of_mul_lt_mul_right h x.gapAbove_pos.le
    have hm : (x.significand : ℚ) + 1 ≤ n := by exact_mod_cast hm
    have hs := mul_le_mul_of_nonneg_right hm x.gapAbove_pos.le
    rw [hn, value_eq]
    linarith

/-- No number is between a number and the next one below it. -/
theorem value_le_sub (h : y.value < x.value) : y.value ≤ x.value - x.gapBelow := by
  have hg := x.gapAbove_pos
  obtain hl | hl := lt_or_ge y.exponent x.exponent
  · have hy := value_le_of_exponent_lt hl
    have hs := le_significand hl
    unfold gapBelow
    split
    · have hs := mul_le_mul_of_nonneg_right hs hg.le
      rw [value_eq x]
      linarith
    · rename_i hp
      have hm : 2 ^ 52 ≠ x.significand := fun hm => hp ⟨hm.symm, by
        have hy := y.leastExponent_le
        omega⟩
      have hs : 2 ^ 52 ≤ x.significand := by exact_mod_cast hs
      have hs : 2 ^ 52 + 1 ≤ x.significand := by omega
      have hs : (2 : ℚ) ^ 52 + 1 ≤ x.significand := by exact_mod_cast hs
      have hs := mul_le_mul_of_nonneg_right hs hg.le
      rw [value_eq x]
      linarith
  · obtain ⟨n, hn⟩ := exists_multiple hl
    rw [hn, value_eq] at h
    have hm : n < x.significand := by exact_mod_cast lt_of_mul_lt_mul_right h hg.le
    have hm : (n : ℚ) + 1 ≤ x.significand := by exact_mod_cast hm
    have hs := mul_le_mul_of_nonneg_right hm hg.le
    have hb := x.gapBelow_le
    rw [hn, value_eq]
    linarith

theorem value_injective (h : x.value = y.value) : x = y := by
  obtain hl | he | hl := lt_trichotomy x.exponent y.exponent
  · exact absurd h (value_lt_of_exponent_lt hl).ne
  · rw [value_eq, value_eq, gapAbove, gapAbove, he] at h
    have hs := mul_right_cancel₀ y.gapAbove_pos.ne' h
    have hs : x.significand = y.significand := by exact_mod_cast hs
    cases x
    cases y
    simp_all
  · exact absurd h (value_lt_of_exponent_lt hl).ne'

/-- The next number above a number. Of two such numbers one has an odd significand. -/
theorem exists_above (x : Binary) : ∃ y : Binary, y.value = x.value + x.gapAbove ∧
    ¬(Even x.significand ∧ Even y.significand) := by
  have hs := x.significand_lt
  by_cases hm : x.significand + 1 = Nat.pow 2 53
  · refine ⟨⟨Nat.pow 2 52, x.exponent + 1, by decide, ?_, .inl le_rfl⟩, ?_, fun he => ?_⟩
    · exact x.leastExponent_le.trans (by omega)
    · have hm : (x.significand : ℚ) + 1 = 2 ^ 53 := by exact_mod_cast hm
      rw [value_eq x, gapAbove, ← add_one_mul, hm, value, zpow_add_one₀ (by norm_num)]
      norm_num
      ring
    · have hm : x.significand + 1 = 9007199254740992 := hm
      have he := Nat.even_iff.mp he.1
      omega
  · refine ⟨⟨x.significand + 1, x.exponent, by omega, x.leastExponent_le, ?_⟩, ?_, fun he => ?_⟩
    · exact x.full.imp_left fun hf => hf.trans (Nat.le_succ _)
    · rw [value_eq x, gapAbove, value]
      push_cast
      ring
    · exact Nat.even_add_one.mp he.2 he.1

theorem exists_below (h : x.significand ≠ 0) : ∃ y : Binary, y.value = x.value - x.gapBelow := by
  have hl := x.leastExponent_le
  unfold gapBelow
  split
  · rename_i hp
    refine ⟨⟨Nat.pow 2 53 - 1, x.exponent - 1, by decide, ?_, .inl (by decide)⟩, ?_⟩
    · have hn := hp.2
      omega
    · have hm : (x.significand : ℚ) = 2 ^ 52 := by exact_mod_cast hp.1
      rw [value_eq x, gapAbove, hm, value, zpow_sub_one₀ (by norm_num)]
      norm_num
      ring
  · rename_i hp
    have hs := x.significand_lt
    refine ⟨⟨x.significand - 1, x.exponent, by omega, hl, ?_⟩, ?_⟩
    · by_cases he : x.exponent = leastExponent
      · exact .inr he
      · have hf := x.full.resolve_right he
        have hm : x.significand ≠ Nat.pow 2 52 := fun hm => hp ⟨hm, he⟩
        exact .inl (by omega)
    · have hm : ((x.significand - 1 : Nat) : ℚ) = x.significand - 1 :=
        Nat.cast_pred (Nat.pos_of_ne_zero h)
      rw [value_eq x, gapAbove, value, hm]
      ring

end Binary

/-! ### Halfway points -/

/-- A number reads as the binary number nearest to it; of two equally near ones, as that with the even
significand. -/
def ReadsAs (q : ℚ) (x : Binary) : Prop :=
  ∀ y : Binary, y ≠ x →
    |q - x.value| < |q - y.value| ∨ |q - x.value| = |q - y.value| ∧ Even x.significand

/-- Whether a number comes before another, or also the same one if it is included. -/
def Before (included : Prop) (a b : ℚ) : Prop := a < b ∨ a = b ∧ included

theorem Before.mono {included : Prop} {a b c d : ℚ} (h : Before included a b) (hc : c ≤ a)
    (hd : b ≤ d) : Before included c d := by
  obtain hl | ⟨rfl, hi⟩ := h
  · exact .inl (hc.trans_lt (hl.trans_le hd))
  · obtain hl | rfl := (hc.trans hd).lt_or_eq
    · exact .inl hl
    · exact .inr ⟨rfl, hi⟩

theorem Before.imp {included more : Prop} {a b : ℚ} (h : Before included a b)
    (hi : included → more) : Before more a b :=
  Or.imp_right (And.imp_right hi) h

theorem Before.mul_right {included : Prop} {a b c : ℚ} (h : Before included a b) (hc : 0 < c) :
    Before included (a * c) (b * c) := by
  obtain hl | ⟨rfl, hi⟩ := h
  · exact .inl (mul_lt_mul_of_pos_right hl hc)
  · exact .inr ⟨rfl, hi⟩

theorem nearer_iff_before {included : Prop} {q a b : ℚ} (h : a < b) :
    (|q - a| < |q - b| ∨ |q - a| = |q - b| ∧ included) ↔ Before included q ((a + b) / 2) := by
  have hl : |q - a| < |q - b| ↔ q < (a + b) / 2 := by
    constructor <;> intro hq <;>
      cases abs_cases (q - a) <;> cases abs_cases (q - b) <;> linarith
  have he : |q - a| = |q - b| ↔ q = (a + b) / 2 := by
    constructor <;> intro hq <;>
      cases abs_cases (q - a) <;> cases abs_cases (q - b) <;> linarith
  rw [hl, he, Before]

theorem nearer_iff_behind {included : Prop} {q a b : ℚ} (h : b < a) :
    (|q - a| < |q - b| ∨ |q - a| = |q - b| ∧ included) ↔ Before included ((a + b) / 2) q := by
  have hl : |q - a| < |q - b| ↔ (a + b) / 2 < q := by
    constructor <;> intro hq <;>
      cases abs_cases (q - a) <;> cases abs_cases (q - b) <;> linarith
  have he : |q - a| = |q - b| ↔ (a + b) / 2 = q := by
    constructor <;> intro hq <;>
      cases abs_cases (q - a) <;> cases abs_cases (q - b) <;> linarith
  rw [hl, he, Before]

section Ends

variable {x : Binary}

def Binary.low (x : Binary) : ℚ := x.value - x.gapBelow / 2

def Binary.high (x : Binary) : ℚ := x.value + x.gapAbove / 2

theorem readsAs_of_before {q : ℚ} (hl : Before (Even x.significand) x.low q)
    (hr : Before (Even x.significand) q x.high) : ReadsAs q x := by
  intro y hy
  rw [Binary.low] at hl
  rw [Binary.high] at hr
  obtain hv | hv | hv := lt_trichotomy y.value x.value
  · have hg := Binary.value_le_sub hv
    exact (nearer_iff_behind hv).mpr (hl.mono (by linarith) le_rfl)
  · exact absurd (Binary.value_injective hv) hy
  · have hg := Binary.value_add_le hv
    exact (nearer_iff_before hv).mpr (hr.mono le_rfl (by linarith))

/-- The numbers that read as a binary number are those between the points halfway to the next ones,
and these points if the significand is even. -/
theorem readsAs_iff (h : x.significand ≠ 0) {q : ℚ} :
    ReadsAs q x ↔ Before (Even x.significand) x.low q ∧ Before (Even x.significand) q x.high := by
  refine ⟨fun hq => ?_, fun hq => readsAs_of_before hq.1 hq.2⟩
  have ha := x.gapAbove_pos
  have hb := x.gapBelow_pos
  obtain ⟨y, hy⟩ := Binary.exists_below h
  obtain ⟨z, hz, -⟩ := x.exists_above
  have hl := (nearer_iff_behind (by linarith)).mp (hq y (by rintro rfl; linarith))
  have hr := (nearer_iff_before (by linarith)).mp (hq z (by rintro rfl; linarith))
  rw [Binary.low, Binary.high]
  exact ⟨hl.mono (by linarith) le_rfl, hr.mono le_rfl (by linarith)⟩

theorem readsAs_self (x : Binary) : ReadsAs x.value x := by
  intro y hy
  have hv : x.value - y.value ≠ 0 := sub_ne_zero.mpr fun hv => hy (Binary.value_injective hv.symm)
  exact .inl (by simpa using hv)

/-- Between numbers that read as a binary number all do. -/
theorem ReadsAs.between (h : x.significand ≠ 0) {p q r : ℚ} (hp : ReadsAs p x) (hr : ReadsAs r x)
    (hl : p ≤ q) (hu : q ≤ r) : ReadsAs q x := by
  rw [readsAs_iff h] at hp hr ⊢
  exact ⟨hp.1.mono le_rfl hl, hr.2.mono hu le_rfl⟩

theorem ReadsAs.value_le {q : ℚ} {y : Binary} (hx : ReadsAs q x) (hy : ReadsAs q y) :
    y.value ≤ x.value := by
  by_contra hl
  rw [not_le] at hl
  have hn : y ≠ x := by
    rintro rfl
    exact hl.false
  have hr := (nearer_iff_before hl).mp (hx y hn)
  have hs := (nearer_iff_behind hl).mp (hy x hn.symm)
  have hq : q = (x.value + y.value) / 2 ∧ Even x.significand ∧ Even y.significand := by
    obtain hr | ⟨hr, he⟩ := hr <;> obtain hs | ⟨hs, ho⟩ := hs
    · linarith
    · linarith
    · linarith
    · exact ⟨hr, he, ho⟩
  obtain ⟨hq, he⟩ := hq
  -- Halfway there is no number, so the greater one is the next one.
  obtain ⟨z, hz, ho⟩ := x.exists_above
  have hg := x.gapAbove_pos
  obtain hzy | hzy := (Binary.value_add_le hl).lt_or_eq
  · have hb := (nearer_iff_before (by linarith)).mp (hx z (by rintro rfl; linarith))
    obtain hb | ⟨hb, -⟩ := hb <;> linarith
  · obtain rfl := Binary.value_injective (hz.trans hzy)
    exact ho he

/-- A number reads as one binary number alone. -/
theorem ReadsAs.unique {q : ℚ} {y : Binary} (hx : ReadsAs q x) (hy : ReadsAs q y) : x = y :=
  Binary.value_injective (le_antisymm (hy.value_le hx) (hx.value_le hy))

end Ends

/-! ### Rounding -/

theorem scaleDown_value {base : Nat} (h : base ≠ 0) (num den : Nat) (e : Int) :
    ((scaleDown base num den e).1 : ℚ) / (scaleDown base num den e).2 =
      num / den / (base : ℚ) ^ e := by
  have hb : (base : ℚ) ≠ 0 := by exact_mod_cast h
  rw [scaleDown_eq, Nat.pow_eq, Nat.pow_eq]
  push_cast
  obtain ⟨k, rfl | rfl⟩ := e.eq_nat_or_neg
  · simp [div_div]
  · simp [mul_div_right_comm]

/-- A ratio is its integer part and a part below one. -/
theorem exists_part (num : Nat) {den : Nat} (hd : den ≠ 0) :
    ∃ part : ℚ, (num / den : ℚ) = (num / den : Nat) + part ∧ 0 ≤ part ∧ part < 1 ∧
      (2 * (num % den) < den ↔ part < 1 / 2) ∧ (den < 2 * (num % den) ↔ 1 / 2 < part) := by
  have hp : (0 : ℚ) < den := by exact_mod_cast Nat.pos_of_ne_zero hd
  refine ⟨(num % den : Nat) / den, ?_, by positivity, ?_, ?_, ?_⟩
  · field_simp
    exact_mod_cast (Nat.div_add_mod num den).symm
  · rw [div_lt_one hp]
    exact_mod_cast Nat.mod_lt _ (Nat.pos_of_ne_zero hd)
  · rw [div_lt_iff₀ hp, ← @Nat.cast_lt ℚ]
    push_cast
    constructor <;> intro h <;> linarith
  · rw [lt_div_iff₀ hp, ← @Nat.cast_lt ℚ]
    push_cast
    constructor <;> intro h <;> linarith

/-- An integer is rounded to from what is less than one half away from it, and an even one also from
what is one half away. -/
theorem before_roundEven {num den : Nat} (hd : den ≠ 0) :
    let m := roundEven num den
    Before (Even m) (m - 1 / 2) (num / den : ℚ) ∧ Before (Even m) (num / den : ℚ) (m + 1 / 2) := by
  obtain ⟨part, hq, h0, h1, hl, hg⟩ := exists_part num hd
  intro m
  have hm : m = if part < 1 / 2 then num / den else if 1 / 2 < part then num / den + 1 else
      if num / den % 2 = 0 then num / den else num / den + 1 := by
    simp only [m, roundEven, hl, hg]
  clear_value m
  subst hm
  rw [hq]
  split_ifs with hlt hgt he
  · exact ⟨.inl (by linarith), .inl (by linarith)⟩
  · push_cast
    exact ⟨.inl (by linarith), .inl (by linarith)⟩
  · exact ⟨.inl (by linarith), .inr ⟨by linarith, Nat.even_iff.mpr he⟩⟩
  · have ho : Even (num / den + 1) := Nat.even_add_one.mpr fun hn => he (Nat.even_iff.mp hn)
    push_cast
    exact ⟨.inr ⟨by linarith, ho⟩, .inl (by linarith)⟩

/-- What a ratio is rounded to, in units of its exponent's power of two. -/
theorem before_significandOf {num den : Nat} (hn : num ≠ 0) (hd : den ≠ 0) :
    ∃ q : ℚ, (num / den : ℚ) = q * 2 ^ exponentOf num den ∧ q < 2 ^ 53 ∧
      (2 ^ 52 ≤ q ∨ exponentOf num den = leastExponent) ∧
      Before (Even (significandOf num den)) (significandOf num den - 1 / 2) q ∧
      Before (Even (significandOf num den)) q (significandOf num den + 1 / 2) := by
  have hs := (@scaleDown_pos num den (exponentOf num den) 2 two_pos hd).ne'
  have hp : (0 : ℚ) < (scaleDown 2 num den (exponentOf num den)).2 := by
    exact_mod_cast Nat.pos_of_ne_zero hs
  have hv := scaleDown_value two_ne_zero num den (exponentOf num den)
  refine ⟨(scaleDown 2 num den (exponentOf num den)).1 /
    (scaleDown 2 num den (exponentOf num den)).2, ?_, ?_, ?_, before_roundEven hs⟩
  · rw [hv, Nat.cast_two, div_mul_cancel₀ _ (zpow_ne_zero _ two_ne_zero)]
  · rw [div_lt_iff₀ hp]
    exact_mod_cast scaleDown_exponentOf_lt hd
  · refine (le_scaleDown_exponentOf hn).imp_left fun hl => ?_
    rw [le_div_iff₀ hp]
    exact_mod_cast hl

/-- A ratio reads as what it is rounded to. -/
theorem readsAs_nearest {num den : Nat} (hn : num ≠ 0) (hd : den ≠ 0) :
    ReadsAs (num / den) (.nearest num den hn hd) := by
  obtain ⟨q, hq, hu, hf, hl, hr⟩ := before_significandOf hn hd
  have he : leastExponent ≤ exponentOf num den := le_max_left _ _
  have hg : (0 : ℚ) < 2 ^ exponentOf num den := zpow_pos (by norm_num) _
  rw [hq, Binary.nearest]
  split
  · rename_i hm
    -- Rounded up to a power of two, the next number below is half a unit away.
    have hm : (significandOf num den : ℚ) = 2 ^ 53 := by exact_mod_cast hm
    have hi : Binary.IsFirst ⟨Nat.pow 2 52, exponentOf num den + 1, by decide, by omega,
      .inl le_rfl⟩ := ⟨rfl, by dsimp only; omega⟩
    rw [hm] at hl
    refine readsAs_of_before ?_ (.inl ?_)
    · refine ((hl.imp fun _ => ⟨Nat.pow 2 51, rfl⟩).mul_right hg).mono ?_ le_rfl
      rw [Binary.low, Binary.gapBelow, if_pos hi, Binary.value, Binary.gapAbove,
        zpow_add_one₀ two_ne_zero]
      norm_num
      linarith
    · rw [Binary.high, Binary.value, Binary.gapAbove, zpow_add_one₀ two_ne_zero]
      norm_num
      nlinarith
  · refine readsAs_of_before ?_ ((hr.mul_right hg).mono le_rfl ?_)
    · rw [Binary.low, Binary.gapBelow]
      split
      · rename_i hi
        have hm : (significandOf num den : ℚ) = 2 ^ 52 := by exact_mod_cast hi.1
        have hf := hf.resolve_right hi.2
        rw [Binary.value, Binary.gapAbove]
        refine .inl ?_
        dsimp only
        rw [hm]
        nlinarith
      · refine (hl.mul_right hg).mono ?_ le_rfl
        rw [Binary.value, Binary.gapAbove]
        dsimp only
        linarith
    · rw [Binary.high, Binary.value, Binary.gapAbove]
      dsimp only
      linarith

/-- A ratio that reads as a double is rounded to it. -/
theorem Double.ofRatio_of_readsAs {x : Double} {num den : Nat} (hn : num ≠ 0) (hd : den ≠ 0)
    (h : ReadsAs (num / den) x.toBinary) : ofRatio? x.isNegative num den = some x := by
  have hx := (readsAs_nearest hn hd).unique h
  have he := x.exponent_le
  simp [ofRatio?, hn, hd, hx, he]

end EditorBridge.Decimal

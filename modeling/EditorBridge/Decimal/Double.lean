/-!
Double-precision numbers: a sign, and a significand below `2 ^ 53` times a power of two. Every
operation rounds its exact result to the nearest double, and a tie to the even significand.
-/

namespace EditorBridge.Decimal

def leastExponent : Int := -1074

def greatestExponent : Int := 971

/-- The number `significand * 2 ^ exponent`. The significand has 53 bits, and it has fewer only at
the least exponent. -/
structure Binary where
  significand : Nat
  exponent : Int
  significand_lt : significand < Nat.pow 2 53
  leastExponent_le : leastExponent ≤ exponent
  full : Nat.pow 2 52 ≤ significand ∨ exponent = leastExponent
  deriving DecidableEq, Repr

/-- A finite double: a binary number, or its negative. -/
structure Double extends Binary where
  isNegative : Bool
  exponent_le : exponent ≤ greatestExponent
  deriving DecidableEq, Repr

/-- The integer nearest to a ratio; of two equally near ones the even one. -/
def roundEven (num den : Nat) : Nat :=
  let q := num / den
  let r := num % den
  if 2 * r < den then q
  else if den < 2 * r then q + 1
  else if q % 2 = 0 then q else q + 1

theorem roundEven_le {num den m : Nat} (hd : den ≠ 0) (h : num < m * den) :
    roundEven num den ≤ m := by
  have hq : num / den < m := (Nat.div_lt_iff_lt_mul (Nat.pos_of_ne_zero hd)).mpr h
  unfold roundEven
  grind

theorem le_roundEven {num den m : Nat} (hd : den ≠ 0) (h : m * den ≤ num) :
    m ≤ roundEven num den := by
  have hq : m ≤ num / den := (Nat.le_div_iff_mul_le (Nat.pos_of_ne_zero hd)).mpr h
  unfold roundEven
  grind

/-- The two numbers whose ratio is `num / den` divided by `base ^ e`. -/
def scaleDown (base num den : Nat) (e : Int) : Nat × Nat :=
  if 0 ≤ e then (num, den * Nat.pow base e.toNat) else (num * Nat.pow base (-e).toNat, den)

theorem scaleDown_eq (base num den : Nat) (e : Int) :
    scaleDown base num den e =
      (num * Nat.pow base (-e).toNat, den * Nat.pow base e.toNat) := by
  unfold scaleDown
  split
  · have hz : (-e).toNat = 0 := by omega
    simp [hz]
  · have hz : e.toNat = 0 := by omega
    simp [hz]

/-- An exponent for which the ratio, divided by its power of two, is below `2 ^ 53`, and not below
`2 ^ 52` unless the exponent is the least one. -/
def exponentOf (num den : Nat) : Int :=
  let guess : Int := (num.log2 : Int) - (den.log2 : Int) - 52
  let (n, d) := scaleDown 2 num den guess
  max leastExponent (if n < Nat.pow 2 52 * d then guess - 1 else guess)

/-! The ratio of two numbers is between the powers of two below and above the one that their
logarithms give. -/

section

variable {num den : Nat} {e : Int}

theorem scaleDown_lt (hd : den ≠ 0) (h : (num.log2 : Int) - (den.log2 : Int) - 52 ≤ e) :
    (scaleDown 2 num den e).1 < Nat.pow 2 53 * (scaleDown 2 num den e).2 := by
  rw [scaleDown_eq]
  calc num * 2 ^ (-e).toNat
    _ < 2 ^ (num.log2 + 1) * 2 ^ (-e).toNat :=
        Nat.mul_lt_mul_of_pos_right Nat.lt_log2_self (Nat.two_pow_pos _)
    _ = 2 ^ (num.log2 + 1 + (-e).toNat) := (Nat.pow_add ..).symm
    _ ≤ 2 ^ (53 + den.log2 + e.toNat) := Nat.pow_le_pow_right (by decide) (by omega)
    _ = 2 ^ 53 * (2 ^ den.log2 * 2 ^ e.toNat) := by rw [Nat.pow_add, Nat.pow_add, Nat.mul_assoc]
    _ ≤ 2 ^ 53 * (den * 2 ^ e.toNat) :=
        Nat.mul_le_mul_left _ (Nat.mul_le_mul_right _ (Nat.log2_self_le hd))

theorem le_scaleDown (hn : num ≠ 0) (h : e ≤ (num.log2 : Int) - (den.log2 : Int) - 53) :
    Nat.pow 2 52 * (scaleDown 2 num den e).2 ≤ (scaleDown 2 num den e).1 := by
  rw [scaleDown_eq]
  calc 2 ^ 52 * (den * 2 ^ e.toNat)
    _ ≤ 2 ^ 52 * (2 ^ (den.log2 + 1) * 2 ^ e.toNat) :=
        Nat.mul_le_mul_left _ (Nat.mul_le_mul_right _ (Nat.le_of_lt Nat.lt_log2_self))
    _ = 2 ^ (52 + (den.log2 + 1) + e.toNat) := by
        rw [Nat.pow_add 2 (52 + _), Nat.pow_add 2 52, Nat.mul_assoc]
    _ ≤ 2 ^ (num.log2 + (-e).toNat) := Nat.pow_le_pow_right (by decide) (by omega)
    _ = 2 ^ num.log2 * 2 ^ (-e).toNat := Nat.pow_add ..
    _ ≤ num * 2 ^ (-e).toNat := Nat.mul_le_mul_right _ (Nat.log2_self_le hn)

theorem scaleDown_pos {base : Nat} (hb : 0 < base) (hd : den ≠ 0) :
    0 < (scaleDown base num den e).2 := by
  rw [scaleDown_eq]
  exact Nat.mul_pos (Nat.pos_of_ne_zero hd) (Nat.pow_pos hb)

/-- One less in the exponent doubles the ratio. -/
theorem scaleDown_pred :
    (scaleDown 2 num den (e - 1)).1 * (scaleDown 2 num den e).2 =
      2 * (scaleDown 2 num den e).1 * (scaleDown 2 num den (e - 1)).2 := by
  have hp : 2 ^ (-(e - 1)).toNat * 2 ^ e.toNat = 2 * (2 ^ (-e).toNat * 2 ^ (e - 1).toNat) := by
    rw [← Nat.pow_add, ← Nat.pow_add, ← Nat.pow_add_one']
    congr 1
    omega
  rw [scaleDown_eq, scaleDown_eq]
  calc num * 2 ^ (-(e - 1)).toNat * (den * 2 ^ e.toNat)
    _ = num * den * (2 ^ (-(e - 1)).toNat * 2 ^ e.toNat) := Nat.mul_mul_mul_comm ..
    _ = 2 * (num * 2 ^ (-e).toNat) * (den * 2 ^ (e - 1).toNat) := by
        rw [hp]
        ac_rfl

theorem scaleDown_pred_lt (hd : den ≠ 0)
    (h : (scaleDown 2 num den e).1 < Nat.pow 2 52 * (scaleDown 2 num den e).2) :
    (scaleDown 2 num den (e - 1)).1 < Nat.pow 2 53 * (scaleDown 2 num den (e - 1)).2 := by
  have hp : 0 < (scaleDown 2 num den (e - 1)).2 := scaleDown_pos (by decide) hd
  refine Nat.lt_of_mul_lt_mul_right (a := (scaleDown 2 num den e).2) ?_
  calc (scaleDown 2 num den (e - 1)).1 * (scaleDown 2 num den e).2
    _ = 2 * (scaleDown 2 num den e).1 * (scaleDown 2 num den (e - 1)).2 := scaleDown_pred
    _ < 2 * (2 ^ 52 * (scaleDown 2 num den e).2) * (scaleDown 2 num den (e - 1)).2 :=
        Nat.mul_lt_mul_of_pos_right (Nat.mul_lt_mul_of_pos_left h (by decide)) hp
    _ = 2 ^ 53 * (scaleDown 2 num den (e - 1)).2 * (scaleDown 2 num den e).2 := by
        rw [← Nat.mul_assoc, ← Nat.pow_add_one', Nat.mul_right_comm]

theorem scaleDown_exponentOf_lt (hd : den ≠ 0) :
    (scaleDown 2 num den (exponentOf num den)).1 <
      Nat.pow 2 53 * (scaleDown 2 num den (exponentOf num den)).2 := by
  unfold exponentOf
  dsimp only
  split
  · rename_i h
    rw [Int.max_def]
    split
    · exact scaleDown_pred_lt hd h
    · exact scaleDown_lt hd (by omega)
  · exact scaleDown_lt hd (Int.le_max_right _ _)

theorem le_scaleDown_exponentOf (hn : num ≠ 0) :
    Nat.pow 2 52 * (scaleDown 2 num den (exponentOf num den)).2 ≤
        (scaleDown 2 num den (exponentOf num den)).1 ∨
      exponentOf num den = leastExponent := by
  unfold exponentOf
  dsimp only
  split
  · rw [Int.max_def]
    split
    · exact .inl (le_scaleDown hn (by omega))
    · exact .inr rfl
  · rename_i h
    rw [Int.max_def]
    split
    · exact .inl (Nat.le_of_not_lt h)
    · exact .inr rfl

end

/-- The ratio divided by the power of two of its exponent, as an integer. -/
def significandOf (num den : Nat) : Nat :=
  let (n, d) := scaleDown 2 num den (exponentOf num den)
  roundEven n d

/-- The binary number nearest to a ratio; of two equally near ones that with the even significand. -/
def Binary.nearest (num den : Nat) (hn : num ≠ 0) (hd : den ≠ 0) : Binary :=
  have hs := Nat.ne_of_gt (scaleDown_pos (by decide) hd)
  have hl : leastExponent ≤ exponentOf num den := Int.le_max_left _ _
  if h : significandOf num den = Nat.pow 2 53 then
    ⟨Nat.pow 2 52, exponentOf num den + 1, by decide, by omega, .inl (Nat.le_refl _)⟩
  else
    have hu := roundEven_le hs (scaleDown_exponentOf_lt hd)
    ⟨significandOf num den, exponentOf num den, Nat.lt_of_le_of_ne hu h, hl,
      (le_scaleDown_exponentOf hn).imp_left (le_roundEven hs)⟩

namespace Double

def zero (isNegative : Bool) : Double :=
  ⟨⟨0, leastExponent, by decide, Int.le_refl _, .inr rfl⟩, isNegative, by decide⟩

/-- The double nearest to a ratio, unless the ratio is too large. -/
def ofRatio? (isNegative : Bool) (num den : Nat) : Option Double :=
  if hn : num = 0 then some (zero isNegative)
  else if hd : den = 0 then none
  else
    let x := Binary.nearest num den hn hd
    if h : x.exponent ≤ greatestExponent then some ⟨x, isNegative, h⟩ else none

end Double

namespace Binary

/-- Two numbers whose ratio the number is. -/
def ratio (x : Binary) : Nat × Nat := scaleDown 2 x.significand 1 (-x.exponent)

def isZero (x : Binary) : Bool := x.significand = 0

end Binary

namespace Double

/-- The product of magnitudes, with the sign of the first factor. -/
def times? (x y : Double) : Option Double :=
  ofRatio? x.isNegative (x.ratio.1 * y.ratio.1) (x.ratio.2 * y.ratio.2)

/-- The quotient of magnitudes, with the sign of the dividend. The divisor is not zero. -/
def over? (x y : Double) : Option Double :=
  ofRatio? x.isNegative (x.ratio.1 * y.ratio.2) (x.ratio.2 * y.ratio.1)

end Double

end EditorBridge.Decimal

import EditorBridge.Decimal.Double

/-!
The shortest decimal of a double: the one with the greatest exponent of those that no other double
is nearer to, and of the decimals with that exponent the nearest.
-/

namespace EditorBridge.Decimal

/-- A decimal number `digits * 10 ^ exponent`. -/
structure Scientific where
  digits : Nat
  exponent : Int
  deriving DecidableEq, Repr

/-- Which of two decimals that a double is halfway between is taken: the one with the even digits or
the greater one. -/
inductive Tie where
  | even
  | above
  deriving DecidableEq, Repr

/-- Whether the smaller one is taken, which has these digits. -/
def Tie.takesBelow : Tie → Nat → Bool
  | .even, digits => digits % 2 = 0
  | .above, _ => false

/-- Two numbers whose ratio the decimal is. -/
def Scientific.ratio (d : Scientific) : Nat × Nat := scaleDown 10 d.digits 1 (-d.exponent)

def isBelow (orEqual : Bool) (a b : Nat × Nat) : Bool :=
  if orEqual then a.1 * b.2 ≤ b.1 * a.2 else a.1 * b.2 < b.1 * a.2

/-- Whether a decimal reads back as a binary number: it lies between the points halfway to the
neighbours of the number. The points themselves read back if the significand is even. -/
def readsBack (x : Binary) (d : Scientific) : Bool :=
  let m := x.significand
  let isEven := m % 2 == 0
  let isPower := m = Nat.pow 2 52 && x.exponent != leastExponent
  let quarters := fun n => scaleDown 2 n 4 (-x.exponent)
  let low := quarters (if isPower then 4 * m - 1 else 4 * m - 2)
  let high := quarters (4 * m + 2)
  isBelow isEven low d.ratio && isBelow isEven d.ratio high

/-- The exponent of the first digit of a ratio, searched downwards from `e`. -/
def firstDigitFrom (value : Nat × Nat) : Nat → Int → Int
  | 0, e => e
  | n + 1, e =>
    if isBelow true (Scientific.ratio ⟨1, e⟩) value then e else firstDigitFrom value n (e - 1)

/-- The exponent of the first digit of a ratio that is not zero. -/
def firstDigit (value : Nat × Nat) : Int :=
  let guess : Int := ((value.1.log2 : Int) - (value.2.log2 : Int) + 1) * 30103 / 100000 + 1
  firstDigitFrom value 4 guess

/-- The nearest of the decimals with an exponent that read back as a number, if any: one of the two
next to it. -/
def nearestOn? (tie : Tie) (x : Binary) (exponent : Int) : Option Scientific :=
  let (n, d) := scaleDown 10 x.ratio.1 x.ratio.2 exponent
  let below : Scientific := ⟨n / d, exponent⟩
  let above : Scientific := ⟨n / d + 1, exponent⟩
  let isLowNearer := 2 * (n % d) < d || (2 * (n % d) == d && tie.takesBelow (n / d))
  match readsBack x below, readsBack x above with
  | true, true => some (if isLowNearer then below else above)
  | true, false => some below
  | false, true => some above
  | false, false => none

/-- The first of the exponents below `e` on which a decimal reads back. -/
def shortestFrom (tie : Tie) (x : Binary) : Nat → Int → Scientific
  | 0, e => (nearestOn? tie x e).getD ⟨0, 0⟩
  | n + 1, e => (nearestOn? tie x e).getD (shortestFrom tie x n (e - 1))

/-- Takes zeros at the end of the digits into the exponent. -/
def dropZeros : Nat → Scientific → Scientific
  | 0, d => d
  | n + 1, d =>
    if d.digits != 0 && d.digits % 10 = 0 then dropZeros n ⟨d.digits / 10, d.exponent + 1⟩ else d

def shortest (tie : Tie) (x : Binary) : Scientific :=
  if x.isZero then ⟨0, 0⟩ else dropZeros 20 (shortestFrom tie x 17 (firstDigit x.ratio))

end EditorBridge.Decimal

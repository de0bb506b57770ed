import EditorBridge.Json.Printer
import EditorBridge.Proofs.JsonScalars
import EditorBridge.Proofs.ShortestDecimal
import EditorBridge.Proofs.TextLines
import Mathlib.Algebra.GroupWithZero.Nat
import Mathlib.Data.List.Forall2
import Mathlib.Data.Nat.Log

/-!
Compact JSON text: which text stands for a value when nothing is written between the tokens. A
character of a string is escaped only if it has to be, with the short escape where there is one. The
text of a double is that of its shortest decimal, by places or with an exponent. The printer writes
such texts.
-/

namespace EditorBridge.Json

/-- The text of a character in a string. A slash needs no escape, though it has a short one. -/
inductive IsEscape (c : Char) : List Char → Prop
  | plain : IsPlainChar c → IsEscape c [c]
  | short {d : Char} : d ≠ '/' → simpleEscape? d = some c → IsEscape c ['\\', d]
  | numbered {high low : Char} {m n : Nat} : c.toNat < 0x20 → (∀ d, simpleEscape? d ≠ some c) →
      hexValue? high = some m → hexValue? low = some n → c.toNat = 16 * m + n →
      high.isUpper = false → low.isUpper = false → IsEscape c ['\\', 'u', '0', '0', high, low]

inductive IsQuoted (s : String) : List Char → Prop
  | mk {pieces : List (List Char)} : List.Forall₂ IsEscape s.toList pieces →
      IsQuoted s ('\x22' :: (pieces.flatten ++ ['\x22']))

/-- The decimal digits of a number, without zeros in front of it. -/
structure IsDecimal (n : Nat) (ds : List Char) : Prop where
  digits : IsDigits ds
  lead : ds.head? = some '0' → ds = ['0']
  value : Nat.ofDigitChars 10 ds 0 = n

inductive IsInteger : Int → List Char → Prop
  | natural {n : Nat} {ds : List Char} : IsDecimal n ds → IsInteger n ds
  | negative {n : Nat} {ds : List Char} : 0 < n → IsDecimal n ds → IsInteger (-n) ('-' :: ds)

def leadingExponent (d : Decimal.Scientific) : Int := d.exponent + Nat.log 10 d.digits

/-- The text of a decimal that is not zero. If its first digit has an exponent from -5 to 15, all its
places are written, down to the tenths at least. Otherwise the point, if there is one, is behind the
first digit. -/
inductive IsMagnitude (d : Decimal.Scientific) : List Char → Prop
  | places {n : Nat} {whole fraction : List Char} : -5 ≤ leadingExponent d →
      leadingExponent d ≤ 15 → IsDecimal n whole → IsDigits fraction →
      (fraction.length : Int) = max 1 (-d.exponent) →
      10 ^ fraction.length * n + Nat.ofDigitChars 10 fraction 0 =
        10 ^ (d.exponent + fraction.length).toNat * d.digits →
      IsMagnitude d (whole ++ '.' :: fraction)
  | scaled {first sign : Char} {rest exponent : List Char} :
      leadingExponent d < -5 ∨ 15 < leadingExponent d → IsDecimal d.digits (first :: rest) →
      (sign = '-' ↔ leadingExponent d < 0) → (sign = '+' ↔ 0 ≤ leadingExponent d) →
      IsDecimal (leadingExponent d).natAbs exponent →
      IsMagnitude d
        (first :: ((if rest = [] then [] else '.' :: rest) ++ 'e' :: sign :: exponent))

inductive IsBinary (x : Decimal.Binary) : List Char → Prop
  | zero : x.significand = 0 → IsBinary x ['0', '.', '0']
  | shortest {d : Decimal.Scientific} {t : List Char} : x.significand ≠ 0 →
      Decimal.IsShortest .even x d → IsMagnitude d t → IsBinary x t

inductive IsDouble (x : Decimal.Double) : List Char → Prop
  | positive {t : List Char} : x.isNegative = false → IsBinary x.toBinary t → IsDouble x t
  | negative {t : List Char} : x.isNegative = true → IsBinary x.toBinary t → IsDouble x ('-' :: t)

inductive IsCompact : Value → List Char → Prop
  | null : IsCompact .null "null".toList
  | true : IsCompact (.bool true) "true".toList
  | false : IsCompact (.bool false) "false".toList
  | integer {n : Int} {t : List Char} : IsInteger n t → IsCompact (.number (.integer n)) t
  | double {x : Decimal.Double} {t : List Char} : IsDouble x t → IsCompact (.number (.double x)) t
  | string {s : String} {t : List Char} : IsQuoted s t → IsCompact (.string s) t
  | array {items : List Value} {texts : List (List Char)} : List.Forall₂ IsCompact items texts →
      IsCompact (.array items) ('[' :: (Text.joinWith [','] texts ++ [']']))
  | object {members : List (String × Value)} {names texts : List (List Char)} :
      List.Forall₂ IsQuoted (members.map Prod.fst) names →
      List.Forall₂ IsCompact (members.map Prod.snd) texts →
      IsCompact (.object members) ('\x7b' ::
        (Text.joinWith [','] (List.zipWith (fun name text => name ++ ':' :: text) names texts) ++
          ['\x7d']))

/-! ### Strings -/

/-- Five control characters have a short escape. -/
theorem toNat_of_simpleEscape {d c : Char} (h : simpleEscape? d = some c) :
    (c.toNat = 8 ∨ c.toNat = 9 ∨ c.toNat = 10 ∨ c.toNat = 12 ∨ c.toNat = 13) ∨ 0x20 ≤ c.toNat := by
  unfold simpleEscape? at h
  split at h
  · rename_i hd
    obtain rfl := Option.some.inj h
    simp only [Bool.or_eq_true, decide_eq_true_eq] at hd
    obtain (rfl | rfl) | rfl := hd <;> decide
  · repeat' split at h
    · cases h; decide
    · cases h; decide
    · cases h; decide
    · cases h; decide
    · cases h; decide
    · cases h

/-- Every control character has a short escape or a numbered one. -/
theorem isEscape_control {c : Char} (h : c.toNat < 0x20) : IsEscape c (escapeChar c) := by
  obtain ⟨n, hn, rfl⟩ : ∃ n < 0x20, c = Char.ofNat n := ⟨c.toNat, h, (Char.ofNat_toNat c).symm⟩
  by_cases hs : n = 8 ∨ n = 9 ∨ n = 10 ∨ n = 12 ∨ n = 13
  · obtain rfl | rfl | rfl | rfl | rfl := hs <;> exact .short (by decide) rfl
  · have hk : ∀ n < 0x20, (Char.ofNat n).toNat = n := by decide
    have hd (d : Char) : simpleEscape? d ≠ some (Char.ofNat n) := by
      intro he
      obtain hc | hc := toNat_of_simpleEscape he
      · exact hs (hk n hn ▸ hc)
      · omega
    have he : ∀ n < 0x20, ¬(n = 8 ∨ n = 9 ∨ n = 10 ∨ n = 12 ∨ n = 13) →
        escapeChar (Char.ofNat n) =
          ['\\', 'u', '0', '0', Nat.digitChar (n / 16), Nat.digitChar (n % 16)] := by decide
    have hv : ∀ n < 0x10, hexValue? (Nat.digitChar n) = some n ∧
        (Nat.digitChar n).isUpper = false := by decide
    obtain ⟨hh, hu⟩ := hv (n / 16) (by omega)
    obtain ⟨hl, hw⟩ := hv (n % 16) (by omega)
    rw [he n hn hs]
    exact .numbered h hd hh hl (by rw [hk n hn]; omega) hu hw

theorem isEscape_escapeChar (c : Char) : IsEscape c (escapeChar c) := by
  by_cases hc : c.toNat < 0x20
  · exact isEscape_control hc
  by_cases hq : c = '\x22'
  · subst hq
    exact .short (by decide) rfl
  by_cases hb : c = '\\'
  · subst hb
    exact .short (by decide) rfl
  have he : escapeChar c = [c] := by
    unfold escapeChar
    grind
  exact he ▸ .plain ⟨hq, hc, hb⟩

theorem isQuoted_printString (s : String) : IsQuoted s (printString s) := by
  have h : List.Forall₂ IsEscape s.toList (s.toList.map escapeChar) := by
    rw [List.forall₂_map_right_iff, List.forall₂_same]
    exact fun c _ => isEscape_escapeChar c
  rw [printString, List.flatMap_def]
  exact .mk h

/-! ### Numbers -/

/-- The first digit of a number is zero only if the number is. -/
theorem eq_zero_of_head_toDigits {n : Nat} (h : (Nat.toDigits 10 n).head? = some '0') : n = 0 := by
  induction n using Nat.strongRecOn with
  | ind n ih =>
    rw [Nat.toDigits_eq_if (by decide)] at h
    split at h
    · exact Nat.digitChar_eq_zero.mp (Option.some.inj h)
    · rw [List.head?_append_of_ne_nil _ Nat.toDigits_ne_nil] at h
      have hz := ih (n / 10) (by omega) h
      omega

theorem isDigits_toDigits (n : Nat) : IsDigits (Nat.toDigits 10 n) := by
  refine ⟨Nat.toDigits_ne_nil, fun c hc => ?_⟩
  have hd := Nat.isDigit_of_mem_toDigits (by decide) (by decide) hc
  simpa [Char.isDigit, isDigit, Char.le_def] using hd

theorem isDecimal_toDigits (n : Nat) : IsDecimal n (Nat.toDigits 10 n) where
  digits := isDigits_toDigits n
  lead h := by
    rw [eq_zero_of_head_toDigits h]
    rfl
  value := Nat.ofDigitChars_toDigits (by decide) (by decide)

theorem isInteger_printInt (n : Int) : IsInteger n (printInt n) := by
  have hd := isDecimal_toDigits n.natAbs
  unfold printInt
  split
  · rename_i hn
    have hm : n = -(n.natAbs : Int) := by omega
    have hp := IsInteger.negative (by omega) hd
    rwa [← hm] at hp
  · have hm : (n.natAbs : Int) = n := by omega
    have hp := IsInteger.natural hd
    rwa [hm] at hp

/-- A number has one digit more than its logarithm says. -/
theorem length_toDigits {n : Nat} (h : n ≠ 0) : (Nat.toDigits 10 n).length = Nat.log 10 n + 1 := by
  have hl (k : Nat) (hk : 0 < k) : (Nat.toDigits 10 n).length ≤ k ↔ Nat.log 10 n < k := by
    rw [Nat.length_toDigits_le_iff (by decide) hk, Nat.log_lt_iff_lt_pow (by decide) h]
  have hp : 0 < (Nat.toDigits 10 n).length := Nat.length_toDigits_pos
  have hu := (hl (Nat.log 10 n + 1) (by omega)).mpr (by omega)
  have hd := (hl _ hp).mp (Nat.le_refl _)
  omega

theorem ofDigitChars_append (s t : List Char) :
    Nat.ofDigitChars 10 (s ++ t) 0 =
      10 ^ t.length * Nat.ofDigitChars 10 s 0 + Nat.ofDigitChars 10 t 0 := by
  rw [Nat.ofDigitChars_append, Nat.ofDigitChars_eq_ofDigitChars_zero]

/-- Digits that begin with the first digit of a number are not led by a zero. -/
theorem isDecimal_of_head {n : Nat} (hn : n ≠ 0) {ds : List Char} (hd : IsDigits ds)
    (hh : ds.head? = (Nat.toDigits 10 n).head?) : IsDecimal (Nat.ofDigitChars 10 ds 0) ds :=
  ⟨hd, fun hz => absurd (eq_zero_of_head_toDigits (hh ▸ hz)) hn, rfl⟩

theorem IsDigits.append {s t : List Char} (hs : IsDigits s) (ht : ∀ c ∈ t, isDigit c = true) :
    IsDigits (s ++ t) :=
  ⟨by simp [hs.some], fun c hc => (List.mem_append.mp hc).elim (hs.all c) (ht c)⟩

theorem isDigit_zeros {k : Nat} : ∀ c ∈ List.replicate k '0', isDigit c = true := by
  intro c hc
  rw [List.eq_of_mem_replicate hc]
  rfl

section Magnitude

variable {d : Decimal.Scientific} (hd : d.digits ≠ 0)

include hd

/-- A whole number is written with a zero behind its point. -/
theorem isMagnitude_whole (he : 0 ≤ d.exponent) (hu : leadingExponent d ≤ 15) :
    IsMagnitude d
      (Nat.toDigits 10 d.digits ++ List.replicate d.exponent.toNat '0' ++ ['.', '0']) := by
  obtain ⟨k, hk⟩ := Int.eq_ofNat_of_zero_le he
  have hw := (isDigits_toDigits d.digits).append (@isDigit_zeros k)
  have hh : (Nat.toDigits 10 d.digits ++ List.replicate k '0').head? =
      (Nat.toDigits 10 d.digits).head? := List.head?_append_of_ne_nil _ Nat.toDigits_ne_nil
  have ht : (d.exponent + (1 : Nat)).toNat = k + 1 := by omega
  have hl : -5 ≤ leadingExponent d := by
    unfold leadingExponent
    omega
  rw [hk, Int.toNat_natCast]
  refine .places hl hu (isDecimal_of_head hd hw hh) (isDigits_toDigits 0) ?_ ?_
  · rw [List.length_singleton]
    omega
  rw [List.length_singleton, ht, Nat.ofDigitChars_append, Nat.ofDigitChars_replicate_zero,
    (isDecimal_toDigits d.digits).value, ← Nat.mul_assoc, ← Nat.pow_add, Nat.add_comm 1 k]
  rfl

/-- A number with places on both sides of its point. -/
theorem isMagnitude_split (he : d.exponent < 0) (hl : 0 ≤ leadingExponent d)
    (hu : leadingExponent d ≤ 15) :
    IsMagnitude d ((Nat.toDigits 10 d.digits).take (leadingExponent d + 1).toNat ++
      '.' :: (Nat.toDigits 10 d.digits).drop (leadingExponent d + 1).toNat) := by
  obtain ⟨k, hk⟩ := Int.eq_ofNat_of_zero_le hl
  have hn := length_toDigits hd
  have hi := isDigits_toDigits d.digits
  have hs : ((Nat.toDigits 10 d.digits).drop (k + 1)).length = (-d.exponent).toNat := by
    rw [List.length_drop, hn]
    unfold leadingExponent at hk
    omega
  have ht : (leadingExponent d + 1).toNat = k + 1 := by omega
  rw [ht]
  refine .places (by omega) hu (isDecimal_of_head hd ⟨?_, ?_⟩ ?_) ⟨?_, ?_⟩ ?_ ?_
  · simp
  · exact fun c hc => hi.all c (List.mem_of_mem_take hc)
  · rw [List.head?_take, if_neg (Nat.succ_ne_zero k)]
  · intro hz
    rw [hz] at hs
    simp at hs
    omega
  · exact fun c hc => hi.all c (List.mem_of_mem_drop hc)
  · rw [hs]
    omega
  · have hz : (d.exponent + ((-d.exponent).toNat : Nat)).toNat = 0 := by omega
    rw [← ofDigitChars_append, List.take_append_drop, (isDecimal_toDigits d.digits).value, hs, hz,
      Nat.pow_zero, Nat.one_mul]

/-- A number below one is written with zeros behind its point. -/
theorem isMagnitude_small (hl : -5 ≤ leadingExponent d) (hu : leadingExponent d < 0) :
    IsMagnitude d ('0' :: '.' ::
      (List.replicate (-(leadingExponent d + 1)).toNat '0' ++ Nat.toDigits 10 d.digits)) := by
  have hi := isDigits_toDigits d.digits
  have hs : (List.replicate (-(leadingExponent d + 1)).toNat '0' ++
      Nat.toDigits 10 d.digits).length = (-d.exponent).toNat := by
    rw [List.length_append, List.length_replicate, length_toDigits hd]
    unfold leadingExponent at hu ⊢
    omega
  refine .places hl (by omega) (isDecimal_toDigits 0) ⟨?_, ?_⟩ ?_ ?_
  · simp [hi.some]
  · exact fun c hc => (List.mem_append.mp hc).elim (isDigit_zeros c) (hi.all c)
  · rw [hs]
    unfold leadingExponent at hu
    omega
  · have hz : (d.exponent + ((-d.exponent).toNat : Nat)).toNat = 0 := by
      unfold leadingExponent at hu
      omega
    rw [hs, hz, Nat.ofDigitChars_append, Nat.ofDigitChars_replicate_zero]
    simp only [Nat.mul_zero, Nat.zero_add, Nat.pow_zero, Nat.one_mul]
    exact (isDecimal_toDigits d.digits).value

end Magnitude

/-- A number with an exponent. -/
theorem isMagnitude_scaled {d : Decimal.Scientific}
    (h : leadingExponent d < -5 ∨ 15 < leadingExponent d) :
    IsMagnitude d ((Nat.toDigits 10 d.digits).take 1 ++
      (if ((Nat.toDigits 10 d.digits).drop 1).isEmpty then []
        else '.' :: (Nat.toDigits 10 d.digits).drop 1) ++ ['e'] ++
      (if leadingExponent d < 0 then ['-'] else ['+']) ++
      Nat.toDigits 10 (leadingExponent d).natAbs) := by
  obtain ⟨first, rest, hr⟩ := List.exists_cons_of_ne_nil (@Nat.toDigits_ne_nil d.digits 10)
  have hm := isDecimal_toDigits d.digits
  have he := isDecimal_toDigits (leadingExponent d).natAbs
  rw [hr] at hm
  rw [hr]
  by_cases hn : leadingExponent d < 0
  · have hs := @IsMagnitude.scaled d first '-' rest _ h hm (by simpa) (by simpa using hn) he
    simpa [hn] using hs
  · have hs := @IsMagnitude.scaled d first '+' rest _ h hm (by simpa using hn)
      (by simpa using hn) he
    simpa [hn] using hs

theorem isMagnitude_printMagnitude {d : Decimal.Scientific} (hd : d.digits ≠ 0) :
    IsMagnitude d (printMagnitude d) := by
  unfold printMagnitude
  have hp : d.exponent + (Nat.toDigits 10 d.digits).length = leadingExponent d + 1 := by
    rw [length_toDigits hd, leadingExponent]
    omega
  have hg : d.exponent ≤ leadingExponent d := by
    unfold leadingExponent
    omega
  dsimp only
  rw [hp, if_neg hd, Int.add_sub_cancel]
  split
  · rename_i h
    simp only [Bool.and_eq_true, decide_eq_true_eq] at h
    exact isMagnitude_whole hd h.1 (by omega)
  rename_i h₁
  split
  · rename_i h
    simp only [Bool.and_eq_true, decide_eq_true_eq] at h h₁
    exact isMagnitude_split hd (by omega) (by omega) (by omega)
  rename_i h₂
  split
  · rename_i h
    simp only [Bool.and_eq_true, decide_eq_true_eq] at h
    exact isMagnitude_small hd (by omega) (by omega)
  · rename_i h₃
    simp only [Bool.and_eq_true, decide_eq_true_eq] at h₁ h₂ h₃
    exact isMagnitude_scaled (by omega)

theorem isBinary_printMagnitude (x : Decimal.Double) :
    IsBinary x.toBinary (printMagnitude (Decimal.shortest .even x.toBinary)) := by
  by_cases hx : x.significand = 0
  · have hz : Decimal.shortest .even x.toBinary = ⟨0, 0⟩ := by
      simp [Decimal.shortest, Decimal.Binary.isZero, hx]
    rw [hz]
    exact .zero hx
  · have hs := Decimal.isShortest_shortest .even x hx
    exact .shortest hx hs (isMagnitude_printMagnitude (hs.reads.digits_ne_zero hx))

theorem isDouble_printDouble (x : Decimal.Double) : IsDouble x (printDouble x) := by
  have hm := isBinary_printMagnitude x
  unfold printDouble
  cases hx : x.isNegative with
  | false => exact .positive hx hm
  | true => exact .negative hx hm

/-! ### Values -/

def memberTexts (members : List (String × Value)) : List (List Char) :=
  members.map fun member => printString member.1 ++ ':' :: printValue member.2

theorem printItems_eq (items : List Value) :
    printItems items = Text.joinWith [','] (items.map printValue) := by
  induction items with
  | nil => rfl
  | cons item items ih =>
    cases items with
    | nil => simp [printItems, Text.joinWith]
    | cons next items =>
      rw [printItems, ih, List.map_cons, List.map_cons, List.map_cons, Text.joinWith_cons]
      · simp
      · simp

theorem printMembers_eq (members : List (String × Value)) :
    printMembers members = Text.joinWith [','] (memberTexts members) := by
  induction members with
  | nil => rfl
  | cons member members ih =>
    cases members with
    | nil => simp [printMembers, memberTexts, Text.joinWith]
    | cons next members =>
      rw [printMembers, ih, memberTexts, memberTexts, List.map_cons, List.map_cons, List.map_cons,
        Text.joinWith_cons]
      · simp
      · simp

mutual

/-- The printer writes compact text. -/
theorem isCompact_printValue : (value : Value) → IsCompact value (printValue value)
  | .null => .null
  | .bool true => .true
  | .bool false => .false
  | .number (.integer n) => .integer (isInteger_printInt n)
  | .number (.double x) => .double (isDouble_printDouble x)
  | .string s => .string (isQuoted_printString s)
  | .array items => by
    rw [printValue, printItems_eq]
    exact .array (areCompact_items items)
  | .object members => by
    have hn : List.Forall₂ IsQuoted (members.map Prod.fst)
        (members.map fun member => printString member.1) := by
      rw [List.forall₂_map_left_iff, List.forall₂_map_right_iff, List.forall₂_same]
      exact fun member _ => isQuoted_printString member.1
    have hz : memberTexts members = List.zipWith (fun name text => name ++ ':' :: text)
        (members.map fun member => printString member.1)
        (members.map fun member => printValue member.2) := by
      rw [List.zipWith_map, List.zipWith_self]
      rfl
    rw [printValue, printMembers_eq, hz]
    exact .object hn (areCompact_members members)

theorem areCompact_items : (items : List Value) →
    List.Forall₂ IsCompact items (items.map printValue)
  | [] => .nil
  | item :: items => .cons (isCompact_printValue item) (areCompact_items items)

theorem areCompact_members : (members : List (String × Value)) →
    List.Forall₂ IsCompact (members.map Prod.snd)
      (members.map fun member => printValue member.2)
  | [] => .nil
  | (_, value) :: members => .cons (isCompact_printValue value) (areCompact_members members)

end

end EditorBridge.Json

import EditorBridge.Json.Token
import Mathlib.Tactic.Tauto

/-!
Numbers in JSON text. A number is digits, and behind them a fraction and an exponent, if there are
any. It is read and it is skipped as far as it goes, and what comes of it depends on nothing that
stands behind it.
-/

namespace EditorBridge.Json

/-- Digits and nothing else, at least one. -/
structure IsDigits (ds : List Char) : Prop where
  some : ds ≠ []
  all : ∀ c ∈ ds, isDigit c = true

def NoDigit (s : List Char) : Prop := ∀ c ∈ s.head?, isDigit c = false

/-- Whether no number goes on with a text. -/
def Ends (s : List Char) : Prop :=
  ∀ c ∈ s.head?, isDigit c = false ∧ c ≠ '.' ∧ c ≠ 'e' ∧ c ≠ 'E'

theorem Ends.noDigit {s : List Char} (h : Ends s) : NoDigit s := fun c hc => (h c hc).1

theorem ends_nil : Ends [] := by simp [Ends]

inductive IsExponent : List Char → Prop
  | plain {ds : List Char} : IsDigits ds → IsExponent ds
  | plus {ds : List Char} : IsDigits ds → IsExponent ('+' :: ds)
  | minus {ds : List Char} : IsDigits ds → IsExponent ('-' :: ds)

inductive IsExponentPart : List Char → Prop
  | absent : IsExponentPart []
  | present {c : Char} {t : List Char} : c = 'e' ∨ c = 'E' → IsExponent t → IsExponentPart (c :: t)

inductive IsFractionPart : List Char → Prop
  | absent {t : List Char} : IsExponentPart t → IsFractionPart t
  | present {ds t : List Char} : IsDigits ds → IsExponentPart t → IsFractionPart ('.' :: (ds ++ t))

/-- The text of a number behind its minus sign. No zero is in front of another digit. -/
inductive IsNumber : List Char → Prop
  | mk {ds t : List Char} : IsDigits ds → (ds.head? = some '0' → ds = ['0']) → IsFractionPart t →
      IsNumber (ds ++ t)

section Digits

variable {ds rest : List Char}

theorem dropWhile_digits (h : ∀ c ∈ ds, isDigit c = true) (hr : NoDigit rest) :
    (ds ++ rest).dropWhile isDigit = rest := by
  rw [List.dropWhile_append_of_pos h]
  cases rest with
  | nil => rfl
  | cons c rest => simp [hr c rfl]

theorem noDigit_dropWhile (s : List Char) : NoDigit (s.dropWhile isDigit) := by
  intro c hc
  cases h : isDigit c with
  | false => rfl
  | true =>
    have hn := List.head?_dropWhile_not isDigit s
    rw [hc] at hn
    simp [h] at hn

/-- A text that begins with a digit is digits and what follows them. -/
theorem exists_digits {c : Char} (hc : isDigit c = true) (s : List Char) :
    ∃ ds rest, c :: s = ds ++ rest ∧ IsDigits ds ∧ NoDigit rest ∧ ds.head? = some c := by
  refine ⟨(c :: s).takeWhile isDigit, (c :: s).dropWhile isDigit, ?_, ⟨?_, ?_⟩, ?_, ?_⟩
  · rw [List.takeWhile_append_dropWhile]
  · simp [hc]
  · exact List.all_eq_true.mp List.all_takeWhile
  · exact noDigit_dropWhile _
  · simp [hc]

theorem fittingDigits_append (h : ∀ c ∈ ds, isDigit c = true) (hr : NoDigit rest) (n : Nat) :
    fittingDigits n (ds ++ rest) = ((fittingDigits n ds).1, (fittingDigits n ds).2 ++ rest) := by
  induction ds generalizing n with
  | nil =>
    cases rest with
    | nil => rfl
    | cons c rest => simp [fittingDigits, hr c rfl]
  | cons c ds ih =>
    obtain ⟨hc, hd⟩ := List.forall_mem_cons.mp h
    simp only [List.cons_append, fittingDigits, hc, if_true]
    split
    · rfl
    · exact ih hd _

theorem fittingDigits_suffix (ds : List Char) (n : Nat) : (fittingDigits n ds).2 <:+ ds := by
  induction ds generalizing n with
  | nil => exact List.suffix_rfl
  | cons c ds ih =>
    unfold fittingDigits
    dsimp only
    split
    · split
      · exact List.suffix_rfl
      · exact (ih _).trans (List.suffix_cons _ _)
    · exact List.suffix_rfl

theorem exponentDigits_append (h : ∀ c ∈ ds, isDigit c = true) (hr : NoDigit rest) (n : Nat) :
    exponentDigits n (ds ++ rest) = ((exponentDigits n ds).1, (exponentDigits n ds).2.1,
      (exponentDigits n ds).2.2 ++ rest) := by
  induction ds generalizing n with
  | nil =>
    cases rest with
    | nil => rfl
    | cons c rest => simp [exponentDigits, hr c rfl]
  | cons c ds ih =>
    obtain ⟨hc, hd⟩ := List.forall_mem_cons.mp h
    simp only [List.cons_append, exponentDigits, hc, if_true]
    split
    · rfl
    · exact ih hd _

/-- Digits are left only of an exponent that is too great. -/
theorem exponentDigits_suffix (h : ∀ c ∈ ds, isDigit c = true) (n : Nat) :
    (exponentDigits n ds).2.2 <:+ ds ∧
      ((exponentDigits n ds).2.1 = false → (exponentDigits n ds).2.2 = []) := by
  induction ds generalizing n with
  | nil => exact ⟨List.suffix_rfl, fun _ => rfl⟩
  | cons c ds ih =>
    obtain ⟨hc, hd⟩ := List.forall_mem_cons.mp h
    simp only [exponentDigits, hc, if_true]
    split
    · exact ⟨List.suffix_cons _ _, by simp⟩
    · obtain ⟨hs, he⟩ := ih hd (10 * n + (c.toNat - '0'.toNat))
      exact ⟨hs.trans (List.suffix_cons _ _), he⟩

end Digits

section

variable {isNegative : Bool} {n : Nat} {e : Int} {x : Number} {s r : List Char}

/-- A double does not depend on what is behind it. -/
theorem double_ok (h : double isNegative n e s = .ok (x, r)) :
    s = r ∧ ∀ r', double isNegative n e r' = .ok (x, r') := by
  unfold double at h ⊢
  split at h
  · obtain ⟨rfl, rfl⟩ := by simpa using h
    exact ⟨rfl, fun _ => rfl⟩
  · simp [failAt] at h

def afterSign (isNegative : Bool) (n : Nat) (e : Int) (isUp : Bool) (s : List Char) :
    Result Number :=
  match s with
  | [] => failAt .endInValue []
  | c :: _ =>
    if !isDigit c then failPast .invalidNumber s
    else
      let (m, isTooGreat, rest) := exponentDigits 0 s
      if isTooGreat then
        if n != 0 && isUp then failAt .numberOutOfRange rest
        else .ok (.double (.zero isNegative), rest.dropWhile isDigit)
      else double isNegative n (if isUp then e + m else e - m) rest

theorem afterSign_digits {isUp : Bool} {ds : List Char} (hd : IsDigits ds) (hr : NoDigit r) :
    afterSign isNegative n e isUp (ds ++ r) =
      if (exponentDigits 0 ds).2.1 then
        if n != 0 && isUp then failAt .numberOutOfRange ((exponentDigits 0 ds).2.2 ++ r)
        else .ok (.double (.zero isNegative), r)
      else
        double isNegative n
          (if isUp then e + (exponentDigits 0 ds).1 else e - (exponentDigits 0 ds).1) r := by
  obtain ⟨hn, ha⟩ := hd
  obtain ⟨hs, he⟩ := exponentDigits_suffix ha 0
  have hw : ((exponentDigits 0 ds).2.2 ++ r).dropWhile isDigit = r :=
    dropWhile_digits (fun c hc => ha c (hs.subset hc)) hr
  have hx := exponentDigits_append ha hr 0
  cases ds with
  | nil => exact absurd rfl hn
  | cons c ds =>
    rw [List.cons_append] at hx ⊢
    simp only [afterSign, ha c (by simp), hx, hw]
    cases hb : (exponentDigits 0 (c :: ds)).2.1 with
    | true => rfl
    | false => simp [he hb]

/-- An exponent is read to its last digit. -/
theorem afterSign_ok {isUp : Bool} (h : afterSign isNegative n e isUp s = .ok (x, r)) :
    ∃ ds, IsDigits ds ∧ s = ds ++ r ∧ NoDigit r ∧
      ∀ r', NoDigit r' → afterSign isNegative n e isUp (ds ++ r') = .ok (x, r') := by
  obtain ⟨ds, rest, rfl, hd, hr⟩ : ∃ ds rest, s = ds ++ rest ∧ IsDigits ds ∧ NoDigit rest := by
    cases s with
    | nil => simp [afterSign, failAt] at h
    | cons c s =>
      cases hc : isDigit c with
      | false => simp [afterSign, hc, failPast] at h
      | true =>
        obtain ⟨ds, rest, hs, hd, hr, -⟩ := exists_digits hc s
        exact ⟨ds, rest, hs, hd, hr⟩
  rw [afterSign_digits hd hr] at h
  split at h
  · split at h
    · simp [failAt] at h
    · rename_i hb hf
      obtain ⟨rfl, rfl⟩ := by simpa using h
      refine ⟨ds, hd, rfl, hr, fun r' hr' => ?_⟩
      rw [afterSign_digits hd hr', if_pos hb, if_neg hf]
  · rename_i hb
    obtain ⟨rfl, hx⟩ := double_ok h
    refine ⟨ds, hd, rfl, hr, fun r' hr' => ?_⟩
    rw [afterSign_digits hd hr', if_neg hb, hx]

theorem withExponent_sign (s : List Char) :
    withExponent isNegative n e ('+' :: s) = afterSign isNegative n e true s ∧
      withExponent isNegative n e ('-' :: s) = afterSign isNegative n e false s := ⟨rfl, rfl⟩

theorem withExponent_plain (h : ∀ c ∈ s.head?, c ≠ '+' ∧ c ≠ '-') :
    withExponent isNegative n e s = afterSign isNegative n e true s := by
  unfold withExponent
  split
  · rename_i he
    split at he
    · exact absurd rfl (h _ rfl).1
    · exact absurd rfl (h _ rfl).2
    · obtain ⟨rfl, rfl⟩ := by simpa using he
      rfl

theorem not_sign_of_digits {ds : List Char} (hd : IsDigits ds) (r : List Char) :
    ∀ c ∈ (ds ++ r).head?, c ≠ '+' ∧ c ≠ '-' := by
  intro c hc
  obtain ⟨hn, ha⟩ := hd
  cases ds with
  | nil => exact absurd rfl hn
  | cons d ds =>
    obtain rfl : d = c := by simpa using hc
    have := ha d (by simp)
    constructor <;> (rintro rfl; revert this; decide)

theorem withExponent_ok (h : withExponent isNegative n e s = .ok (x, r)) :
    ∃ t, IsExponent t ∧ s = t ++ r ∧ NoDigit r ∧
      ∀ r', NoDigit r' → withExponent isNegative n e (t ++ r') = .ok (x, r') := by
  by_cases hp : ∃ s', s = '+' :: s'
  · obtain ⟨s, rfl⟩ := hp
    obtain ⟨ds, hd, rfl, hr, hx⟩ := afterSign_ok ((withExponent_sign s).1 ▸ h)
    exact ⟨_, .plus hd, rfl, hr, hx⟩
  · by_cases hm : ∃ s', s = '-' :: s'
    · obtain ⟨s, rfl⟩ := hm
      obtain ⟨ds, hd, rfl, hr, hx⟩ := afterSign_ok ((withExponent_sign s).2 ▸ h)
      exact ⟨_, .minus hd, rfl, hr, hx⟩
    · rw [withExponent_plain] at h
      · obtain ⟨ds, hd, rfl, hr, hx⟩ := afterSign_ok h
        refine ⟨ds, .plain hd, rfl, hr, fun r' hr' => ?_⟩
        rw [withExponent_plain (not_sign_of_digits hd r'), hx r' hr']
      · intro c hc
        cases s with
        | nil => simp at hc
        | cons d s =>
          obtain rfl : d = c := by simpa using hc
          exact ⟨fun he => hp ⟨s, by rw [he]⟩, fun he => hm ⟨s, by rw [he]⟩⟩

def NoExponent (s : List Char) : Prop := ∀ c ∈ s.head?, c ≠ 'e' ∧ c ≠ 'E'

theorem Ends.noExponent (h : Ends s) : NoExponent s := fun c hc => (h c hc).2.2

theorem maybeExponent_none (h : NoExponent s) :
    maybeExponent isNegative n e s = double isNegative n e s := by
  cases s with
  | nil => rfl
  | cons c s => simp [maybeExponent, h c rfl]

theorem maybeExponent_some {c : Char} (h : c = 'e' ∨ c = 'E') (s : List Char) :
    maybeExponent isNegative n e (c :: s) = withExponent isNegative n e s := by
  simp [maybeExponent, h]

theorem maybeExponent_ok (h : maybeExponent isNegative n e s = .ok (x, r)) :
    ∃ t, IsExponentPart t ∧ s = t ++ r ∧
      ∀ r', Ends r' → maybeExponent isNegative n e (t ++ r') = .ok (x, r') := by
  by_cases hn : NoExponent s
  · rw [maybeExponent_none hn] at h
    obtain ⟨rfl, hx⟩ := double_ok h
    refine ⟨[], .absent, rfl, fun r' hr' => ?_⟩
    rw [List.nil_append, maybeExponent_none hr'.noExponent, hx]
  · obtain ⟨c, s, rfl, hc⟩ : ∃ c s', s = c :: s' ∧ (c = 'e' ∨ c = 'E') := by
      cases s with
      | nil => exact absurd (by simp [NoExponent]) hn
      | cons c s => exact ⟨c, s, rfl, by simp [NoExponent] at hn; tauto⟩
    rw [maybeExponent_some hc] at h
    obtain ⟨t, ht, rfl, -, hx⟩ := withExponent_ok h
    refine ⟨c :: t, .present hc ht, rfl, fun r' hr' => ?_⟩
    rw [List.cons_append, maybeExponent_some hc, hx r' hr'.noDigit]

theorem IsExponentPart.noDigit {t : List Char} (h : IsExponentPart t) (hr : Ends r) :
    NoDigit (t ++ r) := by
  cases h with
  | absent => exact hr.noDigit
  | present hc ht =>
    intro c hm
    obtain rfl := by simpa using hm
    obtain rfl | rfl := hc <;> decide

theorem IsFractionPart.noDigit {t : List Char} (h : IsFractionPart t) (hr : Ends r) :
    NoDigit (t ++ r) := by
  cases h with
  | absent ht => exact ht.noDigit hr
  | present hd ht =>
    intro c hm
    obtain rfl : '.' = c := by simpa using hm
    decide

theorem withFraction_digits {ds : List Char} (hd : IsDigits ds) (hr : NoDigit r) :
    withFraction isNegative n e (ds ++ r) =
      maybeExponent isNegative (fittingDigits n ds).1
        (e - (ds.length - (fittingDigits n ds).2.length : Nat)) r := by
  obtain ⟨hn, ha⟩ := hd
  have hf := fittingDigits_append ha hr n
  have hw : (ds ++ r).dropWhile isDigit = r := dropWhile_digits ha hr
  have hs := dropWhile_digits (fun c hc => ha c ((fittingDigits_suffix ds n).subset hc)) hr
  have hl : (ds ++ r).length - ((fittingDigits n ds).2 ++ r).length =
      ds.length - (fittingDigits n ds).2.length := by
    simp only [List.length_append]
    omega
  cases ds with
  | nil => exact absurd rfl hn
  | cons c ds =>
    rw [List.cons_append] at hf hl ⊢
    simp only [withFraction, ha c (by simp), hf, hs, hl]
    rfl

theorem withFraction_ok (h : withFraction isNegative n e s = .ok (x, r)) :
    ∃ ds t, IsDigits ds ∧ IsExponentPart t ∧ s = ds ++ t ++ r ∧
      ∀ r', Ends r' → withFraction isNegative n e (ds ++ t ++ r') = .ok (x, r') := by
  obtain ⟨ds, rest, rfl, hd, hr⟩ : ∃ ds rest, s = ds ++ rest ∧ IsDigits ds ∧ NoDigit rest := by
    cases s with
    | nil => simp [withFraction, failPast] at h
    | cons c s =>
      cases hc : isDigit c with
      | false => simp [withFraction, hc, failPast] at h
      | true =>
        obtain ⟨ds, rest, hs, hd, hr, -⟩ := exists_digits hc s
        exact ⟨ds, rest, hs, hd, hr⟩
  rw [withFraction_digits hd hr] at h
  obtain ⟨t, ht, rfl, hx⟩ := maybeExponent_ok h
  refine ⟨ds, t, hd, ht, by simp, fun r' hr' => ?_⟩
  rw [List.append_assoc, withFraction_digits hd (ht.noDigit hr'), hx r' hr']

/-- A number from behind its first digits on, of which the last `e` have not been taken. -/
def numberTail (isNegative : Bool) (n : Nat) (e : Int) (rest : List Char) : Result Number :=
  match rest with
  | '.' :: fraction => withFraction isNegative n e fraction
  | _ =>
    if rest.head?.any fun c => c = 'e' || c = 'E' then withExponent isNegative n e (rest.drop 1)
    else if e != 0 || (isNegative && (n = 0 || 9223372036854775808 < n)) then
      double isNegative n e rest
    else .ok (.integer (if isNegative then -n else n), rest)

def wholeNumber (isNegative : Bool) (n : Nat) (e : Int) (rest : List Char) : Result Number :=
  if e != 0 || (isNegative && (n = 0 || 9223372036854775808 < n)) then
    double isNegative n e rest
  else .ok (.integer (if isNegative then -n else n), rest)

theorem wholeNumber_ok (h : wholeNumber isNegative n e s = .ok (x, r)) :
    s = r ∧ ∀ r', wholeNumber isNegative n e r' = .ok (x, r') := by
  unfold wholeNumber at h ⊢
  split at h
  · rename_i hc
    obtain ⟨hs, hx⟩ := double_ok h
    exact ⟨hs, fun r' => by rw [if_pos hc, hx]⟩
  · rename_i hc
    obtain ⟨rfl, rfl⟩ := by simpa using h
    exact ⟨rfl, fun r' => by rw [if_neg hc]⟩

theorem numberTail_exponent {c : Char} (hc : c = 'e' ∨ c = 'E') (s : List Char) :
    numberTail isNegative n e (c :: s) = withExponent isNegative n e s := by
  obtain rfl | rfl := hc <;> rfl

theorem numberTail_whole (h : Ends s) :
    numberTail isNegative n e s = wholeNumber isNegative n e s := by
  cases s with
  | nil => rfl
  | cons c s =>
    obtain ⟨-, hp, he, hE⟩ := h c rfl
    unfold numberTail
    split
    · rename_i hs
      exact absurd (by simpa using congrArg List.head? hs) hp
    · simp [wholeNumber, he, hE]

theorem numberTail_ok (h : numberTail isNegative n e s = .ok (x, r)) (hs : NoDigit s) :
    ∃ t, IsFractionPart t ∧ s = t ++ r ∧
      ∀ r', Ends r' → numberTail isNegative n e (t ++ r') = .ok (x, r') := by
  by_cases hp : ∃ f, s = '.' :: f
  · obtain ⟨f, rfl⟩ := hp
    obtain ⟨ds, t, hd, ht, rfl, hx⟩ := withFraction_ok h
    exact ⟨'.' :: (ds ++ t), .present hd ht, rfl, hx⟩
  · by_cases he : ∃ c f, s = c :: f ∧ (c = 'e' ∨ c = 'E')
    · obtain ⟨c, f, rfl, hc⟩ := he
      rw [numberTail_exponent hc] at h
      obtain ⟨t, ht, rfl, -, hx⟩ := withExponent_ok h
      refine ⟨c :: t, .absent (.present hc ht), rfl, fun r' hr' => ?_⟩
      rw [List.cons_append, numberTail_exponent hc, hx r' hr'.noDigit]
    · have hn : Ends s := by
        intro c hc
        cases s with
        | nil => simp at hc
        | cons d s =>
          obtain rfl : d = c := by simpa using hc
          exact ⟨hs d rfl, fun h => hp ⟨s, by rw [h]⟩, fun h => he ⟨d, s, rfl, .inl h⟩,
            fun h => he ⟨d, s, rfl, .inr h⟩⟩
      rw [numberTail_whole hn] at h
      obtain ⟨rfl, hx⟩ := wholeNumber_ok h
      refine ⟨[], .absent .absent, rfl, fun r' hr' => ?_⟩
      rw [List.nil_append, numberTail_whole hr', hx]

theorem number_cons (c : Char) (after : List Char) :
    number isNegative (c :: after) =
      if !isDigit c then failPast .invalidNumber (c :: after)
      else
        let found := if c = '0' then (0, after) else fittingDigits 0 (c :: after)
        let rest := if c = '0' then found.2 else found.2.dropWhile isDigit
        if c = '0' && rest.head?.any isDigit then failPast .invalidNumber rest
        else numberTail isNegative found.1 (found.2.length - rest.length : Nat) rest := rfl

theorem number_digits {ds : List Char} (hd : IsDigits ds)
    (hz : ds.head? = some '0' → ds = ['0']) (hr : NoDigit r) :
    number isNegative (ds ++ r) =
      numberTail isNegative (fittingDigits 0 ds).1 ((fittingDigits 0 ds).2.length : Nat) r := by
  obtain ⟨hn, ha⟩ := hd
  have hf := fittingDigits_append ha hr 0
  have hs := dropWhile_digits (fun c hc => ha c ((fittingDigits_suffix ds 0).subset hc)) hr
  cases ds with
  | nil => exact absurd rfl hn
  | cons c ds =>
    have hc : isDigit c = true := ha c (by simp)
    rw [List.cons_append] at hf ⊢
    by_cases h0 : c = '0'
    · obtain rfl : ds = [] := by simpa [h0] using hz
      obtain rfl := h0
      have hh : r.head?.any isDigit = false := by
        cases r with
        | nil => rfl
        | cons c r => exact hr c rfl
      have hf0 : fittingDigits 0 ['0'] = (0, []) := by decide
      simp [number_cons, hc, hh, hf0]
    · simp [number_cons, hc, h0, hf, hs]

theorem number_ok (h : number isNegative s = .ok (x, r)) :
    ∃ t, IsNumber t ∧ s = t ++ r ∧
      ∀ r', Ends r' → number isNegative (t ++ r') = .ok (x, r') := by
  obtain ⟨ds, rest, rfl, hd, hr, hz⟩ : ∃ ds rest, s = ds ++ rest ∧ IsDigits ds ∧ NoDigit rest ∧
      (ds.head? = some '0' → ds = ['0']) := by
    cases s with
    | nil => simp [number, failAt] at h
    | cons c s =>
      cases hc : isDigit c with
      | false => simp [number, hc, failPast] at h
      | true =>
        by_cases h0 : c = '0'
        · subst h0
          have hr : NoDigit s := by
            intro d hd
            cases hg : isDigit d with
            | false => rfl
            | true =>
              have hh : s.head?.any isDigit = true := by simp [Option.mem_def.mp hd, hg]
              simp [number, hc, hh, failPast] at h
          exact ⟨['0'], s, rfl, ⟨by simp, by simpa using hc⟩, hr, fun _ => rfl⟩
        · obtain ⟨ds, rest, hs, hd, hr, hh⟩ := exists_digits hc s
          exact ⟨ds, rest, hs, hd, hr, by simp [hh, h0]⟩
  rw [number_digits hd hz hr] at h
  obtain ⟨t, ht, rfl, hx⟩ := numberTail_ok h hr
  refine ⟨ds ++ t, .mk hd hz ht, by simp, fun r' hr' => ?_⟩
  rw [List.append_assoc, number_digits hd hz (ht.noDigit hr'), hx r' hr']

end

section Skip

variable {s r t : List Char}

def skipDigits (s : List Char) : Except Fault (List Char) :=
  match s with
  | [] => failAt .invalidNumber []
  | c :: rest => if isDigit c then .ok (rest.dropWhile isDigit) else failPast .invalidNumber s

theorem skipDigits_append {ds : List Char} (hd : IsDigits ds) (hr : NoDigit r) :
    skipDigits (ds ++ r) = .ok r := by
  obtain ⟨hn, ha⟩ := hd
  cases ds with
  | nil => exact absurd rfl hn
  | cons c ds =>
    obtain ⟨hc, hd⟩ := List.forall_mem_cons.mp ha
    simp [skipDigits, hc, dropWhile_digits hd hr]

theorem skipDigits_ok (h : skipDigits s = .ok r) :
    ∃ ds, IsDigits ds ∧ s = ds ++ r ∧ NoDigit r := by
  cases s with
  | nil => simp [skipDigits, failAt] at h
  | cons c s =>
    cases hc : isDigit c with
    | false => simp [skipDigits, hc, failPast] at h
    | true =>
      obtain ⟨ds, rest, hs, hd, hr, -⟩ := exists_digits hc s
      rw [hs, skipDigits_append hd hr] at h
      obtain rfl := Except.ok.inj h
      exact ⟨ds, hd, hs, hr⟩

theorem skipExponent_sign {c : Char} (h : c = '+' ∨ c = '-') (s : List Char) :
    skipExponent (c :: s) = skipDigits s := by
  obtain rfl | rfl := h <;> rfl

theorem skipExponent_plain (h : ∀ c ∈ s.head?, c ≠ '+' ∧ c ≠ '-') :
    skipExponent s = skipDigits s := by
  cases s with
  | nil => rfl
  | cons c s => simp [skipExponent, skipDigits, h c rfl]

theorem skipExponent_append (ht : IsExponent t) (hr : NoDigit r) :
    skipExponent (t ++ r) = .ok r := by
  cases ht with
  | plain hd => rw [skipExponent_plain (not_sign_of_digits hd r), skipDigits_append hd hr]
  | plus hd => rw [List.cons_append, skipExponent_sign (.inl rfl), skipDigits_append hd hr]
  | minus hd => rw [List.cons_append, skipExponent_sign (.inr rfl), skipDigits_append hd hr]

theorem skipExponent_ok (h : skipExponent s = .ok r) : ∃ t, IsExponent t ∧ s = t ++ r := by
  by_cases hs : ∃ c s', s = c :: s' ∧ (c = '+' ∨ c = '-')
  · obtain ⟨c, s, rfl, hc⟩ := hs
    rw [skipExponent_sign hc] at h
    obtain ⟨ds, hd, rfl, -⟩ := skipDigits_ok h
    obtain rfl | rfl := hc
    · exact ⟨_, .plus hd, rfl⟩
    · exact ⟨_, .minus hd, rfl⟩
  · rw [skipExponent_plain] at h
    · obtain ⟨ds, hd, rfl, -⟩ := skipDigits_ok h
      exact ⟨ds, .plain hd, rfl⟩
    · intro c hc
      cases s with
      | nil => simp at hc
      | cons d s =>
        obtain rfl : d = c := by simpa using hc
        exact ⟨fun he => hs ⟨d, s, rfl, .inl he⟩, fun he => hs ⟨d, s, rfl, .inr he⟩⟩

def skipExponentPart (s : List Char) : Except Fault (List Char) :=
  match s with
  | [] => .ok []
  | c :: rest => if c = 'e' || c = 'E' then skipExponent rest else .ok s

theorem skipExponentPart_append (ht : IsExponentPart t) (hr : Ends r) :
    skipExponentPart (t ++ r) = .ok r := by
  cases ht with
  | absent =>
    cases r with
    | nil => rfl
    | cons c r => simp [skipExponentPart, hr c rfl]
  | present hc ht => simp [skipExponentPart, hc, skipExponent_append ht hr.noDigit]

theorem skipExponentPart_ok (h : skipExponentPart s = .ok r) :
    ∃ t, IsExponentPart t ∧ s = t ++ r := by
  cases s with
  | nil =>
    obtain rfl := Except.ok.inj h
    exact ⟨[], .absent, rfl⟩
  | cons c s =>
    by_cases hc : c = 'e' ∨ c = 'E'
    · have h : skipExponent s = .ok r := by simpa [skipExponentPart, hc] using h
      obtain ⟨t, ht, rfl⟩ := skipExponent_ok h
      exact ⟨c :: t, .present hc ht, rfl⟩
    · obtain rfl : c :: s = r := by simpa [skipExponentPart, hc] using h
      exact ⟨[], .absent, rfl⟩

theorem skipFraction_point (s : List Char) (hd : IsDigits t) (hs : NoDigit s) :
    skipFraction ('.' :: (t ++ s)) = skipExponentPart s := by
  have hw := dropWhile_digits hd.all hs
  have hl : s.length ≠ (t ++ s).length := by
    have := List.length_pos_iff.mpr hd.some
    simp only [List.length_append]
    omega
  simp only [skipFraction, hw, hl]
  rfl

theorem skipFraction_other (h : ∀ c ∈ s.head?, c ≠ '.') : skipFraction s = skipExponentPart s := by
  cases s with
  | nil => rfl
  | cons c s => simp [skipFraction, skipExponentPart, h c rfl]

theorem not_point (ht : IsExponentPart t) (hr : Ends r) : ∀ c ∈ (t ++ r).head?, c ≠ '.' := by
  intro c hc
  cases ht with
  | absent => exact (hr c hc).2.1
  | present he ht =>
    obtain rfl := by simpa using hc
    obtain rfl | rfl := he <;> decide

theorem skipFraction_append (ht : IsFractionPart t) (hr : Ends r) :
    skipFraction (t ++ r) = .ok r := by
  cases ht with
  | absent he => rw [skipFraction_other (not_point he hr), skipExponentPart_append he hr]
  | present hd he =>
    rw [List.cons_append, List.append_assoc, skipFraction_point _ hd (he.noDigit hr),
      skipExponentPart_append he hr]

theorem skipFraction_ok (h : skipFraction s = .ok r) : ∃ t, IsFractionPart t ∧ s = t ++ r := by
  by_cases hp : ∃ f, s = '.' :: f
  · obtain ⟨f, rfl⟩ := hp
    have hf : IsDigits (f.takeWhile isDigit) := by
      refine ⟨fun hn => ?_, List.all_eq_true.mp List.all_takeWhile⟩
      have hw : f.dropWhile isDigit = f := by
        simpa [hn] using @List.takeWhile_append_dropWhile _ isDigit f
      simp [skipFraction, hw, failPast] at h
    have hs : skipFraction ('.' :: f) = skipExponentPart (f.dropWhile isDigit) := by
      simpa using skipFraction_point _ hf (noDigit_dropWhile f)
    rw [hs] at h
    obtain ⟨t, ht, he⟩ := skipExponentPart_ok h
    refine ⟨'.' :: (f.takeWhile isDigit ++ t), .present hf ht, ?_⟩
    rw [List.cons_append, List.append_assoc, ← he, List.takeWhile_append_dropWhile]
  · rw [skipFraction_other] at h
    · obtain ⟨t, ht, rfl⟩ := skipExponentPart_ok h
      exact ⟨t, .absent ht, rfl⟩
    · intro c hc
      cases s with
      | nil => simp at hc
      | cons d s =>
        obtain rfl : d = c := by simpa using hc
        exact fun he => hp ⟨s, by rw [he]⟩

theorem skipNumber_append (ht : IsNumber t) (hr : Ends r) : skipNumber (t ++ r) = .ok r := by
  cases ht with
  | @mk ds t hd hz hf =>
    obtain ⟨hn, ha⟩ := hd
    have hr' := hf.noDigit hr
    cases ds with
    | nil => exact absurd rfl hn
    | cons c ds =>
      obtain ⟨hc, hds⟩ := List.forall_mem_cons.mp ha
      by_cases h0 : c = '0'
      · subst h0
        obtain rfl : ds = [] := by simpa using hz
        have hh : (t ++ r).head?.any isDigit = false := by
          cases hs : t ++ r with
          | nil => rfl
          | cons c s => exact hr' c (by simp [hs])
        simp only [List.cons_append, List.nil_append, skipNumber, hh]
        exact skipFraction_append hf hr
      · simp only [List.append_assoc, List.cons_append, skipNumber, h0, hc,
          dropWhile_digits hds hr']
        exact skipFraction_append hf hr

theorem skipNumber_ok (h : skipNumber s = .ok r) : ∃ t, IsNumber t ∧ s = t ++ r := by
  cases s with
  | nil => simp [skipNumber, failAt] at h
  | cons c s =>
    by_cases h0 : c = '0'
    · subst h0
      have hf : skipFraction s = .ok r := by
        simp only [skipNumber, if_true] at h
        split at h
        · simp [failPast] at h
        · exact h
      obtain ⟨t, ht, rfl⟩ := skipFraction_ok hf
      exact ⟨['0'] ++ t, .mk ⟨by simp, by simp [isDigit]⟩ (fun _ => rfl) ht, by simp⟩
    · cases hc : isDigit c with
      | false => simp [skipNumber, hc, h0, failPast] at h
      | true =>
        obtain ⟨ds, rest, hs, hd, hr, hh⟩ := exists_digits hc s
        have hw := dropWhile_digits hd.all hr
        rw [← hs, List.dropWhile_cons_of_pos hc] at hw
        have hf : skipFraction rest = .ok r := by simpa [skipNumber, hc, h0, hw] using h
        obtain ⟨t, ht, rfl⟩ := skipFraction_ok hf
        exact ⟨ds ++ t, .mk hd (by simp [hh, h0]) ht, by rw [hs, List.append_assoc]⟩

end Skip

end EditorBridge.Json

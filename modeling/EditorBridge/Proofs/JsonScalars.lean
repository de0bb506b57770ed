import EditorBridge.Json.Reader
import EditorBridge.Proofs.JsonNumbers

/-!
Words, numbers and strings in JSON text. What is read or skipped of them depends on nothing that
stands behind them, and whatever is read can be skipped.
-/

namespace EditorBridge.Json

def IsFourDigits (t : List Char) (n : Nat) : Prop :=
  t.length = 4 ∧ ∀ r, fourDigits (t ++ r) = .ok (n, r)

theorem length_mapM {α β : Type} {f : α → Option β} {xs : List α} {ys : List β}
    (h : xs.mapM f = some ys) : ys.length = xs.length := by
  induction xs generalizing ys with
  | nil =>
    obtain rfl : [] = ys := by simpa using h
    rfl
  | cons x xs ih =>
    obtain ⟨y, -, zs, hz, rfl⟩ : ∃ y, f x = some y ∧ ∃ zs, xs.mapM f = some zs ∧ y :: zs = ys := by
      simpa [List.mapM_cons, Option.bind_eq_some_iff] using h
    simp [ih hz]

theorem fourDigits_ok {s r : List Char} {n : Nat} (h : fourDigits s = .ok (n, r)) :
    ∃ t, IsFourDigits t n ∧ s = t ++ r := by
  unfold fourDigits at h
  split at h
  · simp [failAt] at h
  · rename_i hu
    split at h
    · rename_i a b c d hm
      obtain ⟨rfl, rfl⟩ := by simpa using h
      have hl : (s.take 4).length = 4 := by simpa using (length_mapM hm).symm
      refine ⟨s.take 4, ⟨hl, fun r => ?_⟩, (List.take_append_drop 4 s).symm⟩
      have ht : (s.take 4 ++ r).take 4 = s.take 4 := by simp [hl]
      have hd : (s.take 4 ++ r).drop 4 = r := by
        rw [List.drop_append, hl]
        simp
      simp [fourDigits, ht, hd, hu, hm]
    · simp at h

/-- The text of an escape behind its letter: four digits, or the two halves of a pair. -/
inductive IsNumberedEscape : List Char → Char → Prop
  | single {t : List Char} {n : Nat} {c : Char} : IsFourDigits t n →
      (∀ r, numberedEscape (t ++ r) = .ok (c, r)) → IsNumberedEscape t c
  | pair {t u : List Char} {n m : Nat} {c : Char} : IsFourDigits t n → IsFourDigits u m →
      (∀ r, numberedEscape (t ++ '\\' :: 'u' :: (u ++ r)) = .ok (c, r)) →
      IsNumberedEscape (t ++ '\\' :: 'u' :: u) c

theorem numberedEscape_ok {s r : List Char} {c : Char} (h : numberedEscape s = .ok (c, r)) :
    ∃ t, IsNumberedEscape t c ∧ s = t ++ r := by
  unfold numberedEscape at h
  split at h
  · simp at h
  · rename_i n rest hf
    obtain ⟨t, ht, rfl⟩ := fourDigits_ok hf
    split at h
    · simp [failAt] at h
    · rename_i hl
      split at h
      · rename_i hs
        obtain ⟨rfl, rfl⟩ := by simpa using h
        refine ⟨t, .single ht fun r => ?_, rfl⟩
        simp only [numberedEscape, ht.2 r]
        rw [if_neg hl, if_pos hs]
      · rename_i hs
        split at h
        · simp [failAt] at h
        · simp [failAt] at h
        · split at h
          · simp at h
          · rename_i after m rest' hg
            obtain ⟨u, hu, rfl⟩ := fourDigits_ok hg
            split at h
            · simp [failAt] at h
            · rename_i hm
              obtain ⟨rfl, rfl⟩ := by simpa using h
              refine ⟨t ++ '\\' :: 'u' :: u, .pair ht hu fun r => ?_, by simp⟩
              simp only [numberedEscape, ht.2, hu.2]
              rw [if_neg hl, if_neg hs, if_neg hm]
        · simp [failPast] at h
        · simp [failPast] at h

theorem IsNumberedEscape.read {t : List Char} {c : Char} (h : IsNumberedEscape t c)
    (r : List Char) : numberedEscape (t ++ r) = .ok (c, r) := by
  cases h with
  | single _ h => exact h r
  | pair _ _ h => simpa using h r

/-- An escape of a number is skipped in one step or in two, and it has more characters. -/
theorem IsNumberedEscape.skip {t : List Char} {c : Char} (h : IsNumberedEscape t c) {m : Nat}
    (hm : t.length ≤ m) (r : List Char) :
    ∃ k, m ≤ k + t.length ∧ skipStringWithin (m + 1) ('\\' :: 'u' :: (t ++ r)) =
      skipStringWithin k r := by
  have hb : ('\\' = '\x22') = False ∧ ('\\'.toNat < 0x20) = False := by decide
  cases h with
  | single ht => exact ⟨m, by omega, by simp [skipStringWithin, hb, ht.2 r]⟩
  | @pair t u n k c ht hu =>
    obtain ⟨m, rfl⟩ : ∃ k, m = k + 1 := ⟨m - 1, by simp at hm; omega⟩
    refine ⟨m, by simp; omega, ?_⟩
    simp [skipStringWithin, hb, ht.2, hu.2]

/-- A character that stands for itself in a string. -/
def IsPlainChar (c : Char) : Prop := c ≠ '\x22' ∧ ¬c.toNat < 0x20 ∧ c ≠ '\\'

theorem stringWithin_plain {c : Char} (h : IsPlainChar c) (n : Nat) (s : List Char) :
    stringWithin (n + 1) (c :: s) =
      (stringWithin n s).map (fun found => (c :: found.1, found.2)) ∧
    skipStringWithin (n + 1) (c :: s) = skipStringWithin n s := by
  simp [stringWithin, skipStringWithin, h.1, h.2.1, h.2.2]

theorem stringWithin_simple {d e : Char} (h : simpleEscape? d = some e) (n : Nat) (s : List Char) :
    stringWithin (n + 1) ('\\' :: d :: s) =
      (stringWithin n s).map (fun found => (e :: found.1, found.2)) ∧
    skipStringWithin (n + 1) ('\\' :: d :: s) = skipStringWithin n s := by
  have hb : ('\\' = '\x22') = False ∧ ('\\'.toNat < 0x20) = False := by decide
  have hu : d ≠ 'u' := by
    rintro rfl
    simp [simpleEscape?] at h
  simp [stringWithin, skipStringWithin, hb, hu, h]

theorem stringWithin_numbered (n : Nat) (s : List Char) :
    stringWithin (n + 1) ('\\' :: 'u' :: s) = match numberedEscape s with
      | .error fault => .error fault
      | .ok (shown, rest) =>
        (stringWithin n rest).map fun found => (shown :: found.1, found.2) := by
  rfl

theorem map_cons_ok {c : Char} {result : Result (List Char)} {v r : List Char}
    (h : result.map (fun found => (c :: found.1, found.2)) = .ok (v, r)) :
    ∃ v', result = .ok (v', r) ∧ v = c :: v' := by
  cases result with
  | error fault => simp [Except.map] at h
  | ok found =>
    obtain ⟨v', r'⟩ := found
    obtain ⟨rfl, rfl⟩ : c :: v' = v ∧ r' = r := by simpa [Except.map] using h
    exact ⟨v', rfl, rfl⟩

/-- A string behind its opening quote, and what its characters stand for. -/
inductive IsStringText : List Char → List Char → Prop
  | close : IsStringText ['\x22'] []
  | plain {c : Char} {t v : List Char} : IsPlainChar c → IsStringText t v →
      IsStringText (c :: t) (c :: v)
  | simple {d e : Char} {t v : List Char} : simpleEscape? d = some e → IsStringText t v →
      IsStringText ('\\' :: d :: t) (e :: v)
  | numbered {u t v : List Char} {c : Char} : IsNumberedEscape u c → IsStringText t v →
      IsStringText ('\\' :: 'u' :: (u ++ t)) (c :: v)

theorem stringWithin_ok {n : Nat} {s r v : List Char} (h : stringWithin n s = .ok (v, r)) :
    ∃ t, IsStringText t v ∧ s = t ++ r := by
  induction n generalizing s v with
  | zero => simp [stringWithin, failAt] at h
  | succ n ih =>
    cases s with
    | nil => simp [stringWithin, failAt] at h
    | cons c s =>
      by_cases hq : c = '\x22'
      · obtain ⟨rfl, rfl⟩ : [] = v ∧ s = r := by simpa [stringWithin, hq] using h
        exact ⟨['\x22'], .close, by simp [hq]⟩
      · by_cases hc : c.toNat < 0x20
        · simp [stringWithin, hq, hc, failPast] at h
        · by_cases hb : c = '\\'
          · subst hb
            cases s with
            | nil => simp [stringWithin, failAt] at h
            | cons d s =>
              by_cases hu : d = 'u'
              · subst hu
                rw [stringWithin_numbered] at h
                split at h
                · simp at h
                · rename_i he
                  obtain ⟨u, hu, rfl⟩ := numberedEscape_ok he
                  obtain ⟨v, hv, rfl⟩ := map_cons_ok h
                  obtain ⟨t, ht, rfl⟩ := ih hv
                  exact ⟨_, .numbered hu ht, by simp⟩
              · cases he : simpleEscape? d with
                | none => simp [stringWithin, hu, he, failPast] at h
                | some e =>
                  rw [(stringWithin_simple he n s).1] at h
                  obtain ⟨v, hv, rfl⟩ := map_cons_ok h
                  obtain ⟨t, ht, rfl⟩ := ih hv
                  exact ⟨_, .simple he ht, rfl⟩
          · have hp : IsPlainChar c := ⟨hq, hc, hb⟩
            rw [(stringWithin_plain hp n s).1] at h
            obtain ⟨v, hv, rfl⟩ := map_cons_ok h
            obtain ⟨t, ht, rfl⟩ := ih hv
            exact ⟨_, .plain hp ht, rfl⟩

/-- A string is read, and skipped, up to its closing quote. -/
theorem IsStringText.read {t v : List Char} (h : IsStringText t v) {m : Nat} (hm : t.length ≤ m)
    (r : List Char) :
    stringWithin m (t ++ r) = .ok (v, r) ∧ skipStringWithin m (t ++ r) = .ok r := by
  induction h generalizing m with
  | close =>
    obtain ⟨m, rfl⟩ : ∃ k, m = k + 1 := ⟨m - 1, by simp at hm; omega⟩
    simp [stringWithin, skipStringWithin]
  | plain hp ht ih =>
    obtain ⟨m, rfl⟩ : ∃ k, m = k + 1 := ⟨m - 1, by simp at hm; omega⟩
    obtain ⟨hr, hs⟩ := @ih m (by simp at hm; omega)
    rw [List.cons_append, (stringWithin_plain hp m _).1, (stringWithin_plain hp m _).2, hr, hs]
    exact ⟨rfl, rfl⟩
  | simple he ht ih =>
    obtain ⟨m, rfl⟩ : ∃ k, m = k + 1 := ⟨m - 1, by simp at hm; omega⟩
    obtain ⟨hr, hs⟩ := @ih m (by simp at hm; omega)
    rw [List.cons_append, List.cons_append, (stringWithin_simple he m _).1,
      (stringWithin_simple he m _).2, hr, hs]
    exact ⟨rfl, rfl⟩
  | @numbered u t v c hu ht ih =>
    simp only [List.length_cons, List.length_append] at hm
    obtain ⟨m, rfl⟩ : ∃ k, m = k + 1 := ⟨m - 1, by omega⟩
    obtain ⟨hr, -⟩ := @ih m (by omega)
    obtain ⟨k, hk, hs⟩ := hu.skip (m := m) (by omega) (t ++ r)
    obtain ⟨-, ht⟩ := @ih k (by omega)
    rw [List.cons_append, List.cons_append, List.append_assoc, stringWithin_numbered, hu.read, hs]
    exact ⟨by simp only [hr]; rfl, ht⟩

theorem string_ok {s r : List Char} {v : String} (h : string s = .ok (v, r)) :
    ∃ t, s = t ++ r ∧
      ∀ r', string (t ++ r') = .ok (v, r') ∧ skipString (t ++ r') = .ok r' := by
  unfold string at h
  cases hs : stringWithin (s.length + 1) s with
  | error fault => simp [hs, Except.map] at h
  | ok found =>
    obtain ⟨u, r''⟩ := found
    obtain ⟨rfl, rfl⟩ : String.ofList u = v ∧ r'' = r := by simpa [hs, Except.map] using h
    obtain ⟨t, ht, rfl⟩ := stringWithin_ok hs
    refine ⟨t, rfl, fun r' => ?_⟩
    have hl : t.length ≤ (t ++ r').length + 1 := by
      simp only [List.length_append]
      omega
    obtain ⟨hr, hk⟩ := ht.read hl r'
    exact ⟨by rw [string, hr]; rfl, hk⟩

/-- What is skipped of a string does not depend on what is behind it. -/
theorem skipStringWithin_ok {n : Nat} {s r : List Char} (h : skipStringWithin n s = .ok r) :
    ∃ t, s = t ++ r ∧ ∀ r' m, t.length ≤ m → skipStringWithin m (t ++ r') = .ok r' := by
  induction n generalizing s with
  | zero => simp [skipStringWithin, failAt] at h
  | succ n ih =>
    cases s with
    | nil => simp [skipStringWithin, failAt] at h
    | cons c s =>
      by_cases hq : c = '\x22'
      · obtain rfl : s = r := by simpa [skipStringWithin, hq] using h
        refine ⟨['\x22'], by simp [hq], fun r' m hm => ?_⟩
        obtain ⟨m, rfl⟩ : ∃ k, m = k + 1 := ⟨m - 1, by simp at hm; omega⟩
        simp [skipStringWithin]
      · by_cases hc : c.toNat < 0x20
        · simp [skipStringWithin, hq, hc, failAt] at h
        · by_cases hb : c = '\\'
          · subst hb
            cases s with
            | nil => simp [skipStringWithin, failAt] at h
            | cons d s =>
              by_cases hu : d = 'u'
              · subst hu
                cases hf : fourDigits s with
                | error fault => simp [skipStringWithin, hf] at h
                | ok found =>
                  obtain ⟨k, rest⟩ := found
                  obtain ⟨u, hu, rfl⟩ := fourDigits_ok hf
                  have hr : skipStringWithin n rest = .ok r := by
                    simpa [skipStringWithin, hc, hf] using h
                  obtain ⟨t, rfl, ht⟩ := ih hr
                  refine ⟨'\\' :: 'u' :: (u ++ t), by simp, fun r' m hm => ?_⟩
                  simp only [List.length_cons, List.length_append] at hm
                  obtain ⟨m, rfl⟩ : ∃ k, m = k + 1 := ⟨m - 1, by omega⟩
                  simp [skipStringWithin, hu.2, ht r' m (by omega)]
              · cases he : simpleEscape? d with
                | none => simp [skipStringWithin, hu, he, failPast] at h
                | some e =>
                  rw [(stringWithin_simple he n s).2] at h
                  obtain ⟨t, rfl, ht⟩ := ih h
                  refine ⟨'\\' :: d :: t, rfl, fun r' m hm => ?_⟩
                  simp only [List.length_cons] at hm
                  obtain ⟨m, rfl⟩ : ∃ k, m = k + 1 := ⟨m - 1, by omega⟩
                  rw [List.cons_append, List.cons_append, (stringWithin_simple he m _).2]
                  exact ht r' m (by omega)
          · have hp : IsPlainChar c := ⟨hq, hc, hb⟩
            rw [(stringWithin_plain hp n s).2] at h
            obtain ⟨t, rfl, ht⟩ := ih h
            refine ⟨c :: t, rfl, fun r' m hm => ?_⟩
            simp only [List.length_cons] at hm
            obtain ⟨m, rfl⟩ : ∃ k, m = k + 1 := ⟨m - 1, by omega⟩
            rw [List.cons_append, (stringWithin_plain hp m _).2]
            exact ht r' m (by omega)

theorem skipString_ok {s r : List Char} (h : skipString s = .ok r) :
    ∃ t, s = t ++ r ∧ ∀ r', skipString (t ++ r') = .ok r' := by
  obtain ⟨t, rfl, ht⟩ := skipStringWithin_ok h
  refine ⟨t, rfl, fun r' => ht r' _ ?_⟩
  simp only [List.length_append]
  omega

/-! ### Scalars -/

theorem word_ok {w s r : List Char} (h : word w s = .ok r) : s = w ++ r := by
  induction w generalizing s with
  | nil => simpa [word] using h
  | cons c w ih =>
    cases s with
    | nil => simp [word, failAt] at h
    | cons d s =>
      by_cases hd : d = c
      · have hw : word w s = .ok r := by simpa [word, hd] using h
        rw [hd, ih hw]
        rfl
      · simp [word, hd, failPast] at h

theorem word_append (w r : List Char) : word w (w ++ r) = .ok r := by
  induction w with
  | nil => rfl
  | cons c w ih => simp [word, ih]

/-- What the first character of a value that is no list or object tells about the value. -/
inductive Kind where
  /-- A word, of which so much is behind the first character. -/
  | word (rest : List Char) (value : Value)
  | negative
  | digit
  | quote
  | other

def Kind.of (c : Char) : Kind :=
  if c = 'n' then .word ['u', 'l', 'l'] .null
  else if c = 't' then .word ['r', 'u', 'e'] (.bool true)
  else if c = 'f' then .word ['a', 'l', 's', 'e'] (.bool false)
  else if c = '-' then .negative
  else if isDigit c then .digit
  else if c = '\x22' then .quote
  else .other

theorem scalar_eq (c : Char) (s : List Char) :
    scalar c s = match Kind.of c with
      | .word rest v => (word rest s).map fun s => (v, s)
      | .negative => (number true s).map fun found => (.number found.1, found.2)
      | .digit => (number false (c :: s)).map fun found => (.number found.1, found.2)
      | .quote => (string s).map fun found => (.string found.1, found.2)
      | .other => failPast .expectedValue (c :: s) := by
  unfold scalar Kind.of
  repeat' split
  all_goals simp_all

/-- Past a value that is no list or object, and begins with `c`. -/
def skipScalar (c : Char) (s : List Char) : Except Fault (List Char) :=
  match Kind.of c with
  | .word rest _ => word rest s
  | .negative => skipNumber s
  | .digit => skipNumber (c :: s)
  | .quote => skipString s
  | .other => failPast .expectedValue (c :: s)

theorem map_ok {α β : Type} {f : α → β} {result : Result α} {b : β} {r : List Char}
    (h : result.map (fun found => (f found.1, found.2)) = .ok (b, r)) :
    ∃ a, result = .ok (a, r) ∧ f a = b := by
  cases result with
  | error fault => simp [Except.map] at h
  | ok found =>
    obtain ⟨a, s⟩ := found
    obtain ⟨rfl, rfl⟩ : f a = b ∧ s = r := by simpa [Except.map] using h
    exact ⟨a, rfl, rfl⟩

theorem map_word_ok {w s r : List Char} {v u : Value}
    (h : (word w s).map (fun s => (u, s)) = .ok (v, r)) : s = w ++ r ∧ u = v := by
  cases hw : word w s with
  | error fault => simp [hw, Except.map] at h
  | ok s' =>
    obtain ⟨rfl, rfl⟩ : u = v ∧ s' = r := by simpa [hw, Except.map] using h
    exact ⟨word_ok hw, rfl⟩

/-- A number that begins with a digit goes on behind it. -/
theorem exists_tail {c : Char} {s t r : List Char} (ht : IsNumber t) (h : c :: s = t ++ r) :
    ∃ u, t = c :: u ∧ s = u ++ r := by
  cases ht with
  | @mk ds f hd hz hf =>
    obtain ⟨hn, -⟩ := hd
    cases ds with
    | nil => exact absurd rfl hn
    | cons d ds =>
      obtain ⟨rfl, rfl⟩ : c = d ∧ s = ds ++ f ++ r := by simpa using h
      exact ⟨ds ++ f, rfl, rfl⟩

/-- What is read of a value does not depend on what is behind it, and it can be skipped. -/
theorem scalar_ok {c : Char} {s r : List Char} {v : Value} (h : scalar c s = .ok (v, r)) :
    ∃ t, s = t ++ r ∧
      ∀ r', Ends r' → scalar c (t ++ r') = .ok (v, r') ∧ skipScalar c (t ++ r') = .ok r' := by
  simp only [scalar_eq, skipScalar] at h ⊢
  cases hk : Kind.of c with
  | word w u =>
    simp only [hk] at h ⊢
    obtain ⟨rfl, rfl⟩ := map_word_ok h
    refine ⟨w, rfl, fun r' _ => ?_⟩
    rw [word_append]
    exact ⟨rfl, rfl⟩
  | negative =>
    simp only [hk] at h ⊢
    obtain ⟨x, hx, rfl⟩ := map_ok h
    obtain ⟨t, ht, rfl, hr⟩ := number_ok hx
    refine ⟨t, rfl, fun r' hr' => ?_⟩
    rw [hr r' hr', skipNumber_append ht hr']
    exact ⟨rfl, rfl⟩
  | digit =>
    simp only [hk] at h ⊢
    obtain ⟨x, hx, rfl⟩ := map_ok h
    obtain ⟨t, ht, hs, hr⟩ := number_ok hx
    obtain ⟨u, rfl, rfl⟩ := exists_tail ht hs
    refine ⟨u, rfl, fun r' hr' => ?_⟩
    rw [← List.cons_append, hr r' hr', skipNumber_append ht hr']
    exact ⟨rfl, rfl⟩
  | quote =>
    simp only [hk] at h ⊢
    obtain ⟨x, hx, rfl⟩ := map_ok h
    obtain ⟨t, rfl, hr⟩ := string_ok hx
    refine ⟨t, rfl, fun r' _ => ?_⟩
    rw [(hr r').1, (hr r').2]
    exact ⟨rfl, rfl⟩
  | other => simp [hk, failPast] at h

/-- What is skipped of a value does not depend on what is behind it. -/
theorem skipScalar_ok {c : Char} {s r : List Char} (h : skipScalar c s = .ok r) :
    ∃ t, s = t ++ r ∧ ∀ r', Ends r' → skipScalar c (t ++ r') = .ok r' := by
  simp only [skipScalar] at h ⊢
  cases hk : Kind.of c with
  | word w u =>
    simp only [hk] at h ⊢
    exact ⟨w, word_ok h, fun r' _ => word_append w r'⟩
  | negative =>
    simp only [hk] at h ⊢
    obtain ⟨t, ht, rfl⟩ := skipNumber_ok h
    exact ⟨t, rfl, fun r' hr' => skipNumber_append ht hr'⟩
  | digit =>
    simp only [hk] at h ⊢
    obtain ⟨t, ht, hs⟩ := skipNumber_ok h
    obtain ⟨u, rfl, rfl⟩ := exists_tail ht hs
    exact ⟨u, rfl, fun r' hr' => skipNumber_append ht hr'⟩
  | quote =>
    simp only [hk] at h ⊢
    obtain ⟨t, rfl, hr⟩ := skipString_ok h
    exact ⟨t, rfl, fun r' _ => hr r'⟩
  | other => simp [hk, failPast] at h

end EditorBridge.Json

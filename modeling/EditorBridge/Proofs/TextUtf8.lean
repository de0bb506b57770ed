import EditorBridge.Text.Utf8

/-!
UTF-8 read strictly. Bytes have a text exactly if they are what the text is written as, so no bytes
that belong to no character are passed over, and no character is read from bytes that it is not
written as.
-/

namespace EditorBridge.Text

theorem utf8Rest_zero (bits low high : Nat) (s : List UInt8) :
    utf8Rest 0 bits low high s = (some (Char.ofNat bits), s) := by
  cases s <;> simp [utf8Rest]

theorem utf8Rest_succ (missing bits low high : Nat) (b : UInt8) (s : List UInt8) :
    utf8Rest (missing + 1) bits low high (b :: s) =
      if low ≤ b.toNat ∧ b.toNat ≤ high then
        utf8Rest missing (bits * 64 + (b.toNat - 0x80)) 0x80 0xBF s
      else (none, b :: s) := by
  simp [utf8Rest]

/-- The number of bytes of a character decides what its first byte holds and which bytes may come
next: none that would write a character with more bytes than it needs, a surrogate, or a number past
the last character. -/
theorem utf8Lead_eq (b : UInt8) :
    utf8Lead? b =
      if b.toNat < 0x80 then some (1, b.toNat, 0, 0)
      else if b.toNat < 0xC2 then none
      else if b.toNat < 0xE0 then some (2, b.toNat - 0xC0, 0x80, 0xBF)
      else if b.toNat < 0xF0 then
        some (3, b.toNat - 0xE0, if b.toNat = 0xE0 then 0xA0 else 0x80,
          if b.toNat = 0xED then 0x9F else 0xBF)
      else if b.toNat < 0xF5 then
        some (4, b.toNat - 0xF0, if b.toNat = 0xF0 then 0x90 else 0x80,
          if b.toNat = 0xF4 then 0x8F else 0xBF)
      else none := by
  simp only [utf8Lead?, Bool.and_eq_true, decide_eq_true_eq]
  by_cases h : b.toNat < 0xF0 <;> grind

/-- How a character is written, by the number of its bytes. -/
theorem utf8EncodeChar_eq (c : Char) :
    String.utf8EncodeChar c =
      if c.toNat ≤ 0x7F then [UInt8.ofNat c.toNat]
      else if c.toNat ≤ 0x7FF then
        [UInt8.ofNat (c.toNat / 64 % 32 + 0xC0), UInt8.ofNat (c.toNat % 64 + 0x80)]
      else if c.toNat ≤ 0xFFFF then
        [UInt8.ofNat (c.toNat / 4096 % 16 + 0xE0), UInt8.ofNat (c.toNat / 64 % 64 + 0x80),
          UInt8.ofNat (c.toNat % 64 + 0x80)]
      else
        [UInt8.ofNat (c.toNat / 262144 % 8 + 0xF0), UInt8.ofNat (c.toNat / 4096 % 64 + 0x80),
          UInt8.ofNat (c.toNat / 64 % 64 + 0x80), UInt8.ofNat (c.toNat % 64 + 0x80)] := rfl

theorem toNat_lt (c : Char) : c.toNat < 0xD800 ∨ 0xDFFF < c.toNat ∧ c.toNat < 0x110000 := by
  have h := c.valid
  simpa [UInt32.isValidChar, Nat.isValidChar] using h

theorem ofNat_eq {c : Char} {n : Nat} (h : n = c.toNat) : Char.ofNat n = c := by
  rw [h, Char.ofNat_toNat]

theorem toNat_ofNat_byte {n : Nat} (h : n < 256) : (UInt8.ofNat n).toNat = n := by
  simp; omega

/-- The bytes of a character are read as the character, whatever follows them. -/
theorem utf8Within_encode (n : Nat) (c : Char) (s : List UInt8) :
    utf8Within (n + 1) (String.utf8EncodeChar c ++ s) = some c :: utf8Within n s := by
  have hv := toNat_lt c
  have h₀ := @toNat_ofNat_byte (c.toNat % 64 + 0x80) (by omega)
  have h₁ := @toNat_ofNat_byte (c.toNat / 64 % 64 + 0x80) (by omega)
  rw [utf8EncodeChar_eq]
  split
  case isTrue h =>
    have hl := @toNat_ofNat_byte c.toNat (by omega)
    simp only [List.cons_append, List.nil_append, utf8Within, utf8Lead_eq, hl]
    rw [if_pos (by omega)]
    simp [utf8Rest_zero]
  case isFalse =>
  split
  case isTrue h =>
    have hl := @toNat_ofNat_byte (c.toNat / 64 % 32 + 0xC0) (by omega)
    simp only [List.cons_append, List.nil_append, utf8Within, utf8Lead_eq, hl]
    rw [if_neg (by omega), if_neg (by omega), if_pos (by omega)]
    simp only [utf8Rest_succ, h₀, utf8Rest_zero]
    rw [if_pos (by omega), @ofNat_eq c _ (by omega)]
  case isFalse =>
  split
  case isTrue h =>
    have hl := @toNat_ofNat_byte (c.toNat / 4096 % 16 + 0xE0) (by omega)
    simp only [List.cons_append, List.nil_append, utf8Within, utf8Lead_eq, hl]
    rw [if_neg (by omega), if_neg (by omega), if_neg (by omega), if_pos (by omega)]
    simp only [utf8Rest_succ, h₀, h₁, utf8Rest_zero]
    rw [if_pos (by split <;> split <;> omega), if_pos (by omega), @ofNat_eq c _ (by omega)]
  case isFalse =>
    have hl := @toNat_ofNat_byte (c.toNat / 262144 % 8 + 0xF0) (by omega)
    have h₂ := @toNat_ofNat_byte (c.toNat / 4096 % 64 + 0x80) (by omega)
    simp only [List.cons_append, List.nil_append, utf8Within, utf8Lead_eq, hl]
    rw [if_neg (by omega), if_neg (by omega), if_neg (by omega), if_neg (by omega),
      if_pos (by omega)]
    simp only [utf8Rest_succ, h₀, h₁, h₂, utf8Rest_zero]
    rw [if_pos (by split <;> split <;> omega), if_pos (by omega), if_pos (by omega),
      @ofNat_eq c _ (by omega)]

theorem length_le_utf8 (s : List Char) : s.length ≤ (utf8 s).length := by
  induction s with
  | nil => simp
  | cons c s ih =>
    have hp := Char.utf8Size_pos c
    simp only [utf8, List.flatMap_cons, List.length_append, String.length_utf8EncodeChar,
      List.length_cons] at ih ⊢
    omega

/-- What a text is written as is read as the text. -/
theorem utf8Within_utf8 (n : Nat) (s : List Char) (h : s.length ≤ n) :
    utf8Within n (utf8 s) = s.map some := by
  induction s generalizing n with
  | nil => cases n <;> rfl
  | cons c s ih =>
    obtain ⟨n, rfl⟩ : ∃ m, n = m + 1 := ⟨n - 1, by simp at h; omega⟩
    have hs : utf8 (c :: s) = String.utf8EncodeChar c ++ utf8 s := by simp [utf8]
    rw [hs, utf8Within_encode, ih n (by simpa using h), List.map_cons]

theorem byte_eq {b : UInt8} {n : Nat} (h : b.toNat = n) : UInt8.ofNat n = b := by
  rw [← h, UInt8.ofNat_toNat]

theorem toNat_ofNat_char {n : Nat} (h : n < 0xD800 ∨ 0xDFFF < n ∧ n < 0x110000) :
    (Char.ofNat n).toNat = n := by
  have hv : n.isValidChar := by simpa [Nat.isValidChar] using h
  rw [Char.ofNat, dif_pos hv]
  rfl

/-- A byte that is read behind others fits, and the rest is read behind it. -/
theorem utf8Rest_some {missing bits low high : Nat} {s rest : List UInt8} {c : Char}
    (h : utf8Rest (missing + 1) bits low high s = (some c, rest)) :
    ∃ b after, s = b :: after ∧ (low ≤ b.toNat ∧ b.toNat ≤ high) ∧
      utf8Rest missing (bits * 64 + (b.toNat - 0x80)) 0x80 0xBF after = (some c, rest) := by
  cases s with
  | nil => simp [utf8Rest] at h
  | cons b after =>
    rw [utf8Rest_succ] at h
    split at h
    case isTrue hb => exact ⟨b, after, rfl, hb, h⟩
    case isFalse => simp at h

theorem utf8Rest_zero_some {bits low high : Nat} {s rest : List UInt8} {c : Char}
    (h : utf8Rest 0 bits low high s = (some c, rest)) : c = Char.ofNat bits ∧ s = rest := by
  rw [utf8Rest_zero] at h
  simpa [eq_comm] using h

/-- Bytes that are read as a character are what the character is written as. -/
theorem eq_encode_of_utf8Rest {b : UInt8} {length bits low high : Nat} {s rest : List UInt8}
    {c : Char} (hl : utf8Lead? b = some (length, bits, low, high))
    (h : utf8Rest (length - 1) bits low high s = (some c, rest)) :
    b :: s = String.utf8EncodeChar c ++ rest := by
  rw [utf8Lead_eq] at hl
  split at hl
  case isTrue hb =>
    simp only [Option.some.injEq, Prod.mk.injEq] at hl
    obtain ⟨rfl, rfl, rfl, rfl⟩ := hl
    obtain ⟨rfl, rfl⟩ := utf8Rest_zero_some h
    have hn := @toNat_ofNat_char b.toNat (by omega)
    rw [utf8EncodeChar_eq, hn, if_pos (by omega)]
    simp
  case isFalse =>
  split at hl
  case isTrue => simp at hl
  case isFalse =>
  split at hl
  case isTrue hb =>
    simp only [Option.some.injEq, Prod.mk.injEq] at hl
    obtain ⟨rfl, rfl, rfl, rfl⟩ := hl
    obtain ⟨b₁, s₁, hs₁, hb₁, h₁⟩ := utf8Rest_some h
    obtain ⟨hc, hr⟩ := utf8Rest_zero_some h₁
    have hn := @toNat_ofNat_char ((b.toNat - 0xC0) * 64 + (b₁.toNat - 0x80)) (by omega)
    rw [hs₁, hr, hc, utf8EncodeChar_eq, hn, if_neg (by omega), if_pos (by omega),
      @byte_eq b _ (by omega), @byte_eq b₁ _ (by omega)]
    simp
  case isFalse =>
  split at hl
  case isTrue hb =>
    simp only [Option.some.injEq, Prod.mk.injEq] at hl
    obtain ⟨rfl, rfl, rfl, rfl⟩ := hl
    obtain ⟨b₁, s₁, hs₁, hb₁, h₁⟩ := utf8Rest_some h
    obtain ⟨b₂, s₂, hs₂, hb₂, h₂⟩ := utf8Rest_some h₁
    obtain ⟨hc, hr⟩ := utf8Rest_zero_some h₂
    have hf : (0x80 ≤ b₁.toNat ∧ b₁.toNat ≤ 0xBF) ∧ (b.toNat = 0xE0 → 0xA0 ≤ b₁.toNat) ∧
        (b.toNat = 0xED → b₁.toNat ≤ 0x9F) := by grind
    have hn := @toNat_ofNat_char
      (((b.toNat - 0xE0) * 64 + (b₁.toNat - 0x80)) * 64 + (b₂.toNat - 0x80)) (by omega)
    rw [hs₁, hs₂, hr, hc, utf8EncodeChar_eq, hn, if_neg (by omega), if_neg (by omega),
      if_pos (by omega), @byte_eq b _ (by omega), @byte_eq b₁ _ (by omega),
      @byte_eq b₂ _ (by omega)]
    simp
  case isFalse =>
  split at hl
  case isTrue hb =>
    simp only [Option.some.injEq, Prod.mk.injEq] at hl
    obtain ⟨rfl, rfl, rfl, rfl⟩ := hl
    obtain ⟨b₁, s₁, hs₁, hb₁, h₁⟩ := utf8Rest_some h
    obtain ⟨b₂, s₂, hs₂, hb₂, h₂⟩ := utf8Rest_some h₁
    obtain ⟨b₃, s₃, hs₃, hb₃, h₃⟩ := utf8Rest_some h₂
    obtain ⟨hc, hr⟩ := utf8Rest_zero_some h₃
    have hf : (0x80 ≤ b₁.toNat ∧ b₁.toNat ≤ 0xBF) ∧ (b.toNat = 0xF0 → 0x90 ≤ b₁.toNat) ∧
        (b.toNat = 0xF4 → b₁.toNat ≤ 0x8F) := by grind
    have hn := @toNat_ofNat_char
      ((((b.toNat - 0xF0) * 64 + (b₁.toNat - 0x80)) * 64 + (b₂.toNat - 0x80)) * 64 +
        (b₃.toNat - 0x80)) (by omega)
    rw [hs₁, hs₂, hs₃, hr, hc, utf8EncodeChar_eq, hn, if_neg (by omega), if_neg (by omega),
      if_neg (by omega), @byte_eq b _ (by omega), @byte_eq b₁ _ (by omega),
      @byte_eq b₂ _ (by omega), @byte_eq b₃ _ (by omega)]
    simp
  case isFalse => simp at hl

/-- Bytes of which every part is a character are what the characters are written as. -/
theorem utf8_of_utf8Within (n : Nat) (bytes : List UInt8) (s : List Char)
    (hn : bytes.length ≤ n) (h : utf8Within n bytes = s.map some) : utf8 s = bytes := by
  induction n generalizing bytes s with
  | zero =>
    obtain rfl : bytes = [] := by simpa using hn
    obtain rfl : s = [] := by simpa [utf8Within] using h
    rfl
  | succ n ih =>
    cases bytes with
    | nil =>
      obtain rfl : s = [] := by simpa [utf8Within] using h
      rfl
    | cons b rest =>
      rw [utf8Within] at h
      cases hl : utf8Lead? b with
      | none => cases s <;> simp [hl] at h
      | some lead =>
        obtain ⟨length, bits, low, high⟩ := lead
        cases s with
        | nil => simp [hl] at h
        | cons c s =>
          simp only [hl, List.map_cons, List.cons.injEq] at h
          have hr := eq_encode_of_utf8Rest (c := c) hl (Prod.ext h.1 rfl)
          have hc := congrArg List.length hr
          have hp := Char.utf8Size_pos c
          simp only [List.length_cons, List.length_append, String.length_utf8EncodeChar] at hc hn
          rw [utf8, List.flatMap_cons, hr]
          congr 1
          exact ih _ s (by omega) h.2

theorem mapM_id_eq_some {α : Type} {l : List (Option α)} {s : List α} :
    l.mapM id = some s ↔ l = s.map some := by
  induction l generalizing s with
  | nil => cases s <;> simp
  | cons a l ih =>
    cases s with
    | nil => cases a <;> simp [Option.bind_eq_some_iff]
    | cons b s =>
      cases a <;> simp [Option.bind_eq_some_iff, ih]
      exact and_comm

/-- Bytes have a text exactly if they are what the text is written as. -/
theorem ofUtf8_eq_some_iff {bytes : List UInt8} {s : List Char} :
    ofUtf8? bytes = some s ↔ bytes = utf8 s := by
  constructor
  · intro h
    exact (utf8_of_utf8Within bytes.length bytes s (by simp) (mapM_id_eq_some.mp h)).symm
  · rintro rfl
    exact mapM_id_eq_some.mpr (utf8Within_utf8 _ s (length_le_utf8 s))

end EditorBridge.Text

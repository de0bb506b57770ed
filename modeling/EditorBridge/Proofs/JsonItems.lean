import EditorBridge.Proofs.JsonTree

/-!
The scanners between the values of JSON text: commas, colons, names of members, and the ends of
lists and objects. Each of them takes a token off a spaced text, and there was that token if it
succeeds.
-/

namespace EditorBridge.Json

def textOf? : List Char → Option String
  | '\x22' :: rest =>
    match string rest with
    | .ok (text, []) => some text
    | _ => none
  | _ => none

theorem textOf_ok {t : List Char} {v : String} (h : textOf? t = some v) :
    ∃ u, t = '\x22' :: u ∧
      ∀ r, string (u ++ r) = .ok (v, r) ∧ skipString (u ++ r) = .ok r := by
  unfold textOf? at h
  split at h
  · split at h
    · rename_i u text hs
      obtain rfl := Option.some.inj h
      obtain ⟨u, rfl, hu⟩ := string_ok hs
      exact ⟨u, by simp, hu⟩
    · simp at h
  · simp at h

theorem textOf_isNameText {t : List Char} {v : String} (h : textOf? t = some v) :
    isNameText t = true := by
  obtain ⟨u, rfl, hu⟩ := textOf_ok h
  have hs : skipScalar '\x22' u = .ok [] := by
    simpa [skipScalar, Kind.of, isDigit] using (hu []).2
  simpa [isNameText] using isScalarText_iff.mpr ⟨_, u, rfl, hs⟩

theorem textOf_of_string {s r : List Char} {v : String} (h : string s = .ok (v, r)) :
    ∃ u, s = u ++ r ∧ textOf? ('\x22' :: u) = some v := by
  obtain ⟨u, rfl, hu⟩ := string_ok h
  have hn : string u = .ok (v, []) := by simpa using (hu []).1
  exact ⟨u, rfl, by simp [textOf?, hn]⟩

section Scanning

variable {s r t : List Char} {ts : List (List Char)} {isFirst : Bool}

/-- A text that begins with a token behind white space. -/
theorem spaced_of_skip {rest : List Char} (h : skipSpace s = t ++ rest) (hr : Spaced ts rest) :
    Spaced (t :: ts) s :=
  spaced_of_skipSpace (h ▸ hr.token t)

theorem listEnd_spaced (h : Spaced ([']'] :: ts) s) :
    ∃ r, listEnd s = .ok r ∧ Spaced ts r := by
  obtain ⟨r, hs, hr⟩ := h.skip (by decide)
  exact ⟨r, by simp [listEnd, hs], hr⟩

theorem listEnd_ok (h : listEnd s = .ok r) (hr : Spaced ts r) : Spaced ([']'] :: ts) s := by
  unfold listEnd at h
  split at h
  · simp [failPast] at h
  · rename_i c rest hs
    split at h
    · rename_i hc
      obtain rfl := Except.ok.inj h
      exact spaced_of_skip (by rw [hs, hc]; rfl) hr
    · split at h
      · dsimp only at h
        split at h <;> simp [failPast] at h
      · simp [failPast] at h

theorem objectEnd_spaced (h : Spaced (['\x7d'] :: ts) s) :
    ∃ r, objectEnd s = .ok r ∧ Spaced ts r := by
  obtain ⟨r, hs, hr⟩ := h.skip (by decide)
  exact ⟨r, by simp [objectEnd, hs], hr⟩

theorem colon_spaced (h : Spaced ([':'] :: ts) s) : ∃ r, colon s = .ok r ∧ Spaced ts r := by
  obtain ⟨r, hs, hr⟩ := h.skip (by decide)
  exact ⟨r, by simp [colon, hs], hr⟩

theorem colon_ok (h : colon s = .ok r) (hr : Spaced ts r) : Spaced ([':'] :: ts) s := by
  unfold colon at h
  split at h
  · simp [failPast] at h
  · rename_i c rest hs
    split at h
    · rename_i hc
      obtain rfl := Except.ok.inj h
      exact spaced_of_skip (by rw [hs, hc]; rfl) hr
    · simp [failPast] at h

theorem nextItem_end (h : Spaced ([']'] :: ts) s) (isFirst : Bool) :
    ∃ r, nextItem isFirst s = .ok (none, ']' :: r) ∧ Spaced ts r := by
  obtain ⟨r, hs, hr⟩ := h.skip (by decide)
  exact ⟨r, by simp [nextItem, hs], hr⟩

/-- An item begins with a token other than the end of the list. -/
theorem nextItem_spaced {c : Char} (h : Spaced (separator isFirst ++ (c :: t) :: ts) s)
    (hc : isSpace c = false ∧ c ≠ ']') :
    ∃ r r', nextItem isFirst s = .ok (some r, r') ∧ Spaced ((c :: t) :: ts) r := by
  cases isFirst with
  | true =>
    obtain ⟨r, hs, hr⟩ := Spaced.skip h hc.1
    refine ⟨c :: (t ++ r), c :: (t ++ r), by simp [nextItem, hs, hc.2], hr.token (c :: t)⟩
  | false =>
    obtain ⟨r, hs, hr⟩ := Spaced.skip h (by decide)
    obtain ⟨r', hs', hr'⟩ := hr.skip hc.1
    refine ⟨c :: (t ++ r'), c :: (t ++ r'), ?_, hr'.token (c :: t)⟩
    simp [nextItem, hs, hs', hc.2]

theorem nextItem_some {r' : List Char} (h : nextItem isFirst s = .ok (some r, r'))
    (hr : Spaced ts r) : Spaced (separator isFirst ++ ts) s := by
  unfold nextItem at h
  split at h
  · simp [failPast] at h
  · rename_i c rest hs
    split at h
    · simp at h
    · split at h
      · rename_i hf
        obtain ⟨rfl, -⟩ : c :: rest = r ∧ c :: rest = r' := by simpa using h
        rw [hf]
        exact spaced_of_skipSpace (hs ▸ hr)
      · rename_i hf
        split at h
        · rename_i hc
          split at h
          · simp [failPast] at h
          · rename_i d after hd
            split at h
            · simp [failPast] at h
            · obtain ⟨rfl, -⟩ : d :: after = r ∧ d :: after = r' := by simpa using h
              have hb : isFirst = false := by simpa using hf
              rw [hb]
              exact spaced_of_skip (by rw [hs, hc]; rfl) (spaced_of_skipSpace (hd ▸ hr))
        · simp [failPast] at h

theorem nextItem_none (h : nextItem isFirst s = .ok (none, r)) :
    ∃ r', r = ']' :: r' ∧ ∀ ts, Spaced ts r' → Spaced ([']'] :: ts) s := by
  unfold nextItem at h
  split at h
  · simp [failPast] at h
  · rename_i c rest hs
    split at h
    · rename_i hc
      obtain rfl : c :: rest = r := by simpa using h
      exact ⟨rest, by rw [hc], fun ts hr => spaced_of_skip (by rw [hs, hc]; rfl) hr⟩
    · split at h
      · simp at h
      · split at h
        · split at h
          · simp [failPast] at h
          · split at h <;> simp [failPast] at h
        · simp [failPast] at h

theorem nextName_end (h : Spaced (['\x7d'] :: ts) s) (isFirst : Bool) :
    ∃ r, nextName isFirst s = .ok (none, '\x7d' :: r) ∧ Spaced ts r := by
  obtain ⟨r, hs, hr⟩ := h.skip (by decide)
  exact ⟨r, by simp [nextName, hs], hr⟩

/-- A member begins with its name and a colon. -/
theorem nextName_spaced {v : String} (h : Spaced (separator isFirst ++ t :: [':'] :: ts) s)
    (hv : textOf? t = some v) :
    ∃ r r', nextName isFirst s = .ok (some v, r) ∧ colon r = .ok r' ∧ Spaced ts r' := by
  obtain ⟨u, rfl, hu⟩ := textOf_ok hv
  cases isFirst with
  | true =>
    obtain ⟨r, hs, hr⟩ := Spaced.skip h (by decide)
    obtain ⟨r', hc, hr'⟩ := colon_spaced hr
    exact ⟨r, r', by simp [nextName, hs, (hu r).1, Except.map], hc, hr'⟩
  | false =>
    obtain ⟨r₀, hs₀, hr₀⟩ := Spaced.skip h (by decide)
    obtain ⟨r, hs, hr⟩ := hr₀.skip (by decide)
    obtain ⟨r', hc, hr'⟩ := colon_spaced hr
    exact ⟨r, r', by simp [nextName, hs₀, hs, (hu r).1, Except.map], hc, hr'⟩

def nameAt (s : List Char) : Result (Option String) :=
  match s with
  | '\x22' :: rest => (string rest).map fun found => (some found.1, found.2)
  | _ => failPast .keyNotString s

theorem nameAt_ok {name : Option String} (h : nameAt s = .ok (name, r)) :
    ∃ v t, name = some v ∧ textOf? t = some v ∧ s = t ++ r := by
  unfold nameAt at h
  split at h
  · obtain ⟨v, hv, rfl⟩ := map_ok h
    obtain ⟨u, rfl, hu⟩ := textOf_of_string hv
    exact ⟨v, _, rfl, hu, rfl⟩
  · simp [failPast] at h

/-- Where the search for the next member of an object ends. -/
theorem nextName_cases {name : Option String} (h : nextName isFirst s = .ok (name, r)) :
    (∃ rest, skipSpace s = '\x7d' :: rest ∧ name = none ∧ r = '\x7d' :: rest) ∨
      ∃ s', nameAt s' = .ok (name, r) ∧
        ∀ ts, Spaced ts s' → Spaced (separator isFirst ++ ts) s := by
  unfold nextName at h
  dsimp only at h
  split at h
  · simp [failPast] at h
  · rename_i c rest hs
    split at h
    · rename_i hc
      obtain ⟨rfl, rfl⟩ : none = name ∧ c :: rest = r := by simpa using h
      exact .inl ⟨rest, by rw [hs, hc], rfl, by rw [hc]⟩
    · split at h
      · rename_i hf
        subst hf
        exact .inr ⟨c :: rest, h, fun ts hr => spaced_of_skipSpace (hs ▸ hr)⟩
      · rename_i hf
        have hb : isFirst = false := by simpa using hf
        subst hb
        split at h
        · rename_i hc
          split at h
          · simp [failPast] at h
          · rename_i d after hd
            split at h
            · simp [failPast] at h
            · exact .inr ⟨d :: after, h, fun ts hr =>
                spaced_of_skip (by rw [hs, hc]; rfl) (spaced_of_skipSpace (hd ▸ hr))⟩
        · simp [failPast] at h

theorem nextName_none (h : nextName isFirst s = .ok (none, r)) :
    ∃ r', r = '\x7d' :: r' ∧ ∀ ts, Spaced ts r' → Spaced (['\x7d'] :: ts) s := by
  obtain ⟨rest, hs, -, rfl⟩ | ⟨s', hn, -⟩ := nextName_cases h
  · exact ⟨rest, rfl, fun ts hr => spaced_of_skip hs hr⟩
  · obtain ⟨v, t, hv, -⟩ := nameAt_ok hn
    simp at hv

theorem nextName_some {v : String} (h : nextName isFirst s = .ok (some v, r)) :
    ∃ t, textOf? t = some v ∧ ∀ ts, Spaced ts r → Spaced (separator isFirst ++ t :: ts) s := by
  obtain ⟨rest, -, hn, -⟩ | ⟨s', hn, hs⟩ := nextName_cases h
  · simp at hn
  · obtain ⟨w, t, hw, ht, rfl⟩ := nameAt_ok hn
    obtain rfl := Option.some.inj hw
    exact ⟨t, ht, fun ts hr => hs _ (hr.token t)⟩

end Scanning

end EditorBridge.Json

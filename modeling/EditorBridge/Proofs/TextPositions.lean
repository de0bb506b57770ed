import EditorBridge.Window

/-!
Lines and characters as numbers. Positions hold words of 32 bits, read from the numbers that fit
into one, and the editor is given the words that follow them.
-/

namespace EditorBridge

/-- The number of an index that is counted from one. An index has 32 bits, and so has its number:
zero follows the last one. -/
def ordinal (index : Nat) : Nat := if index = 4294967295 then 0 else index + 1

/-- A word that one is added to is the number of the index. -/
theorem toNat_add_one (index : UInt32) : (index + 1).toNat = ordinal index.toNat := by
  have hl := index.toNat_lt
  rw [UInt32.toNat_add, UInt32.toNat_one, ordinal]
  split <;> omega

/-- Different indices have different numbers, also where adding one wraps. -/
theorem ordinal_inj {a b : UInt32} : ordinal a.toNat = ordinal b.toNat ↔ a = b := by
  rw [ordinal, ordinal, ← UInt32.toNat_inj]
  split <;> split <;> omega

namespace Location

open Json (Cause Value)

/-- The numbers of 32 bits are read as themselves, and nothing else is. -/
theorem readIndex_eq_ok_iff {value : Value} {index : UInt32} :
    readIndex value = .ok index ↔ value = .number (.integer index.toNat) := by
  have hl := index.toNat_lt
  constructor
  · intro h
    unfold readIndex wrongType at h
    repeat' split at h
    · rename_i n hn
      obtain rfl := Except.ok.inj h
      simp only [Bool.and_eq_true, decide_eq_true_eq] at hn
      have hn : n.toNat < 2 ^ 32 := by omega
      rw [Nat.toUInt32_eq, UInt32.toNat_ofNat_of_lt' hn, Int.toNat_of_nonneg (by omega)]
    · exact absurd h nofun
    · exact absurd h nofun
  · rintro rfl
    have hb : (index.toNat : Int) ≤ 4294967295 := by omega
    simp [readIndex, hb]

end Location

/-- A jump goes to the line and the character of a location, both counted from one. -/
theorem Window.jump_eq (config : Config) (location : Location) :
    jump? config location = location.uri.filePath?.map fun path =>
      Script.tryClient config.jumpClient
        [Script.edit (String.ofList (Text.ofUtf8Lossy path)) (ordinal location.range.start.line)
          (ordinal location.range.start.character)] := by
  simp only [jump?, toNat_add_one, TextPosition.line, TextPosition.character]

end EditorBridge

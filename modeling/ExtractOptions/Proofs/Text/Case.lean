/-
Module: ExtractOptions.Proofs.Text.Case
Purpose: the letter case of ASCII. Lower case changes upper case letters of ASCII and nothing else,
  so a text has as many characters in lower case, and what was a letter of any script stays one.
Main exports: toLower_cases, toList_toLower, lt_of_toLower_lt, isAlphabetic_toLower
-/
import ExtractOptions.Text.Alphabetic

namespace ExtractOptions.Text

/-- Lower case changes the letters of one range of ASCII, and gives letters of another. -/
theorem toLower_cases (c : Char) :
    c.toLower = c ∨
      (0x41 ≤ c.toNat ∧ c.toNat ≤ 0x5A) ∧ 0x61 ≤ c.toLower.toNat ∧ c.toLower.toNat ≤ 0x7A := by
  unfold Char.toLower
  split
  · rename_i upper
    obtain ⟨low, high⟩ := upper
    have low : 0x41 ≤ c.val.toNat := UInt32.le_iff_toNat_le.mp low
    have high : c.val.toNat ≤ 0x5A := UInt32.le_iff_toNat_le.mp high
    have moved : (c.val + ('a'.val - 'A'.val)).toNat = c.val.toNat + 0x20 := by
      rw [UInt32.toNat_add]
      have distance : ('a'.val - 'A'.val).toNat = 0x20 := rfl
      omega
    refine .inr ⟨⟨low, high⟩, ?_⟩
    change 0x61 ≤ (c.val + ('a'.val - 'A'.val)).toNat ∧ (c.val + ('a'.val - 'A'.val)).toNat ≤ 0x7A
    omega
  · exact .inl rfl

/-- A text is put in lower case character by character. -/
theorem toList_toLower (text : String) : text.toLower.toList = text.toList.map Char.toLower :=
  String.toList_map

/-- A character that is one of ASCII in lower case is one of ASCII itself. -/
theorem lt_of_toLower_lt {c : Char} (ascii : c.toLower.toNat < 0x80) : c.toNat < 0x80 := by
  rcases toLower_cases c with same | ⟨⟨-, high⟩, -⟩
  · rwa [same] at ascii
  · omega

/-- The upper case letters of ASCII are letters. -/
theorem isAlphabetic_of_upper {c : Char} (low : 0x41 ≤ c.toNat) (high : c.toNat ≤ 0x5A) :
    isAlphabetic c = true := by
  have listed : (0x41, 0x5A) ∈ alphabeticRanges := List.mem_cons_self
  exact List.any_eq_true.mpr ⟨_, listed, by simp [low, high]⟩

/-- The lower case letters of ASCII are letters. -/
theorem isAlphabetic_of_lower {c : Char} (low : 0x61 ≤ c.toNat) (high : c.toNat ≤ 0x7A) :
    isAlphabetic c = true := by
  have listed : (0x61, 0x7A) ∈ alphabeticRanges := List.mem_cons_of_mem _ List.mem_cons_self
  exact List.any_eq_true.mpr ⟨_, listed, by simp [low, high]⟩

/-- A letter stays one in lower case, and nothing else becomes one. -/
theorem isAlphabetic_toLower (c : Char) : isAlphabetic c.toLower = isAlphabetic c := by
  rcases toLower_cases c with same | ⟨⟨low, high⟩, least, greatest⟩
  · rw [same]
  · rw [isAlphabetic_of_upper low high, isAlphabetic_of_lower least greatest]

end ExtractOptions.Text

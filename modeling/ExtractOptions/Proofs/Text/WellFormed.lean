/-
Module: ExtractOptions.Proofs.Text.WellFormed
Purpose: strict reading accepts the bytes of texts and no others. Where nothing is ill-formed, the
  bytes that a first byte asks for follow it within its bounds, and together they are the bytes that
  the character is written as; so a byte sequence that is read is the one that is written again.
Main exports: Utf8.Begins, Utf8.exists_encodeChar_append, Utf8.eq_encode_of_units,
  Utf8.decode?_eq_some_iff_encode
-/
import ExtractOptions.Proofs.Text.Utf8

namespace ExtractOptions.Text.Utf8

/-! ### The bytes of a code point

The arithmetic of the encoding, one lemma for each number of bytes. The bounds on the second byte
are what makes the shortest form the only one. -/

theorem eq_ofNat {b : UInt8} {n : Nat} (value : n = b.toNat) : UInt8.ofNat n = b := by
  rw [value, UInt8.ofNat_toNat]

theorem val_ofNat_of_valid {v : Nat} (valid : v.isValidChar) : (Char.ofNat v).val.toNat = v := by
  rw [Char.ofNat, dif_pos valid]
  rfl

section CodePoints

variable {a b c d : UInt8}

/-- A byte below 128 is the whole of its character. -/
theorem encodeChar_one (ascii : a.toNat < 0x80) :
    String.utf8EncodeChar (Char.ofNat a.toNat) = [a] := by
  have code := val_ofNat_of_valid (v := a.toNat) (.inl (by omega))
  unfold String.utf8EncodeChar
  simp only [code]
  rw [if_pos (by omega), UInt8.ofNat_toNat]

/-- A byte that follows the first one of a character. -/
def Follows (b : UInt8) : Prop :=
  0x80 ≤ b.toNat ∧ b.toNat ≤ 0xBF

/-- Two bytes within their bounds are those of the code point that they spell. -/
theorem encodeChar_two (low : 0xC2 ≤ a.toNat) (high : a.toNat < 0xE0) (second : Follows b) :
    String.utf8EncodeChar (Char.ofNat ((a.toNat - 0xC0) * 64 + (b.toNat - 0x80))) = [a, b] := by
  obtain ⟨bLow, bHigh⟩ := second
  generalize number : (a.toNat - 0xC0) * 64 + (b.toNat - 0x80) = v
  have code := val_ofNat_of_valid (v := v) (.inl (by omega))
  unfold String.utf8EncodeChar
  simp only [code]
  rw [if_neg (by omega), if_pos (by omega), eq_ofNat (b := a) (by omega),
    eq_ofNat (b := b) (by omega)]

/-- Three bytes are, if they spell no shorter one and no surrogate. -/
theorem encodeChar_three (low : 0xE0 ≤ a.toNat) (high : a.toNat < 0xF0) (second : Follows b)
    (overlong : a.toNat = 0xE0 → 0xA0 ≤ b.toNat) (surrogate : a.toNat = 0xED → b.toNat ≤ 0x9F)
    (third : Follows c) :
    String.utf8EncodeChar
        (Char.ofNat (((a.toNat - 0xE0) * 64 + (b.toNat - 0x80)) * 64 + (c.toNat - 0x80))) =
      [a, b, c] := by
  obtain ⟨bLow, bHigh⟩ := second
  obtain ⟨cLow, cHigh⟩ := third
  generalize number : ((a.toNat - 0xE0) * 64 + (b.toNat - 0x80)) * 64 + (c.toNat - 0x80) = v
  have valid : v.isValidChar := by unfold Nat.isValidChar; omega
  have code := val_ofNat_of_valid valid
  unfold String.utf8EncodeChar
  simp only [code]
  rw [if_neg (by omega), if_neg (by omega), if_pos (by omega), eq_ofNat (b := a) (by omega),
    eq_ofNat (b := b) (by omega), eq_ofNat (b := c) (by omega)]

/-- Four bytes are, if they spell no shorter one and none beyond the last. -/
theorem encodeChar_four (low : 0xF0 ≤ a.toNat) (high : a.toNat ≤ 0xF4) (second : Follows b)
    (overlong : a.toNat = 0xF0 → 0x90 ≤ b.toNat) (beyond : a.toNat = 0xF4 → b.toNat ≤ 0x8F)
    (third : Follows c) (fourth : Follows d) :
    String.utf8EncodeChar
        (Char.ofNat
          ((((a.toNat - 0xF0) * 64 + (b.toNat - 0x80)) * 64 + (c.toNat - 0x80)) * 64 +
            (d.toNat - 0x80))) =
      [a, b, c, d] := by
  obtain ⟨bLow, bHigh⟩ := second
  obtain ⟨cLow, cHigh⟩ := third
  obtain ⟨dLow, dHigh⟩ := fourth
  generalize number :
    (((a.toNat - 0xF0) * 64 + (b.toNat - 0x80)) * 64 + (c.toNat - 0x80)) * 64 +
      (d.toNat - 0x80) = v
  have valid : v.isValidChar := by unfold Nat.isValidChar; omega
  have code := val_ofNat_of_valid valid
  unfold String.utf8EncodeChar
  simp only [code]
  rw [if_neg (by omega), if_neg (by omega), if_neg (by omega), eq_ofNat (b := a) (by omega),
    eq_ofNat (b := b) (by omega), eq_ofNat (b := c) (by omega), eq_ofNat (b := d) (by omega)]

end CodePoints

/-! ### Reading where nothing is ill-formed

The other direction: from a reading without ill-formed parts to the bytes that it must have come
from. A character that is begun has to go on and be completed. -/

/-- What a first byte leaves to be read, by the number of bytes of its character. -/
inductive Begins (a : UInt8) : Partial → Prop
  | two (low : 0xC2 ≤ a.toNat) (high : a.toNat < 0xE0) :
    Begins a ⟨1, 0x80, 0xBF, a.toNat - 0xC0⟩
  | three {least greatest : Nat} (low : 0xE0 ≤ a.toNat) (high : a.toNat < 0xF0)
      (above : 0x80 ≤ least) (below : greatest ≤ 0xBF)
      (overlong : a.toNat = 0xE0 → 0xA0 ≤ least) (surrogate : a.toNat = 0xED → greatest ≤ 0x9F) :
    Begins a ⟨2, least, greatest, a.toNat - 0xE0⟩
  | four {least greatest : Nat} (low : 0xF0 ≤ a.toNat) (high : a.toNat ≤ 0xF4)
      (above : 0x80 ≤ least) (below : greatest ≤ 0xBF)
      (overlong : a.toNat = 0xF0 → 0x90 ≤ least) (beyond : a.toNat = 0xF4 → greatest ≤ 0x8F) :
    Begins a ⟨3, least, greatest, a.toNat - 0xF0⟩

/-- What a first byte leaves to be read is told by its range. -/
theorem Lead.begins_of_partly {a : UInt8} {p : Partial} (lead : ofByte a = .partly p) :
    Begins a p := by
  have byte : UInt8.ofNat a.toNat = a := UInt8.ofNat_toNat
  by_cases two : 0xC2 ≤ a.toNat ∧ a.toNat < 0xE0
  · have known := ofByte_two two.1 two.2
    rw [byte, lead] at known
    cases known
    exact .two two.1 two.2
  by_cases three : 0xE0 ≤ a.toNat ∧ a.toNat < 0xF0
  · have known := ofByte_three three.1 three.2
    rw [byte, lead] at known
    cases known
    exact .three three.1 three.2 (by split <;> omega) (by split <;> omega) (by split <;> omega)
      (by split <;> omega)
  by_cases four : 0xF0 ≤ a.toNat ∧ a.toNat ≤ 0xF4
  · have known := ofByte_four four.1 four.2
    rw [byte, lead] at known
    cases known
    exact .four four.1 four.2 (by split <;> omega) (by split <;> omega) (by split <;> omega)
      (by split <;> omega)
  -- No other byte begins a character of several bytes.
  unfold ofByte at lead
  dsimp only at lead
  repeat' split at lead
  all_goals first | omega | cases lead

/-- A byte that is a whole character is one of ASCII. -/
theorem Lead.lt_of_whole {a : UInt8} {c : Char} (lead : ofByte a = .whole c) : a.toNat < 0x80 := by
  unfold ofByte at lead
  dsimp only at lead
  repeat' split at lead
  all_goals first | assumption | cases lead

variable {p : Partial} {bytes : List UInt8} {cs : List Char}

/-- A character that is begun goes on with a byte within its bounds. -/
theorem exists_next_of_unitsFrom (sound : unitsFrom (some p) bytes = cs.map some) :
    ∃ b rest, bytes = b :: rest ∧ p.least ≤ b.toNat ∧ b.toNat ≤ p.greatest := by
  cases bytes with
  | nil => cases cs <;> cases sound
  | cons b rest =>
    by_cases continues : p.least ≤ b.toNat ∧ b.toNat ≤ p.greatest
    · exact ⟨b, rest, rfl, continues⟩
    · simp only [unitsFrom, if_neg continues] at sound
      cases lead : Lead.ofByte b <;> rw [lead] at sound <;> cases cs <;> simp at sound

/-- The byte that completes a character, if nothing is ill-formed. -/
theorem exists_last_of_unitsFrom {least greatest value : Nat}
    (sound : unitsFrom (some ⟨1, least, greatest, value⟩) bytes = cs.map some) :
    ∃ b rest, bytes = b :: rest ∧ least ≤ b.toNat ∧ b.toNat ≤ greatest ∧
      some (Char.ofNat (value * 64 + (b.toNat - 0x80))) :: unitsFrom none rest = cs.map some := by
  obtain ⟨b, rest, rfl, low, high⟩ := exists_next_of_unitsFrom sound
  have byte : UInt8.ofNat b.toNat = b := UInt8.ofNat_toNat
  rw [← byte, unitsFrom_last low high b.toNat_lt] at sound
  exact ⟨b, rest, rfl, low, high, sound⟩

/-- A byte of a character of which more is owed, if nothing is ill-formed. -/
theorem exists_more_of_unitsFrom {owed least greatest value : Nat}
    (sound : unitsFrom (some ⟨owed + 2, least, greatest, value⟩) bytes = cs.map some) :
    ∃ b rest, bytes = b :: rest ∧ least ≤ b.toNat ∧ b.toNat ≤ greatest ∧
      unitsFrom (some ⟨owed + 1, 0x80, 0xBF, value * 64 + (b.toNat - 0x80)⟩) rest =
        cs.map some := by
  obtain ⟨b, rest, rfl, low, high⟩ := exists_next_of_unitsFrom sound
  have byte : UInt8.ofNat b.toNat = b := UInt8.ofNat_toNat
  rw [← byte, unitsFrom_more low high b.toNat_lt] at sound
  exact ⟨b, rest, rfl, low, high, sound⟩

/-- A character that is begun comes to something, if only to an ill-formed part. -/
theorem unitsFrom_some_ne_nil (p : Partial) (bytes : List UInt8) :
    unitsFrom (some p) bytes ≠ [] := by
  induction bytes generalizing p with
  | nil => simp [unitsFrom]
  | cons b bytes ih =>
    rw [unitsFrom]
    split
    · split
      · simp
      · exact ih _
    · split <;> simp

/-- Where nothing is read there are no bytes. -/
theorem eq_nil_of_units (none : units bytes = []) : bytes = [] := by
  cases bytes with
  | nil => rfl
  | cons a bytes =>
    unfold units at none
    cases lead : Lead.ofByte a with
    | whole c => simp [unitsFrom, lead] at none
    | illFormed => simp [unitsFrom, lead] at none
    | partly p =>
      simp only [unitsFrom, lead] at none
      exact absurd none (unitsFrom_some_ne_nil p bytes)

/-- Where nothing is ill-formed, the bytes start with those of the first character. -/
theorem exists_encodeChar_append {c : Char}
    (sound : unitsFrom none bytes = (c :: cs).map some) :
    ∃ rest, bytes = String.utf8EncodeChar c ++ rest ∧ unitsFrom none rest = cs.map some := by
  cases bytes with
  | nil => cases sound
  | cons a bytes =>
    cases lead : Lead.ofByte a with
    | illFormed => simp [unitsFrom, lead] at sound
    | whole char =>
      simp only [unitsFrom, lead, List.map_cons, List.cons.injEq, Option.some.injEq] at sound
      obtain ⟨rfl, later⟩ := sound
      rw [Lead.eq_of_whole lead, encodeChar_one (Lead.lt_of_whole lead)]
      exact ⟨bytes, rfl, later⟩
    | partly p =>
      have reads : unitsFrom (some p) bytes = (c :: cs).map some := by
        rw [← sound]
        simp [unitsFrom, lead]
      cases Lead.begins_of_partly lead with
      | two low high =>
        obtain ⟨b, rest, rfl, bLow, bHigh, last⟩ := exists_last_of_unitsFrom reads
        simp only [List.map_cons, List.cons.injEq, Option.some.injEq] at last
        obtain ⟨rfl, later⟩ := last
        rw [encodeChar_two low high ⟨bLow, bHigh⟩]
        exact ⟨rest, rfl, later⟩
      | three low high above below overlong surrogate =>
        obtain ⟨b, _, rfl, bLow, bHigh, more⟩ := exists_more_of_unitsFrom reads
        obtain ⟨c, rest, rfl, cLow, cHigh, last⟩ := exists_last_of_unitsFrom more
        simp only [List.map_cons, List.cons.injEq, Option.some.injEq] at last
        obtain ⟨rfl, later⟩ := last
        rw [encodeChar_three low high ⟨by omega, by omega⟩ (by omega) (by omega) ⟨cLow, cHigh⟩]
        exact ⟨rest, rfl, later⟩
      | four low high above below overlong beyond =>
        obtain ⟨b, _, rfl, bLow, bHigh, more⟩ := exists_more_of_unitsFrom reads
        obtain ⟨c, _, rfl, cLow, cHigh, more⟩ := exists_more_of_unitsFrom more
        obtain ⟨d, rest, rfl, dLow, dHigh, last⟩ := exists_last_of_unitsFrom more
        simp only [List.map_cons, List.cons.injEq, Option.some.injEq] at last
        obtain ⟨rfl, later⟩ := last
        rw [encodeChar_four low high ⟨by omega, by omega⟩ (by omega) (by omega) ⟨cLow, cHigh⟩
          ⟨dLow, dHigh⟩]
        exact ⟨rest, rfl, later⟩

/-- Bytes in which nothing is ill-formed are those of the characters that are read. -/
theorem eq_encode_of_units (sound : units bytes = cs.map some) :
    bytes = cs.flatMap String.utf8EncodeChar := by
  induction cs generalizing bytes with
  | nil => exact eq_nil_of_units sound
  | cons c cs ih =>
    obtain ⟨rest, rfl, later⟩ := exists_encodeChar_append sound
    rw [ih later, List.flatMap_cons]

/-- The bytes of a text are read as that text, and no other bytes are. -/
theorem decode?_eq_some_iff_encode {text : String} :
    decode? bytes = some text ↔ encode text = bytes := by
  constructor
  · intro decodes
    exact (eq_encode_of_units (decode?_eq_some_iff.mp decodes)).symm
  · rintro rfl
    exact decode?_encode text

end ExtractOptions.Text.Utf8

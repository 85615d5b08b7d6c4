/-
Module: ExtractOptions.Proofs.Text.Utf8
Purpose: text written as bytes is read back. The bytes of a character are taken one after the other
  and leave a reader where it was before them, with the character read. No byte of a longer
  character is the byte of an ASCII one, so a newline among the bytes is one in the text, and bytes
  can be cut there without cutting a character.
Main exports: Utf8.units_encodeChar, Utf8.decode?_encode, Utf8.encode_append,
  Utf8.mem_encodeChar_ascii, Utf8.Partial.IsLong, Utf8.decode?_append_newline,
  Utf8.newline_mem_of_decode?
-/
import ExtractOptions.Proofs.Basic
import ExtractOptions.Text.Utf8

namespace ExtractOptions.Text.Utf8

/-! ### Bytes of one character

The reader keeps what it knows of a character between two bytes. For each length the bytes of a
character lead it through, and it ends with the character. -/

theorem toNat_ofNat_of_lt {n : Nat} (small : n < 256) : (UInt8.ofNat n).toNat = n := by
  rw [UInt8.toNat_ofNat']
  omega

/-- A byte that continues a character of which more is owed. -/
theorem unitsFrom_more {owed least greatest value n : Nat} (low : least ≤ n) (high : n ≤ greatest)
    (small : n < 256) (rest : List UInt8) :
    unitsFrom (some ⟨owed + 2, least, greatest, value⟩) (UInt8.ofNat n :: rest) =
      unitsFrom (some ⟨owed + 1, 0x80, 0xBF, value * 64 + (n - 0x80)⟩) rest := by
  simp [unitsFrom, toNat_ofNat_of_lt small, low, high]

/-- The byte that completes a character. -/
theorem unitsFrom_last {least greatest value n : Nat} (low : least ≤ n) (high : n ≤ greatest)
    (small : n < 256) (rest : List UInt8) :
    unitsFrom (some ⟨1, least, greatest, value⟩) (UInt8.ofNat n :: rest) =
      some (Char.ofNat (value * 64 + (n - 0x80))) :: unitsFrom none rest := by
  simp [unitsFrom, toNat_ofNat_of_lt small, low, high]

/-- The first byte of a character that has more. -/
theorem unitsFrom_partly {n : Nat} {p : Partial} (lead : Lead.ofByte (UInt8.ofNat n) = .partly p)
    (rest : List UInt8) : unitsFrom none (UInt8.ofNat n :: rest) = unitsFrom (some p) rest := by
  simp [unitsFrom, lead]

theorem ofByte_two {n : Nat} (low : 0xC2 ≤ n) (high : n < 0xE0) :
    Lead.ofByte (UInt8.ofNat n) = .partly ⟨1, 0x80, 0xBF, n - 0xC0⟩ := by
  unfold Lead.ofByte
  rw [toNat_ofNat_of_lt (by omega)]
  simp only [if_neg (show ¬ n < 0x80 by omega), if_neg (show ¬ n < 0xC2 by omega), if_pos high]

/-- The bounds on the second of three bytes. -/
theorem ofByte_three {n : Nat} (low : 0xE0 ≤ n) (high : n < 0xF0) :
    Lead.ofByte (UInt8.ofNat n) =
      .partly ⟨2, if n = 0xE0 then 0xA0 else 0x80, if n = 0xED then 0x9F else 0xBF, n - 0xE0⟩ := by
  unfold Lead.ofByte
  rw [toNat_ofNat_of_lt (by omega)]
  simp only [if_neg (show ¬ n < 0x80 by omega), if_neg (show ¬ n < 0xC2 by omega),
    if_neg (show ¬ n < 0xE0 by omega), if_pos high]
  by_cases first : n = 0xE0
  · subst first
    rfl
  · by_cases surrogate : n = 0xED
    · subst surrogate
      rfl
    · simp only [if_neg first, if_neg surrogate]

/-- The bounds on the second of four bytes. -/
theorem ofByte_four {n : Nat} (low : 0xF0 ≤ n) (high : n ≤ 0xF4) :
    Lead.ofByte (UInt8.ofNat n) =
      .partly ⟨3, if n = 0xF0 then 0x90 else 0x80, if n = 0xF4 then 0x8F else 0xBF, n - 0xF0⟩ := by
  unfold Lead.ofByte
  rw [toNat_ofNat_of_lt (by omega)]
  simp only [if_neg (show ¬ n < 0x80 by omega), if_neg (show ¬ n < 0xC2 by omega),
    if_neg (show ¬ n < 0xE0 by omega), if_neg (show ¬ n = 0xE0 by omega),
    if_neg (show ¬ n = 0xED by omega), if_neg (show ¬ n < 0xF0 by omega)]
  by_cases first : n = 0xF0
  · subst first
    rfl
  · by_cases last : n = 0xF4
    · subst last
      rfl
    · simp only [if_neg first, if_neg last, if_pos (show n < 0xF4 by omega)]

/-- A code point is in one of two ranges, with the surrogates between them. -/
theorem toNat_valid (c : Char) : c.toNat < 0xD800 ∨ 0xDFFF < c.toNat ∧ c.toNat < 0x110000 :=
  c.valid

/-- The bytes of a character are read as that character. -/
theorem units_encodeChar (c : Char) (rest : List UInt8) :
    unitsFrom none (String.utf8EncodeChar c ++ rest) = some c :: unitsFrom none rest := by
  have valid := toNat_valid c
  have whole : Char.ofNat c.toNat = c := Char.ofNat_toNat c
  unfold String.utf8EncodeChar
  simp only [show c.val.toNat = c.toNat from rfl]
  generalize c.toNat = v at valid whole
  split
  · rename_i one
    have lead : Lead.ofByte (UInt8.ofNat v) = .whole (Char.ofNat v) := by
      unfold Lead.ofByte
      rw [toNat_ofNat_of_lt (by omega)]
      simp only [if_pos (show v < 0x80 by omega)]
    simp [unitsFrom, lead, whole]
  · rename_i many
    split
    · rename_i two
      simp only [List.cons_append, List.nil_append]
      rw [unitsFrom_partly (ofByte_two (by omega) (by omega)),
        unitsFrom_last (by omega) (by omega) (by omega)]
      have sum : (v / 64 % 32 + 192 - 0xC0) * 64 + (v % 64 + 128 - 0x80) = v := by omega
      rw [sum, whole]
    · split
      · rename_i three
        simp only [List.cons_append, List.nil_append]
        rw [unitsFrom_partly (ofByte_three (by omega) (by omega)),
          unitsFrom_more (by split <;> omega) (by split <;> omega) (by omega),
          unitsFrom_last (by omega) (by omega) (by omega)]
        have sum : ((v / 4096 % 16 + 224 - 0xE0) * 64 + (v / 64 % 64 + 128 - 0x80)) * 64 +
            (v % 64 + 128 - 0x80) = v := by omega
        rw [sum, whole]
      · simp only [List.cons_append, List.nil_append]
        rw [unitsFrom_partly (ofByte_four (by omega) (by omega)),
          unitsFrom_more (by split <;> omega) (by split <;> omega) (by omega),
          unitsFrom_more (by omega) (by omega) (by omega),
          unitsFrom_last (by omega) (by omega) (by omega)]
        have sum : (((v / 262144 % 8 + 240 - 0xF0) * 64 + (v / 4096 % 64 + 128 - 0x80)) * 64 +
            (v / 64 % 64 + 128 - 0x80)) * 64 + (v % 64 + 128 - 0x80) = v := by omega
        rw [sum, whole]

/-! ### Whole texts

Character by character, the bytes of a text are read as the text. -/

/-- The bytes of a text are read as its characters. -/
theorem units_encode (cs : List Char) :
    units (cs.flatMap String.utf8EncodeChar) = cs.map some := by
  unfold units
  induction cs with
  | nil => rfl
  | cons c cs ih => rw [List.flatMap_cons, units_encodeChar, ih, List.map_cons]

/-- Bytes are read as a text exactly if they are read as its characters and none is ill-formed. -/
theorem decode?_eq_some_iff {bytes : List UInt8} {text : String} :
    decode? bytes = some text ↔ units bytes = text.toList.map some := by
  unfold decode?
  rw [Option.map_eq_some_iff]
  constructor
  · rintro ⟨cs, all, rfl⟩
    rw [mapM_id_eq_some_iff.mp all, String.toList_ofList]
  · intro all
    exact ⟨text.toList, mapM_id_eq_some_iff.mpr all, String.ofList_toList⟩

/-- A text is read back from its bytes. -/
theorem decode?_encode (s : String) : decode? (encode s) = some s :=
  decode?_eq_some_iff.mpr (units_encode s.toList)

/-- The bytes of two texts together are those of one after the other. -/
theorem encode_append (s t : String) : encode (s ++ t) = encode s ++ encode t := by
  unfold encode
  rw [String.toList_append, List.flatMap_append]

/-- A line with its end has bytes, if the line is empty too. -/
theorem encode_line_ne_nil (line : String) : encode (line ++ "\n") ≠ [] := by
  rw [encode_append]
  simp [encode]

/-- Only an ASCII character has a byte below 128, and that is its own. -/
theorem mem_encodeChar_ascii {c : Char} {n : Nat} (ascii : n < 0x80)
    (among : UInt8.ofNat n ∈ String.utf8EncodeChar c) : c.toNat = n := by
  have value : ∀ {m : Nat}, m < 256 → UInt8.ofNat n = UInt8.ofNat m → n = m := by
    intro m small same
    have numbers := congrArg UInt8.toNat same
    rwa [toNat_ofNat_of_lt (by omega), toNat_ofNat_of_lt small] at numbers
  have long : ∀ {m : Nat}, 0x80 ≤ m → m < 256 → UInt8.ofNat n ≠ UInt8.ofNat m := by
    intro m above small same
    have own := value small same
    omega
  unfold String.utf8EncodeChar at among
  simp only [show c.val.toNat = c.toNat from rfl] at among
  split at among
  · rw [List.mem_singleton] at among
    exact (value (by omega) among).symm
  · split at among
    · simp only [List.mem_cons, List.not_mem_nil, or_false] at among
      rcases among with same | same <;> exact absurd same (long (by omega) (by omega))
    · split at among
      · simp only [List.mem_cons, List.not_mem_nil, or_false] at among
        rcases among with same | same | same <;> exact absurd same (long (by omega) (by omega))
      · simp only [List.mem_cons, List.not_mem_nil, or_false] at among
        rcases among with same | same | same | same <;>
          exact absurd same (long (by omega) (by omega))

/-! ### Newlines

No byte of a long character looks like a newline. So the state between bytes at a newline is that of
no character, and the text can be cut there. -/

/-- The character in the course of being read is none of the ASCII ones. Where the bytes so far
spell nothing, the next one has to. -/
structure Partial.IsLong (p : Partial) : Prop where
  least : 0x80 ≤ p.least
  spells : 1 ≤ p.value ∨ 2 ≤ p.owed ∧ 0x80 < p.least

/-- A first byte that asks for more begins a character that is none of the ASCII ones. -/
theorem Lead.isLong_of_partly {b : UInt8} {p : Partial} (lead : ofByte b = .partly p) :
    p.IsLong := by
  unfold ofByte at lead
  dsimp only at lead
  repeat' split at lead
  all_goals
    cases lead <;> constructor <;> dsimp only <;> omega

/-- A byte that continues a character which is still not complete leaves it a long one. -/
theorem Partial.IsLong.next {p : Partial} (long : p.IsLong) {n : Nat} (low : p.least ≤ n) :
    (⟨p.owed - 1, 0x80, 0xBF, p.value * 64 + (n - 0x80)⟩ : Partial).IsLong := by
  obtain ⟨least, spells⟩ := long
  exact ⟨Nat.le_refl _, .inl (by dsimp only; omega)⟩

theorem eq_of_ofNat_eq_newline {n : Nat} (same : Char.ofNat n = '\n') : n = 10 := by
  have code := congrArg Char.toNat same
  by_cases valid : n.isValidChar
  · have value : (Char.ofNat n).toNat = n := by
      rw [Char.ofNat, dif_pos valid]
      rfl
    rwa [value] at code
  · have none : Char.ofNat n = '\x00' := by
      rw [Char.ofNat, dif_neg valid]
      rfl
    rw [none] at code
    cases code

/-- A byte that is a whole character is that character. -/
theorem Lead.eq_of_whole {b : UInt8} {c : Char} (lead : ofByte b = .whole c) :
    c = Char.ofNat b.toNat := by
  unfold ofByte at lead
  dsimp only at lead
  repeat' split at lead
  all_goals cases lead
  rfl

theorem Lead.eq_newline_of_whole {b : UInt8} (lead : ofByte b = .whole '\n') : b = 10 :=
  UInt8.toNat_inj.mp (eq_of_ofNat_eq_newline (eq_of_whole lead).symm)

/-- The state between two bytes is that of no character or of a long one. -/
def AtLong (state : Option Partial) : Prop :=
  ∀ p ∈ state, p.IsLong

theorem atLong_none : AtLong none :=
  fun _ held => by cases held

/-- What a first byte adds to the characters read, and the state that it leaves. -/
theorem unitsFrom_none_cons (b : UInt8) :
    ∃ read later, AtLong later ∧ (some '\n' ∈ read → b = 10) ∧
      ∀ bytes, unitsFrom none (b :: bytes) = read ++ unitsFrom later bytes := by
  cases lead : Lead.ofByte b with
  | whole c =>
    refine ⟨[some c], none, atLong_none, fun among => ?_, fun bytes => by simp [unitsFrom, lead]⟩
    obtain rfl := Option.some.inj (List.mem_singleton.mp among)
    exact Lead.eq_newline_of_whole lead
  | partly p =>
    refine ⟨[], some p, ?_, nofun, fun bytes => by simp [unitsFrom, lead]⟩
    rintro _ ⟨⟩
    exact Lead.isLong_of_partly lead
  | illFormed => exact ⟨[none], none, atLong_none, by simp, fun bytes => by simp [unitsFrom, lead]⟩

/-- A byte adds to the characters read and leaves a state in which the others are read. Only a
newline adds a newline. -/
theorem unitsFrom_cons {state : Option Partial} (long : AtLong state) (b : UInt8) :
    ∃ read later, AtLong later ∧ (some '\n' ∈ read → b = 10) ∧
      ∀ bytes, unitsFrom state (b :: bytes) = read ++ unitsFrom later bytes := by
  cases state with
  | none => exact unitsFrom_none_cons b
  | some p =>
    have isLong := long p rfl
    by_cases continues : p.least ≤ b.toNat ∧ b.toNat ≤ p.greatest
    · by_cases last : p.owed ≤ 1
      · refine ⟨[some (Char.ofNat (p.value * 64 + (b.toNat - 0x80)))], none, atLong_none, ?_,
          fun bytes => by simp [unitsFrom, continues, last]⟩
        intro among
        have code := eq_of_ofNat_eq_newline (Option.some.inj (List.mem_singleton.mp among)).symm
        have spells := isLong.spells
        omega
      · refine ⟨[], some ⟨p.owed - 1, 0x80, 0xBF, p.value * 64 + (b.toNat - 0x80)⟩, ?_, nofun,
          fun bytes => by simp [unitsFrom, continues, last]⟩
        rintro _ ⟨⟩
        exact isLong.next continues.1
    · -- The byte is read again as a first one.
      obtain ⟨read, later, after, newlines, reads⟩ := unitsFrom_none_cons b
      refine ⟨none :: read, later, after, by simpa using newlines, fun bytes => ?_⟩
      rw [List.cons_append, ← reads bytes]
      cases lead : Lead.ofByte b <;> simp [unitsFrom, continues, lead]

/-- A newline in a text is one among its bytes. -/
theorem newline_mem_of_unitsFrom {state : Option Partial} {bytes : List UInt8}
    (long : AtLong state) (among : some '\n' ∈ unitsFrom state bytes) : 10 ∈ bytes := by
  induction bytes generalizing state with
  | nil => cases state <;> simp [unitsFrom] at among
  | cons b bytes ih =>
    obtain ⟨read, later, after, newlines, reads⟩ := unitsFrom_cons long b
    rw [reads, List.mem_append] at among
    rcases among with here | there
    · rw [newlines here]
      exact List.mem_cons_self
    · exact List.mem_cons_of_mem b (ih after there)

/-- A newline after some bytes is read as a newline. -/
theorem unitsFrom_append_newline {state : Option Partial} (long : AtLong state)
    (bytes : List UInt8) :
    unitsFrom state (bytes ++ [10]) = unitsFrom state bytes ++ [some '\n'] := by
  induction bytes generalizing state with
  | nil =>
    cases state with
    | none => rfl
    | some p =>
      have beyond : ¬ (p.least ≤ 10 ∧ 10 ≤ p.greatest) := by
        have least := (long p rfl).least
        omega
      have lead : Lead.ofByte 10 = .whole '\n' := rfl
      simp [unitsFrom, beyond, lead]
  | cons b bytes ih =>
    obtain ⟨read, later, after, -, reads⟩ := unitsFrom_cons long b
    rw [List.cons_append, reads, reads, ih after, List.append_assoc]

/-- A newline in a text is one among its bytes. -/
theorem newline_mem_of_decode? {bytes : List UInt8} {text : String}
    (decodes : decode? bytes = some text) (among : '\n' ∈ text.toList) : 10 ∈ bytes := by
  refine newline_mem_of_unitsFrom atLong_none ?_
  have read : unitsFrom none bytes = text.toList.map some := decode?_eq_some_iff.mp decodes
  rw [read]
  exact List.mem_map_of_mem among

/-- Bytes can be cut at a newline without cutting a character. -/
theorem decode?_append_newline (bytes : List UInt8) :
    decode? (bytes ++ [10]) = (decode? bytes).map (· ++ "\n") := by
  have read : units (bytes ++ [10]) = units bytes ++ [some '\n'] :=
    unitsFrom_append_newline atLong_none bytes
  cases decodes : decode? bytes with
  | some text =>
    refine decode?_eq_some_iff.mpr ?_
    rw [read, decode?_eq_some_iff.mp decodes, String.toList_append, List.map_append]
    rfl
  | none =>
    rw [Option.map_none, Option.eq_none_iff_forall_not_mem]
    intro text whole
    rw [Option.mem_def, decode?_eq_some_iff, read] at whole
    obtain ⟨front, _, -, front_read, -⟩ := List.map_eq_append_iff.mp whole.symm
    have decoded : decode? bytes = some (String.ofList front) :=
      decode?_eq_some_iff.mpr (by rw [String.toList_ofList, front_read])
    rw [decodes] at decoded
    cases decoded

end ExtractOptions.Text.Utf8

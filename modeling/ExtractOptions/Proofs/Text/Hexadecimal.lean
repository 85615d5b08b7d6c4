/-
Module: ExtractOptions.Proofs.Text.Hexadecimal
Purpose: hexadecimal numerals. The digits of a number in base 16, in any mix of letter case and with
  zeros in front of them if one likes, are its numerals; reading accepts these and nothing else.
Main exports: of_ascii, Numeral.DenotesHex, Numeral.hexValue?_eq_some_iff,
  Numeral.exists_zeros_append_toDigits, Numeral.hexadecimal?_eq_some_iff, Numeral.DenotesHex.lt_pow
-/
import ExtractOptions.Proofs.Text.Case
import ExtractOptions.Text.Numeral
import Mathlib.Data.List.Induction
import Mathlib.Data.Nat.Digits.Defs

namespace ExtractOptions.Text

/-- The characters of ASCII can be gone through. -/
theorem of_ascii {P : Char → Prop} (table : ∀ n < 128, P (Char.ofNat n)) {c : Char}
    (ascii : c.toNat < 128) : P c := by
  have entry := table c.toNat ascii
  rwa [Char.ofNat_toNat] at entry

namespace Numeral

/-- The text is a hexadecimal numeral for the number: its digits in either case, with zeros in front
of them if one likes. -/
def DenotesHex (cs : List Char) (n : Nat) : Prop :=
  ∃ zeros, cs.map Char.toLower = List.replicate zeros '0' ++ Nat.toDigits 16 n

/-! ### Digits

There are only so many characters of ASCII, so what holds of a digit is found by going through them. -/

/-- Digits are characters of ASCII, and have a value below the base. -/
theorem lt_of_hexValue? {c : Char} {d : Nat} (value : hexValue? c = some d) :
    c.toNat < 128 ∧ d < 16 := by
  have code {first last : Char} (between : first ≤ c ∧ c ≤ last) :
      first.toNat ≤ c.toNat ∧ c.toNat ≤ last.toNat :=
    ⟨UInt32.le_iff_toNat_le.mp between.1, UInt32.le_iff_toNat_le.mp between.2⟩
  have codes : '0'.toNat = 48 ∧ '9'.toNat = 57 ∧ 'a'.toNat = 97 ∧ 'f'.toNat = 102 ∧
      'A'.toNat = 65 ∧ 'F'.toNat = 70 := by decide
  unfold hexValue? at value
  split at value
  · rename_i digit
    have := code digit
    cases value
    omega
  · split at value
    · rename_i lower
      have := code lower
      cases value
      omega
    · obtain ⟨upper, same⟩ := Option.ite_none_right_eq_some.mp value
      have := code upper
      cases same
      omega

/-- What is a digit in lower case is a digit of the same value. -/
theorem hexValue?_eq_some_iff {c : Char} {d : Nat} :
    hexValue? c = some d ↔ d < 16 ∧ c.toLower = Nat.digitChar d := by
  -- Either side is about a character of ASCII only.
  have known (ascii : c.toNat < 128) :
      ∀ d < 16, hexValue? c = some d ↔ c.toLower = Nat.digitChar d :=
    of_ascii (P := fun c => ∀ d < 16, hexValue? c = some d ↔ c.toLower = Nat.digitChar d)
      (by decide +kernel) ascii
  constructor
  · intro value
    obtain ⟨ascii, small⟩ := lt_of_hexValue? value
    exact ⟨small, (known ascii d small).mp value⟩
  · rintro ⟨small, lower⟩
    have digits : ∀ d < 16, (Nat.digitChar d).toNat < 0x80 := by decide
    have ascii : c.toNat < 128 := lt_of_toLower_lt (lower ▸ digits d small)
    exact (known ascii d small).mpr lower

/-- The values of a run of digits are those of its digits in lower case. -/
theorem mapM_hexValue?_eq_some_iff {cs : List Char} {ds : List Nat} :
    cs.mapM hexValue? = some ds ↔
      (∀ d ∈ ds, d < 16) ∧ cs.map Char.toLower = ds.map Nat.digitChar := by
  induction cs generalizing ds with
  | nil => cases ds <;> simp
  | cons c cs ih =>
    rw [List.mapM_cons]
    simp only [Option.bind_eq_bind, Option.bind_eq_some_iff, Option.pure_def, Option.some.injEq, ih,
      hexValue?_eq_some_iff]
    constructor
    · rintro ⟨d, ⟨small, lower⟩, later, ⟨others, same⟩, rfl⟩
      exact ⟨List.forall_mem_cons.mpr ⟨small, others⟩, by
        rw [List.map_cons, List.map_cons, lower, same]⟩
    · rintro ⟨all, same⟩
      cases ds with
      | nil => simp at same
      | cons d ds =>
        obtain ⟨small, others⟩ := List.forall_mem_cons.mp all
        obtain ⟨lower, rest⟩ := List.cons.inj same
        exact ⟨d, ⟨small, lower⟩, ds, ⟨others, rest⟩, rfl⟩

/-! ### Values

A run of digits has a value, and the digits of that value are the run without the zeros in front.
The induction is from the right, since that is where digits are added. -/

/-- One digit more shifts the others by one place. -/
theorem ofValues_append_singleton (ds : List Nat) (d : Nat) :
    ofValues 16 (ds ++ [d]) = 16 * ofValues 16 ds + d := by
  unfold ofValues
  rw [List.foldl_append]
  rfl

/-- Zeros in front do not count. -/
theorem ofValues_replicate_zero_append (zeros : Nat) (ds : List Nat) :
    ofValues 16 (List.replicate zeros 0 ++ ds) = ofValues 16 ds := by
  induction zeros with
  | zero => rfl
  | succ zeros ih => exact ih

/-- The digits of a number have its value. -/
theorem exists_values_toDigits (n : Nat) :
    ∃ ds, (∀ d ∈ ds, d < 16) ∧ Nat.toDigits 16 n = ds.map Nat.digitChar ∧ ofValues 16 ds = n := by
  induction n using Nat.strongRecOn with
  | ind n ih =>
    rw [Nat.toDigits_eq_if (by decide)]
    split
    · rename_i small
      exact ⟨[n], by simpa using small, rfl, by simp [ofValues]⟩
    · obtain ⟨ds, all, digits, value⟩ := ih (n / 16) (by omega)
      refine ⟨ds ++ [n % 16], ?_, ?_, ?_⟩
      · intro d among
        rcases List.mem_append.mp among with front | last
        · exact all d front
        · rw [List.mem_singleton.mp last]
          exact Nat.mod_lt n (by decide)
      · rw [digits, List.map_append]
        rfl
      · rw [ofValues_append_singleton, value]
        omega

/-- Any digits are those of their value, with zeros in front. -/
theorem exists_zeros_append_toDigits {ds : List Nat} (more : ds ≠ []) (all : ∀ d ∈ ds, d < 16) :
    ∃ zeros, ds.map Nat.digitChar =
      List.replicate zeros '0' ++ Nat.toDigits 16 (ofValues 16 ds) := by
  induction ds using List.reverseRecOn with
  | nil => exact absurd rfl more
  | append_singleton ds d ih =>
    have small : d < 16 := all d (by simp)
    have last : Nat.toDigits 16 d = [Nat.digitChar d] := Nat.toDigits_of_lt_base small
    rw [ofValues_append_singleton, List.map_append, List.map_singleton, ← last]
    by_cases first : ds = []
    · subst first
      exact ⟨0, by simp [ofValues]⟩
    · obtain ⟨zeros, front⟩ := ih first fun d among => all d (List.mem_append_left _ among)
      rw [front]
      rcases Nat.eq_zero_or_pos (ofValues 16 ds) with zero | positive
      · refine ⟨zeros + 1, ?_⟩
        rw [zero, Nat.toDigits_zero, Nat.mul_zero, Nat.zero_add, List.replicate_succ']
      · refine ⟨zeros, ?_⟩
        rw [List.append_assoc, Nat.toDigits_append_toDigits (by decide) positive small]

/-! ### Numerals

From digits to numerals: those of a number are its digits in either case, behind any number of
zeros. -/

variable {cs : List Char} {n : Nat}

theorem DenotesHex.ne_nil (denotes : DenotesHex cs n) : cs ≠ [] := by
  rintro rfl
  obtain ⟨zeros, same⟩ := denotes
  exact Nat.toDigits_ne_nil (List.append_eq_nil_iff.mp same.symm).2

/-- The values of the digits of a numeral, those of the zeros included. -/
theorem DenotesHex.exists_values (denotes : DenotesHex cs n) :
    ∃ ds, cs.mapM hexValue? = some ds ∧ ofValues 16 ds = n := by
  obtain ⟨zeros, same⟩ := denotes
  obtain ⟨ds, all, digits, value⟩ := exists_values_toDigits n
  refine ⟨List.replicate zeros 0 ++ ds, mapM_hexValue?_eq_some_iff.mpr ⟨?_, ?_⟩, ?_⟩
  · intro d among
    rcases List.mem_append.mp among with zero | digit
    · rw [List.eq_of_mem_replicate zero]
      decide
    · exact all d digit
  · rw [same, digits, List.map_append, List.map_replicate]
    rfl
  · rw [ofValues_replicate_zero_append, value]

/-- The digits of a number denote it. -/
theorem denotesHex_toDigits (n : Nat) : DenotesHex (Nat.toDigits 16 n) n := by
  obtain ⟨ds, all, digits, -⟩ := exists_values_toDigits n
  have lower : ∀ d < 16, (Nat.digitChar d).toLower = Nat.digitChar d := by decide
  refine ⟨0, ?_⟩
  rw [digits, List.map_map]
  exact List.map_congr_left fun d among => lower d (all d among)

/-- Numerals are accepted as the numbers that they denote, and nothing else is accepted. -/
theorem hexadecimal?_eq_some_iff : hexadecimal? cs = some n ↔ DenotesHex cs n := by
  unfold hexadecimal?
  constructor
  · intro read
    split at read
    · cases read
    · rename_i more
      obtain ⟨ds, values, rfl⟩ := Option.map_eq_some_iff.mp read
      obtain ⟨all, same⟩ := mapM_hexValue?_eq_some_iff.mp values
      have digits : ds ≠ [] := by
        rintro rfl
        exact more (List.map_eq_nil_iff.mp same)
      obtain ⟨zeros, parts⟩ := exists_zeros_append_toDigits digits all
      exact ⟨zeros, same.trans parts⟩
  · intro denotes
    obtain ⟨ds, values, value⟩ := denotes.exists_values
    rw [if_neg denotes.ne_nil, values, Option.map_some, value]

/-- A number has at most as many digits as its numerals. -/
theorem DenotesHex.lt_pow {length : Nat} (denotes : DenotesHex cs n) (short : cs.length ≤ length)
    (positive : 0 < length) : n < 16 ^ length := by
  obtain ⟨zeros, same⟩ := denotes
  rw [← Nat.length_toDigits_le_iff (by decide) positive]
  have lengths := congrArg List.length same
  rw [List.length_map, List.length_append] at lengths
  omega

/-- All characters of a numeral are digits. -/
theorem DenotesHex.exists_hexValue? (denotes : DenotesHex cs n) {c : Char} (among : c ∈ cs) :
    ∃ d, hexValue? c = some d := by
  obtain ⟨ds, values, -⟩ := denotes.exists_values
  obtain ⟨all, same⟩ := mapM_hexValue?_eq_some_iff.mp values
  have lower : c.toLower ∈ ds.map Nat.digitChar := same ▸ List.mem_map_of_mem among
  obtain ⟨d, digit, spelled⟩ := List.mem_map.mp lower
  exact ⟨d, hexValue?_eq_some_iff.mpr ⟨all d digit, spelled.symm⟩⟩

end Numeral

end ExtractOptions.Text

/-
Module: ExtractOptions.Proofs.Config.Value
Purpose: the values of options that are numbers. Each reader accepts the texts that spell a number
  in its range, with the signs that it knows, and gives that number; it accepts no other text.
Main exports: Value.unsigned_eq_ok_iff, Value.signed_eq_ok_iff, Value.atLeast_eq_ok_iff,
  Value.plain_eq_ok_iff, readEcoLevel_eq_ok_iff, SpellsGames, readGamesPerFile_eq_ok_iff
-/
import ExtractOptions.Config.Adjustment
import ExtractOptions.Proofs.Action
import ExtractOptions.Proofs.Text.Numeral

namespace ExtractOptions

open Text Numeral

namespace Value

variable {option : OptionName} {value : String}

/-- White space and a plus sign are put aside before the digits are read. -/
theorem unsigned?_digitsOf_eq_some_iff {most n : Nat} :
    unsigned? most (digitsOf value) = some n ↔
      Spells [.absent, .plus] value.toList n ∧ n ≤ most := by
  rw [unsigned?_eq_some_iff, spells_iff, denotesSigned_absent_plus, digitsOf]

/-- An unsigned number is digits, perhaps behind a plus sign, for a number in range. -/
theorem unsigned_eq_ok_iff {most n : Nat} :
    unsigned option most value = .ok n ↔ Spells [.absent, .plus] value.toList n ∧ n ≤ most := by
  rw [← unsigned?_digitsOf_eq_some_iff]
  unfold unsigned
  cases unsigned? most (digitsOf value) <;> simp

/-- A signed number has 32 bits and may have either sign. -/
theorem signed_eq_ok_iff {n : Int} :
    signed option value = .ok n ↔
      Spells [.absent, .plus, .minus] value.toList n ∧
        -Nat.pow 2 31 ≤ n ∧ n ≤ Nat.pow 2 31 - 1 := by
  have reads : signed option value = .ok n ↔ signed32? (digitsOf value) = some n := by
    unfold signed
    cases signed32? (digitsOf value) <;> simp
  rw [reads, signed32?, signed?_eq_some_iff, spells_iff]
  rfl

/-- The number that is read first has more bits than are kept, and it is checked before any of them
is dropped. -/
theorem atLeast_eq_ok_iff {minimum : Int} {n : Nat} :
    atLeast option minimum value = .ok n ↔
      Spells [.absent, .plus, .minus] value.toList n ∧ minimum ≤ n ∧ n ≤ max32 := by
  have narrow : (max32 : Int) ≤ Nat.pow 2 63 - 1 := by decide
  have reads (m : Int) : signed64? (digitsOf value) = some m ↔
      Spells [.absent, .plus, .minus] value.toList m ∧
        -Nat.pow 2 63 ≤ m ∧ m ≤ Nat.pow 2 63 - 1 := by
    rw [signed64?, signed?_eq_some_iff, spells_iff]
    rfl
  constructor
  · intro read
    unfold atLeast at read
    cases number : signed64? (digitsOf value) with
    | none => simp [number] at read
    | some m =>
      obtain ⟨spells, -, -⟩ := (reads m).mp number
      simp only [number] at read
      split at read
      · cases read
      · split at read
        · cases read
        · cases read
          have same : (m.toNat : Int) = m := by omega
          rw [same]
          exact ⟨spells, by omega, by omega⟩
  · rintro ⟨spells, enough, within⟩
    have number : signed64? (digitsOf value) = some (n : Int) :=
      (reads n).mpr ⟨spells, by omega, by omega⟩
    unfold atLeast
    simp only [number]
    rw [if_neg (by omega), if_neg (by omega), Int.toNat_natCast]

theorem plain32?_eq_some_iff {n : Nat} :
    plain32? value = some n ↔ Spells [.absent] value.toList n ∧ n ≤ max32 := by
  rw [plain32?, digits?_trimChars_eq_some_iff_spells]

/-- A number behind a letter is digits alone. -/
theorem plain_eq_ok_iff {letter : LetterOption} {n : Nat} :
    plain letter value = .ok n ↔ Spells [.absent] value.toList n ∧ n ≤ max32 := by
  rw [← plain32?_eq_some_iff]
  unfold plain
  cases plain32? value <;> simp

end Value

section

variable {config changed : Config} {value : String}

/-- A level is accepted exactly if its digits spell a number in range. -/
theorem readEcoLevel_eq_ok_iff :
    readEcoLevel config value = .ok changed ↔
      ∃ level : Nat, Spells [.absent] value.toList level ∧
        (minEcoLevel ≤ level ∧ level ≤ maxEcoLevel) ∧
        { config with ecoLevel := level } = changed := by
  have narrow : maxEcoLevel ≤ max32 := by decide
  constructor
  · intro read
    unfold readEcoLevel at read
    split at read
    · cases read
    · rename_i level number
      split at read
      · rename_i inRange
        cases read
        exact ⟨level, (Value.plain32?_eq_some_iff.mp number).1, inRange, rfl⟩
      · cases read
  · rintro ⟨level, spells, inRange, rfl⟩
    have number := Value.plain32?_eq_some_iff.mpr ⟨spells, inRange.2.trans narrow⟩
    unfold readEcoLevel
    simp only [number, if_pos inRange]

/-- The text says how many games go into a file and, behind a comma, the number of the first file if
it is given as well. -/
inductive SpellsGames : List Char → Nat → Option Nat → Prop
  | games {cs : List Char} {games : Nat} (spells : Spells [.absent] cs games)
      (within : games ≤ max32) : SpellsGames cs games none
  | gamesAndFirst {left right : List Char} {games first : Nat}
      (spells : Spells [.absent] left games) (within : games ≤ max32)
      (spellsFirst : Spells [.absent] right first) (withinFirst : first ≤ max32) :
      SpellsGames (left ++ ',' :: right) games (some first)

/-- No comma stands in the spelling of a number. -/
theorem comma_notMem_of_spells {cs : List Char} {n : Nat} (spells : Spells [.absent] cs n) :
    ',' ∉ cs := by
  intro among
  rcases (spells_only_absent.mp spells).isDigit_or_isBlank among with digit | blank
  · exact absurd digit (by decide)
  · exact absurd blank (by decide)

/-- The value is accepted exactly if it spells a number of games, with or without the number of the
first file. -/
theorem readGamesPerFile_eq_ok_iff :
    readGamesPerFile config value = .ok changed ↔
      ∃ games first?, SpellsGames value.toList games first? ∧
        { config with
          gamesPerFile := games
          nextFileNumber := first?.getD config.nextFileNumber } = changed := by
  constructor
  · intro read
    unfold readGamesPerFile at read
    split at read
    · rename_i left right cut
      split at read
      · rename_i games first readGames readFirst
        cases read
        obtain ⟨spells, within⟩ := digits?_trimChars_eq_some_iff_spells.mp readGames
        obtain ⟨spellsFirst, withinFirst⟩ := digits?_trimChars_eq_some_iff_spells.mp readFirst
        refine ⟨games, some first, ?_, rfl⟩
        rw [eq_append_of_cut? cut]
        exact .gamesAndFirst spells within spellsFirst withinFirst
      · cases read
    · obtain ⟨games, number, rfl⟩ := bind_pure_eq_ok.mp read
      obtain ⟨spells, within⟩ := Value.plain_eq_ok_iff.mp number
      exact ⟨games, none, .games spells within, rfl⟩
  · rintro ⟨games, first?, spelled, rfl⟩
    unfold readGamesPerFile
    generalize text : value.toList = cs at spelled
    cases spelled with
    | games spells within =>
      have uncut : cut? ',' cs = none := cut?_eq_none_iff.mpr (comma_notMem_of_spells spells)
      have number : Value.plain .gamesPerFile value = .ok games :=
        Value.plain_eq_ok_iff.mpr ⟨by rwa [text], within⟩
      rw [uncut, number]
      rfl
    | gamesAndFirst spells within spellsFirst withinFirst =>
      rw [cut?_append _ _ (comma_notMem_of_spells spells)]
      simp only [digits?_trimChars_eq_some_iff_spells.mpr ⟨spells, within⟩,
        digits?_trimChars_eq_some_iff_spells.mpr ⟨spellsFirst, withinFirst⟩]
      rfl

end

end ExtractOptions

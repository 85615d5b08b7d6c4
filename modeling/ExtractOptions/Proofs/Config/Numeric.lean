/-
Module: ExtractOptions.Proofs.Config.Numeric
Purpose: the options whose value is one number. A table says which signs each of them knows, between
  which numbers it accepts one, what the number must not contradict, and where it is stored. The
  adjustments accept exactly what the table says, and store the whole number.
Main exports: NumericOption, NumericOption.Takes, NumericOption.store, NumericOption.apply_of_takes,
  NumericOption.takes_of_apply
-/
import ExtractOptions.Proofs.Config.Change

namespace ExtractOptions

open Text

/-- The options whose value is one number that is stored and nothing else. -/
inductive NumericOption where
  | pieceCount
  | plyLimit
  | quietPly
  | startPly
  | stopAfter
  | searchDepth
  | firstGame
  | gameLimit
  | fuzzyDepth
  | dropPly
  | ecoLevel
  | lineWidth
deriving DecidableEq, Repr

namespace NumericOption

/-- The signs that the number may have. -/
def signs : NumericOption → List Numeral.Sign
  | pieceCount | plyLimit | quietPly | startPly | stopAfter | searchDepth | dropPly =>
    [.absent, .plus, .minus]
  | firstGame | gameLimit | fuzzyDepth => [.absent, .plus]
  | ecoLevel | lineWidth => [.absent]

/-- The least number that is accepted. -/
def least : NumericOption → Int
  | dropPly => -2147483648
  | plyLimit | quietPly | fuzzyDepth | lineWidth => 0
  | startPly | stopAfter | searchDepth | firstGame | gameLimit | ecoLevel => 1
  | pieceCount => 2

/-- The greatest number that is accepted. -/
def most : NumericOption → Int
  | ecoLevel => 10
  | dropPly => 2147483647
  | pieceCount | plyLimit | quietPly | startPly | stopAfter | searchDepth | fuzzyDepth
  | lineWidth => 4294967295
  | firstGame | gameLimit => 18446744073709551615

/-- The number contradicts nothing that was chosen before it. -/
def Fits (config : Config) (n : Int) : NumericOption → Prop
  | searchDepth => config.searchDepth ≤ n
  | firstGame => n ≤ config.gameLimit
  | gameLimit => config.firstGame ≤ n
  | ecoLevel => config.output = none ∧ config.gamesPerFile = 0
  | pieceCount | plyLimit | quietPly | startPly | stopAfter | fuzzyDepth | dropPly
  | lineWidth => True

/-- The configuration with the number stored. -/
def store (n : Int) (config : Config) : NumericOption → Config
  | pieceCount => { config with pieceCount := some n.toNat }
  | plyLimit => { config with plyLimit := some n.toNat }
  | quietPly => { config with quietPly := n.toNat }
  | startPly => { config with startPly := n.toNat }
  | stopAfter => { config with maximumMatches := some n.toNat }
  | searchDepth => { config with searchDepth := n.toNat }
  | firstGame => { config with firstGame := n.toNat }
  | gameLimit => { config with gameLimit := n.toNat }
  | fuzzyDepth => { config.set .fuzzyDuplicates true with fuzzyDepth := n.toNat }
  | dropPly => { config with dropPly := n }
  | ecoLevel => { config with ecoLevel := n.toNat }
  | lineWidth => { config with lineLength := n.toNat }

/-- The value is one that the option takes for the number. -/
structure Takes (option : NumericOption) (config : Config) (value : String) (n : Int) : Prop where
  spelled : Numeral.Spells option.signs value.toList n
  enough : option.least ≤ n
  within : n ≤ option.most
  fits : option.Fits config n

/-- The adjustment that the option makes. The width of a line is told to others as well. -/
def adjustment? : NumericOption → Option Adjustment
  | pieceCount => some .pieceCount
  | plyLimit => some .plyLimit
  | quietPly => some .quietPly
  | startPly => some .startPly
  | stopAfter => some .stopAfter
  | searchDepth => some .searchDepth
  | firstGame => some .firstGame
  | gameLimit => some .gameLimit
  | fuzzyDepth => some .fuzzyDepth
  | dropPly => some .dropPly
  | ecoLevel => some .ecoLevel
  | lineWidth => none

variable {option : NumericOption} {adjustment : Adjustment} {name : OptionName} {value : String}
  {config changed : Config}

/-- Only one option takes numbers below zero. -/
theorem Takes.exists_nat {n : Int} (takes : option.Takes config value n)
    (whole : option ≠ .dropPly) : ∃ m : Nat, n = m := by
  have nonneg : 0 ≤ option.least := by cases option <;> first | exact absurd rfl whole | decide
  exact Int.eq_ofNat_of_zero_le (Int.le_trans nonneg takes.enough)

/-- What an adjustment takes it stores. -/
theorem apply_of_takes (makes : option.adjustment? = some adjustment) {n : Int}
    (takes : option.Takes config value n) :
    adjustment.apply name value config = .ok (option.store n config) := by
  by_cases whole : option = .dropPly
  · subst whole
    cases makes
    exact bind_pure_eq_ok.mpr
      ⟨n, Value.signed_eq_ok_iff.mpr ⟨takes.spelled, takes.enough, takes.within⟩, rfl⟩
  · obtain ⟨m, rfl⟩ := takes.exists_nat whole
    obtain ⟨spelled, enough, within, fits⟩ := takes
    cases option with
    | dropPly => exact absurd rfl whole
    | lineWidth => cases makes
    | pieceCount | plyLimit | quietPly | startPly | stopAfter =>
      cases makes
      have within : m ≤ Numeral.max32 := Int.ofNat_le.mp within
      exact bind_pure_eq_ok.mpr ⟨m, Value.atLeast_eq_ok_iff.mpr ⟨spelled, enough, within⟩, rfl⟩
    | searchDepth =>
      cases makes
      have within : m ≤ Numeral.max32 := Int.ofNat_le.mp within
      have fits : config.searchDepth ≤ m := Int.ofNat_le.mp fits
      exact bind_eq_ok.mpr ⟨m, Value.atLeast_eq_ok_iff.mpr ⟨spelled, enough, within⟩,
        clashIf_bind_eq_ok.mpr ⟨Nat.not_lt.mpr fits, rfl⟩⟩
    | firstGame =>
      cases makes
      have enough : 1 ≤ m := Int.ofNat_le.mp enough
      have within : m ≤ Numeral.max64 := Int.ofNat_le.mp within
      have fits : m ≤ config.gameLimit := Int.ofNat_le.mp fits
      refine bind_eq_ok.mpr ⟨m, Value.unsigned_eq_ok_iff.mpr ⟨spelled, within⟩, ?_⟩
      rw [if_neg (Nat.ne_of_gt enough)]
      exact clashIf_bind_eq_ok.mpr ⟨Nat.not_lt.mpr fits, rfl⟩
    | gameLimit =>
      cases makes
      have within : m ≤ Numeral.max64 := Int.ofNat_le.mp within
      have fits : config.firstGame ≤ m := Int.ofNat_le.mp fits
      exact bind_eq_ok.mpr ⟨m, Value.unsigned_eq_ok_iff.mpr ⟨spelled, within⟩,
        clashIf_bind_eq_ok.mpr ⟨Nat.not_lt.mpr fits, rfl⟩⟩
    | fuzzyDepth =>
      cases makes
      have within : m ≤ Numeral.max32 := Int.ofNat_le.mp within
      have number := Value.unsigned?_digitsOf_eq_some_iff.mpr ⟨spelled, within⟩
      simp only [Adjustment.apply, number]
      rfl
    | ecoLevel =>
      cases makes
      obtain ⟨noOutput, noCount⟩ := fits
      have inRange : minEcoLevel ≤ m ∧ m ≤ maxEcoLevel :=
        ⟨Int.ofNat_le.mp enough, Int.ofNat_le.mp within⟩
      exact bind_eq_ok.mpr ⟨(), checkNoOutput_eq_ok.mpr noOutput, bind_eq_ok.mpr
        ⟨(), checkNoGamesPerFile_eq_ok.mpr noCount,
          readEcoLevel_eq_ok_iff.mpr ⟨m, spelled, inRange, rfl⟩⟩⟩

/-- What an adjustment accepts it takes, if games are counted from one. -/
theorem takes_of_apply (makes : option.adjustment? = some adjustment)
    (positive : 1 ≤ config.firstGame)
    (made : adjustment.apply name value config = .ok changed) :
    ∃ n, option.Takes config value n ∧ option.store n config = changed := by
  cases option with
  | lineWidth => cases makes
  | pieceCount | plyLimit | quietPly | startPly | stopAfter =>
    cases makes
    obtain ⟨m, read, rfl⟩ := bind_pure_eq_ok.mp made
    obtain ⟨spelled, enough, within⟩ := Value.atLeast_eq_ok_iff.mp read
    exact ⟨m, ⟨spelled, enough, Int.ofNat_le.mpr within, trivial⟩, rfl⟩
  | searchDepth =>
    cases makes
    obtain ⟨m, read, rest⟩ := bind_eq_ok.mp made
    obtain ⟨spelled, enough, within⟩ := Value.atLeast_eq_ok_iff.mp read
    obtain ⟨fits, rfl⟩ := clashIf_bind_eq_ok.mp rest
    exact ⟨m, ⟨spelled, enough, Int.ofNat_le.mpr within,
      Int.ofNat_le.mpr (Nat.not_lt.mp fits)⟩, rfl⟩
  | firstGame =>
    cases makes
    obtain ⟨m, read, rest⟩ := bind_eq_ok.mp made
    obtain ⟨spelled, within⟩ := Value.unsigned_eq_ok_iff.mp read
    split at rest
    · cases rest
    · rename_i nonzero
      obtain ⟨fits, rfl⟩ := clashIf_bind_eq_ok.mp rest
      exact ⟨m, ⟨spelled, Int.ofNat_le.mpr (Nat.pos_of_ne_zero nonzero), Int.ofNat_le.mpr within,
        Int.ofNat_le.mpr (Nat.not_lt.mp fits)⟩, rfl⟩
  | gameLimit =>
    cases makes
    obtain ⟨m, read, rest⟩ := bind_eq_ok.mp made
    obtain ⟨spelled, within⟩ := Value.unsigned_eq_ok_iff.mp read
    obtain ⟨fits, rfl⟩ := clashIf_bind_eq_ok.mp rest
    have fits : config.firstGame ≤ m := Nat.not_lt.mp fits
    exact ⟨m, ⟨spelled, Int.ofNat_le.mpr (positive.trans fits), Int.ofNat_le.mpr within,
      Int.ofNat_le.mpr fits⟩, rfl⟩
  | fuzzyDepth =>
    cases makes
    simp only [Adjustment.apply] at made
    split at made
    · cases made
    · rename_i m number
      cases made
      obtain ⟨spelled, within⟩ := Value.unsigned?_digitsOf_eq_some_iff.mp number
      exact ⟨m, ⟨spelled, Int.natCast_nonneg m, Int.ofNat_le.mpr within, trivial⟩, rfl⟩
  | dropPly =>
    cases makes
    obtain ⟨n, read, rfl⟩ := bind_pure_eq_ok.mp made
    obtain ⟨spelled, enough, within⟩ := Value.signed_eq_ok_iff.mp read
    exact ⟨n, ⟨spelled, enough, within, trivial⟩, rfl⟩
  | ecoLevel =>
    cases makes
    obtain ⟨_, noOutput, rest⟩ := bind_eq_ok.mp made
    obtain ⟨_, noCount, read⟩ := bind_eq_ok.mp rest
    obtain ⟨m, spelled, inRange, rfl⟩ := readEcoLevel_eq_ok_iff.mp read
    exact ⟨m, ⟨spelled, Int.ofNat_le.mpr inRange.1, Int.ofNat_le.mpr inRange.2,
      checkNoOutput_eq_ok.mp noOutput, checkNoGamesPerFile_eq_ok.mp noCount⟩, rfl⟩

end NumericOption

end ExtractOptions

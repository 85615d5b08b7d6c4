/-
Module: ExtractOptions.Proofs.Config.Repetition
Purpose: adjustments made twice. An adjustment looks at values that it does not set itself, or that
  it sets to what it asks for. So one that was made can be made again with the same value, and
  changes nothing.
Main exports: PlyBounds.apply_again, Adjustment.Steady, Adjustment.steady, Adjustment.apply_again
-/
import ExtractOptions.Proofs.Config.Change

namespace ExtractOptions

/-- A bound that fits is in force afterwards, and fits again. -/
theorem PlyBounds.apply_again {bounds changed : PlyBounds} {unit : BoundUnit} {side : BoundSide}
    {number : Nat} (made : bounds.apply unit side number = .ok changed) :
    changed.apply unit side number = .ok changed := by
  cases side with
  | exact =>
    cases made
    rfl
  | lower =>
    simp only [apply] at made
    split at made
    · cases made
    · rename_i fits
      cases made
      simp [apply, fits]
  | upper =>
    simp only [apply] at made
    split at made
    · cases made
    · rename_i fits
      cases made
      simp [apply, fits]

/-! ### Adjustments, course by course

What was checked before a change was made must still hold after it, and the change made again must
change nothing. For the courses that most adjustments take, these two are all that is left to show;
the adjustments that go their own way have a lemma each. -/

namespace Adjustment

/-- A course is steady if it can be taken again once it was taken, and then changes nothing. -/
def Steady (course : Config → Except Failure Config) : Prop :=
  ∀ ⦃config changed : Config⦄, course config = .ok changed → course changed = .ok changed

namespace Steady

/-- What is read is the same as before, and setting it again changes nothing. -/
theorem of_read {α : Type} {read : Except Failure α} {use : α → Config → Config}
    (absorbs : ∀ value config, use value (use value config) = use value config) :
    Steady fun config => read >>= fun value => pure (use value config) := by
  intro config changed made
  obtain ⟨value, given, rfl⟩ := bind_pure_eq_ok.mp made
  exact bind_pure_eq_ok.mpr ⟨value, given, absorbs value config⟩

/-- What contradicted nothing contradicts nothing afterwards. -/
theorem of_checked {contradicts : Config → Prop} [∀ config, Decidable (contradicts config)]
    {clash : Config → Clash} {use : Config → Config}
    (still : ∀ config, ¬ contradicts config → ¬ contradicts (use config))
    (absorbs : ∀ config, use (use config) = use config) :
    Steady fun config =>
      clashIf (contradicts config) (clash config) >>= fun _ => pure (use config) := by
  intro config changed made
  obtain ⟨free, rfl⟩ := clashIf_bind_eq_ok.mp made
  exact clashIf_bind_eq_ok.mpr ⟨still config free, absorbs config⟩

/-- What is read is the same as before, and contradicted nothing. -/
theorem of_read_checked {α : Type} {read : Except Failure α} {contradicts : α → Config → Prop}
    [∀ value config, Decidable (contradicts value config)] {clash : α → Config → Clash}
    {use : α → Config → Config}
    (still : ∀ value config, ¬ contradicts value config → ¬ contradicts value (use value config))
    (absorbs : ∀ value config, use value (use value config) = use value config) :
    Steady fun config => read >>= fun value =>
      clashIf (contradicts value config) (clash value config) >>= fun _ =>
        pure (use value config) := by
  intro config changed made
  obtain ⟨value, given, rest⟩ := bind_eq_ok.mp made
  exact bind_eq_ok.mpr ⟨value, given, of_checked (still value) (absorbs value) rest⟩

/-- What was chosen is confirmed by choosing it again. -/
theorem of_confirm {chosen : Config → Option Nat} {wanted : Nat} {refusal : Nat → Failure}
    {choose : Config → Config} (chooses : ∀ config, chosen (choose config) = some wanted) :
    Steady fun config => match chosen config with
      | some other => if other = wanted then .ok config else .error (refusal other)
      | none => .ok (choose config) := by
  intro config changed made
  rcases confirm_eq_ok made with ⟨-, rfl⟩ | ⟨same, rfl⟩
  · simp [chooses]
  · simp [same]

/-- A level that is in range is in range again, whatever level it replaces. -/
theorem readEcoLevel (value : String) : Steady fun config => readEcoLevel config value := by
  intro config changed made
  simp only [ExtractOptions.readEcoLevel] at made ⊢
  split at made
  · cases made
  · split at made
    · rename_i inRange
      cases made
      rw [if_pos inRange]
    · cases made

/-- Without the number of the first file, the one in force stays in force. -/
theorem readGamesPerFile (value : String) :
    Steady fun config => readGamesPerFile config value := by
  unfold ExtractOptions.readGamesPerFile
  split
  · intro config changed made
    split at made
    · cases made
      rfl
    · cases made
  · exact of_read fun _ _ => rfl

end Steady

end Adjustment

/-- No ending is among those that it excludes. -/
theorem Ending.notMem_rivals (which : Ending) : which ∉ which.rivals := by
  cases which <;> decide

theorem Winner.rival_ne (which : Winner) : which.rival ≠ which := by
  cases which <;> decide

namespace Adjustment

variable {option : OptionName} {value : String}

/-- No ending excludes itself. -/
theorem ending_steady {which : Ending} : Steady ((ending which).apply option value) := by
  intro config changed made
  obtain ⟨_, checked, same⟩ := bind_eq_ok.mp made
  cases same
  refine bind_eq_ok.mpr ⟨(), checkEnding_eq_ok.mpr fun rival among => ?_,
    congrArg Except.ok (config.set_set _ true)⟩
  have other : rival ≠ which := by
    rintro rfl
    exact rival.notMem_rivals among
  simp [other, checkEnding_eq_ok.mp checked rival among]

/-- A policy on SetUp tags agrees with itself. -/
theorem setupTags_steady {policy : SetupTags} :
    Steady ((setupTags policy).apply option value) := by
  intro config changed made
  simp only [apply] at made
  split at made
  · cases made
  · cases made
    simp [apply, Config.otherSetupTags?]

/-- Splitting variations keeps them, and the depth is the same as before. -/
theorem splitVariants_steady : Steady (splitVariants.apply option value) := by
  intro config changed made
  obtain ⟨_, checked, rest⟩ := bind_eq_ok.mp made
  have kept : ¬ ¬ (config.set .splitVariants true).on .keepVariations := by
    simpa using clashIf_eq_ok.mp checked
  have twice := config.set_set .splitVariants true
  split at rest
  · rename_i depth read
    cases rest
    refine bind_eq_ok.mpr ⟨(), clashIf_eq_ok.mpr kept, ?_⟩
    simp only [read]
    exact congrArg (fun config : Config => Except.ok { config with splitDepth := depth }) twice
  · rename_i read
    cases rest
    refine bind_eq_ok.mpr ⟨(), clashIf_eq_ok.mpr kept, ?_⟩
    simp only [read]
    exact congrArg Except.ok twice

/-- The first game wanted is compared with the last one, which it leaves alone. -/
theorem firstGame_steady : Steady (firstGame.apply option value) := by
  intro config changed made
  obtain ⟨first, read, rest⟩ := bind_eq_ok.mp made
  split at rest
  · cases rest
  · rename_i positive
    obtain ⟨fits, rfl⟩ := clashIf_bind_eq_ok.mp rest
    refine bind_eq_ok.mpr ⟨first, read, ?_⟩
    rw [if_neg positive]
    exact clashIf_bind_eq_ok.mpr ⟨fits, rfl⟩

/-- A depth for fuzzy duplicates is read from the value alone. -/
theorem fuzzyDepth_steady : Steady (fuzzyDepth.apply option value) := by
  intro config changed made
  simp only [apply] at made ⊢
  split at made
  · cases made
  · rename_i depth read
    cases made
    exact congrArg (fun config : Config => Except.ok { config with fuzzyDepth := depth })
      (config.set_set .fuzzyDuplicates true)

/-- A bound that was put in force fits again. -/
theorem bound_steady {unit : BoundUnit} : Steady ((bound unit).apply option value) := by
  intro config changed made
  obtain ⟨spec, read, rest⟩ := bind_eq_ok.mp made
  split at rest
  · rename_i fits
    cases rest
    refine bind_eq_ok.mpr ⟨spec, read, ?_⟩
    simp only [PlyBounds.apply_again fits]
    rfl
  · cases rest

/-- A level for ECO codes names no file and no number of games. -/
theorem ecoLevel_steady : Steady (ecoLevel.apply option value) := by
  intro config changed made
  obtain ⟨_, noOutput, rest⟩ := bind_eq_ok.mp made
  obtain ⟨_, whole, read⟩ := bind_eq_ok.mp rest
  obtain ⟨level, -, rfl⟩ := readEcoLevel_eq_ok read
  exact bind_eq_ok.mpr ⟨(), checkNoOutput_eq_ok.mpr (checkNoOutput_eq_ok.mp noOutput),
    bind_eq_ok.mpr ⟨(), checkNoGamesPerFile_eq_ok.mpr (checkNoGamesPerFile_eq_ok.mp whole),
      Steady.readEcoLevel value read⟩⟩

/-- A number of games for each file names no file and no level. -/
theorem gamesPerFile_steady : Steady (gamesPerFile.apply option value) := by
  intro config changed made
  obtain ⟨_, noLevel, rest⟩ := bind_eq_ok.mp made
  obtain ⟨_, noOutput, read⟩ := bind_eq_ok.mp rest
  obtain ⟨games, first, rfl⟩ := readGamesPerFile_eq_ok read
  exact bind_eq_ok.mpr ⟨(), checkNoEcoLevel_eq_ok.mpr (checkNoEcoLevel_eq_ok.mp noLevel),
    bind_eq_ok.mpr ⟨(), checkNoOutput_eq_ok.mpr (checkNoOutput_eq_ok.mp noOutput),
      Steady.readGamesPerFile value read⟩⟩

theorem steady (adjustment : Adjustment) : Steady (adjustment.apply option value) := by
  cases adjustment with
  | turn switch position =>
    intro config changed made
    cases made
    exact congrArg Except.ok (config.set_set switch position)
  | verbosity level =>
    intro config changed made
    cases made
    rfl
  | ending => exact ending_steady
  | winner which =>
    exact .of_checked (by simp [which.rival_ne]) fun config => config.set_set _ true
  | sideToMove => exact .of_checked (by simp) fun _ => rfl
  | setupTags => exact setupTags_steady
  | moveRule => exact .of_confirm fun _ => rfl
  | repetition => exact .of_confirm fun _ => rfl
  | onlyCommented | dropComments | dropVariations =>
    exact .of_checked (by simp) fun config => config.set_set _ _
  | dropDuplicates | onlyWantedTags =>
    exact .of_checked (fun _ => id) fun config => config.set_set _ true
  | splitVariants => exact splitVariants_steady
  | sevenTagRoster =>
    refine .of_checked (fun config free => ?_) fun _ => rfl
    rintro (none | wanted)
    · cases none
    · exact free (.inr wanted)
  | noTags => exact .of_checked (by simp) fun _ => rfl
  | markMatches =>
    exact .of_read fun comment config =>
      congrArg (fun config => { config with matchComment := some comment })
        (config.set_set .markMatches true)
  | dropBefore | dropPly | lineMarker | pieceCount | plyLimit | quietPly | startPly | stopAfter
  | selectOnly | skipMatching => exact .of_read fun _ _ => rfl
  | firstGame => exact firstGame_steady
  | gameLimit => exact .of_read_checked (fun _ _ => id) fun _ _ => rfl
  | fuzzyDepth => exact fuzzyDepth_steady
  | searchDepth => exact .of_read_checked (by simp) fun _ _ => rfl
  | bound => exact bound_steady
  | ecoLevel => exact ecoLevel_steady
  | gamesPerFile => exact gamesPerFile_steady

/-- An adjustment that was made can be made again, and changes nothing. -/
theorem apply_again {adjustment : Adjustment} {config changed : Config}
    (made : adjustment.apply option value config = .ok changed) :
    adjustment.apply option value changed = .ok changed :=
  adjustment.steady made

end Adjustment

end ExtractOptions

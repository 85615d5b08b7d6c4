/-
Module: ExtractOptions.Proofs.Config.Refusal
Purpose: why options are refused. A check, the reading of a value and an adjustment fail for two
  reasons only: the option is misused, or it contradicts another one. Nothing that only concerns
  argument files is among them, no defect of the program, and nothing that the rest of the tool
  refuses.
Main exports: Failure.isOrdinary, Failure.isObjection, Refusal, Adjustment.refusal_apply
-/
import ExtractOptions.Config.Adjustment

namespace ExtractOptions

/-- A failure that any option may have. The others are a letter that cannot be given as an option,
and the two reasons why an argument file is not read although it is there. -/
def Failure.isOrdinary : Failure → Bool
  | .internal _ | .recursiveInclude _ | .includeTooDeep .. => false
  | _ => true

/-- The option is misused, or contradicts another one. -/
def Failure.isObjection : Failure → Bool
  | .usage _ | .conflict _ => true
  | _ => false

/-- What is wrong with an option may be wrong with any. -/
theorem Failure.isOrdinary_of_isObjection {failure : Failure}
    (objection : failure.isObjection = true) : failure.isOrdinary = true := by
  cases failure with
  | usage | conflict => rfl
  | _ => cases objection

/-- A step that fails only because the option is misused or contradicts another one. -/
def Refusal {α : Type} (outcome : Except Failure α) : Prop :=
  ∀ failure, outcome = .error failure → failure.isObjection = true

namespace Refusal

variable {α β : Type}

protected theorem ok (answer : α) : Refusal (.ok answer) := by
  rintro _ ⟨⟩

protected theorem usage (misuse : Misuse) :
    Refusal (.error (.usage misuse) : Except Failure α) := by
  rintro _ ⟨⟩
  rfl

protected theorem conflict (clash : Clash) :
    Refusal (.error (.conflict clash) : Except Failure α) := by
  rintro _ ⟨⟩
  rfl

/-- Steps that fail for these reasons only do so together as well. -/
protected theorem bind {first : Except Failure α} {next : α → Except Failure β}
    (head : Refusal first) (tail : ∀ answer, Refusal (next answer)) : Refusal (first >>= next) := by
  intro failure fails
  cases first with
  | ok answer => exact tail answer failure fails
  | error cause =>
    cases fails
    exact head failure rfl

/-- So do the steps that are taken for the items of a list. -/
protected theorem forM {items : List α} {visit : α → Except Failure Unit}
    (each : ∀ item, Refusal (visit item)) : Refusal (items.forM visit) := by
  induction items with
  | nil => exact .ok ()
  | cons item items ih => exact (each item).bind fun _ => ih

/-! ### Checks

A check looks at the configuration and fails with a clash, so it can only object. -/

/-- A check fails with a clash. -/
protected theorem clashIf (contradicts : Prop) [Decidable contradicts] (clash : Clash) :
    Refusal (clashIf contradicts clash) := by
  unfold ExtractOptions.clashIf
  split
  · exact .conflict clash
  · exact .ok ()

section Checks

variable (config : Config) (option : OptionName)

protected theorem checkEnding (ending : Ending) : Refusal (config.checkEnding option ending) :=
  .forM fun _ => .clashIf _ _

protected theorem checkNoOutput : Refusal (config.checkNoOutput option) := by
  unfold Config.checkNoOutput
  split
  · exact .conflict _
  · exact .ok ()

protected theorem checkNoEcoLevel : Refusal (config.checkNoEcoLevel option) :=
  .clashIf _ _

protected theorem checkNoGamesPerFile : Refusal (config.checkNoGamesPerFile option) :=
  .clashIf _ _

end Checks

/-! ### Values

A value is misspelt or out of range, and every reader reports that as misuse of the option. -/

section Values

variable (option : OptionName) (value : String)

protected theorem required (what : String) : Refusal (Value.required option what value) := by
  unfold Value.required
  split
  · exact .usage _
  · exact .ok value

protected theorem unsigned (most : Nat) : Refusal (Value.unsigned option most value) := by
  unfold Value.unsigned
  split
  · exact .ok _
  · exact .usage _

protected theorem signed : Refusal (Value.signed option value) := by
  unfold Value.signed
  split
  · exact .ok _
  · exact .usage _

/-- A number with a minimum may be missing, no number, or too small, and each of these is misuse. -/
protected theorem atLeast (minimum : Int) : Refusal (Value.atLeast option minimum value) := by
  unfold Value.atLeast
  split
  · exact .usage _
  · split
    · exact .usage _
    · split
      · exact .usage _
      · exact .ok _

protected theorem ranges : Refusal (Value.ranges option value) := by
  unfold Value.ranges
  split
  · exact .ok _
  · exact .usage _

protected theorem plain (letter : LetterOption) : Refusal (Value.plain letter value) := by
  unfold Value.plain
  split
  · exact .ok _
  · exact .usage _

protected theorem bound (letter : LetterOption) : Refusal (Value.bound letter value) := by
  unfold Value.bound
  split
  · exact .ok _
  · exact .usage _
  · exact .usage _

end Values

/-- Numbers of games and of files are misspelt, at worst. -/
protected theorem readGamesPerFile (config : Config) (value : String) :
    Refusal (readGamesPerFile config value) := by
  unfold ExtractOptions.readGamesPerFile
  split
  · split
    · exact .ok _
    · exact .usage _
  · exact (Refusal.plain value .gamesPerFile).bind fun _ => .ok _

/-- A level is missing, misspelt or out of range, at worst. -/
protected theorem readEcoLevel (config : Config) (value : String) :
    Refusal (readEcoLevel config value) := by
  unfold ExtractOptions.readEcoLevel
  split
  · exact .usage _
  · split
    · exact .ok _
    · exact .usage _

end Refusal

/-- Every adjustment is refused for these reasons only. -/
theorem Adjustment.refusal_apply (adjustment : Adjustment) (option : OptionName) (value : String)
    (config : Config) : Refusal (adjustment.apply option value config) := by
  cases adjustment with
  | turn | verbosity => exact .ok _
  | ending which => exact (Refusal.checkEnding config option which).bind fun _ => .ok _
  | winner | sideToMove | onlyCommented | dropComments | dropVariations | dropDuplicates
  | sevenTagRoster | noTags | onlyWantedTags =>
    exact (Refusal.clashIf _ _).bind fun _ => .ok _
  | setupTags policy =>
    simp only [Adjustment.apply]
    split
    · exact .conflict _
    · exact .ok _
  | moveRule moves =>
    simp only [Adjustment.apply]
    split
    · split
      · exact .ok _
      · exact .conflict _
    · exact .ok _
  | repetition count =>
    simp only [Adjustment.apply]
    split
    · split
      · exact .ok _
      · exact .conflict _
    · exact .ok _
  | splitVariants =>
    refine (Refusal.clashIf _ _).bind fun _ => ?_
    split <;> exact .ok _
  | dropBefore | lineMarker | markMatches =>
    exact (Refusal.required option value _).bind fun _ => .ok _
  | dropPly => exact (Refusal.signed option value).bind fun _ => .ok _
  | firstGame =>
    refine (Refusal.unsigned option value _).bind fun first => ?_
    split
    · exact .usage _
    · exact (Refusal.clashIf _ _).bind fun _ => .ok _
  | gameLimit =>
    refine (Refusal.unsigned option value _).bind fun limit => ?_
    exact (Refusal.clashIf _ _).bind fun _ => .ok _
  | fuzzyDepth =>
    simp only [Adjustment.apply]
    split
    · exact .usage _
    · exact .ok _
  | searchDepth =>
    refine (Refusal.atLeast option value _).bind fun depth => ?_
    exact (Refusal.clashIf _ _).bind fun _ => .ok _
  | pieceCount | plyLimit | quietPly | startPly | stopAfter =>
    exact (Refusal.atLeast option value _).bind fun _ => .ok _
  | selectOnly | skipMatching => exact (Refusal.ranges option value).bind fun _ => .ok _
  | bound unit =>
    refine (Refusal.bound value _).bind fun spec => ?_
    split
    · exact .ok _
    · exact .conflict _
  | ecoLevel =>
    refine (Refusal.checkNoOutput config option).bind fun _ => ?_
    refine (Refusal.checkNoGamesPerFile config option).bind fun _ => ?_
    exact .readEcoLevel config value
  | gamesPerFile =>
    refine (Refusal.checkNoEcoLevel config option).bind fun _ => ?_
    refine (Refusal.checkNoOutput config option).bind fun _ => ?_
    exact .readGamesPerFile config value

end ExtractOptions

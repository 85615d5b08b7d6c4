/-
Module: ExtractOptions.Proofs.Config.Change
Purpose: the changes that options make to the configuration, each with what was checked before it was
  made. An adjustment that an option offers makes one of these changes or none at all.
Main exports: Switch.isBare, Config.Change, Config.Chooses, Config.stripped, Adjustment.isOffered,
  Adjustment.change_of_apply
-/
import ExtractOptions.Named.Option
import ExtractOptions.Proofs.Config.Value

namespace ExtractOptions

/-- The switches that options turn without looking at anything else, and that nothing else turns. -/
def Switch.isBare : Switch → Bool
  | onlyEnding _ | onlyWinner _ | onlyCommented | positionalVariations | suppressDuplicates
  | fuzzyDuplicates | addEco | onlyWantedTags | keepComments | keepVariations | splitVariants
  | finalFen | fenComments | markMatches => false
  | _ => true

/-- A change of the configuration that opens no file and looks at whatever it may contradict. -/
inductive Config.Change (config : Config) : Config → Prop where
  | turn (switch : Switch) (bare : switch.isBare = true) :
    Change config (config.set switch !switch.initially)
  | verbosity (level : Nat) : Change config { config with verbosity := level }
  | ending (which : Ending)
      (alone : ∀ rival ∈ which.rivals, config.on (.onlyEnding rival) = false) :
    Change config (config.set (.onlyEnding which) true)
  | winner (which : Winner) (alone : config.on (.onlyWinner which.rival) = false) :
    Change config (config.set (.onlyWinner which) true)
  | sideToMove (side : SideToMove)
      (agrees : config.sideToMove = .either ∨ config.sideToMove = side) :
    Change config { config with sideToMove := side }
  | setupTags (policy : SetupTags)
      (agrees : config.setupTags = .allowed ∨ config.setupTags = policy) :
    Change config { config with setupTags := policy }
  | moveRule (moves : Nat) (known : moves = 50 ∨ moves = 75) (unset : config.moveRule = none) :
    Change config { config with moveRule := some moves }
  | repetition (count : Nat) (known : count = 3 ∨ count = 5)
      (unset : config.repetition = none) :
    Change config { config with repetition := some count }
  | onlyCommented (kept : config.on .keepComments = true) :
    Change config (config.set .onlyCommented true)
  | dropComments (unneeded : config.on .onlyCommented = false) :
    Change config (config.set .keepComments false)
  | splitVariants (kept : config.on .keepVariations = true) (depth : Nat) :
    Change config { config.set .splitVariants true with splitDepth := depth }
  | dropVariations (unneeded : config.on .splitVariants = false) :
    Change config (config.set .keepVariations false)
  | dropDuplicates (unset : config.duplicates = none) :
    Change config (config.set .suppressDuplicates true)
  | sevenTagRoster (written : config.tagOutput ≠ .noTags)
      (unordered : config.on .onlyWantedTags = false) :
    Change config { config with tagOutput := .sevenTagRoster }
  | noTags (free : config.tagOutput ≠ .sevenTagRoster) :
    Change config { config with tagOutput := .noTags }
  | onlyWantedTags (free : config.tagOutput ≠ .sevenTagRoster) :
    Change config (config.set .onlyWantedTags true)
  | dropComment (comment : String) : Change config { config with dropComment := some comment }
  | dropPly (ply : Int) : Change config { config with dropPly := ply }
  | lineMarker (marker : String) : Change config { config with lineMarker := some marker }
  | matchComment (comment : String) :
    Change config { config.set .markMatches true with matchComment := some comment }
  | firstGame (first : Nat) (positive : 1 ≤ first) (fits : first ≤ config.gameLimit) :
    Change config { config with firstGame := first }
  | gameLimit (limit : Nat) (fits : config.firstGame ≤ limit) :
    Change config { config with gameLimit := limit }
  | fuzzyDepth (depth : Nat) :
    Change config { config.set .fuzzyDuplicates true with fuzzyDepth := depth }
  | searchDepth (depth : Nat) (deeper : config.searchDepth ≤ depth) :
    Change config { config with searchDepth := depth }
  | pieceCount (count : Nat) (least : 2 ≤ count) :
    Change config { config with pieceCount := some count }
  | plyLimit (limit : Nat) : Change config { config with plyLimit := some limit }
  | quietPly (ply : Nat) : Change config { config with quietPly := ply }
  | startPly (ply : Nat) (least : 1 ≤ ply) : Change config { config with startPly := ply }
  | maximumMatches (count : Nat) (least : 1 ≤ count) :
    Change config { config with maximumMatches := some count }
  | selectOnly (ranges : GameRanges) : Change config { config with selectOnly := some ranges }
  | skipMatching (ranges : GameRanges) :
    Change config { config with skipMatching := some ranges }
  | plyBounds {unit : BoundUnit} {side : BoundSide} {number : Nat} {bounds : PlyBounds}
      (fits : config.plyBounds.apply unit side number = .ok bounds) :
    Change config { config with plyBounds := bounds }
  | ecoLevel (level : Nat) (inRange : minEcoLevel ≤ level ∧ level ≤ maxEcoLevel)
      (noOutput : config.output = none) (whole : config.gamesPerFile = 0) :
    Change config { config with ecoLevel := level }
  | gamesPerFile (games first : Nat) (noLevel : config.ecoLevel = 0)
      (noOutput : config.output = none) :
    Change config { config with gamesPerFile := games, nextFileNumber := first }
  | outputFormat (format : OutputFormat) : Change config { config with outputFormat := format }
  | addEco (file : String) : Change config { config.set .addEco true with ecoFile := file }
  | positional : Change config (config.set .positionalVariations true)
  | fenPattern (pattern : String) (free : config.on .fenComments = false) :
    Change config { config.set .finalFen true with fenPattern := some pattern }
  | finalFen : Change config (config.set .finalFen !config.on .fenComments)
  | fenComments (free : config.fenPattern = none) :
    Change config ((config.set .fenComments true).set .finalFen false)
  | noNonMatching : Change config { config with nonMatching := none }
  | nonMatchingOutput : Change config { config with nonMatching := some .standardOutput }
  | noLog : Change config { config with log := .standardError }

/-- A change of the configuration that puts an opened file to use. -/
inductive Config.Chooses (config : Config) (target : Target) : Config → Prop where
  | output (noLevel : config.ecoLevel = 0) (whole : config.gamesPerFile = 0)
      (unset : config.output = none) :
    Chooses config target { config with output := some target }
  | duplicates (kept : config.on .suppressDuplicates = false) :
    Chooses config target { config with duplicates := some target }
  | nonMatching : Chooses config target { config with nonMatching := some (.file target) }
  | log : Chooses config target { config with log := .file target }

/-- The configuration with nothing but moves kept in the output. The notation that needs this does
not look at what it may contradict. -/
def Config.stripped (config : Config) : Config :=
  config.clear [.keepNags, .keepComments, .keepMoveNumbers, .keepChecks, .keepVariations]

/-! ### Switches after a change

The switches of a configuration are set one by one. Where a switch stands afterwards is told by
`on_set` and `on_clear`, and no later proof looks at how the switches are stored. -/

namespace Config

/-- A switch that was set stands as it was set, and the others stand as they did. -/
@[simp] theorem on_set (config : Config) (switch other : Switch) (position : Bool) :
    (config.set switch position).on other = if other = switch then position else config.on other :=
  Switches.position_set ..

/-- Setting a switch where it stands changes nothing. -/
theorem set_of_on {config : Config} {switch : Switch} {position : Bool}
    (stands : config.on switch = position) : config.set switch position = config := by
  have same : config.switches.position switch = position := stands
  rw [set, Switches.set, if_pos same]

theorem set_set (config : Config) (switch : Switch) (position : Bool) :
    (config.set switch position).set switch position = config.set switch position :=
  set_of_on (by simp)

/-- Two switches may be set in either order. -/
theorem set_comm (config : Config) {switch other : Switch} (apart : switch ≠ other)
    (position second : Bool) :
    (config.set switch position).set other second =
      (config.set other second).set switch position := by
  have same : (config.switches.set switch position).set other second =
      (config.switches.set other second).set switch position := by
    ext third
    simp only [Switches.position_set]
    by_cases first : third = switch
    · simp [first, apart]
    · simp [first]
  exact congrArg (fun switches => { config with switches }) same

/-- The switches that were cleared are off, and the others stand as they did. -/
theorem on_clear (config : Config) (switches : List Switch) (other : Switch) :
    (config.clear switches).on other = (config.on other && !switches.contains other) := by
  induction switches generalizing config with
  | nil => simp [clear]
  | cons switch switches ih =>
    have step : config.clear (switch :: switches) = (config.set switch false).clear switches := rfl
    rw [step, ih, on_set]
    by_cases same : other = switch <;> simp [same]

/-- Turning switches off changes no other part of a configuration. -/
theorem clear_eq (config : Config) (switches : List Switch) :
    config.clear switches = { config with switches := (config.clear switches).switches } := by
  induction switches generalizing config with
  | nil => rfl
  | cons switch switches ih => exact ih (config.set switch false)

end Config

/-! ### What adjustments come to

An adjustment that succeeded has passed its checks and read its value. The inversions of this
section say for each check and each reader what its success means. -/

/-- The adjustments that some option makes. -/
def Adjustment.isOffered : Adjustment → Bool
  | turn switch position => switch.isBare && position == !switch.initially
  | moveRule moves => moves == 50 || moves == 75
  | repetition count => count == 3 || count == 5
  | _ => true

/-- Every adjustment in the table of named options is one of those. -/
theorem NamedOption.isOffered_of_mem {option : NamedOption} {adjustment : Adjustment}
    (listed : option ∈ NamedOption.all) (makes : option.action = .adjust adjustment) :
    adjustment.isOffered = true := by
  have every : ∀ option ∈ NamedOption.all,
      (match option.action with
        | .adjust adjustment => adjustment.isOffered
        | _ => true) = true := by decide
  simpa [makes] using every option listed

section Inversion

variable {α : Type}

/-- A check passes exactly if there is no contradiction. -/
theorem clashIf_eq_ok {contradicts : Prop} [Decidable contradicts] {clash : Clash} {done : Unit} :
    clashIf contradicts clash = .ok done ↔ ¬ contradicts := by
  unfold clashIf
  split <;> simp_all

/-- What is done unless it contradicts something. -/
theorem clashIf_bind_eq_ok {contradicts : Prop} [Decidable contradicts] {clash : Clash}
    {next answer : α} :
    (clashIf contradicts clash >>= fun _ => pure next) = .ok answer ↔
      ¬ contradicts ∧ next = answer := by
  rw [bind_pure_eq_ok]
  simp [clashIf_eq_ok]

/-- A choice that is made once and confirmed at most: it was not made, and is made now, or it was
made alike. -/
theorem confirm_eq_ok {chosen : Option Nat} {wanted : Nat} {same made answer : Config}
    {refusal : Nat → Failure}
    (run : (match chosen with
        | some other => if other = wanted then .ok same else .error (refusal other)
        | none => .ok made : Except Failure Config) = .ok answer) :
    chosen = none ∧ answer = made ∨ chosen = some wanted ∧ answer = same := by
  cases chosen with
  | none =>
    cases run
    exact .inl ⟨rfl, rfl⟩
  | some other =>
    simp only at run
    split at run
    · rename_i agrees
      cases run
      exact .inr ⟨by rw [agrees], rfl⟩
    · cases run

/-- An ending may be asked for exactly if none of those that exclude it was. -/
theorem checkEnding_eq_ok {config : Config} {option : OptionName} {which : Ending} {done : Unit} :
    config.checkEnding option which = .ok done ↔
      ∀ rival ∈ which.rivals, config.on (.onlyEnding rival) = false := by
  cases which <;>
    simp [Config.checkEnding, Ending.rivals, bind_eq_ok, clashIf_eq_ok]

theorem checkNoOutput_eq_ok {config : Config} {option : OptionName} {done : Unit} :
    config.checkNoOutput option = .ok done ↔ config.output = none := by
  unfold Config.checkNoOutput Config.outputFile?
  cases config.output <;> simp

theorem checkNoEcoLevel_eq_ok {config : Config} {option : OptionName} {done : Unit} :
    config.checkNoEcoLevel option = .ok done ↔ config.ecoLevel = 0 := by
  simp [Config.checkNoEcoLevel, clashIf_eq_ok]

theorem checkNoGamesPerFile_eq_ok {config : Config} {option : OptionName} {done : Unit} :
    config.checkNoGamesPerFile option = .ok done ↔ config.gamesPerFile = 0 := by
  simp [Config.checkNoGamesPerFile, clashIf_eq_ok]

/-- A level that is read is in range, and replaces the one in force. -/
theorem readEcoLevel_eq_ok {config changed : Config} {value : String}
    (read : readEcoLevel config value = .ok changed) :
    ∃ level, (minEcoLevel ≤ level ∧ level ≤ maxEcoLevel) ∧
      changed = { config with ecoLevel := level } := by
  obtain ⟨level, -, inRange, rfl⟩ := readEcoLevel_eq_ok_iff.mp read
  exact ⟨level, inRange, rfl⟩

/-- What is read replaces the number of games and the number of the next file. -/
theorem readGamesPerFile_eq_ok {config changed : Config} {value : String}
    (read : readGamesPerFile config value = .ok changed) :
    ∃ games first, changed = { config with gamesPerFile := games, nextFileNumber := first } := by
  obtain ⟨games, first?, -, rfl⟩ := readGamesPerFile_eq_ok_iff.mp read
  exact ⟨games, first?.getD config.nextFileNumber, rfl⟩

/-- A number that is read with a minimum is not below it. -/
theorem atLeast_eq_ok {option : OptionName} {minimum : Nat} {value : String} {number : Nat}
    (read : Value.atLeast option minimum value = .ok number) : minimum ≤ number :=
  Int.ofNat_le.mp (Value.atLeast_eq_ok_iff.mp read).2.1

/-- Without another policy in force, none was chosen or the same one was. -/
theorem otherSetupTags?_eq_none {config : Config} {policy : SetupTags}
    (none : config.otherSetupTags? policy = none) :
    config.setupTags = .allowed ∨ config.setupTags = policy := by
  unfold Config.otherSetupTags? at none
  split at none
  · assumption
  · split at none <;> cases none

end Inversion

/-! ### Adjustments, course by course

Most adjustments take one of three courses. They check what they may contradict and make their
change; they read a value and make a change with it; or they do one after the other. For each
course there is a lemma that leaves only the change to be named. The adjustments that go their own
way have a lemma each, and `change_of_apply` puts one case to another. -/

namespace Config.Change

variable {α : Type} {config changed next : Config}

/-- A change that is made unless it contradicts something. -/
theorem of_checked {contradicts : Prop} [Decidable contradicts] {clash : Clash}
    (made : (clashIf contradicts clash >>= fun _ => pure next) = .ok changed)
    (change : ¬ contradicts → config.Change next) : config.Change changed := by
  obtain ⟨free, rfl⟩ := clashIf_bind_eq_ok.mp made
  exact change free

/-- A change that is made with the value that was read. -/
theorem of_read {read : Except Failure α} {use : α → Config}
    (made : (read >>= fun value => pure (use value)) = .ok changed)
    (change : ∀ value, read = .ok value → config.Change (use value)) : config.Change changed := by
  obtain ⟨value, given, rfl⟩ := bind_pure_eq_ok.mp made
  exact change value given

/-- A change that is made with the value that was read, unless it contradicts something. -/
theorem of_read_checked {read : Except Failure α} {contradicts : α → Prop}
    [∀ value, Decidable (contradicts value)] {clash : α → Clash} {use : α → Config}
    (made : (read >>= fun value =>
      clashIf (contradicts value) (clash value) >>= fun _ => pure (use value)) = .ok changed)
    (change : ∀ value, ¬ contradicts value → config.Change (use value)) :
    config.Change changed := by
  obtain ⟨value, -, rest⟩ := bind_eq_ok.mp made
  exact of_checked rest (change value)

end Config.Change

namespace Adjustment

variable {option : OptionName} {value : String} {config changed : Config}

/-- An ending is asked for when none that excludes it was. -/
theorem change_of_ending {which : Ending}
    (made : (ending which).apply option value config = .ok changed) : config.Change changed := by
  obtain ⟨_, checked, same⟩ := bind_eq_ok.mp made
  cases same
  exact .ending which (checkEnding_eq_ok.mp checked)

/-- A policy on SetUp tags is chosen when no other one was. -/
theorem change_of_setupTags {policy : SetupTags}
    (made : (setupTags policy).apply option value config = .ok changed) :
    config.Change changed := by
  simp only [apply] at made
  split at made
  · cases made
  · rename_i none
    cases made
    exact .setupTags policy (otherSetupTags?_eq_none none)

/-- A rule on moves is chosen for the first time, or confirmed. -/
theorem change_of_moveRule {moves : Nat} (known : moves = 50 ∨ moves = 75)
    (made : (moveRule moves).apply option value config = .ok changed) :
    changed = config ∨ config.Change changed := by
  rcases confirm_eq_ok made with ⟨unset, rfl⟩ | ⟨-, rfl⟩
  · exact .inr (.moveRule moves known unset)
  · exact .inl rfl

/-- A count of repetitions is chosen for the first time, or confirmed. -/
theorem change_of_repetition {count : Nat} (known : count = 3 ∨ count = 5)
    (made : (repetition count).apply option value config = .ok changed) :
    changed = config ∨ config.Change changed := by
  rcases confirm_eq_ok made with ⟨unset, rfl⟩ | ⟨-, rfl⟩
  · exact .inr (.repetition count known unset)
  · exact .inl rfl

/-- Variations are split when they are kept, to the depth that is given or was in force. -/
theorem change_of_splitVariants
    (made : splitVariants.apply option value config = .ok changed) : config.Change changed := by
  obtain ⟨_, checked, rest⟩ := bind_eq_ok.mp made
  have kept : config.on .keepVariations = true := by simpa using clashIf_eq_ok.mp checked
  split at rest
  · cases rest
    exact .splitVariants kept _
  · cases rest
    exact .splitVariants kept config.splitDepth

/-- The first game wanted is at least 1 and not behind the last one. -/
theorem change_of_firstGame
    (made : firstGame.apply option value config = .ok changed) : config.Change changed := by
  obtain ⟨first, -, rest⟩ := bind_eq_ok.mp made
  split at rest
  · cases rest
  · exact .of_checked rest fun fits => .firstGame first (by omega) (by omega)

/-- A depth for fuzzy duplicates turns the switch as well. -/
theorem change_of_fuzzyDepth
    (made : fuzzyDepth.apply option value config = .ok changed) : config.Change changed := by
  simp only [apply] at made
  split at made
  · cases made
  · cases made
    exact .fuzzyDepth _

/-- A bound is put in force when it fits those that are. -/
theorem change_of_bound {unit : BoundUnit}
    (made : (bound unit).apply option value config = .ok changed) : config.Change changed := by
  obtain ⟨spec, -, rest⟩ := bind_eq_ok.mp made
  split at rest
  · rename_i fits
    cases rest
    exact .plyBounds fits
  · cases rest

/-- Output is split by ECO code when nothing else says where it goes. -/
theorem change_of_ecoLevel
    (made : ecoLevel.apply option value config = .ok changed) : config.Change changed := by
  obtain ⟨_, noOutput, rest⟩ := bind_eq_ok.mp made
  obtain ⟨_, whole, read⟩ := bind_eq_ok.mp rest
  obtain ⟨level, inRange, rfl⟩ := readEcoLevel_eq_ok read
  exact .ecoLevel level inRange (checkNoOutput_eq_ok.mp noOutput)
    (checkNoGamesPerFile_eq_ok.mp whole)

/-- Output is split by a number of games when nothing else says where it goes. -/
theorem change_of_gamesPerFile
    (made : gamesPerFile.apply option value config = .ok changed) : config.Change changed := by
  obtain ⟨_, noLevel, rest⟩ := bind_eq_ok.mp made
  obtain ⟨_, noOutput, read⟩ := bind_eq_ok.mp rest
  obtain ⟨games, first, rfl⟩ := readGamesPerFile_eq_ok read
  exact .gamesPerFile games first (checkNoEcoLevel_eq_ok.mp noLevel)
    (checkNoOutput_eq_ok.mp noOutput)

/-- An adjustment that some option makes either changes nothing or is one of the changes. -/
theorem change_of_apply {adjustment : Adjustment} (offered : adjustment.isOffered = true)
    (made : adjustment.apply option value config = .ok changed) :
    changed = config ∨ config.Change changed := by
  cases adjustment with
  | turn switch position =>
    simp only [isOffered, Bool.and_eq_true, beq_iff_eq] at offered
    cases made
    rw [offered.2]
    exact .inr (.turn switch offered.1)
  | verbosity level =>
    cases made
    exact .inr (.verbosity level)
  | ending => exact .inr (change_of_ending made)
  | winner which =>
    exact .inr (.of_checked made fun free => .winner which (by simpa using free))
  | sideToMove side =>
    exact .inr (.of_checked made fun agrees =>
      .sideToMove side (Decidable.or_iff_not_not_and_not.mpr agrees))
  | setupTags => exact .inr (change_of_setupTags made)
  | moveRule => exact change_of_moveRule (by simpa [isOffered] using offered) made
  | repetition => exact change_of_repetition (by simpa [isOffered] using offered) made
  | onlyCommented =>
    exact .inr (.of_checked made fun free => .onlyCommented (by simpa using free))
  | dropComments =>
    exact .inr (.of_checked made fun free => .dropComments (by simpa using free))
  | splitVariants => exact .inr (change_of_splitVariants made)
  | dropVariations =>
    exact .inr (.of_checked made fun free => .dropVariations (by simpa using free))
  | dropDuplicates =>
    exact .inr (.of_checked made fun free => .dropDuplicates (by simpa using free))
  | sevenTagRoster =>
    exact .inr (.of_checked made fun free => .sevenTagRoster (fun same => free (.inl same))
      (by simpa using fun on => free (.inr on)))
  | noTags => exact .inr (.of_checked made .noTags)
  | onlyWantedTags => exact .inr (.of_checked made .onlyWantedTags)
  | dropBefore => exact .inr (.of_read made fun comment _ => .dropComment comment)
  | dropPly => exact .inr (.of_read made fun ply _ => .dropPly ply)
  | lineMarker => exact .inr (.of_read made fun marker _ => .lineMarker marker)
  | markMatches => exact .inr (.of_read made fun comment _ => .matchComment comment)
  | firstGame => exact .inr (change_of_firstGame made)
  | gameLimit =>
    exact .inr (.of_read_checked made fun limit fits => .gameLimit limit (by omega))
  | fuzzyDepth => exact .inr (change_of_fuzzyDepth made)
  | searchDepth =>
    exact .inr (.of_read_checked made fun depth deeper => .searchDepth depth (by omega))
  | pieceCount =>
    exact .inr (.of_read made fun count read => .pieceCount count (atLeast_eq_ok read))
  | plyLimit => exact .inr (.of_read made fun limit _ => .plyLimit limit)
  | quietPly => exact .inr (.of_read made fun ply _ => .quietPly ply)
  | startPly => exact .inr (.of_read made fun ply read => .startPly ply (atLeast_eq_ok read))
  | stopAfter =>
    exact .inr (.of_read made fun count read => .maximumMatches count (atLeast_eq_ok read))
  | selectOnly => exact .inr (.of_read made fun ranges _ => .selectOnly ranges)
  | skipMatching => exact .inr (.of_read made fun ranges _ => .skipMatching ranges)
  | bound => exact .inr (change_of_bound made)
  | ecoLevel => exact .inr (change_of_ecoLevel made)
  | gamesPerFile => exact .inr (change_of_gamesPerFile made)

end Adjustment

/-- A change that opens no file directs diagnostics to none. -/
theorem Config.Change.log_eq {config changed : Config} (change : config.Change changed)
    {target : Target} (directed : changed.log = .file target) : config.log = .file target := by
  cases change with
  | noLog => cases directed
  | _ => exact directed

end ExtractOptions

/-
Module: ExtractOptions.Config.Adjustment
Purpose: the options that change the configuration and nothing else. An adjustment checks first
  whether it contradicts what was chosen before it and whether its value is one that it can take;
  only then does it answer with the changed configuration.
Main exports: Adjustment, Adjustment.apply
-/
import ExtractOptions.Config.Value

namespace ExtractOptions

open Text

/-- The changes that options make to the configuration alone. -/
inductive Adjustment where
  | turn (switch : Switch) (position : Bool)
  | verbosity (level : Nat)
  | ending (ending : Ending)
  | winner (winner : Winner)
  | sideToMove (side : SideToMove)
  | setupTags (policy : SetupTags)
  | moveRule (moves : Nat)
  | repetition (count : Nat)
  | onlyCommented
  | dropComments
  | splitVariants
  | dropVariations
  | dropDuplicates
  | sevenTagRoster
  | noTags
  | onlyWantedTags
  | dropBefore
  | dropPly
  | lineMarker
  | markMatches
  | firstGame
  | gameLimit
  | fuzzyDepth
  | searchDepth
  | pieceCount
  | plyLimit
  | quietPly
  | startPly
  | stopAfter
  | selectOnly
  | skipMatching
  | bound (unit : BoundUnit)
  | ecoLevel
  | gamesPerFile
deriving DecidableEq, Repr

/-- The failure of an option that contradicts another one, or nothing. -/
def clashIf (contradicts : Prop) [Decidable contradicts] (clash : Clash) : Except Failure Unit :=
  if contradicts then .error (.conflict clash) else .ok ()

namespace Config

/-- No ending that clashes with the given one was asked for. -/
def checkEnding (config : Config) (option : OptionName) (ending : Ending) :
    Except Failure Unit :=
  ending.rivals.forM fun rival =>
    clashIf (config.on (.onlyEnding rival)) (.withOption option (.named rival.name))

/-- No file was chosen for output. -/
def checkNoOutput (config : Config) (option : OptionName) : Except Failure Unit :=
  match config.outputFile? with
  | some file => .error (.conflict (.outputChosen option file))
  | none => .ok ()

/-- Output is not split by ECO code. -/
def checkNoEcoLevel (config : Config) (option : OptionName) : Except Failure Unit :=
  clashIf (0 < config.ecoLevel) (.excludedBy option (.letter .ecoLevel))

/-- Output is not split by a number of games. -/
def checkNoGamesPerFile (config : Config) (option : OptionName) : Except Failure Unit :=
  clashIf (0 < config.gamesPerFile) (.excludedBy option (.letter .gamesPerFile))

/-- The option in force that says something else about SetUp tags, if any. -/
def otherSetupTags? (config : Config) (policy : SetupTags) : Option OptionName :=
  if config.setupTags = .allowed ∨ config.setupTags = policy then none
  else if config.setupTags = .excluded then some (.named "nosetuptags")
  else some (.named "onlysetuptags")

end Config

/-- How many games go into a file, and the number of the first file if it is given as well. -/
def readGamesPerFile (config : Config) (value : String) : Except Failure Config :=
  match cut? ',' value.toList with
  | some (games, first) =>
    match Numeral.digits? Numeral.max32 (trimChars games),
      Numeral.digits? Numeral.max32 (trimChars first) with
    | some gamesPerFile, some nextFileNumber =>
      .ok { config with gamesPerFile, nextFileNumber }
    | _, _ => .error (.usage (.notOneOrTwoUnsigned .gamesPerFile))
  | none => do
    let gamesPerFile ← Value.plain .gamesPerFile value
    return { config with gamesPerFile }

/-- The depth at which output is split by ECO code. -/
def readEcoLevel (config : Config) (value : String) : Except Failure Config :=
  match Numeral.plain32? value with
  | none => .error (.usage .missingEcoLevel)
  | some ecoLevel =>
    if minEcoLevel ≤ ecoLevel ∧ ecoLevel ≤ maxEcoLevel then .ok { config with ecoLevel }
    else .error (.usage .ecoLevelOutOfRange)

/-- The configuration after an adjustment, made by the given option with the given value. -/
def Adjustment.apply (adjustment : Adjustment) (option : OptionName) (value : String)
    (config : Config) : Except Failure Config :=
  match adjustment with
  | turn switch position => .ok (config.set switch position)
  | verbosity level => .ok { config with verbosity := level }
  | ending which => do
    config.checkEnding option which
    return config.set (.onlyEnding which) true
  | winner which => do
    clashIf (config.on (.onlyWinner which.rival)) (.withOption option (.named which.rival.name))
    return config.set (.onlyWinner which) true
  | sideToMove side => do
    clashIf (config.sideToMove ≠ .either ∧ config.sideToMove ≠ side)
      (.sideToMove option config.sideToMove)
    return { config with sideToMove := side }
  | setupTags policy =>
    match config.otherSetupTags? policy with
    | some other => .error (.conflict (.excludedBy option other))
    | none => .ok { config with setupTags := policy }
  | moveRule moves =>
    match config.moveRule with
    | some other =>
      if other = moves then .ok config else .error (.conflict (.moveRule option other))
    | none => .ok { config with moveRule := some moves }
  | repetition count =>
    match config.repetition with
    | some other =>
      if other = count then .ok config else .error (.conflict (.repetition option other))
    | none => .ok { config with repetition := some count }
  | onlyCommented => do
    clashIf (¬ config.on .keepComments) (.withOption option (.letter .dropComments))
    return config.set .onlyCommented true
  | dropComments => do
    clashIf (config.on .onlyCommented) (.withOption option (.named "commented"))
    return config.set .keepComments false
  | splitVariants => do
    clashIf (¬ config.on .keepVariations) (.withOption option (.letter .dropVariations))
    let config := config.set .splitVariants true
    match Value.splitDepth? value with
    | some splitDepth => return { config with splitDepth }
    | none => return config
  | dropVariations => do
    clashIf (config.on .splitVariants) (.withOption option (.named "splitvariants"))
    return config.set .keepVariations false
  | dropDuplicates => do
    clashIf config.duplicates.isSome (.withFlag option (.letter .duplicatesFile))
    return config.set .suppressDuplicates true
  | sevenTagRoster => do
    clashIf (config.tagOutput = .noTags ∨ config.on .onlyWantedTags) (.roster option)
    return { config with tagOutput := .sevenTagRoster }
  | noTags => do
    clashIf (config.tagOutput = .sevenTagRoster) (.roster option)
    return { config with tagOutput := .noTags }
  | onlyWantedTags => do
    clashIf (config.tagOutput = .sevenTagRoster) (.withOption option (.letter .sevenTagRoster))
    return config.set .onlyWantedTags true
  | dropBefore => do
    let comment ← Value.required option "a string" value
    return { config with dropComment := some comment }
  | dropPly => do
    let dropPly ← Value.signed option value
    return { config with dropPly }
  | lineMarker => do
    let marker ← Value.required option "a string" value
    return { config with lineMarker := some marker }
  | markMatches => do
    let comment ← Value.required option "a comment string" value
    return { config.set .markMatches true with matchComment := some comment }
  | firstGame => do
    let first ← Value.unsigned option Numeral.max64 value
    if first = 0 then .error (.usage (.belowMinimum option 1))
    clashIf (config.gameLimit < first)
      (.gameWindow option first (.named "gamelimit") config.gameLimit)
    return { config with firstGame := first }
  | gameLimit => do
    let limit ← Value.unsigned option Numeral.max64 value
    clashIf (limit < config.firstGame)
      (.gameWindow option limit (.named "firstgame") config.firstGame)
    return { config with gameLimit := limit }
  | fuzzyDepth =>
    match Numeral.unsigned? Numeral.max32 (Value.digitsOf value) with
    | none => .error (.usage (.notPositive option))
    | some depth => .ok { config.set .fuzzyDuplicates true with fuzzyDepth := depth }
  | searchDepth => do
    let depth ← Value.atLeast option 1 value
    clashIf (depth < config.searchDepth) (.searchDepth option depth config.searchDepth)
    return { config with searchDepth := depth }
  | pieceCount => do
    let count ← Value.atLeast option 2 value
    return { config with pieceCount := some count }
  | plyLimit => do
    let limit ← Value.atLeast option 0 value
    return { config with plyLimit := some limit }
  | quietPly => do
    let quietPly ← Value.atLeast option 0 value
    return { config with quietPly }
  | startPly => do
    let startPly ← Value.atLeast option 1 value
    return { config with startPly }
  | stopAfter => do
    let count ← Value.atLeast option 1 value
    return { config with maximumMatches := some count }
  | selectOnly => do
    let ranges ← Value.ranges option value
    return { config with selectOnly := some ranges }
  | skipMatching => do
    let ranges ← Value.ranges option value
    return { config with skipMatching := some ranges }
  | bound unit => do
    let letter := match unit with
      | .moves => LetterOption.moveBounds
      | .ply => LetterOption.plyBounds
    let spec ← Value.bound letter value
    match config.plyBounds.apply unit spec.side spec.number with
    | .ok plyBounds => return { config with plyBounds }
    | .error refusal => .error (.conflict (.bound refusal))
  | ecoLevel => do
    config.checkNoOutput option
    config.checkNoGamesPerFile option
    readEcoLevel config value
  | gamesPerFile => do
    config.checkNoEcoLevel option
    config.checkNoOutput option
    readGamesPerFile config value

end ExtractOptions

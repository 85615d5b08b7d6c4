/-
Module: ExtractOptions.Letter.Effect
Purpose: what the options named by a letter do. Most of them adjust the configuration; the others
  open files, read files, or hand their value to the rest of the tool. Reading an argument file
  leads back here, so how that is done is a parameter.
Main exports: LetterOption.perform
-/
import ExtractOptions.Config.Adjustment
import ExtractOptions.DataLine

namespace ExtractOptions

open Text

/-- The line length at which a game in UCI notation stays on one line. -/
def uciLineLength : Nat := 5000

/-- A file name that ends in `.pgn`, in any letter case, and has something in front of that. It
names a file of games rather than a list of files. -/
def isGameFile (file : String) : Bool :=
  let cs := file.toList
  4 < cs.length && (cs.drop (cs.length - 4)).map Char.toLower == ['.', 'p', 'g', 'n']

/-- The file name that an option needs. -/
def requireFile (option : LetterOption) (file : String) : Action Unit :=
  if file = "" then throw (.usage (.missingFile option)) else pure ()

/-- Choose the file that games are written to. Output that is split by ECO code or by a number of
games needs none, and a second file is never chosen. -/
def selectOutput (option : LetterOption) (file : String) (mode : OpenMode) : Action Unit := do
  Action.check fun config => do
    config.checkNoEcoLevel (.letter option)
    config.checkNoGamesPerFile (.letter option)
    config.checkNoOutput (.letter option)
  requireFile option file
  let target ← Action.openTarget file mode
  Action.modifyConfig fun config => { config with output := some target }

/-- Choose the file that diagnostics are written to. One that cannot be opened leaves them to
standard error, with a warning. -/
def selectLog (file : String) (mode : OpenMode) : Action Unit := do
  Action.modifyConfig fun config => { config with log := .standardError }
  match ← Action.tryOpen file mode with
  | .ok target => Action.modifyConfig fun config => { config with log := .file target }
  | .error _ => Action.warn ("Unable to open " ++ file ++ " for writing.")

/-- Choose the file that duplicate games are written to. -/
def selectDuplicates (file : String) : Action Unit := do
  requireFile .duplicatesFile file
  Action.check fun config =>
    clashIf (config.on .suppressDuplicates)
      (.withFlag (.letter .duplicatesFile) (.letter .dropDuplicates))
  let target ← Action.openTarget file .write
  Action.modifyConfig fun config => { config with duplicates := some target }

/-- Choose where games go that match nothing. The choice before it is given up first. -/
def selectNonMatching (file : String) : Action Unit := do
  requireFile .nonMatchingFile file
  Action.modifyConfig fun config => { config with nonMatching := none }
  if file = "stdout" then
    Action.modifyConfig fun config => { config with nonMatching := some .standardOutput }
  else
    let target ← Action.openTarget file .write
    Action.modifyConfig fun config => { config with nonMatching := some (.file target) }

/-- Classify games by an ECO file: the one named, else the one of the settings, else the one in
force. -/
def useEcoFile (context : Context) (file : String) : Action Unit := do
  Action.modifyConfig fun config =>
    { config.set .addEco true with
      ecoFile := if file = "" then context.ecoFile.getD config.ecoFile else file }
  let ecoFile := (← get).config.ecoFile
  Action.request context (LetterOption.ecoFile.text ++ ecoFile) (.ecoTable ecoFile)

/-- Take a file of games to compare with, or a list of such files. -/
def addCheckFile (file : String) : Action Unit := do
  requireFile .checkFile file
  if isGameFile file then Action.addSource file .check else readSourceList file .check

/-- Choose the notation of moves. The UCI notation leaves out all that is not a move and puts each
game on one line. -/
def selectFormat (value : String) : Action Unit :=
  match OutputFormat.parse? value with
  | none => throw (.usage (.unknownFormat value))
  | some format => do
    if format = .uci then
      Action.modifyConfig fun config =>
        config.clear [.keepNags, .keepComments, .keepMoveNumbers, .keepChecks, .keepVariations]
      Action.setLineLength uciLineLength
    Action.modifyConfig fun config => { config with outputFormat := format }

/-- Write the position as a FEN comment at the end of a game, or where a pattern matches. Comments
after every move already hold it. -/
def writeFen (value : String) : Action Unit := do
  if value ≠ "" then
    if (← get).config.on .fenComments then
      Action.warn (LetterOption.fenComment.text ++ value ++ " conflicts with --fencomments")
    else
      Action.modifyConfig fun config => { config with fenPattern := some value }
  Action.modifyConfig fun config => config.set .finalFen (!config.on .fenComments)

/-- Match games that contain a position with the given hash. -/
def matchHash (value : String) : Action Unit :=
  match Value.hash? value with
  | none => throw (.usage (.malformedHash value))
  | some hash => do
    Action.modifyRegistry fun registry =>
      { registry with positionHashes := registry.positionHashes ++ [hash] }
    Action.modifyConfig fun config => config.set .positionalVariations true

/-- Hand on the lines of a file as data lines of an option, if a file is named. -/
def deliverNamedFile (context : Context) (option : LetterOption) (file : String) : Action Unit :=
  if file = "" then pure () else deliverFile context option file

/-- What an option named by a letter does with its value. `includeFile` reads an argument file. -/
def LetterOption.effect (context : Context) (includeFile : String → Action Unit)
    (option : LetterOption) (value : String) : Action Unit :=
  let file := skipSpaces value
  let adjust (adjustment : Adjustment) : Action Unit :=
    Action.adjust (adjustment.apply (.letter option) value)
  match option with
  | sevenTagRoster => adjust .sevenTagRoster
  | gamesPerFile => adjust .gamesPerFile
  | appendOutput => selectOutput option file .append
  | argumentFile => do
    requireFile option file
    includeFile file
  | moveBounds => adjust (.bound .moves)
  | checkFile => addCheckFile file
  | dropComments => adjust .dropComments
  | duplicatesFile => selectDuplicates file
  | dropDuplicates => adjust .dropDuplicates
  | ecoFile => useEcoFile context file
  | ecoLevel => adjust .ecoLevel
  | fenComment => writeFen value
  | sourceList => do
    requireFile option file
    readSourceList file .normal
  | positionHash => matchHash value
  | help | helpAgain => throw .helpRequested
  | writeLog => selectLog file .write
  | appendLog => selectLog file .append
  | checkmate => adjust (.ending .checkmate)
  | nonMatchingFile => selectNonMatching file
  | dropNags => adjust (.turn .keepNags false)
  | writeOutput => selectOutput option file .write
  | plyBounds => adjust (.bound .ply)
  | exactOrder => adjust (.turn .anyMoveOrder false)
  | tagRoster => deliverNamedFile context option file
  | checkOnly => adjust (.turn .checkOnly true)
  | soundex => adjust (.turn .soundex true)
  | silent => adjust (.verbosity 1)
  | tagCriteria => deliverNamedFile context option file
  | tagCriterion => Action.request context option.text (.tagCriterion ⟨value, "command line"⟩)
  | dropFirstCopies => adjust (.turn .suppressFirstCopies true)
  | textualVariations => deliverNamedFile context option file
  | dropVariations => adjust .dropVariations
  | lineWidth =>
    match Value.plain option value with
    | .ok width => Action.setLineLength width
    | .error failure => throw failure
  | outputFormat => selectFormat value
  | positionalVariations => deliverNamedFile context option file
  | colouredEndings => deliverNamedFile context option file
  | endings => deliverNamedFile context option file
  | virtualHashTable => adjust (.turn .virtualHashTable true)
  | named => throw (.internal (.appliedMarker option))

/-- Apply an option named by a letter. -/
def LetterOption.perform (context : Context) (includeFile : String → Action Unit)
    (option : LetterOption) (value : String) : Action Unit := do
  Action.count fun counters => { counters with letters := counters.letters + 1 }
  option.effect context includeFile value

end ExtractOptions

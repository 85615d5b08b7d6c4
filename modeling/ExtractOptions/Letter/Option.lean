/-
Module: ExtractOptions.Letter.Option
Purpose: the options named by a single letter. A letter is written `-x` on the command line and
  `:-x` in an argument file, with the value attached. Some letters take lines of data: plain lines
  that follow such a directive in an argument file belong to it.
Main exports: LetterOption, LetterOption.all, LetterOption.letter, LetterOption.ofLetter?,
  DataKind, LetterOption.dataKind?, LetterOption.persists
-/

namespace ExtractOptions

/-- The options named by a letter. The last one only occurs in argument files, where `:--` starts
the directive of a named option. -/
inductive LetterOption where
  | sevenTagRoster
  | gamesPerFile
  | appendOutput
  | argumentFile
  | moveBounds
  | checkFile
  | dropComments
  | duplicatesFile
  | dropDuplicates
  | ecoFile
  | ecoLevel
  | fenComment
  | sourceList
  | positionHash
  | help
  | helpAgain
  | writeLog
  | appendLog
  | checkmate
  | nonMatchingFile
  | dropNags
  | writeOutput
  | plyBounds
  | exactOrder
  | tagRoster
  | checkOnly
  | soundex
  | silent
  | tagCriteria
  | tagCriterion
  | dropFirstCopies
  | textualVariations
  | dropVariations
  | lineWidth
  | outputFormat
  | positionalVariations
  | colouredEndings
  | endings
  | virtualHashTable
  | named
deriving DecidableEq, Repr

namespace LetterOption

/-- Every letter option, in the order of the usage text. -/
def all : List LetterOption :=
  [sevenTagRoster, gamesPerFile, appendOutput, argumentFile, moveBounds, checkFile, dropComments,
    duplicatesFile, dropDuplicates, ecoFile, ecoLevel, fenComment, sourceList, positionHash,
    help, helpAgain, writeLog, appendLog, checkmate, nonMatchingFile, dropNags, writeOutput,
    plyBounds, exactOrder, tagRoster, checkOnly, soundex, silent, tagCriteria, tagCriterion,
    dropFirstCopies, textualVariations, dropVariations, lineWidth, outputFormat,
    positionalVariations, colouredEndings, endings, virtualHashTable, named]

/-- The letter of an option. -/
def letter : LetterOption → Char
  | sevenTagRoster => '7'
  | gamesPerFile => '#'
  | appendOutput => 'a'
  | argumentFile => 'A'
  | moveBounds => 'b'
  | checkFile => 'c'
  | dropComments => 'C'
  | duplicatesFile => 'd'
  | dropDuplicates => 'D'
  | ecoFile => 'e'
  | ecoLevel => 'E'
  | fenComment => 'F'
  | sourceList => 'f'
  | positionHash => 'H'
  | help => 'h'
  | helpAgain => '?'
  | writeLog => 'l'
  | appendLog => 'L'
  | checkmate => 'M'
  | nonMatchingFile => 'n'
  | dropNags => 'N'
  | writeOutput => 'o'
  | plyBounds => 'p'
  | exactOrder => 'P'
  | tagRoster => 'R'
  | checkOnly => 'r'
  | soundex => 'S'
  | silent => 's'
  | tagCriteria => 't'
  | tagCriterion => 'T'
  | dropFirstCopies => 'U'
  | textualVariations => 'v'
  | dropVariations => 'V'
  | lineWidth => 'w'
  | outputFormat => 'W'
  | positionalVariations => 'x'
  | colouredEndings => 'y'
  | endings => 'z'
  | virtualHashTable => 'Z'
  | named => '-'

/-- The option that a letter names. -/
def ofLetter? : Char → Option LetterOption
  | '7' => some sevenTagRoster
  | '#' => some gamesPerFile
  | 'a' => some appendOutput
  | 'A' => some argumentFile
  | 'b' => some moveBounds
  | 'c' => some checkFile
  | 'C' => some dropComments
  | 'd' => some duplicatesFile
  | 'D' => some dropDuplicates
  | 'e' => some ecoFile
  | 'E' => some ecoLevel
  | 'F' => some fenComment
  | 'f' => some sourceList
  | 'H' => some positionHash
  | 'h' => some help
  | '?' => some helpAgain
  | 'l' => some writeLog
  | 'L' => some appendLog
  | 'M' => some checkmate
  | 'n' => some nonMatchingFile
  | 'N' => some dropNags
  | 'o' => some writeOutput
  | 'p' => some plyBounds
  | 'P' => some exactOrder
  | 'R' => some tagRoster
  | 'r' => some checkOnly
  | 'S' => some soundex
  | 's' => some silent
  | 't' => some tagCriteria
  | 'T' => some tagCriterion
  | 'U' => some dropFirstCopies
  | 'v' => some textualVariations
  | 'V' => some dropVariations
  | 'w' => some lineWidth
  | 'W' => some outputFormat
  | 'x' => some positionalVariations
  | 'y' => some colouredEndings
  | 'z' => some endings
  | 'Z' => some virtualHashTable
  | '-' => some named
  | _ => none

/-- The option as it is written on a command line. -/
def text (option : LetterOption) : String :=
  String.ofList ['-', option.letter]

/-- What the usage text says of an option: the placeholder for its value, in brackets when the
value may be left out, and a description. -/
structure Manual where
  placeholder : Option String
  description : String

/-- The manual entry of an option. -/
def manual : LetterOption → Manual
  | sevenTagRoster => ⟨none, "output only the seven tag roster for each game"⟩
  | gamesPerFile =>
    ⟨some "num[,first]", "output num games per file, to files named 1.pgn, 2.pgn, ..."⟩
  | appendOutput => ⟨some "file", "append extracted games to file (see -o)"⟩
  | argumentFile => ⟨some "file", "read further arguments from file"⟩
  | moveBounds => ⟨some "[elu]num", "bound the number of moves in a game (equal, lower, upper)"⟩
  | checkFile =>
    ⟨some "file", "file.pgn is a duplicate check-file; any other name lists check-files"⟩
  | dropComments => ⟨none, "don't include comments in the output"⟩
  | duplicatesFile => ⟨some "file", "write duplicate games to file"⟩
  | dropDuplicates => ⟨none, "don't output duplicate games"⟩
  | ecoFile => ⟨some "[file]", "classify games by ECO using file (default eco.pgn or $ECO_FILE)"⟩
  | ecoLevel => ⟨some "level", "split output into files by ECO code at the given depth (1-10)"⟩
  | fenComment => ⟨some "[pattern]", "output a FEN comment after the final (or matching) move"⟩
  | sourceList => ⟨some "file", "file lists the PGN source files, one per line"⟩
  | positionHash => ⟨some "hash", "match games containing the given polyglot hash value"⟩
  | help => ⟨none, "print details of the arguments"⟩
  | helpAgain => ⟨none, "print details of the arguments"⟩
  | writeLog => ⟨some "file", "write diagnostics to file rather than stderr"⟩
  | appendLog => ⟨some "file", "append diagnostics to file"⟩
  | checkmate => ⟨none, "match only games which end in checkmate"⟩
  | nonMatchingFile => ⟨some "file", "write games that do not match to file (or stdout)"⟩
  | dropNags => ⟨none, "don't include NAGs in the output"⟩
  | writeOutput => ⟨some "file", "write extracted games to file (existing contents lost)"⟩
  | plyBounds => ⟨some "[elu]num", "bound the number of ply in a game (equal, lower, upper)"⟩
  | exactOrder => ⟨none, "don't match permutations of the textual variations (-v)"⟩
  | tagRoster => ⟨some "file", "tag ordering for the output roster"⟩
  | checkOnly => ⟨none, "report errors but don't extract"⟩
  | soundex => ⟨none, "use soundex matching for player tags (must precede -t and -T)"⟩
  | silent => ⟨none, "silent mode: don't report each game as it is extracted"⟩
  | tagCriteria => ⟨some "file", "file of tag extraction criteria"⟩
  | tagCriterion => ⟨some "criterion", "a single tag extraction criterion"⟩
  | dropFirstCopies => ⟨none, "don't output games that only occur once (see -d)"⟩
  | textualVariations => ⟨some "file", "file of textual move variations of interest"⟩
  | dropVariations => ⟨none, "don't include variations in the output"⟩
  | lineWidth => ⟨some "width", "approximate line width for output"⟩
  | outputFormat =>
    ⟨some "[format]", "output format: cm, epd, fen, halg, lalg, elalg, xlalg, xolalg, san, uci"⟩
  | positionalVariations =>
    ⟨some "file", "file of move sequences leading to positions of interest"⟩
  | colouredEndings => ⟨some "file", "material balances of interest for the given colours"⟩
  | endings => ⟨some "file", "material balances of interest for either colour"⟩
  | virtualHashTable => ⟨none, "use an external hash table for duplicate detection"⟩
  | named => ⟨some "name [value]", "long-form argument (argument files only)"⟩

/-- The entry in one line. -/
def summary (option : LetterOption) : String :=
  match option.manual with
  | ⟨some placeholder, description⟩ => placeholder ++ " -- " ++ description
  | ⟨none, description⟩ => description

end LetterOption

/-- The kinds of data lines, one for each letter that takes them. -/
inductive DataKind where
  | tagCriteria
  | tagRoster
  | textualVariations
  | positionalVariations
  | colouredEndings
  | endings
deriving DecidableEq, Repr

namespace LetterOption

/-- The kind of data lines that may follow an option, if it takes any. -/
def dataKind? : LetterOption → Option DataKind
  | tagCriteria => some .tagCriteria
  | tagRoster => some .tagRoster
  | textualVariations => some .textualVariations
  | positionalVariations => some .positionalVariations
  | colouredEndings => some .colouredEndings
  | endings => some .endings
  | _ => none

/-- Plain lines that follow the option in an argument file belong to it. -/
def persists (option : LetterOption) : Bool :=
  option.dataKind?.isSome

theorem mem_all (option : LetterOption) : option ∈ all := by
  cases option <;> decide

@[simp] theorem ofLetter?_letter (option : LetterOption) :
    ofLetter? option.letter = some option := by
  cases option <;> rfl

theorem letter_of_ofLetter? {c : Char} {option : LetterOption} (h : ofLetter? c = some option) :
    option.letter = c := by
  unfold ofLetter? at h
  split at h <;> cases h <;> rfl

/-- The two tables of letters are inverse to each other. -/
theorem ofLetter?_eq_some_iff {c : Char} {option : LetterOption} :
    ofLetter? c = some option ↔ option.letter = c :=
  ⟨letter_of_ofLetter?, fun own => own ▸ ofLetter?_letter option⟩

theorem ofLetter?_eq_none_iff {c : Char} :
    ofLetter? c = none ↔ ∀ option : LetterOption, option.letter ≠ c := by
  simp only [Option.eq_none_iff_forall_ne_some, ne_eq, ofLetter?_eq_some_iff]

end LetterOption

end ExtractOptions

/-
Module: ExtractOptions.Failure
Purpose: what stops the reading of options. A failure is kept as its cause: an option misused, two
  options that contradict each other, a file that cannot be opened, a value that the rest of the
  tool refuses, or a branch of the program that no input should reach. The wording of every cause is
  in its `message`. Asking for the usage text or the version also stops the reading and is a failure
  in this sense.
Main exports: OptionName, Misuse, Clash, Defect, Failure, Failure.message, Failure.exitCode
-/
import ExtractOptions.Config.Basic
import ExtractOptions.Letter.Option

namespace ExtractOptions

/-- The name of the program. -/
def programName : String := "pgnopts"

/-- The version of the program. -/
def programVersion : String := "0.1.0"

/-- An option as a message refers to it: by its letter or by its name. -/
inductive OptionName where
  | letter (option : LetterOption)
  | named (name : String)
deriving DecidableEq, Repr

/-- The option as it is written on a command line. -/
def OptionName.text : OptionName → String
  | letter option => option.text
  | named name => "--" ++ name

/-- A number in a message. -/
def number (n : Nat) : String :=
  String.ofList (Text.Numeral.decimal n)

/-- A number with a sign in a message. -/
def signedNumber : Int → String
  | .ofNat n => number n
  | .negSucc n => "-" ++ number (n + 1)

/-- The least and the greatest depth at which output is split by ECO code. -/
def minEcoLevel : Nat := 1

@[inherit_doc minEcoLevel]
def maxEcoLevel : Nat := 10

/-- How an option is misused: it is unknown, lacks its value, or has a value that it cannot take. -/
inductive Misuse where
  | missingFile (option : LetterOption)
  | missingLetter
  | unknownLetter (letter : Char)
  | unknownName (name : String)
  | unknownDirective (line : String)
  | strayLine (line : String)
  | missingEcoLevel
  | ecoLevelOutOfRange
  | notUnsigned (option : LetterOption)
  | notOneOrTwoUnsigned (option : LetterOption)
  | missingBoundSide (option : LetterOption)
  | malformedBound (option : LetterOption)
  | unknownFormat (value : String)
  | malformedHash (value : String)
  | missingValue (option : OptionName) (what : String)
  | notNumber (option : OptionName)
  | notPositive (option : OptionName)
  | belowMinimum (option : OptionName) (minimum : Int)
  | tooLarge (option : OptionName) (value : Int)
  | malformedRanges (option : OptionName) (list : String)
deriving DecidableEq, Repr

/-- The text of a misuse. -/
def Misuse.message : Misuse → String
  | missingFile option => "Usage: " ++ option.text ++ "filename."
  | missingLetter => "Missing argument letter after -"
  | unknownLetter letter =>
    "Unknown flag: -" ++ String.singleton letter ++ ". Use -h for help."
  | unknownName name => "Unrecognized argument: --" ++ name
  | unknownDirective line => "Unrecognized argument: " ++ line ++ " in the argument file."
  | strayLine line => "Missing argument type for line " ++ line ++ " in the argument file."
  | missingEcoLevel =>
    let option := LetterOption.ecoLevel.text
    option ++ " requires a number attached, e.g., " ++ option ++ "1."
  | ecoLevelOutOfRange =>
    LetterOption.ecoLevel.text ++ " level should be between " ++ number minEcoLevel ++ " and " ++
      number maxEcoLevel ++ "."
  | notUnsigned option => option.text ++ " should be followed by an unsigned integer."
  | notOneOrTwoUnsigned option =>
    option.text ++ " should be followed by either one or two unsigned integers."
  | missingBoundSide option => option.text ++ " must be followed by e, l, or u."
  | malformedBound option =>
    option.text ++ " should be in the form " ++ option.text ++ "[elu]number."
  | unknownFormat value => "Unknown output format " ++ value ++ "."
  | malformedHash value =>
    LetterOption.positionHash.text ++
      " must be followed by a hexadecimal hash value rather than " ++ value ++ "."
  | missingValue option what => option.text ++ " requires " ++ what ++ " following it."
  | notNumber option => option.text ++ " requires a number following it."
  | notPositive option => option.text ++ " requires a positive number following it."
  | belowMinimum option minimum =>
    option.text ++ " requires a number greater than or equal to " ++ signedNumber minimum ++ "."
  | tooLarge option value =>
    option.text ++ " value " ++ signedNumber value ++ " is too large."
  | malformedRanges option list =>
    option.text ++ ": " ++ GameRanges.faultMessage list

/-- How an option contradicts what was chosen before it. -/
inductive Clash where
  | withFlag (option : OptionName) (other : OptionName)
  | withOption (option : OptionName) (other : OptionName)
  | excludedBy (option : OptionName) (other : OptionName)
  | outputChosen (option : OptionName) (file : String)
  | roster (option : OptionName)
  | bound (refusal : BoundRefusal)
  | gameWindow (option : OptionName) (number : Nat) (other : OptionName) (limit : Nat)
  | searchDepth (option : OptionName) (depth : Nat) (deeper : Nat)
  | moveRule (option : OptionName) (moves : Nat)
  | repetition (option : OptionName) (count : Nat)
  | sideToMove (option : OptionName) (side : SideToMove)
deriving DecidableEq, Repr

/-- The text of a clash. -/
def Clash.message : Clash → String
  | withFlag option other => option.text ++ " clashes with the " ++ other.text ++ " flag."
  | withOption option other => option.text ++ " clashes with " ++ other.text ++ "."
  | excludedBy option other => option.text ++ " conflicts with " ++ other.text ++ "."
  | outputChosen option file =>
    option.text ++ ": File " ++ file ++ " has already been selected for output."
  | roster option => option.text ++ " clashes with another roster-related argument."
  | bound refusal => refusal.message
  | gameWindow option first other limit =>
    option.text ++ " " ++ number first ++ " is incompatible with " ++ other.text ++ " " ++
      number limit ++ "."
  | searchDepth option depth deeper =>
    option.text ++ " of " ++ number depth ++ " conflicts with existing higher limit of " ++
      number deeper ++ "."
  | moveRule option moves =>
    option.text ++ " conflicts with a previous setting of " ++ number moves ++ "."
  | repetition option count =>
    option.text ++ " conflicts with a previous setting of " ++ number count ++
      "-fold repetition."
  | sideToMove option side =>
    option.text ++ " conflicts with previous setting of " ++ side.text ++ "."

/-- What a file was to be opened for. -/
inductive Purpose where
  | reading
  | writing
deriving DecidableEq, Repr

/-- The word for a purpose. -/
def Purpose.text : Purpose → String
  | reading => "reading"
  | writing => "writing"

/-- A branch of the program without a meaning, and the option that came to it: the letter that only
starts the directive of a named option was applied as an option, or a data line was handed to an
option that takes none. -/
inductive Defect where
  | appliedMarker (option : LetterOption)
  | noDataLines (option : LetterOption)
deriving DecidableEq, Repr

/-- The text of a defect. -/
def Defect.message : Defect → String
  | appliedMarker option => option.text ++ " reached the short-form dispatcher"
  | noDataLines option => option.text ++ " has no handler for data lines"

/-- What stops the reading of options. -/
inductive Failure where
  | usage (misuse : Misuse)
  | conflict (clash : Clash)
  | resource (path : String) (purpose : Purpose) (cause : IoError)
  | internal (defect : Defect)
  | recursiveInclude (path : String)
  | includeTooDeep (path : String) (limit : Nat)
  /-- The rest of the tool refused a value; the context says where the value came from. -/
  | refused (context : String) (reason : String)
  | helpRequested
  | versionRequested
deriving DecidableEq, Repr

namespace Failure

/-- The text of a failure. -/
def message : Failure → String
  | usage misuse => misuse.message
  | conflict clash => clash.message
  | resource path purpose cause =>
    "Cannot open " ++ path ++ " for " ++ purpose.text ++ ": " ++ cause.message
  | internal defect => "Internal error: " ++ defect.message
  | recursiveInclude path => "Argument file " ++ path ++ " includes itself."
  | includeTooDeep path limit =>
    "Argument file " ++ path ++ " is nested more than " ++ number limit ++ " levels deep."
  | refused context reason => context ++ ": " ++ reason
  | helpRequested => "Usage requested"
  | versionRequested => programName ++ " " ++ programVersion

/-- The exit status that a failure asks for. -/
def exitCode : Failure → Int
  | versionRequested => 0
  | internal _ => -1
  | _ => 1

end Failure

end ExtractOptions

/-
Module: ExtractOptions.Named.Option
Purpose: the options given by name. The table lists them in the order of the usage text; a name is
  looked up without regard to ASCII case.
Main exports: NamedOption, NamedAction, NamedOption.all, NamedOption.find?, Consumed,
  Adjustment.consumed, NamedOption.consumed
-/
import ExtractOptions.Config.Adjustment

namespace ExtractOptions

/-- What a named option does. -/
inductive NamedAction where
  /-- It changes the configuration alone. -/
  | adjust (adjustment : Adjustment)
  /-- It is another name for an option with a letter. -/
  | letter (option : LetterOption)
  | fenComments
  | bound (unit : BoundUnit) (side : BoundSide)
  | suppressTag
  | fenPattern (eitherColour : Bool)
  | material (bothColours : Bool)
  | version
deriving DecidableEq, Repr

/-- An option given by name. -/
structure NamedOption where
  name : String
  /-- What stands for the value in the usage text, if the option takes one. -/
  placeholder : Option String
  summary : String
  action : NamedAction
deriving DecidableEq, Repr

namespace NamedOption

/-- Every named option, in the order of the usage text. -/
def all : List NamedOption :=
  [⟨"addfencastling", none, "add castling rights to FEN comments",
      .adjust (.turn .fenCastling true)⟩,
    ⟨"addhashcode", none, "add a HashCode tag to each game", .adjust (.turn .hashTag true)⟩,
    ⟨"addlabeltag", none, "add a MatchLabel tag naming the matching criterion",
      .adjust (.turn .labelTag true)⟩,
    ⟨"addmatchtag", none, "add a MaterialMatch tag to games matched by material",
      .adjust (.turn .materialTag true)⟩,
    ⟨"allownullmoves", none, "allow null moves in the main line",
      .adjust (.turn .nullMoves true)⟩,
    ⟨"append", some "file", "append output to file", .letter .appendOutput⟩,
    ⟨"btm", none, "match positions only with black to move", .adjust (.sideToMove .black)⟩,
    ⟨"checkfile", some "file", "file of games to check for duplicates", .letter .checkFile⟩,
    ⟨"checkmate", none, "match only games ending in checkmate", .letter .checkmate⟩,
    ⟨"commented", none, "match only games containing comments", .adjust .onlyCommented⟩,
    ⟨"commentlines", none, "output each comment on a separate line",
      .adjust (.turn .commentLines true)⟩,
    ⟨"deletesamesetup", none, "suppress games sharing a SetUp position",
      .adjust (.turn .dropSameSetup true)⟩,
    ⟨"detag", some "tag", "do not output the named tag", .suppressTag⟩,
    ⟨"dropbefore", some "comment", "drop moves before the matching comment", .adjust .dropBefore⟩,
    ⟨"dropply", some "ply", "drop moves up to the given ply", .adjust .dropPly⟩,
    ⟨"duplicates", some "file", "write duplicate games to file", .letter .duplicatesFile⟩,
    ⟨"evaluation", none, "add an evaluation comment after each move",
      .adjust (.turn .evaluation true)⟩,
    ⟨"fencomments", none, "add a FEN comment after each move", .fenComments⟩,
    ⟨"fenpattern", some "pattern", "match positions against a FEN pattern", .fenPattern false⟩,
    ⟨"fenpatterni", some "pattern", "match a FEN pattern and its colour inversion",
      .fenPattern true⟩,
    ⟨"fifty", none, "match games drawn by the 50-move rule", .adjust (.moveRule 50)⟩,
    ⟨"50", none, "same as --fifty", .adjust (.moveRule 50)⟩,
    ⟨"firstgame", some "N", "start processing at game N", .adjust .firstGame⟩,
    ⟨"fixresulttags", none, "correct Result tags that disagree with the game",
      .adjust (.turn .fixResultTags true)⟩,
    ⟨"fixtagstrings", none, "repair malformed tag strings", .adjust (.turn .fixTagStrings true)⟩,
    ⟨"fuzzydepth", some "ply", "treat games as duplicates if they match at ply",
      .adjust .fuzzyDepth⟩,
    ⟨"gamelimit", some "N", "stop processing after game N", .adjust .gameLimit⟩,
    ⟨"hashcomments", none, "add a hashcode comment after each move",
      .adjust (.turn .hashComments true)⟩,
    ⟨"help", none, "print this message", .letter .help⟩,
    ⟨"higherratedwinner", none, "match only wins by the higher rated player",
      .adjust (.winner .higherRated)⟩,
    ⟨"insufficient", none, "match only games ending with insufficient material",
      .adjust (.ending .insufficientMaterial)⟩,
    ⟨"json", none, "output games in JSON", .adjust (.turn .json true)⟩,
    ⟨"keepbroken", none, "keep games with errors in them", .adjust (.turn .keepBroken true)⟩,
    ⟨"lichesscommentfix", none, "repair lichess comment formatting",
      .adjust (.turn .fixLichessComments true)⟩,
    ⟨"linelength", some "N", "set the output line length", .letter .lineWidth⟩,
    ⟨"linenumbers", some "marker", "add a comment with the source line number",
      .adjust .lineMarker⟩,
    ⟨"lowerratedwinner", none, "match only wins by the lower rated player",
      .adjust (.winner .lowerRated)⟩,
    ⟨"markmatches", some "comment", "mark positional matches with a comment",
      .adjust .markMatches⟩,
    ⟨"matchplylimit", some "N", "search for positional matches only to ply N",
      .adjust .searchDepth⟩,
    ⟨"materialy", some "material", "match material for the given colours", .material false⟩,
    ⟨"materialz", some "material", "match material for either colour", .material true⟩,
    ⟨"maxmoves", some "N", "match games of at most N moves", .bound .moves .upper⟩,
    ⟨"maxply", some "N", "match games of at most N ply", .bound .ply .upper⟩,
    ⟨"minmoves", some "N", "match games of at least N moves", .bound .moves .lower⟩,
    ⟨"minply", some "N", "match games of at least N ply", .bound .ply .lower⟩,
    ⟨"nestedcomments", none, "allow nested comments", .adjust (.turn .nestedComments true)⟩,
    ⟨"nobadresults", none, "reject games with inconsistent results",
      .adjust (.turn .rejectBadResults true)⟩,
    ⟨"nochecks", none, "do not output check indicators", .adjust (.turn .keepChecks false)⟩,
    ⟨"nocomments", none, "do not output comments", .letter .dropComments⟩,
    ⟨"noduplicates", none, "do not output duplicate games", .letter .dropDuplicates⟩,
    ⟨"nofauxep", none, "omit redundant en passant squares from FEN",
      .adjust (.turn .dropIdleEnPassant true)⟩,
    ⟨"nomovenumbers", none, "do not output move numbers", .adjust (.turn .keepMoveNumbers false)⟩,
    ⟨"nonags", none, "do not output NAGs", .letter .dropNags⟩,
    ⟨"noresults", none, "do not output results", .adjust (.turn .keepResults false)⟩,
    ⟨"nosetuptags", none, "do not match games with a SetUp tag", .adjust (.setupTags .excluded)⟩,
    ⟨"notags", none, "do not output any tags", .adjust .noTags⟩,
    ⟨"nounique", none, "do not output the first of a set of duplicates", .letter .dropFirstCopies⟩,
    ⟨"novars", none, "do not output variations", .letter .dropVariations⟩,
    ⟨"odds", none, "match only odds games", .adjust (.turn .onlyOdds true)⟩,
    ⟨"onlysetuptags", none, "match only games with a SetUp tag", .adjust (.setupTags .required)⟩,
    ⟨"output", some "file", "write output to file", .letter .writeOutput⟩,
    ⟨"piececount", some "N", "match positions with N pieces", .adjust .pieceCount⟩,
    ⟨"plycount", none, "add a PlyCount tag", .adjust (.turn .plyCount true)⟩,
    ⟨"plylimit", some "N", "output at most N ply of each game", .adjust .plyLimit⟩,
    ⟨"quiescent", some "N", "require N quiet ply after a positional match", .adjust .quietPly⟩,
    ⟨"quiet", none, "no progress output at all", .adjust (.verbosity 0)⟩,
    ⟨"repetition", none, "match games with a threefold repetition", .adjust (.repetition 3)⟩,
    ⟨"repetition5", none, "match games with a fivefold repetition", .adjust (.repetition 5)⟩,
    ⟨"selectonly", some "N[:M],...", "output only the listed matches", .adjust .selectOnly⟩,
    ⟨"seven", none, "output only the seven tag roster", .letter .sevenTagRoster⟩,
    ⟨"seventyfive", none, "match games drawn by the 75-move rule", .adjust (.moveRule 75)⟩,
    ⟨"75", none, "same as --seventyfive", .adjust (.moveRule 75)⟩,
    ⟨"skipmatching", some "N[:M],...", "skip the listed matches", .adjust .skipMatching⟩,
    ⟨"splitvariants", some "[depth]", "output variations as separate games",
      .adjust .splitVariants⟩,
    ⟨"stalemate", none, "match only games ending in stalemate", .adjust (.ending .stalemate)⟩,
    ⟨"startply", some "N", "start positional matching at ply N", .adjust .startPly⟩,
    ⟨"stopafter", some "N", "stop after N matches", .adjust .stopAfter⟩,
    ⟨"suppressmatched", none, "do not output matched games",
      .adjust (.turn .suppressMatched true)⟩,
    ⟨"tagsubstr", none, "match tag values anywhere in the tag",
      .adjust (.turn .tagsAnywhere true)⟩,
    ⟨"totalplycount", none, "add a TotalPlyCount tag", .adjust (.turn .totalPlyCount true)⟩,
    ⟨"underpromotion", none, "match only games with an underpromotion",
      .adjust (.turn .onlyUnderpromotion true)⟩,
    ⟨"vanywhere", none, "match textual variations anywhere in the game",
      .adjust (.turn .variationsAnywhere true)⟩,
    ⟨"version", none, "print the version and exit", .version⟩,
    ⟨"wtm", none, "match positions only with white to move", .adjust (.sideToMove .white)⟩,
    ⟨"xroster", none, "output only the tags named in the roster", .adjust .onlyWantedTags⟩]

/-- The option with the given name. -/
def find? (name : String) : Option NamedOption :=
  all.find? fun option => option.name = name.toLower

/-- The option takes a value. -/
def takesValue (option : NamedOption) : Bool :=
  option.placeholder.isSome

end NamedOption

/-- How much of a command line a named option used: its name alone, or the token after it too. -/
inductive Consumed where
  | nameOnly
  | nameAndValue
deriving DecidableEq, Repr

/-- The number of tokens used. -/
def Consumed.tokens : Consumed → Nat
  | nameOnly => 1
  | nameAndValue => 2

/-- What an adjustment reports to have used when it is shown the given value and succeeds. The depth
at which variations are split may be left out, so the value is taken for it only if it is a
number. -/
def Adjustment.consumed (value : String) : Adjustment → Consumed
  | splitVariants => if (Value.splitDepth? value).isSome then .nameAndValue else .nameOnly
  | dropBefore | dropPly | lineMarker | markMatches | firstGame | gameLimit | fuzzyDepth
  | searchDepth | pieceCount | plyLimit | quietPly | startPly | stopAfter | selectOnly
  | skipMatching | bound _ | ecoLevel | gamesPerFile => .nameAndValue
  | turn .. | verbosity _ | ending _ | winner _ | sideToMove _ | setupTags _ | moveRule _
  | repetition _ | onlyCommented | dropComments | dropVariations | dropDuplicates | sevenTagRoster
  | noTags | onlyWantedTags => .nameOnly

/-- What an option reports to have used when it is shown the given value and succeeds. Only another
name for a letter goes by the placeholder. -/
def NamedOption.consumed (option : NamedOption) (value : String) : Consumed :=
  match option.action with
  | .adjust adjustment => adjustment.consumed value
  | .letter _ => if option.takesValue then .nameAndValue else .nameOnly
  | .fenComments | .version => .nameOnly
  | .bound .. | .suppressTag | .fenPattern _ | .material _ => .nameAndValue

end ExtractOptions

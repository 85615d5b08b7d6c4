/-
Module: ExtractOptions.Config.Basic
Purpose: the configuration of a run, which options fill in and the extraction itself reads. Files
  for output are opened as soon as they are chosen, so they are part of it.
Main exports: Config, SideToMove, SetupTags, TagOutput, LogTarget, NonMatchingTarget
-/
import ExtractOptions.Bounds.Ply
import ExtractOptions.Config.Switch
import ExtractOptions.Disk.Target
import ExtractOptions.GameRanges
import ExtractOptions.OutputFormat

namespace ExtractOptions

/-- Which side must be to move in a positional match. -/
inductive SideToMove where
  | either
  | white
  | black
deriving DecidableEq, Repr

/-- The words for a side to move. -/
def SideToMove.text : SideToMove → String
  | either => "either side"
  | white => "white to move"
  | black => "black to move"

/-- What happens to games with a SetUp tag. -/
inductive SetupTags where
  | allowed
  | excluded
  | required
deriving DecidableEq, Repr

/-- Which tags are written. -/
inductive TagOutput where
  | allTags
  | sevenTagRoster
  | noTags
deriving DecidableEq, Repr

/-- Where diagnostics go. -/
inductive LogTarget where
  | standardError
  | file (target : Target)
deriving DecidableEq, Repr

/-- Where games that match nothing go. -/
inductive NonMatchingTarget where
  | standardOutput
  | file (target : Target)
deriving DecidableEq, Repr

/-- The configuration of a run. -/
structure Config where
  switches : Switches := Switches.initially
  output : Option Target := none
  log : LogTarget := .standardError
  duplicates : Option Target := none
  nonMatching : Option NonMatchingTarget := none
  gamesPerFile : Nat := 0
  nextFileNumber : Nat := 1
  ecoLevel : Nat := 0
  plyBounds : PlyBounds := {}
  selectOnly : Option GameRanges := none
  skipMatching : Option GameRanges := none
  firstGame : Nat := 1
  gameLimit : Nat := Text.Numeral.max64
  maximumMatches : Option Nat := none
  startPly : Nat := 1
  pieceCount : Option Nat := none
  quietPly : Nat := 0
  searchDepth : Nat := 0
  moveRule : Option Nat := none
  repetition : Option Nat := none
  sideToMove : SideToMove := .either
  setupTags : SetupTags := .allowed
  fuzzyDepth : Nat := 0
  ecoFile : String := "eco.pgn"
  outputFormat : OutputFormat := .san none
  lineLength : Nat := 75
  tagOutput : TagOutput := .allTags
  splitDepth : Nat := 0
  plyLimit : Option Nat := none
  dropPly : Int := 0
  dropComment : Option String := none
  fenPattern : Option String := none
  matchComment : Option String := none
  lineMarker : Option String := none
  verbosity : Nat := 2

namespace Config

/-- The position of a switch. -/
def on (config : Config) (switch : Switch) : Bool :=
  config.switches.position switch

/-- The configuration with one switch set. -/
def set (config : Config) (switch : Switch) (position : Bool) : Config :=
  { config with switches := config.switches.set switch position }

/-- The configuration with several switches off. -/
def clear (config : Config) (switches : List Switch) : Config :=
  switches.foldl (fun config switch => config.set switch false) config

/-- The name of the file chosen for output, if any. -/
def outputFile? (config : Config) : Option String :=
  config.output.map Target.path

end Config

end ExtractOptions

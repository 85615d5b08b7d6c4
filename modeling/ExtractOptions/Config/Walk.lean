/-
Module: ExtractOptions.Config.Walk
Purpose: walking along the lists of game numbers of a configuration. The lists stay in the
  configuration together with how far the walks have come.
Main exports: GameList, Config.walk?, Config.resetWalk?
-/
import ExtractOptions.Config.Basic

namespace ExtractOptions

/-- The lists of game numbers that a configuration may have. -/
inductive GameList where
  | selectOnly
  | skipMatching
deriving DecidableEq, Repr

/-- Present several numbers to a walk, one after another. -/
def GameRanges.presentAll (ranges : GameRanges) : List Nat → List Bool × GameRanges
  | [] => ([], ranges)
  | n :: later =>
    let (answer, ranges) := ranges.present n
    let (answers, ranges) := ranges.presentAll later
    (answer :: answers, ranges)

namespace Config

/-- The list itself, if there is one. -/
def gameList? (config : Config) : GameList → Option GameRanges
  | .selectOnly => config.selectOnly
  | .skipMatching => config.skipMatching

/-- The configuration with another list. -/
def setGameList (config : Config) (list : GameList) (ranges : GameRanges) : Config :=
  match list with
  | .selectOnly => { config with selectOnly := some ranges }
  | .skipMatching => { config with skipMatching := some ranges }

/-- Present numbers to a list, if there is one. -/
def walk? (config : Config) (list : GameList) (numbers : List Nat) :
    Option (List Bool × Config) :=
  (config.gameList? list).map fun ranges =>
    let (answers, ranges) := ranges.presentAll numbers
    (answers, config.setGameList list ranges)

/-- Start the walk along a list again, if there is one. -/
def resetWalk? (config : Config) (list : GameList) : Option Config :=
  (config.gameList? list).map fun ranges => config.setGameList list ranges.reset

end Config

end ExtractOptions

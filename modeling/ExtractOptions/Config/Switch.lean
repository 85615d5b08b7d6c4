/-
Module: ExtractOptions.Config.Switch
Purpose: the yes-or-no settings of a run. Each is a switch with a position that it starts in, and a
  run changes one switch at a time.
Main exports: Ending, Winner, Switch, Switch.initially, Switches, Switches.set
-/

namespace ExtractOptions

/-- The endings that games can be restricted to, at most one at a time. -/
inductive Ending where
  | checkmate
  | stalemate
  | insufficientMaterial
deriving DecidableEq, Repr

/-- The named option of an ending. -/
def Ending.name : Ending → String
  | checkmate => "checkmate"
  | stalemate => "stalemate"
  | insufficientMaterial => "insufficient"

/-- The endings that clash with an ending, in the order in which they are looked for. -/
def Ending.rivals : Ending → List Ending
  | checkmate => [insufficientMaterial, stalemate]
  | stalemate => [checkmate, insufficientMaterial]
  | insufficientMaterial => [checkmate, stalemate]

/-- The side that must have won, by rating. -/
inductive Winner where
  | higherRated
  | lowerRated
deriving DecidableEq, Repr

/-- The named option of a winner. -/
def Winner.name : Winner → String
  | higherRated => "higherratedwinner"
  | lowerRated => "lowerratedwinner"

/-- The other side by rating. -/
def Winner.rival : Winner → Winner
  | higherRated => lowerRated
  | lowerRated => higherRated

/-- The yes-or-no settings: which games are selected, what duplicates do, what is written, how
input is read. -/
inductive Switch where
  | onlyEnding (ending : Ending)
  | onlyWinner (winner : Winner)
  | onlyCommented
  | onlyOdds
  | onlyUnderpromotion
  | anyMoveOrder
  | positionalVariations
  | variationsAnywhere
  | tagsAnywhere
  | soundex
  | dropSameSetup
  | rejectBadResults
  | suppressMatched
  | suppressDuplicates
  | suppressFirstCopies
  | virtualHashTable
  | fuzzyDuplicates
  | addEco
  | json
  | onlyWantedTags
  | keepComments
  | keepNags
  | keepVariations
  | keepChecks
  | keepMoveNumbers
  | keepResults
  | splitVariants
  | finalFen
  | fenComments
  | fenCastling
  | hashComments
  | hashTag
  | materialTag
  | labelTag
  | markMatches
  | evaluation
  | plyCount
  | totalPlyCount
  | commentLines
  | dropIdleEnPassant
  | nullMoves
  | nestedComments
  | keepBroken
  | fixResultTags
  | fixTagStrings
  | fixLichessComments
  | checkOnly
deriving DecidableEq, Repr

/-- The position a switch starts in: whatever is to be kept is kept, move orders are permuted, and
all else is off. -/
def Switch.initially : Switch → Bool
  | anyMoveOrder | keepComments | keepNags | keepVariations | keepChecks | keepMoveNumbers
  | keepResults => true
  | _ => false

/-- The positions of all switches. -/
structure Switches where
  /-- The position of each switch. -/
  position : Switch → Bool

namespace Switches

/-- The positions that the switches start in. -/
def initially : Switches :=
  ⟨Switch.initially⟩

/-- The positions with one switch set. -/
def set (switches : Switches) (switch : Switch) (position : Bool) : Switches :=
  if switches.position switch = position then switches
  else ⟨fun other => if other = switch then position else switches.position other⟩

/-- Setting a switch moves that switch and no other. -/
@[simp] theorem position_set (switches : Switches) (switch other : Switch) (position : Bool) :
    (switches.set switch position).position other =
      if other = switch then position else switches.position other := by
  unfold set
  split
  · rename_i h
    split
    · rename_i e
      rw [e, h]
    · rfl
  · rfl

/-- Positions are the same if every switch has the same one. -/
@[ext] theorem ext {a b : Switches} (h : ∀ switch, a.position switch = b.position switch) :
    a = b := by
  cases a
  cases b
  exact congrArg mk (funext h)

end Switches

end ExtractOptions

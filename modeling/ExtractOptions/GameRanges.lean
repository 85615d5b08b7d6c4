/-
Module: ExtractOptions.GameRanges
Purpose: lists of game-number ranges and the walk along them. A list is written `N` or `N:M`,
  joined by commas; it is accepted only when its ranges ascend without touching. A walk presents
  numbers one after another and moves past every range that ends before the number presented, so
  an ascending game counter is answered without looking at a range twice.
Main exports: GameRange, Ascending, GameRanges, GameRanges.parse?,
  GameRanges.present, GameRanges.reset
-/
import ExtractOptions.Text.Numeral

namespace ExtractOptions

open Text

/-- One inclusive range of game numbers. -/
structure GameRange where
  first : Nat
  last : Nat
deriving DecidableEq, Repr, Inhabited

namespace GameRange

/-- The number lies in the range. -/
def contains (r : GameRange) (number : Nat) : Bool :=
  r.first ≤ number && number ≤ r.last

/-- A game number: digits with optional white space around them, of 64 bits at most. -/
def number? (cs : List Char) : Option Nat :=
  Numeral.digits? Numeral.max64 (trimChars cs)

/-- One piece of a list: `N` is the range from `N` to itself. -/
def ofPiece? (piece : List Char) : Option GameRange :=
  match cut? ':' piece with
  | some (first, last) => do return ⟨← number? first, ← number? last⟩
  | none => do
    let n ← number? piece
    return ⟨n, n⟩

end GameRange

/-- Every range starts after `before` and after the end of the range in front of it, and ends no
earlier than it starts. -/
def Ascending : Nat → List GameRange → Prop
  | _, [] => True
  | before, r :: later => before < r.first ∧ r.first ≤ r.last ∧ Ascending r.last later

instance Ascending.decidable : (before : Nat) → (ranges : List GameRange) →
    Decidable (Ascending before ranges)
  | _, [] => isTrue trivial
  | before, r :: later =>
    haveI := Ascending.decidable r.last later
    inferInstanceAs (Decidable (before < r.first ∧ r.first ≤ r.last ∧ Ascending r.last later))

/-- A list of ranges together with a walk along it. -/
structure GameRanges where
  ranges : List GameRange
  /-- How many ranges the walk has left behind. -/
  walked : Nat := 0
deriving DecidableEq, Repr

namespace GameRanges

/-- Read a list of ranges. Empty pieces are passed over; what remains must be at least one range,
game numbers start at one, and the ranges must ascend. -/
def parse? (text : String) : Option GameRanges := do
  let written := (pieces ',' text.toList).filter fun piece => !piece.isEmpty
  let ranges ← written.mapM GameRange.ofPiece?
  if ranges ≠ [] ∧ Ascending 0 ranges then return ⟨ranges, 0⟩ else none

/-- What is said of a text that is no list of ranges. -/
def faultMessage (text : String) : String :=
  "Numbers in " ++ text ++ " must be in the format N or N:N and in ascending order."

/-- The ranges that the walk has not left behind. -/
def ahead (rs : GameRanges) : List GameRange :=
  rs.ranges.drop rs.walked

/-- The range that the walk stands on, if any remains. -/
def current? (rs : GameRanges) : Option GameRange :=
  rs.ahead.head?

/-- Every range has been left behind. -/
def isExhausted (rs : GameRanges) : Bool :=
  rs.ranges.length ≤ rs.walked

/-- Move past the ranges that end before `number`. -/
def advance (rs : GameRanges) (number : Nat) : GameRanges :=
  { rs with walked := rs.walked + (rs.ahead.takeWhile fun r => r.last < number).length }

/-- Present a number to the walk: whether the range it then stands on contains the number, and the
walk afterwards. -/
def present (rs : GameRanges) (number : Nat) : Bool × GameRanges :=
  let moved := rs.advance number
  (moved.current?.any fun r => r.contains number, moved)

/-- Start the walk again. -/
def reset (rs : GameRanges) : GameRanges :=
  { rs with walked := 0 }

end GameRanges

end ExtractOptions

/-
Module: ExtractOptions.Bounds.Ply
Purpose: bounds on the length of a game, counted in ply. Bounds given in moves are turned into ply
  before they are stored, so one pair serves both ways of counting. A lower bound above the upper
  one, or an upper bound below the lower one, is refused and leaves the pair as it was.
Main exports: BoundUnit, BoundSide, PlyBounds, PlyBounds.apply, BoundRefusal
-/

namespace ExtractOptions

/-- What the number of a bound counts. -/
inductive BoundUnit where
  | moves
  | ply
deriving DecidableEq, Repr

/-- Which end of the pair a bound sets; an exact bound sets both. -/
inductive BoundSide where
  | lower
  | upper
  | exact
deriving DecidableEq, Repr

namespace BoundSide

/-- The letter of a side. -/
def letter : BoundSide → Char
  | lower => 'l'
  | upper => 'u'
  | exact => 'e'

/-- The side that a letter names. -/
def ofLetter? : Char → Option BoundSide
  | 'l' => some lower
  | 'u' => some upper
  | 'e' => some exact
  | _ => none

@[simp] theorem ofLetter?_letter (side : BoundSide) : ofLetter? side.letter = some side := by
  cases side <;> rfl

end BoundSide

/-- A game is `n` moves long exactly when its length in ply lies between these two numbers: move
`n` starts at ply `2 n - 1` and ends at ply `2 n`. A game of no moves has no ply. -/
def BoundUnit.span : BoundUnit → Nat → Nat × Nat
  | .moves, n => (2 * n - 1, 2 * n)
  | .ply, n => (n, n)

/-- The bounds in force on the length of a game. -/
structure PlyBounds where
  lower : Nat := 0
  upper : Nat := 10000
  /-- A bound has been given. -/
  active : Bool := false
deriving DecidableEq, Repr

/-- A bound that does not fit the pair: the end that was to be set and the end in force. -/
inductive BoundRefusal where
  | lowerAboveUpper (lower upper : Nat)
  | upperBelowLower (lower upper : Nat)
deriving DecidableEq, Repr

/-- The text of a refusal. -/
def BoundRefusal.message : BoundRefusal → String
  | lowerAboveUpper .. =>
    "Lower bound of ply limit is greater than the upper bound: bound ignored."
  | upperBelowLower .. =>
    "Upper bound of ply limit is smaller than the lower bound: bound ignored."

/-- Give one bound. An exact bound always fits. -/
def PlyBounds.apply (bounds : PlyBounds) (unit : BoundUnit) (side : BoundSide) (number : Nat) :
    Except BoundRefusal PlyBounds :=
  let (lower, upper) := unit.span number
  match side with
  | .exact => .ok ⟨lower, upper, true⟩
  | .lower =>
    if bounds.upper < lower then .error (.lowerAboveUpper lower bounds.upper)
    else .ok { bounds with lower, active := true }
  | .upper =>
    if upper < bounds.lower then .error (.upperBelowLower bounds.lower upper)
    else .ok { bounds with upper, active := true }

end ExtractOptions

/-
Module: ExtractOptions.Config.Value
Purpose: the values of options, read and checked. Every reader names the option in its failure.
Main exports: Value.required, Value.unsigned, Value.signed, Value.atLeast, Value.plain,
  Value.ranges, Value.hash?
-/
import ExtractOptions.Bounds.Spec
import ExtractOptions.Failure

namespace ExtractOptions.Value

open Text

/-- A value that must not be empty. -/
def required (option : OptionName) (what : String) (value : String) : Except Failure String :=
  if value = "" then .error (.usage (.missingValue option what)) else .ok value

/-- The digits of a number, possibly with white space around them. -/
def digitsOf (value : String) : List Char :=
  trimChars value.toList

/-- A number from zero to `most`, with an optional plus sign. -/
def unsigned (option : OptionName) (most : Nat) (value : String) : Except Failure Nat :=
  match Numeral.unsigned? most (digitsOf value) with
  | some n => .ok n
  | none => .error (.usage (.notNumber option))

/-- A number of 32 bits with an optional sign. -/
def signed (option : OptionName) (value : String) : Except Failure Int :=
  match Numeral.signed32? (digitsOf value) with
  | some n => .ok n
  | none => .error (.usage (.notNumber option))

/-- A number from `minimum` to the largest of 32 bits. It is read as a signed number of 64 bits
first, so that a number out of range is told apart from a text that is none. -/
def atLeast (option : OptionName) (minimum : Int) (value : String) : Except Failure Nat :=
  match Numeral.signed64? (digitsOf value) with
  | none => .error (.usage (.notNumber option))
  | some n =>
    if n < minimum then .error (.usage (.belowMinimum option minimum))
    else if n < 0 ∨ (Numeral.max32 : Int) < n then .error (.usage (.tooLarge option n))
    else .ok n.toNat

/-- A number of 32 bits without a sign. -/
def plain (option : LetterOption) (value : String) : Except Failure Nat :=
  match Numeral.plain32? value with
  | some n => .ok n
  | none => .error (.usage (.notUnsigned option))

/-- A list of game-number ranges. -/
def ranges (option : OptionName) (value : String) : Except Failure GameRanges :=
  match GameRanges.parse? value with
  | some ranges => .ok ranges
  | none => .error (.usage (.malformedRanges option value))

/-- A bound in its written form. -/
def bound (option : LetterOption) (value : String) : Except Failure BoundSpec :=
  match BoundSpec.parse value with
  | .ok spec => .ok spec
  | .error .badSide => .error (.usage (.missingBoundSide option))
  | .error .badNumber => .error (.usage (.malformedBound option))

/-- The depth that may follow the option to split variations. -/
def splitDepth? (value : String) : Option Nat :=
  Numeral.unsigned? Numeral.max32 (digitsOf value)

/-- The hexadecimal digits of a hash, without the mark that may stand in front of them. -/
def hashDigits : List Char → List Char
  | '0' :: 'x' :: cs => cs
  | '0' :: 'X' :: cs => cs
  | cs => cs

/-- A hash of a position: one to sixteen hexadecimal digits, with white space around them and
`0x` in front of them if one likes. -/
def hash? (value : String) : Option Nat :=
  let digits := hashDigits (digitsOf value)
  if digits.length ≤ 16 then Numeral.hexadecimal? digits else none

end ExtractOptions.Value

/-
Module: ExtractOptions.Bounds.Spec
Purpose: the written form of a bound, an optional letter for its side and a number. Without a letter
  the bound is exact.
Main exports: BoundSpec, BoundSpec.parse
-/
import ExtractOptions.Bounds.Ply
import ExtractOptions.Text.Numeral

namespace ExtractOptions

open Text

/-- A bound as it is written: its side and its number. -/
structure BoundSpec where
  side : BoundSide
  number : Nat
deriving DecidableEq, Repr

namespace BoundSpec

/-- Why a text is no bound: it starts with something that can neither name a side nor begin a
number, or what follows is no number of 32 bits. -/
inductive Fault where
  | badSide
  | badNumber
deriving DecidableEq, Repr

/-- The text of a fault. -/
def Fault.message : Fault → String
  | badSide => "must be followed by e, l, or u"
  | badNumber => "should be in the form [elu]number"

/-- A bound on the given side whose number is written as the given digits. -/
def ofDigits (side : BoundSide) (digits : List Char) : Except Fault BoundSpec :=
  match Numeral.digits? Numeral.max32 digits with
  | some number => .ok ⟨side, number⟩
  | none => .error .badNumber

/-- Read a bound. -/
def parse (text : String) : Except Fault BoundSpec :=
  match text.toList with
  | [] => .error .badSide
  | c :: cs =>
    match BoundSide.ofLetter? c with
    | some side => ofDigits side cs
    | none => if c.isDigit then ofDigits .exact (c :: cs) else .error .badSide

end BoundSpec

end ExtractOptions

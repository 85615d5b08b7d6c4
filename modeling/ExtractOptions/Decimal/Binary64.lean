/-
Module: ExtractOptions.Decimal.Binary64
Purpose: numbers of 64 bits in binary floating point, as exact values. A decimal numeral is
  rounded to the nearest number, ties to the even significand, by exact division; a number is
  written with the fewest digits that round back to it, and among those with the nearest ones.
Main exports: Binary64, Binary64.ofDecimal, Binary64.parse?, Binary64.text, Binary64.roundToNat
-/
import ExtractOptions.Text.Numeral

namespace ExtractOptions

open Text

/-- A number in binary floating point. A finite one is `significand * 2 ^ exponent`, where the
significand has 53 bits unless the exponent is the least one. -/
inductive Binary64 where
  | finite (negative : Bool) (significand : Nat) (exponent : Int)
  | infinite (negative : Bool)
  | nan
deriving DecidableEq, Repr

namespace Binary64

/-- The least exponent. -/
def leastExponent : Int := -1074

/-- The greatest exponent. -/
def greatestExponent : Int := 971

/-- A quotient rounded to the nearest whole number, ties to the even one. -/
def roundDiv (num den : Nat) : Nat :=
  let q := num / den
  let r := num % den
  if 2 * r < den ∨ (2 * r = den ∧ q % 2 = 0) then q else q + 1

/-- A fraction scaled by a power of the base, as a fraction. -/
def scale (base : Nat) (num den : Nat) (exponent : Int) : Nat × Nat :=
  if 0 ≤ exponent then (num * Nat.pow base exponent.toNat, den)
  else (num, den * Nat.pow base (-exponent).toNat)

/-- The exponent at which a positive fraction has a significand of 53 bits, or the least one. -/
def exponentFor (num den : Nat) : Int :=
  let guess : Int := (num.log2 : Int) - (den.log2 : Int) - 52
  let (n, d) := scale 2 num den (-guess)
  let exact := if n < Nat.pow 2 52 * d then guess - 1 else guess
  if exact < leastExponent then leastExponent else exact

/-- The number nearest to a positive fraction. -/
def ofFraction (negative : Bool) (num den : Nat) : Binary64 :=
  let exponent := exponentFor num den
  let (n, d) := scale 2 num den (-exponent)
  let significand := roundDiv n d
  let (significand, exponent) :=
    if significand = Nat.pow 2 53 then (Nat.pow 2 52, exponent + 1) else (significand, exponent)
  if greatestExponent < exponent then infinite negative
  else finite negative significand exponent

/-- The number nearest to `digits * 10 ^ exponent`. Beyond a few hundred places the answer no longer
depends on the digits. -/
def ofDecimal (negative : Bool) (digits : Nat) (exponent : Int) : Binary64 :=
  let places : Int := (Numeral.decimal digits).length + exponent
  if digits = 0 ∨ places < -400 then finite negative 0 leastExponent
  else if 400 < places then infinite negative
  else
    let (n, d) := scale 10 digits 1 exponent
    ofFraction negative n d

/-- The exponent part of a numeral: nothing, or the letter and a signed number. -/
def exponentPart? : List Char → Option Int
  | [] => some 0
  | e :: cs =>
    if e = 'e' ∨ e = 'E' then
      match cs with
      | '-' :: ds => (digitsOnly? ds).map fun n => -(n : Int)
      | '+' :: ds => (digitsOnly? ds).map Int.ofNat
      | ds => (digitsOnly? ds).map Int.ofNat
    else none
where
  digitsOnly? (cs : List Char) : Option Nat :=
    if cs ≠ [] ∧ cs.all Char.isDigit then some (Numeral.ofDigits cs) else none

/-- An unsigned numeral: digits with at most one point among them, and an exponent part. -/
def magnitude? (negative : Bool) (cs : List Char) : Option Binary64 :=
  let whole := cs.takeWhile Char.isDigit
  let rest := cs.dropWhile Char.isDigit
  let (fraction, rest) :=
    match rest with
    | '.' :: ds => (ds.takeWhile Char.isDigit, ds.dropWhile Char.isDigit)
    | _ => ([], rest)
  if whole = [] ∧ fraction = [] then none
  else do
    let exponent ← exponentPart? rest
    return ofDecimal negative (Numeral.ofDigits (whole ++ fraction)) (exponent - fraction.length)

/-- A number without its sign: a numeral, or one of the words for what is no finite number, in any
letter case. -/
def unsigned? (negative : Bool) (cs : List Char) : Option Binary64 :=
  let word := cs.map Char.toLower
  if word = "inf".toList ∨ word = "infinity".toList then some (infinite negative)
  else if word = "nan".toList then some nan
  else magnitude? negative cs

/-- Read a number, with an optional sign. -/
def parse? (cs : List Char) : Option Binary64 :=
  match cs with
  | '-' :: ds => unsigned? true ds
  | '+' :: ds => unsigned? false ds
  | ds => unsigned? false ds

/-- Whether the decimal `digits * 10 ^ place` lies in the interval that rounds to the number with
the given significand and exponent. The ends belong to it when the significand is even, and below a
power of two the interval reaches only half as far. -/
def roundsTo (significand : Nat) (exponent : Int) (digits : Nat) (place : Int) : Bool :=
  let narrow := significand = Nat.pow 2 52 ∧ leastExponent < exponent
  let low := if narrow then 4 * significand - 1 else 4 * significand - 2
  let high := 4 * significand + 2
  let (n, d) := scale 10 digits 1 place
  let (n, d) := scale 2 n d (2 - exponent)
  if significand % 2 = 0 then low * d ≤ n && n ≤ high * d
  else low * d < n && n < high * d

/-- The digits of a positive number on the grid of multiples of `10 ^ place`, if one of the two
grid points around it rounds back to it. Of two the nearer is taken, and the upper one in a tie. -/
def onGrid? (significand : Nat) (exponent : Int) (place : Int) : Option Nat :=
  let (n, d) := scale 2 significand 1 exponent
  let (n, d) := scale 10 n d (-place)
  let below := n / d
  let upperNearer := d ≤ 2 * (n % d)
  let lowerFits := roundsTo significand exponent below place
  let upperFits := roundsTo significand exponent (below + 1) place
  if lowerFits && (!upperFits || !upperNearer) then some below
  else if upperFits then some (below + 1)
  else none

/-- The place of the first digit of a positive number. -/
def firstPlace (significand : Nat) (exponent : Int) : Int :=
  let (n, d) := scale 2 significand 1 exponent
  if d ≤ n then ((Numeral.decimal (n / d)).length : Int) - 1
  else -((Numeral.decimal ((d - 1) / n)).length : Int)

/-- The first of the given places, from coarse to fine, whose grid has a point that rounds back. -/
def firstOnGrid (significand : Nat) (exponent : Int) : List Int → Nat × Int
  | [] => (significand, 0)
  | place :: finer =>
    match onGrid? significand exponent place with
    | some digits => (digits, place)
    | none => firstOnGrid significand exponent finer

/-- The fewest digits that round back to a positive number, and the place of the last one. Seventeen
digits always suffice. -/
def shortest (significand : Nat) (exponent : Int) : Nat × Int :=
  let first := firstPlace significand exponent
  firstOnGrid significand exponent ((List.range 19).map fun (k : Nat) => first + 1 - (k : Int))

/-- Digits with the last one at the given place, written without an exponent. -/
def positional (digits : Nat) (place : Int) : List Char :=
  let ds := Numeral.decimal digits
  if 0 ≤ place then ds ++ List.replicate place.toNat '0'
  else
    let decimals := (-place).toNat
    if decimals < ds.length then
      ds.take (ds.length - decimals) ++ '.' :: ds.drop (ds.length - decimals)
    else '0' :: '.' :: List.replicate (decimals - ds.length) '0' ++ ds

/-- The shortest text of a number, without an exponent. -/
def text : Binary64 → String
  | nan => "NaN"
  | infinite negative => if negative then "-inf" else "inf"
  | finite negative significand exponent =>
    let (digits, place) :=
      if significand = 0 then (0, 0) else shortest significand exponent
    let body := positional digits place
    String.ofList (if negative then '-' :: body else body)

/-- The number is not zero. -/
def isNonzero : Binary64 → Bool
  | finite _ significand _ => significand ≠ 0
  | _ => true

/-- The nearest whole number from zero to `most`, halves rounded up. What is no number counts as
zero. -/
def roundToNat (most : Nat) : Binary64 → Nat
  | nan => 0
  | infinite negative => if negative then 0 else most
  | finite negative significand exponent =>
    if negative then 0
    else
      let (n, d) := scale 2 significand 1 exponent
      min most ((2 * n + d) / (2 * d))

end Binary64

end ExtractOptions

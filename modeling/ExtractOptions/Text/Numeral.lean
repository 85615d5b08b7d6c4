/-
Module: ExtractOptions.Text.Numeral
Purpose: whole numbers as text. A numeral is a run of ASCII digits; the readers differ in whether a
  sign may stand in front and in the range that they accept, and none of them accepts a number that
  it would have to cut short.
Main exports: decimal, ofDigits, digits?, unsigned?, signed?, hexadecimal?
-/
import ExtractOptions.Text.Blank

namespace ExtractOptions.Text.Numeral

/-- The largest numbers of 32 and of 64 bits. -/
def max32 : Nat := Nat.pow 2 32 - 1

@[inherit_doc max32]
def max64 : Nat := Nat.pow 2 64 - 1

/-- The shortest decimal numeral of a number. -/
def decimal (n : Nat) : List Char :=
  Nat.toDigits 10 n

/-- The value of a digit. -/
def digitValue (c : Char) : Nat :=
  c.toNat - '0'.toNat

/-- The number that a run of digits spells, leading zeros allowed. -/
def ofDigits (cs : List Char) : Nat :=
  cs.foldl (fun n c => 10 * n + digitValue c) 0

/-- The number of a text that consists of at least one digit and of nothing else, if it is at
most `most`. -/
def digits? (most : Nat) (cs : List Char) : Option Nat :=
  if cs ≠ [] ∧ cs.all Char.isDigit ∧ ofDigits cs ≤ most then some (ofDigits cs) else none

/-- A numeral with an optional plus sign. -/
def unsigned? (most : Nat) : List Char → Option Nat
  | '+' :: cs => digits? most cs
  | cs => digits? most cs

/-- A numeral with an optional sign, between `least` and `most`. -/
def signed? (least most : Int) (cs : List Char) : Option Int :=
  let inRange (n : Int) : Option Int := if least ≤ n ∧ n ≤ most then some n else none
  match cs with
  | '-' :: ds => (digits? (least.natAbs + most.natAbs) ds).bind fun n => inRange (-n)
  | '+' :: ds => (digits? (least.natAbs + most.natAbs) ds).bind fun n => inRange n
  | ds => (digits? (least.natAbs + most.natAbs) ds).bind fun n => inRange n

/-- A signed number of 32 bits. -/
def signed32? (cs : List Char) : Option Int :=
  signed? (-Nat.pow 2 31) (Nat.pow 2 31 - 1) cs

/-- A signed number of 64 bits. -/
def signed64? (cs : List Char) : Option Int :=
  signed? (-Nat.pow 2 63) (Nat.pow 2 63 - 1) cs

/-- An unsigned number of 32 bits without a sign, white space around it allowed. -/
def plain32? (text : String) : Option Nat :=
  digits? max32 (trimChars text.toList)

/-- The value of a hexadecimal digit of either case. -/
def hexValue? (c : Char) : Option Nat :=
  if '0' ≤ c ∧ c ≤ '9' then some (c.toNat - '0'.toNat)
  else if 'a' ≤ c ∧ c ≤ 'f' then some (c.toNat - 'a'.toNat + 10)
  else if 'A' ≤ c ∧ c ≤ 'F' then some (c.toNat - 'A'.toNat + 10)
  else none

/-- The number that digits of the given base spell. -/
def ofValues (base : Nat) (digits : List Nat) : Nat :=
  digits.foldl (fun n d => base * n + d) 0

/-- The number of a text of one or more hexadecimal digits. -/
def hexadecimal? (cs : List Char) : Option Nat :=
  if cs = [] then none else (cs.mapM hexValue?).map (ofValues 16)

end ExtractOptions.Text.Numeral

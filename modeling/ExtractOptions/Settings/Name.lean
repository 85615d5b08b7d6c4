/-
Module: ExtractOptions.Settings.Name
Purpose: the names under which a layer gives values. A name may lead into a value: `a.b` names an
  entry of `a`, and `a[0]` an item of it. To give a value under such a name makes what the name starts
  with a mapping or a list. A name that is not well formed is taken as it is.
Main exports: NameStep, SettingName, SettingName.ofText
-/
import ExtractOptions.Text.Numeral

namespace ExtractOptions

open Text

/-- A step into a value. -/
inductive NameStep where
  | entry (name : String)
  /-- Items are counted from zero, or backwards from the end. -/
  | item (position : Int)
deriving DecidableEq, Repr

/-- A name, and the steps that lead from there into its value. -/
structure SettingName where
  root : String
  steps : List NameStep := []
deriving DecidableEq, Repr

namespace SettingName

/-- The characters of a word in a name. -/
def isWordCharacter (c : Char) : Bool :=
  c.isAlphanum || c == '_' || c == '-'

/-- The word that a text starts with. -/
def word (cs : List Char) : List Char :=
  cs.takeWhile isWordCharacter

/-- The text without the spaces and tabs at its two ends. -/
def trimGaps (cs : List Char) : List Char :=
  let isGap (c : Char) : Bool := c == ' ' || c == '\t'
  dropEndWhile isGap (cs.dropWhile isGap)

/-- The position of an item, which has no plus sign. -/
def position? (cs : List Char) : Option Int :=
  if cs.head? = some '+' then none else Numeral.signed64? cs

/-- The steps after the first word of a name. -/
def steps? : (fuel : Nat) → List Char → Option (List NameStep)
  | _, [] => some []
  | 0, _ => none
  | fuel + 1, '.' :: cs =>
    let name := word cs
    if name.isEmpty then none
    else (steps? fuel (cs.drop name.length)).map (.entry (String.ofList name) :: ·)
  | fuel + 1, '[' :: cs => do
    let (inside, later) ← cut? ']' cs
    let position ← position? (trimGaps inside)
    let steps ← steps? fuel later
    return .item position :: steps
  | _, _ => none

/-- The parts of a well-formed name. -/
def parse? (cs : List Char) : Option SettingName :=
  let root := word cs
  if root.isEmpty then none
  else (steps? cs.length (cs.drop root.length)).map fun steps => ⟨String.ofList root, steps⟩

/-- The name that a text stands for. -/
def ofText (text : String) : SettingName :=
  (parse? text.toList).getD ⟨text, []⟩

end SettingName

end ExtractOptions

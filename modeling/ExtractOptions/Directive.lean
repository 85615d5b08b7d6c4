/-
Module: ExtractOptions.Directive
Purpose: the lines of an argument file that give an option. Such a line is `:-`, the letter of the
  option, and its value; the letter `-` gives an option by name.
Main exports: Directive, Directive.ofLine?, splitNamed
-/
import ExtractOptions.Failure

namespace ExtractOptions

open Text

/-- A line that gives an option: the letter's option, and the text after the letter. -/
structure Directive where
  option : LetterOption
  value : String
deriving DecidableEq, Repr

namespace Directive

/-- The characters that every directive starts with. -/
def opening : List Char := [':', '-']

/-- The directive that a line gives, if it gives one. A letter that names no option is a misuse. -/
def ofLine? (line : String) : Except Failure (Option Directive) :=
  match dropPrefix? opening line.toList with
  | none | some [] => .ok none
  | some (letter :: value) =>
    match LetterOption.ofLetter? letter with
    | some option => .ok (some ⟨option, String.ofList value⟩)
    | none => .error (.usage (.unknownDirective line))

end Directive

/-- The name of an option and its value, which starts at the first character after the spaces that
follow the name. -/
def splitNamed (text : String) : String × String :=
  match cut? ' ' text.toList with
  | some (name, value) => (String.ofList name, skipSpaces (String.ofList value))
  | none => (text, "")

end ExtractOptions

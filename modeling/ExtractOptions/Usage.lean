/-
Module: ExtractOptions.Usage
Purpose: the usage text, made from the manual entries of the letters and the table of named options.
Main exports: usageText
-/
import ExtractOptions.Named.Option

namespace ExtractOptions

/-- The line of an option named by a letter. -/
def LetterOption.usageLine (option : LetterOption) : String :=
  option.text ++ option.manual.placeholder.getD "" ++ " -- " ++ option.manual.description

/-- The line of an option given by name. -/
def NamedOption.usageLine (option : NamedOption) : String :=
  let value := match option.placeholder with
    | some placeholder => " " ++ placeholder
    | none => ""
  "--" ++ option.name ++ value ++ " -- " ++ option.summary

/-- The letters that can be given on a command line. -/
def commandLineLetters : List LetterOption :=
  LetterOption.all.filter (· ≠ .named)

/-- The usage text, without a newline at its end. -/
def usageText : String :=
  let letters : List LetterOption :=
    [.tagCriteria, .textualVariations, .positionalVariations, .tagRoster, .colouredEndings]
  let dataLetters :=
    " ".intercalate (letters.map LetterOption.text) ++ " or " ++ LetterOption.endings.text
  "\n".intercalate
    ([programName ++ " " ++ programVersion,
        "Usage: " ++ programName ++ " [arguments] [file.pgn ...]", ""] ++
      commandLineLetters.map LetterOption.usageLine ++ [""] ++
      NamedOption.all.map NamedOption.usageLine ++
      ["",
        "In an argument file each line is :-<code>[value], :--name [value], :<file.pgn>, " ++
          "or a data line for the last " ++ dataLetters ++ "."])

end ExtractOptions

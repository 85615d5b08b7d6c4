/-
Module: ExtractOptions.DataLine
Purpose: lines of data. A data line belongs to an option, which says what is asked of the rest of the
  tool for it. A file of data lines is handed on line by line, and a list of files names one source
  file per line; both pass over blank lines.
Main exports: deliver, deliverFile, readSourceList
-/
import ExtractOptions.Session

namespace ExtractOptions

open Text

/-- Hand one data line of an option to the rest of the tool; `origin` is the file it stands in. An
option without data lines should never get one. -/
def deliver (context : Context) (option : LetterOption) (origin line : String) : Action Unit := do
  Action.count fun counters => { counters with dataLines := counters.dataLines + 1 }
  let ask := Action.request context (option.text ++ " line \"" ++ line ++ "\" from " ++ origin)
  match option with
  | .textualVariations => ask (.textualVariation line)
  | .positionalVariations => do
    Action.modifyConfig fun config => config.set .positionalVariations true
    ask (.positionalVariation line)
  | .tagCriteria => ask (.tagCriterion ⟨line, origin⟩)
  | .tagRoster => ask (.rosterLine line)
  | .endings => ask (.material line true)
  | .colouredEndings => ask (.material line false)
  | other => throw (.internal (.noDataLines other))

/-- Hand on every line of a file that is not blank, as a data line of an option. -/
def deliverFile (context : Context) (option : LetterOption) (path : String) : Action Unit :=
  Action.forLines path fun line =>
    if isBlankText line then pure () else deliver context option path line

/-- Record every source file that a list names. -/
def readSourceList (path : String) (kind : SourceKind) : Action Unit :=
  Action.forLines path fun line =>
    if isBlankText line then pure () else Action.addSource (trim line) kind

end ExtractOptions

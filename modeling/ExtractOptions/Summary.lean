/-
Module: ExtractOptions.Summary
Purpose: the summary of a resolved run, which is printed when all options were accepted.
Main exports: summary
-/
import ExtractOptions.Session

namespace ExtractOptions

/-- The number of criteria that games are matched by. -/
def Registry.criteria (registry : Registry) : Nat :=
  registry.tagCriteria.length + registry.textualVariations.length +
    registry.positionalVariations.length + registry.materials.length +
    registry.fenPatterns.length + registry.positionHashes.length

/-- Where diagnostics go. -/
def LogTarget.describe : LogTarget → String
  | standardError => "stderr"
  | file target => target.path

/-- Where games go that match nothing. -/
def NonMatchingTarget.describe : NonMatchingTarget → String
  | standardOutput => "stdout"
  | file target => target.path

/-- The lines of the summary. -/
def summaryLines (config : Config) (registry : Registry) : List String :=
  let count (kind : SourceKind) : String := number (registry.sourceFiles kind).length
  ["sources: " ++ count .normal ++ " game files, " ++ count .check ++ " check files",
    "output: " ++ config.outputFile?.getD "stdout" ++ " (" ++ config.outputFormat.describe ++ ")",
    "diagnostics: " ++ config.log.describe] ++
  (if config.plyBounds.active then
    ["ply bounds: " ++ number config.plyBounds.lower ++ "..=" ++ number config.plyBounds.upper]
  else []) ++
  (match config.nonMatching with
    | some target => ["non-matching games: " ++ target.describe]
    | none => []) ++
  ["match criteria: " ++ number registry.criteria]

/-- The summary, without a newline at its end. -/
def summary (config : Config) (registry : Registry) : String :=
  "\n".intercalate (summaryLines config registry)

end ExtractOptions

/-
Module: ExtractOptions.Yaml.Token
Purpose: the tokens of a YAML text. Indentation is among them: a block that is held together by its
  column has a token where it starts and one where it ends.
Main exports: Token, ScalarStyle
-/

namespace ExtractOptions.Yaml

/-- Whether the spelling of a scalar tells what it stands for. A plain one may be a number or a truth
value, any other is a text. -/
inductive ScalarStyle where
  | plain
  | text
deriving DecidableEq, Repr

/-- A token. -/
inductive Token where
  | versionDirective
  /-- A short form for the beginning of tags. A directive of no known kind counts as an empty one. -/
  | tagDirective (handle expansion : String)
  | documentStart
  | documentEnd
  | blockListStart
  | blockMappingStart
  | blockEnd
  | flowListStart
  | flowListEnd
  | flowMappingStart
  | flowMappingEnd
  | blockEntry
  | flowEntry
  | key
  | value
  | alias (name : String)
  | anchor (name : String)
  | tag (handle suffix : String)
  | scalar (style : ScalarStyle) (text : String)
deriving DecidableEq, Repr

end ExtractOptions.Yaml

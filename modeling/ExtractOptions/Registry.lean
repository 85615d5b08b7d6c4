/-
Module: ExtractOptions.Registry
Purpose: the values that options hand to the rest of the tool, recorded in the order of their
  arrival. Some of them are requests, which the tool may refuse: a gate looks at each request
  first and either lets it pass or gives the reason why not. A refused request leaves no record.
Main exports: SourceKind, TagCriterion, Registry, Request, Gate, Registry.record, Gate.ofRules
-/
import ExtractOptions.Text.Blank

namespace ExtractOptions

/-- What a source file is for: its games are extracted, or only compared with for duplicates. -/
inductive SourceKind where
  | normal
  | check
deriving DecidableEq, Repr

/-- A line of tag criteria and where it came from. -/
structure TagCriterion where
  line : String
  origin : String
deriving DecidableEq, Repr

/-- Everything recorded so far. -/
structure Registry where
  sources : List (String × SourceKind) := []
  textualVariations : List String := []
  positionalVariations : List String := []
  tagCriteria : List TagCriterion := []
  roster : List String := []
  suppressedTags : List String := []
  /-- Material descriptors, each with whether it holds for both colours. -/
  materials : List (String × Bool) := []
  /-- Patterns of positions, each with whether the colours may be exchanged. -/
  fenPatterns : List (String × Bool) := []
  ecoTables : List String := []
  positionHashes : List Nat := []
  lineLength : Option Nat := none
deriving DecidableEq, Repr

/-- A value that may be refused. -/
inductive Request where
  | textualVariation (line : String)
  | positionalVariation (line : String)
  | tagCriterion (criterion : TagCriterion)
  | rosterLine (line : String)
  | material (descriptor : String) (bothColours : Bool)
  | fenPattern (pattern : String) (eitherColour : Bool)
  | ecoTable (file : String)
deriving DecidableEq, Repr

/-- The reason for refusing a request, if it is refused. What was recorded before may matter. -/
abbrev Gate := Registry → Request → Option String

namespace Request

/-- The kinds of requests. -/
inductive Kind where
  | textualVariation
  | positionalVariation
  | tagCriterion
  | rosterLine
  | material
  | fenPattern
  | ecoTable
deriving DecidableEq, Repr

/-- The kind of a request. -/
def kind : Request → Kind
  | textualVariation _ => .textualVariation
  | positionalVariation _ => .positionalVariation
  | tagCriterion _ => .tagCriterion
  | rosterLine _ => .rosterLine
  | material .. => .material
  | fenPattern .. => .fenPattern
  | ecoTable _ => .ecoTable

/-- The text that a request is about. -/
def value : Request → String
  | textualVariation line => line
  | positionalVariation line => line
  | tagCriterion criterion => criterion.line
  | rosterLine line => line
  | material descriptor _ => descriptor
  | fenPattern pattern _ => pattern
  | ecoTable file => file

end Request

namespace Gate

/-- The gate that lets every request pass. -/
def everything : Gate := fun _ _ => none

/-- A rule that refuses the requests of one kind whose text contains a given part. -/
structure Rule where
  kind : Request.Kind
  part : String
  reason : String
deriving DecidableEq, Repr

/-- One text occurs within another. -/
def contains (part : List Char) : List Char → Bool
  | [] => part.isEmpty
  | c :: cs => part.isPrefixOf (c :: cs) || contains part cs

/-- The rule refuses the request. -/
def Rule.refuses (rule : Rule) (request : Request) : Bool :=
  rule.kind = request.kind && contains rule.part.toList request.value.toList

/-- The gate of a list of rules, of which the first that applies gives the reason. -/
def ofRules (rules : List Rule) : Gate :=
  fun _ request => (rules.find? fun rule => rule.refuses request).map Rule.reason

end Gate

namespace Registry

/-- The registry with a request recorded. A roster line loses the white space around it. -/
def record (registry : Registry) : Request → Registry
  | .textualVariation line =>
    { registry with textualVariations := registry.textualVariations ++ [line] }
  | .positionalVariation line =>
    { registry with positionalVariations := registry.positionalVariations ++ [line] }
  | .tagCriterion criterion =>
    { registry with tagCriteria := registry.tagCriteria ++ [criterion] }
  | .rosterLine line =>
    { registry with roster := registry.roster ++ [Text.trim line] }
  | .material descriptor bothColours =>
    { registry with materials := registry.materials ++ [(descriptor, bothColours)] }
  | .fenPattern pattern eitherColour =>
    { registry with fenPatterns := registry.fenPatterns ++ [(pattern, eitherColour)] }
  | .ecoTable file =>
    { registry with ecoTables := registry.ecoTables ++ [file] }

/-- The registry with a source file recorded. -/
def addSource (registry : Registry) (path : String) (kind : SourceKind) : Registry :=
  { registry with sources := registry.sources ++ [(path, kind)] }

/-- The source files of one kind. -/
def sourceFiles (registry : Registry) (kind : SourceKind) : List String :=
  (registry.sources.filter fun source => source.2 = kind).map Prod.fst

end Registry

end ExtractOptions

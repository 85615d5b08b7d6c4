/-
Module: ExtractOptions.Yaml.Document
Purpose: the documents that the tokens of a YAML text make up. The reader goes from token to token
  and keeps the anchors of the present document; an alias stands for the value of the latest anchor of
  its name. Where a value is left out, null stands for it.
Main exports: Reader, readDocuments?
-/
import ExtractOptions.Yaml.Lexer
import ExtractOptions.Yaml.Node

namespace ExtractOptions.Yaml

/-- The anchors of a document. -/
structure Anchors where
  /-- The number of the latest anchor of each name. -/
  numbers : List (String × Nat) := []
  /-- The values that have been read, by the numbers of their anchors. -/
  values : List (Nat × Yaml) := []
  count : Nat := 0

/-- What is still to be read of a text, and what has been said about it. -/
structure Source where
  tokens : List Token
  anchors : Anchors := {}
  /-- What the handles of tags stand for. -/
  handles : List (String × String) := []

/-- A step of reading. -/
abbrev Reader := StateT Source Option

namespace Reader

/-- The next token, which stays. -/
def peek : Reader (Option Token) :=
  return (← get).tokens.head?

/-- Go past the next token. -/
def skip : Reader Unit :=
  modify fun source => { source with tokens := source.tokens.tail }

/-- Go past the next token if it is the given one. -/
def accept (token : Token) : Reader Bool := do
  if (← peek) = some token then
    skip
    return true
  else return false

/-- Go past the next token, which must be the given one. -/
def expect (token : Token) : Reader Unit := do
  if !(← accept token) then failure

/-- The next token is one of those given. -/
def atAny (tokens : List Token) : Reader Bool :=
  return (← peek).any tokens.contains

/-- The number of an anchor just read. -/
def newAnchor (name : String) : Reader Nat := do
  let source ← get
  let number := source.anchors.count
  set { source with
    anchors := { source.anchors with
      numbers := (name, number) :: source.anchors.numbers
      count := number + 1 } }
  return number

/-- Give a value to its anchor, if it has one. -/
def define (anchor : Option Nat) (value : Yaml) : Reader Yaml := do
  if let some number := anchor then
    modify fun source => { source with
      anchors := { source.anchors with values := (number, value) :: source.anchors.values } }
  return value

/-- The value of an alias. One that is still being read is not defined. -/
def resolve (name : String) : Reader Yaml := do
  let anchors := (← get).anchors
  match anchors.numbers.lookup name with
  | none => failure
  | some number => return (anchors.values.lookup number).getD .undefined

/-- The beginning of the tags of the common kinds. -/
def commonKinds : String :=
  "tag:yaml.org,2002:"

/-- What the handle of a tag stands for. A named one must have been declared, except for the one with
nothing between its marks, which is that of the common kinds. -/
def expand (handle : String) : Reader String := do
  match (← get).handles.lookup handle with
  | some expansion => return expansion
  | none =>
    if handle = "!!" then return commonKinds
    else if isNamedHandle handle then failure
    else return handle

/-- The handle of a tag, expanded, and its suffix. -/
abbrev Tag := String × String

/-- The anchor and the tag in front of a value, in either order. -/
def properties : Reader (Option Nat × Option Tag) := do
  match ← peek with
  | some (.anchor name) =>
    skip
    let number ← newAnchor name
    match ← peek with
    | some (.tag handle suffix) =>
      skip
      return (some number, some (← expand handle, suffix))
    | _ => return (some number, none)
  | some (.tag handle suffix) =>
    skip
    let tag : Tag := (← expand handle, suffix)
    match ← peek with
    | some (.anchor name) =>
      skip
      return (some (← newAnchor name), some tag)
    | _ => return (none, some tag)
  | _ => return (none, none)

/-- What a scalar stands for. -/
def ofScalar (tag : Option Tag) (style : ScalarStyle) (text : String) : Yaml :=
  match style, tag with
  | .text, _ => .scalar (.text text)
  | .plain, none => .scalar (Scalar.ofPlain text.toList)
  | .plain, some (handle, kind) =>
    if handle = commonKinds then
      (Scalar.ofTagged kind text.toList).elim .undefined .scalar
    else .scalar (.text text)

/-- The value that stands for one left out. -/
def missing : Yaml :=
  .scalar .null

/-- The mapping of keys and values in turn. -/
def mappingOf (parts : List Yaml) : Reader Yaml :=
  liftM (mappingOf? [] none parts)

mutual

/-- A value. Lists and mappings in block style may stand only where `block` says so, and a list in
the column of its key only where `indentless` does. -/
def value (block indentless : Bool) : (fuel : Nat) → Reader Yaml
  | 0 => failure
  | fuel + 1 => do
    if let some (.alias name) := ← peek then
      skip
      resolve name
    else
      let (anchor, tag) ← properties
      match ← peek, block, indentless with
      | some (.scalar style text), _, _ =>
        skip
        define anchor (ofScalar tag style text)
      | some .flowListStart, _, _ =>
        skip
        define anchor (.list (← flowItems true fuel))
      | some .flowMappingStart, _, _ =>
        skip
        define anchor (← mappingOf (← flowParts true fuel))
      | some .blockListStart, true, _ =>
        skip
        define anchor (.list (← blockItems fuel))
      | some .blockMappingStart, true, _ =>
        skip
        define anchor (← mappingOf (← blockParts fuel))
      | some .blockEntry, _, true => define anchor (.list (← indentlessItems fuel))
      | _, _, _ =>
        if anchor.isSome || tag.isSome then define anchor (ofScalar tag .plain "") else failure

/-- A value, unless one of the given tokens shows that it is left out. -/
def valueUnless (ends : List Token) (block indentless : Bool) : (fuel : Nat) → Reader Yaml
  | 0 => failure
  | fuel + 1 => do
    if ← atAny ends then return missing else value block indentless fuel

/-- The items of a list in block style. -/
def blockItems : (fuel : Nat) → Reader (List Yaml)
  | 0 => failure
  | fuel + 1 => do
    if ← accept .blockEnd then return []
    expect .blockEntry
    let item ← valueUnless [.blockEntry, .blockEnd] true false fuel
    return item :: (← blockItems fuel)

/-- The items of a list in the column of its key. -/
def indentlessItems : (fuel : Nat) → Reader (List Yaml)
  | 0 => failure
  | fuel + 1 => do
    if !(← accept .blockEntry) then return []
    let item ← valueUnless [.blockEntry, .key, .value, .blockEnd] true false fuel
    return item :: (← indentlessItems fuel)

/-- The keys and values of a mapping in block style, in turn. -/
def blockParts : (fuel : Nat) → Reader (List Yaml)
  | 0 => failure
  | fuel + 1 => do
    if ← accept .blockEnd then return []
    let ends := [.key, .value, .blockEnd]
    let key ←
      if ← accept .key then valueUnless ends true true fuel
      else if ← atAny [.value] then pure missing
      else failure
    let value ← if ← accept .value then valueUnless ends true true fuel else pure missing
    return key :: value :: (← blockParts fuel)

/-- The keys and values of a mapping in braces, in turn. -/
def flowParts (first : Bool) : (fuel : Nat) → Reader (List Yaml)
  | 0 => failure
  | fuel + 1 => do
    if ← accept .flowMappingEnd then return []
    if !first then expect .flowEntry
    if ← accept .flowMappingEnd then return []
    let written ← accept .key
    if !written && !(← atAny [.value]) then
      let key ← value false false fuel
      return key :: missing :: (← flowParts false fuel)
    else
      let key ←
        if written then valueUnless [.value, .flowEntry, .flowMappingEnd] false false fuel
        else pure missing
      let value ←
        if ← accept .value then valueUnless [.flowEntry, .flowMappingEnd] false false fuel
        else pure missing
      return key :: value :: (← flowParts false fuel)

/-- The items of a list in brackets. -/
def flowItems (first : Bool) : (fuel : Nat) → Reader (List Yaml)
  | 0 => failure
  | fuel + 1 => do
    if ← accept .flowListEnd then return []
    if !first then expect .flowEntry
    if ← accept .flowListEnd then return []
    let item ←
      if ← accept .key then mappingOf (← pairParts fuel) else value false false fuel
    return item :: (← flowItems false fuel)

/-- The key and the value of a single entry in a list in brackets. -/
def pairParts : (fuel : Nat) → Reader (List Yaml)
  | 0 => failure
  | fuel + 1 => do
    let key ←
      if ← atAny [.value, .flowEntry, .flowListEnd] then do
        skip
        pure missing
      else value false false fuel
    let value ←
      if ← accept .value then valueUnless [.flowEntry, .flowListEnd] false false fuel
      else pure missing
    return [key, value]

end

/-- The directives in front of a document. The language has one version; the last directive decides
about the handles. -/
def directives : (fuel : Nat) → (versioned : Bool) → Reader Unit
  | 0, _ => failure
  | fuel + 1, versioned => do
    match ← peek with
    | some .versionDirective =>
      if versioned then failure
      skip
      modify fun source => { source with handles := [] }
      directives fuel true
    | some (.tagDirective handle expansion) =>
      skip
      modify fun source => { source with handles := [(handle, expansion)] }
      directives fuel versioned
    | _ => return

/-- A document that a mark starts, with its directives. It may be empty. -/
def markedDocument (fuel : Nat) : Reader Yaml := do
  directives fuel false
  expect .documentStart
  match ← peek with
  | none | some .versionDirective | some (.tagDirective ..) | some .documentStart
  | some .documentEnd => return missing
  | _ => value true false fuel

/-- A directive or a mark that starts a document comes next. -/
def atDocument : Reader Bool := do
  match ← peek with
  | some .versionDirective | some (.tagDirective ..) | some .documentStart => return true
  | _ => return false

/-- Documents up to the end of the text. Only at the beginning and after a mark that ends a document
may one start without a mark of its own. -/
def documents : (fuel : Nat) → (markNeeded : Bool) → Reader (List Yaml)
  | 0, _ => failure
  | fuel + 1, markNeeded => do
    if ← accept .documentEnd then documents fuel markNeeded
    else if (← peek).isNone then return []
    else
      modify fun source => { source with anchors := {} }
      let document ←
        if ← atDocument then markedDocument fuel
        else if markNeeded then failure
        else value true false fuel
      modify fun source => { source with handles := [] }
      if ← accept .documentEnd then return document :: (← documents fuel false)
      match ← peek with
      | some .versionDirective | some (.tagDirective ..) => failure
      | _ => return document :: (← documents fuel true)

end Reader

/-- The documents of a text, if it is YAML. -/
def readDocuments? (text : String) : Option (List Yaml) := do
  let tokens ← tokens? text
  (Reader.documents (3 * tokens.length + 3) false).run' { tokens }

end ExtractOptions.Yaml

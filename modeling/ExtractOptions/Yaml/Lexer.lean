/-
Module: ExtractOptions.Yaml.Lexer
Purpose: cutting a YAML text into tokens. Blocks start where a key or an item stands further right
  than the block around it, and end before the first token that stands further left. Whether a scalar
  is a key is known only when its colon is found: until then the place is kept in mind where the
  tokens of a key would go.
Main exports: Lexer, Lexer.step, tokens?
-/
import ExtractOptions.Yaml.Block
import ExtractOptions.Yaml.Property
import ExtractOptions.Yaml.Quoted

namespace ExtractOptions.Yaml

/-- A place at which a key may have started. -/
structure KeyPlace where
  /-- A colon may still follow. -/
  possible : Bool := false
  /-- A colon has to follow, because the place is in the column of the block around it. -/
  required : Bool := false
  /-- How many tokens come before the place. -/
  tokens : Nat := 0
  line : Nat := 0
  column : Nat := 0
deriving DecidableEq, Repr

/-- How many characters a key and the white space up to its colon may have at most. -/
def keyLength : Nat := 1024

/-- How many brackets may be open inside one another. -/
def deepestFlow : Nat := 255

/-- A column around the present one. -/
structure Margin where
  column : Int
  /-- The present column is that of a block, rather than the one to the right of a key. -/
  endsBlock : Bool
deriving DecidableEq, Repr

/-- A text in the course of being cut into tokens. -/
structure Lexer where
  cursor : Cursor
  /-- The tokens so far, the latest first. -/
  tokens : List Token := []
  /-- How many tokens there are so far. -/
  count : Nat := 0
  /-- The column that content must not stand left of. -/
  indent : Int := -1
  /-- The columns around that one, the innermost first. -/
  margins : List Margin := []
  /-- The latest place of a key outside brackets, and within each open pair of them, the innermost
  first. -/
  places : List KeyPlace := [{}]
  /-- A key may start here. -/
  keyAllowed : Bool := true
  /-- The line and column right after a value in quotes or brackets, where a colon needs no white
  space after it. -/
  adjacent : Option (Nat × Nat) := none
  /-- A mapping in braces, or a key that is written out within brackets, has been opened. -/
  inMapping : Bool := false
  /-- For each open list in brackets, the innermost first, whether an entry of a mapping without
  braces has been started in it. -/
  pairs : List Bool := []

namespace Lexer

/-- How many brackets are open. -/
def depth (s : Lexer) : Nat :=
  s.places.length - 1

/-- Brackets are open. -/
def inFlow (s : Lexer) : Bool :=
  s.depth != 0

/-- One token more. -/
def push (s : Lexer) (token : Token) : Lexer :=
  { s with tokens := token :: s.tokens, count := s.count + 1 }

/-- One token more, which comes after the first `place` tokens. -/
def insert (s : Lexer) (place : Nat) (token : Token) : Lexer :=
  { s with tokens := s.tokens.insertIdx (s.count - place) token, count := s.count + 1 }

/-- Go on at a place. Keys may start there if it is in another line and outside brackets. -/
def goTo (s : Lexer) (cursor : Cursor) : Lexer :=
  { s with
    cursor
    keyAllowed := s.keyAllowed || (!s.inFlow && cursor.line != s.cursor.line) }

/-- Go on at the next content. -/
def toContent? (s : Lexer) : Option Lexer :=
  (s.cursor.toContent? s.indent (s.cursor.rest.length + 1)).map s.goTo

/-! ## Blocks -/

/-- The columns and tokens after ending every block right of a column. -/
def closed (column : Int) : List Margin → Lexer → Lexer
  | [], s => s
  | margin :: margins, s =>
    if column < s.indent then
      let s := { s with indent := margin.column, margins }
      closed column margins (if margin.endsBlock then s.push .blockEnd else s)
    else s

/-- End every block right of a column. Within brackets columns end nothing. -/
def close (s : Lexer) (column : Int) : Lexer :=
  if s.inFlow then s else closed column s.margins s

/-- The present column is that of a block. -/
def atBlock (s : Lexer) : Bool :=
  s.margins.head?.any Margin.endsBlock

/-- Content from here on stands right of the block's column. -/
def shift (s : Lexer) : Lexer :=
  if !s.inFlow && s.atBlock then
    { s with indent := s.indent + 1, margins := ⟨s.indent, false⟩ :: s.margins }
  else s

/-- Content from here on may stand in the block's column again. -/
def unshift (s : Lexer) : Lexer :=
  match s.margins with
  | ⟨column, false⟩ :: margins => { s with indent := column, margins }
  | _ => s

/-- Start a block in a column unless it is the column of the present block. Its token comes after the
first `place` tokens. -/
def openBlock (s : Lexer) (column place : Nat) (token : Token) : Lexer :=
  if s.inFlow then s
  else
    let s := if s.indent ≤ column then s.unshift else s
    if s.indent < column then
      ({ s with indent := column, margins := ⟨s.indent, true⟩ :: s.margins }).insert place token
    else s

/-! ## Keys -/

/-- The latest place of a key. -/
def place (s : Lexer) : KeyPlace :=
  s.places.headD {}

/-- Change the latest place of a key. -/
def setPlace (s : Lexer) (place : KeyPlace) : Lexer :=
  { s with places := place :: s.places.tail }

/-- Keep in mind that a key may start here. -/
def markKey (s : Lexer) : Lexer :=
  if s.keyAllowed then
    s.setPlace
      { possible := true
        required := !s.inFlow && s.indent == s.cursor.column && s.atBlock
        tokens := s.count
        line := s.cursor.line
        column := s.cursor.column }
  else s

/-- No key has started at the latest place, unless one had to. -/
def dropKey? (s : Lexer) : Option Lexer :=
  if s.place.possible && s.place.required then none
  else some (s.setPlace { s.place with possible := false })

/-- Give up the place of a key when the line ends, or when it has become too long. Within brackets a
key may run over several lines. -/
def dropLateKey? (s : Lexer) : Option Lexer :=
  if !s.inFlow && s.place.possible &&
      (decide (s.place.line < s.cursor.line) ||
        decide (s.place.column + keyLength < s.cursor.column)) then
    s.dropKey?
  else some s

/-- Let keys start from here on, or not. -/
def allowKeys (s : Lexer) (allowed : Bool) : Lexer :=
  { s with keyAllowed := allowed }

/-! ## Tokens -/

/-- Take a token that may be part of a key and is read by `read`. -/
def takePart? (s : Lexer) (read : Cursor → Option (Token × Cursor)) : Option Lexer := do
  let (token, after) ← read s.cursor
  return { (s.markKey.allowKeys false).push token with cursor := after }

/-- Take an anchor, or an alias. -/
def takeAnchor? (s : Lexer) (token : String → Token) : Option Lexer :=
  s.takePart? fun cursor => (anchorName? cursor.next).map fun (name, after) => (token name, after)

/-- Take a plain scalar. If it ends with its line, a key may follow. -/
def takePlain? (s : Lexer) : Option Lexer := do
  let s := (s.markKey.allowKeys false).unshift
  let least := s.indent + 1
  if s.inFlow && decide ((s.cursor.column : Int) < least) then none
  let (text, after) ← plainScalar? s.inFlow least (s.cursor.rest.length + 1) {} s.cursor
  return { s.push (.scalar .plain (String.ofList text)) with
    cursor := after, keyAllowed := after.fresh }

/-- What may follow a scalar in quotes on its line. -/
def mayFollowQuotes (inFlow oneLine : Bool) (rest : List Char) : Bool :=
  endsLine rest ||
    match rest with
    | ':' :: _ => inFlow || oneLine
    | ',' :: _ | ']' :: _ | '\x7d' :: _ => inFlow
    | _ => false

/-- Take a scalar in quotes. -/
def takeQuoted? (s : Lexer) (quote : Char) : Option Lexer := do
  let (text, after) ← quotedScalar? quote s.indent s.cursor
  let after ← after.restOfLine?
  if !mayFollowQuotes s.inFlow (s.cursor.line == after.line) after.rest then none
  let s := { s.markKey.allowKeys false with cursor := after }
  let s ← s.toContent?
  return { s.push (.scalar .text (String.ofList text)) with
    adjacent := some (s.cursor.line, s.cursor.column) }

/-- Take a block scalar. A key may follow. -/
def takeBlock? (s : Lexer) (folded : Bool) : Option Lexer := do
  let s := (s.markKey.allowKeys true).unshift
  let (text, after) ← blockScalar? folded s.indent s.cursor
  return { s.push (.scalar .text (String.ofList text)) with cursor := after }

/-- Take the mark of an item of a list in block style. -/
def takeEntry? (s : Lexer) : Option Lexer := do
  if s.inFlow || !s.keyAllowed then none
  let column := s.cursor.column
  let gap := s.cursor.next.rest.takeWhile isGap
  let after ← s.cursor.next.restOfLine?
  if gap.contains '\t' && after.rest.head? = some '-' && endsWord (after.rest.drop 1) then none
  let s := { s.openBlock column s.count .blockListStart with cursor := after }
  let s := if after.rest.head? = some '\n' || startsFlowMark after.rest then s.shift else s
  let s ← s.dropKey?
  return (s.allowKeys true).push .blockEntry

/-- Take the mark of a key that is written out. -/
def takeKey? (s : Lexer) : Option Lexer := do
  if !s.inFlow && !s.keyAllowed then none
  let s :=
    if s.inFlow then { s with inMapping := true }
    else s.openBlock s.cursor.column s.count .blockMappingStart
  let s ← s.dropKey?
  let s := s.allowKeys (!s.inFlow)
  let after ← s.cursor.next.toWrittenKey? (s.cursor.rest.length + 1) false
  return (s.goTo after).push .key

/-- The place after the colon of a value. A tab there must not be the only white space before a
word. -/
def pastColon? (cursor : Cursor) : Option Cursor :=
  let after := cursor.next
  match after.rest with
  | '\t' :: _ => do
    let last ← after.restOfLine?
    let spaced := (after.rest.takeWhile isGap).contains ' '
    if !spaced && last.rest.head?.any isWordCharacter then none else return last
  | _ => some after

/-- Take the colon of a value. If the place of its key is known, the tokens of the key and of what it
opens go there. -/
def takeValue? (s : Lexer) : Option Lexer := do
  let place := s.place
  let start := s.cursor
  let pair := !s.pairs.isEmpty && !s.inMapping
  let after ← pastColon? start
  let s := { s with cursor := after, pairs := if pair then true :: s.pairs.tail else s.pairs }
  if place.possible then
    if pair && decide (place.line < start.line) then none
    let s := s.insert place.tokens .key
    let s := if pair then s.insert place.tokens .flowMappingStart else s
    let s := (s.openBlock place.column place.tokens .blockMappingStart).shift
    return ((s.setPlace { place with possible := false }).allowKeys false).push .value
  else
    let s := if pair then s.push .flowMappingStart else s
    if !s.inFlow && !s.keyAllowed then none
    let s := (s.openBlock start.column s.count .blockMappingStart).shift
    return (s.allowKeys (!s.inFlow)).push .value

/-- End the entry of a mapping without braces, if the innermost list in brackets has one. -/
def endPair (s : Lexer) : Lexer :=
  match s.pairs with
  | true :: pairs => { s with inMapping := false, pairs := false :: pairs }.push .flowMappingEnd
  | _ => s

/-- Go past a mark within brackets and the rest of its line, and add its token. -/
def takeMark? (s : Lexer) (token : Token) : Option Lexer := do
  let after ← s.cursor.next.restOfLine?
  return { s.push token with cursor := after }

/-- Take an opening bracket or brace. -/
def openFlow? (s : Lexer) (token : Token) : Option Lexer := do
  let s := s.markKey.shift
  if deepestFlow ≤ s.depth then none
  let s := { s with places := {} :: s.places }.allowKeys true
  let s :=
    if token = .flowMappingStart then { s with inMapping := true }
    else { s with pairs := false :: s.pairs }
  s.takeMark? token

/-- Take a closing bracket or brace. -/
def closeFlow? (s : Lexer) (token : Token) : Option Lexer := do
  let s ← s.dropKey?
  let s := if s.inFlow then { s with places := s.places.tail } else s
  let s := s.allowKeys false
  let s := if token = .flowListEnd then { s.endPair with pairs := s.pairs.tail } else s
  let s ← s.takeMark? token
  return if s.inFlow then { s with adjacent := some (s.cursor.line, s.cursor.column) } else s

/-- Take a comma within brackets. -/
def takeComma? (s : Lexer) : Option Lexer := do
  let s ← s.dropKey?
  (s.allowKeys true).endPair.takeMark? .flowEntry

/-- End all blocks, in front of a document mark or a directive. -/
def endBlocks? (s : Lexer) : Option Lexer := do
  let s ← (s.close (-1)).dropKey?
  return s.allowKeys false

/-- Take a directive. -/
def takeDirective? (s : Lexer) : Option Lexer := do
  let s ← s.endBlocks?
  let (token, after) ← directive? s.cursor
  return { s.push token with cursor := after }

/-- Take a document mark. -/
def takeDocumentMark? (s : Lexer) (token : Token) : Option Lexer := do
  let s ← s.endBlocks?
  return { s.push token with cursor := s.cursor.past 3 }

/-- Take the mark that ends a document. Nothing else stands on its line. -/
def takeDocumentEnd? (s : Lexer) : Option Lexer := do
  let s ← s.takeDocumentMark? .documentEnd
  let after ← s.cursor.restOfLine?
  if endsLine after.rest then return { s with cursor := after } else none

/-- A colon here ends a key, judged by what follows it. -/
def endsKey (s : Lexer) (following : List Char) : Bool :=
  endsWord following ||
    (s.inFlow && (startsFlowMark following || s.adjacent = some (s.cursor.line, s.cursor.column)))

/-- Take the token that starts with the given character. -/
def takeToken? (s : Lexer) (c : Char) (following : List Char) : Option Lexer :=
  match c with
  | '[' => s.openFlow? .flowListStart
  | ']' => s.closeFlow? .flowListEnd
  | '\x7b' => s.openFlow? .flowMappingStart
  | '\x7d' => s.closeFlow? .flowMappingEnd
  | ',' => s.takeComma?
  | '-' => if endsWord following then s.takeEntry? else s.takePlain?
  | '?' => if endsWord following then s.takeKey? else s.takePlain?
  | ':' => if s.endsKey following then s.takeValue? else s.takePlain?
  | '*' => s.takeAnchor? .alias
  | '&' => s.takeAnchor? .anchor
  | '!' => s.takePart? (tag? s.inFlow)
  | '|' => if s.inFlow then s.takePlain? else s.takeBlock? false
  | '>' => if s.inFlow then s.takePlain? else s.takeBlock? true
  | '\'' => s.takeQuoted? '\''
  | '"' => s.takeQuoted? '"'
  | '%' => none
  | '@' => none
  | '\x60' => none
  | _ => s.takePlain?

/-- Go on at the next content, ending the blocks right of it. -/
def approach? (s : Lexer) : Option Lexer := do
  let s ← s.toContent?
  let s ← s.dropLateKey?
  return s.close s.cursor.column

/-- Take one token, if the text has one left. -/
def step (s : Lexer) : Option Lexer :=
  match s.cursor.rest with
  | [] => some s
  | c :: following =>
    if s.cursor.column = 0 ∧ c = '%' then s.takeDirective?
    else if s.cursor.atMark '-' then s.takeDocumentMark? .documentStart
    else if s.cursor.atMark '.' then s.takeDocumentEnd?
    else if (s.cursor.column : Int) < s.indent then none
    else s.takeToken? c following

/-- The end of the text. No key may be owed, and all blocks end. -/
def finish? (s : Lexer) : Option (List Token) :=
  if s.places.any fun place => place.possible && place.required then none
  else some (s.close (-1)).tokens.reverse

/-- Take the tokens up to the end of the text. -/
def run? : (fuel : Nat) → Lexer → Option (List Token)
  | 0, _ => none
  | fuel + 1, s => do
    let s ← s.approach?
    if s.cursor.rest.isEmpty then s.finish? else run? fuel (← s.step)

end Lexer

/-- The text with every line break as one newline. -/
def unifyBreaks : List Char → List Char
  | [] => []
  | '\r' :: '\n' :: cs => '\n' :: unifyBreaks cs
  | '\r' :: cs => '\n' :: unifyBreaks cs
  | c :: cs => c :: unifyBreaks cs

/-- The tokens of a text, which ends before its first null character. -/
def tokens? (text : String) : Option (List Token) :=
  let cs := unifyBreaks (text.toList.takeWhile (· != '\x00'))
  Lexer.run? (cs.length + 1) { cursor := { rest := cs } }

end ExtractOptions.Yaml

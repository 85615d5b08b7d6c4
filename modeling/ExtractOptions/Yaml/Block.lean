/-
Module: ExtractOptions.Yaml.Block
Purpose: block scalars, texts that are set off by their indentation. A literal one keeps its line
  breaks; in a folded one a break between two lines of text is read as a space. The header may tell
  how deep the text is indented and what becomes of the line breaks at its end.
Main exports: Chomping, BlockHeader, blockScalar?
-/
import ExtractOptions.Yaml.Cursor

namespace ExtractOptions.Yaml

/-- What becomes of the line breaks at the end of a block scalar. -/
inductive Chomping where
  /-- All are dropped. -/
  | strip
  /-- One is kept. -/
  | clip
  /-- All are kept. -/
  | keep
deriving DecidableEq, Repr

/-- What the header of a block scalar says after its mark. -/
structure BlockHeader where
  chomping : Chomping := .clip
  /-- How much deeper the text is indented than the block around it, if the header tells. -/
  increment : Option Nat := none
deriving DecidableEq, Repr

/-- What a sign in a header says. -/
def Chomping.ofSign? : Char → Option Chomping
  | '-' => some .strip
  | '+' => some .keep
  | _ => none

/-- A header, and the place after it. The sign and the digit may stand in either order; the digit is
not zero. -/
def blockHeader? (cursor : Cursor) : Option (BlockHeader × Cursor) :=
  let digit (c : Char) : Nat := c.toNat - '0'.toNat
  match cursor.rest with
  | a :: rest =>
    match Chomping.ofSign? a with
    | some chomping =>
      match rest with
      | b :: _ =>
        if b == '0' then none
        else if b.isDigit then some (⟨chomping, some (digit b)⟩, cursor.past 2)
        else some (⟨chomping, none⟩, cursor.next)
      | [] => some (⟨chomping, none⟩, cursor.next)
    | none =>
      if a == '0' then none
      else if a.isDigit then
        match rest.head?.bind Chomping.ofSign? with
        | some chomping => some (⟨chomping, some (digit a)⟩, cursor.past 2)
        | none => some (⟨.clip, some (digit a)⟩, cursor.next)
      else some ({}, cursor)
  | [] => some ({}, cursor)

/-- Past lines that hold spaces only. The answer counts them, and gives the largest column at which
one of them or the line after them had its spaces end. -/
def leadingLines : (fuel : Nat) → (empties widest : Nat) → Cursor → Nat × Nat × Cursor
  | 0, empties, widest, cursor => (empties, widest, cursor)
  | fuel + 1, empties, widest, cursor =>
    let cursor := cursor.pastSpaces cursor.rest.length
    let widest := max widest cursor.column
    match cursor.rest with
    | '\n' :: _ => leadingLines fuel (empties + 1) widest cursor.pastBreak
    | _ => (empties, widest, cursor)

/-- Past the indentation up to the column `depth`, and past lines that hold no more than that. The
answer counts those lines. -/
def indentation (depth : Nat) : (fuel : Nat) → (empties : Nat) → Cursor → Nat × Cursor
  | 0, empties, cursor => (empties, cursor)
  | fuel + 1, empties, cursor =>
    let cursor := cursor.pastSpaces (depth - cursor.column)
    match cursor.rest with
    | '\n' :: _ => indentation depth fuel (empties + 1) cursor.pastBreak
    | _ => (empties, cursor)

/-- What the lines read so far of a block scalar amount to. -/
structure BlockText where
  text : List Char := []
  /-- The last line with text has ended with a line break. -/
  ended : Bool := false
  /-- The empty lines since then. -/
  empties : Nat := 0
  /-- The last line with text starts with a gap. -/
  indented : Bool := false
deriving DecidableEq, Repr

namespace BlockText

/-- The breaks between the last line and a further one. Lines that are indented deeper keep theirs
in a folded text as well. -/
def breaks (folded : Bool) (block : BlockText) (indented : Bool) : List Char :=
  if folded && block.ended && !block.indented && !indented then
    if block.empties = 0 then [' '] else List.replicate block.empties '\n'
  else List.replicate (block.ended.toNat + block.empties) '\n'

/-- The text with one line more. -/
def addLine (folded : Bool) (block : BlockText) (line : List Char) (ended : Bool) : BlockText :=
  let indented := line.head?.any isGap
  { text := block.text ++ block.breaks folded indented ++ line
    ended
    empties := 0
    indented }

end BlockText

/-- The lines of a block scalar that is indented to the column `depth`. -/
def blockLines (folded : Bool) (depth : Nat) :
    (fuel : Nat) → BlockText → Cursor → BlockText × Cursor
  | 0, block, cursor => (block, cursor)
  | fuel + 1, block, cursor =>
    if cursor.column ≠ depth ∨ cursor.rest.isEmpty ∨ (depth = 0 ∧ cursor.atMark '.') then
      (block, cursor)
    else
      let line := cursor.rest.takeWhile (· != '\n')
      let after := cursor.pastGaps line.length
      if after.rest.isEmpty then (block.addLine folded line false, after)
      else
        let (empties, after) := indentation depth (after.rest.length + 1) 0 after.pastBreak
        blockLines folded depth fuel { block.addLine folded line true with empties } after

/-- The text of a block scalar that nothing follows the header of. -/
def blankBlock (chomping : Chomping) (empties : Nat) (hasBreak : Bool) : List Char :=
  match chomping with
  | .strip => []
  | .clip => List.replicate hasBreak.toNat '\n'
  | .keep => List.replicate (if empties = 0 then hasBreak.toNat else empties) '\n'

/-- A block scalar and the place after it. `outer` is the column of the block around it. A text that
ends within its last line has that line ended. -/
def blockScalar? (folded : Bool) (outer : Int) (cursor : Cursor) :
    Option (List Char × Cursor) := do
  let (header, after) ← blockHeader? cursor.next
  let after ← after.restOfLine?
  if !endsLine after.rest then none
  let start := if after.rest.isEmpty then after else after.pastBreak
  if start.rest.head? = some '\t' then none
  let fuel := start.rest.length + 1
  let (depth, empties, first) :=
    match header.increment with
    | some increment =>
      let depth := (max outer 0).toNat + increment
      let (empties, first) := indentation depth fuel 0 start
      (depth, empties, first)
    | none =>
      let (empties, widest, first) := leadingLines fuel 0 0 start
      (max widest (outer + 1).toNat, empties, first)
  if first.rest.isEmpty then
    return (blankBlock header.chomping empties (first.line != cursor.line), first)
  if first.column < depth ∧ outer < first.column then none
  let (block, last) := blockLines folded depth fuel { empties } first
  let atEnd := last.rest.isEmpty && decide (max depth 1 ≤ last.column)
  let tail :=
    match header.chomping with
    | .strip => []
    | .clip => List.replicate (block.ended.toNat + atEnd.toNat) '\n'
    | .keep => List.replicate (block.ended.toNat + atEnd.toNat + block.empties) '\n'
  return (block.text ++ tail, last)

end ExtractOptions.Yaml

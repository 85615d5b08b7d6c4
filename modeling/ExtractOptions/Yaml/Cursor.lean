/-
Module: ExtractOptions.Yaml.Cursor
Purpose: a place in a YAML text. Lines and columns are counted from zero, and a cursor knows whether
  only gaps stand before it in its line, because a tab there may pass for indentation.
Main exports: Cursor, Cursor.next, Cursor.restOfLine?, Cursor.toContent?, Cursor.atMark
-/
import ExtractOptions.Yaml.Character

namespace ExtractOptions.Yaml

/-- A place in a text. -/
structure Cursor where
  /-- The text from here on. -/
  rest : List Char
  line : Nat := 0
  column : Nat := 0
  /-- Only gaps stand before this place in its line. -/
  fresh : Bool := true
deriving DecidableEq, Repr

namespace Cursor

/-- Past some characters that are neither gaps nor line breaks. -/
def past (count : Nat) (cursor : Cursor) : Cursor :=
  if count = 0 then cursor
  else
    { cursor with
      rest := cursor.rest.drop count
      column := cursor.column + count
      fresh := false }

/-- Past one character that is neither a gap nor a line break. -/
def next (cursor : Cursor) : Cursor :=
  cursor.past 1

/-- Past some gaps. -/
def pastGaps (count : Nat) (cursor : Cursor) : Cursor :=
  { cursor with rest := cursor.rest.drop count, column := cursor.column + count }

/-- Past a line break. -/
def pastBreak (cursor : Cursor) : Cursor :=
  { rest := cursor.rest.drop 1, line := cursor.line + 1, column := 0, fresh := true }

/-- Past the characters in front that satisfy `p`, none of which is a gap or a line break. -/
def pastWhile (p : Char → Bool) (cursor : Cursor) : Cursor :=
  cursor.past (cursor.rest.takeWhile p).length

/-- Past the gaps in front. -/
def pastGap (cursor : Cursor) : Cursor :=
  cursor.pastGaps (cursor.rest.takeWhile isGap).length

/-- Past the spaces in front, but no more of them than `most`. -/
def pastSpaces (most : Nat) (cursor : Cursor) : Cursor :=
  cursor.pastGaps (min most (cursor.rest.takeWhile (· == ' ')).length)

/-- At the end of the line. -/
def toLineEnd (cursor : Cursor) : Cursor :=
  cursor.pastWhile (· != '\n')

/-- A document mark made of the given character stands here, in the first column. -/
def atMark (mark : Char) (cursor : Cursor) : Bool :=
  cursor.column == 0 &&
    match cursor.rest with
    | a :: b :: c :: rest => a == mark && b == mark && c == mark && endsWord rest
    | _ => false

/-- A document begins or ends here. -/
def atDocumentMark (cursor : Cursor) : Bool :=
  cursor.atMark '-' || cursor.atMark '.'

/-- Past the gap and the comment that may follow a token on its line. A comment must be set off by a
gap. -/
def restOfLine? (cursor : Cursor) : Option Cursor :=
  let after := cursor.pastGap
  match after.rest with
  | '#' :: _ => if cursor.rest.head? = some '#' then none else some after.toLineEnd
  | _ => some after

/-- At the next character that is neither white space nor part of a comment. A tab left of the
column `least` must have nothing after it on its line but a comment. -/
def toContent? (least : Int) : (fuel : Nat) → Cursor → Option Cursor
  | 0, cursor => some cursor
  | fuel + 1, cursor =>
    match cursor.rest with
    | '\n' :: _ => toContent? least fuel cursor.pastBreak
    | '#' :: _ => toContent? least fuel cursor.toLineEnd
    | ' ' :: _ => toContent? least fuel (cursor.pastGaps 1)
    | '\t' :: _ =>
      if cursor.fresh && cursor.column < least then
        match cursor.restOfLine? with
        | some after => if endsLine after.rest then toContent? least fuel after else none
        | none => none
      else toContent? least fuel (cursor.pastGaps 1)
    | _ => some cursor

/-- At what follows the mark of a key that is written out: spaces, line breaks and comments are
passed, and there must be a space or a line break among them. -/
def toWrittenKey? : (fuel : Nat) → (spaced : Bool) → Cursor → Option Cursor
  | 0, _, _ => none
  | fuel + 1, spaced, cursor =>
    match cursor.rest with
    | '\n' :: _ => toWrittenKey? fuel true cursor.pastBreak
    | '#' :: _ => toWrittenKey? fuel spaced cursor.toLineEnd
    | ' ' :: _ => toWrittenKey? fuel true (cursor.pastGaps 1)
    | '\t' :: _ => none
    | _ => if spaced then some cursor else none

end Cursor

end ExtractOptions.Yaml

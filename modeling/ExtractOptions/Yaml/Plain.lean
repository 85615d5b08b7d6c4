/-
Module: ExtractOptions.Yaml.Plain
Purpose: scalars without quotes. They may run over several lines, each of which is indented deeper
  than the block around it. White space between two words is kept within a line; a line break is
  read as a space, and of several line breaks the first one is dropped.
Main exports: Pause, Pause.text, continuesPlain, plainScalar?
-/
import ExtractOptions.Yaml.Cursor

namespace ExtractOptions.Yaml

/-- The white space between two words of a scalar. -/
structure Pause where
  /-- The gaps since the last word, if no line break has come since. -/
  gaps : List Char := []
  /-- The line breaks that end a line with a word in it. -/
  ends : Nat := 0
  /-- The line breaks that end an empty line. -/
  empties : Nat := 0
deriving DecidableEq, Repr

namespace Pause

/-- What a pause stands for. -/
def text (pause : Pause) (broken : Bool) : List Char :=
  if broken then
    if pause.ends = 0 ∨ pause.empties ≠ 0 then List.replicate pause.empties '\n' else [' ']
  else pause.gaps

/-- One gap more. -/
def addGap (pause : Pause) (c : Char) : Pause :=
  { pause with gaps := pause.gaps ++ [c] }

/-- One line break more. -/
def addBreak (pause : Pause) (afterBreak : Bool) : Pause :=
  if afterBreak then { pause with empties := pause.empties + 1 }
  else { pause with gaps := [], ends := pause.ends + 1 }

end Pause

/-- A character of a plain scalar that is no white space, judged by what follows it. -/
def continuesPlain (inFlow : Bool) (c : Char) (following : List Char) : Bool :=
  !(c == ':' && (endsWord following || (inFlow && startsFlowMark following))) &&
    !(inFlow && isFlowMark c)

/-- The word of a plain scalar that the text starts with. -/
def plainWord (inFlow : Bool) : List Char → List Char
  | [] => []
  | c :: rest =>
    if !isSpacing c && continuesPlain inFlow c rest then c :: plainWord inFlow rest else []

/-- The white space after a word. A tab left of the column `least` must have nothing after it on its
line but a comment. -/
def plainPause? (least : Int) : (fuel : Nat) → Pause → Cursor → Option (Pause × Cursor)
  | 0, _, _ => none
  | fuel + 1, pause, cursor =>
    match cursor.rest with
    | '\n' :: _ => plainPause? least fuel (pause.addBreak cursor.fresh) cursor.pastBreak
    | c :: _ =>
      if !isGap c then some (pause, cursor)
      else if !cursor.fresh then plainPause? least fuel (pause.addGap c) (cursor.pastGaps 1)
      else if c == '\t' && cursor.column < least then
        match cursor.restOfLine? with
        | some after => if endsLine after.rest then plainPause? least fuel pause after else none
        | none => none
      else plainPause? least fuel pause (cursor.pastGaps 1)
    | [] => some (pause, cursor)

/-- A plain scalar and the place after it. Outside brackets its further lines start at the column
`least` or to the right of it. -/
def plainScalar? (inFlow : Bool) (least : Int) :
    (fuel : Nat) → Pause → Cursor → Option (List Char × Cursor)
  | 0, _, _ => none
  | fuel + 1, pause, cursor =>
    if cursor.atDocumentMark || cursor.rest.head? = some '#' then some ([], cursor)
    else if inFlow && cursor.rest.head? = some '-' && startsFlowMark (cursor.rest.drop 1) then none
    else
      let word := plainWord inFlow cursor.rest
      let said := if word.isEmpty then [] else pause.text cursor.fresh ++ word
      let pause := if word.isEmpty then pause else {}
      let after := cursor.past word.length
      if after.rest.head?.any isSpacing then do
        let (pause, after) ← plainPause? least (after.rest.length + 1) pause after
        if !inFlow && after.column < least then return (said, after)
        let (more, last) ← plainScalar? inFlow least fuel pause after
        return (said ++ more, last)
      else some (said, after)

end ExtractOptions.Yaml

/-
Module: ExtractOptions.Yaml.Quoted
Purpose: scalars in quotes. In single quotes a quote is written twice and all else stands for itself;
  in double quotes a backslash spells characters, and at the end of a line it joins the line to the
  next one. Line breaks are otherwise read as in plain scalars.
Main exports: escaped?, quotedScalar?
-/
import ExtractOptions.Text.Numeral
import ExtractOptions.Yaml.Plain

namespace ExtractOptions.Yaml

open Text

/-- The character that a letter stands for after a backslash. -/
def escaped? : Char → Option Char
  | '0' => some '\x00'
  | 'a' => some '\x07'
  | 'b' => some '\x08'
  | 't' => some '\t'
  | '\t' => some '\t'
  | 'n' => some '\n'
  | 'v' => some '\x0b'
  | 'f' => some '\x0c'
  | 'r' => some '\r'
  | 'e' => some '\x1b'
  | ' ' => some ' '
  | '"' => some '"'
  | '/' => some '/'
  | '\\' => some '\\'
  | 'N' => some '\u0085'
  | '_' => some '\u00a0'
  | 'L' => some '\u2028'
  | 'P' => some '\u2029'
  | _ => none

/-- How many hexadecimal digits follow a letter after a backslash. -/
def codeLength? : Char → Option Nat
  | 'x' => some 2
  | 'u' => some 4
  | 'U' => some 8
  | _ => none

/-- The character that a text after a backslash spells, and how many characters spell it. -/
def escape? : List Char → Option (Char × Nat)
  | [] => none
  | c :: rest =>
    match escaped? c, codeLength? c with
    | some d, _ => some (d, 1)
    | none, some n => do
      let digits := rest.take n
      let code ← Numeral.hexadecimal? digits
      if digits.length < n ∨ ¬ code.isValidChar then none else return (Char.ofNat code, n + 1)
    | none, none => none

/-- The characters up to the next white space or to the closing quote. The answer tells as well
whether a backslash has joined the line to the next one. -/
def quotedWord? (quote : Char) : (fuel : Nat) → Cursor → Option (List Char × Bool × Cursor)
  | 0, _ => none
  | fuel + 1, cursor =>
    match cursor.rest with
    | [] => some ([], false, cursor)
    | c :: rest =>
      if isSpacing c then some ([], false, cursor)
      else if c == quote then
        if quote == '\'' && rest.head? = some '\'' then do
          let (more, last) ← quotedWord? quote fuel (cursor.past 2)
          return ('\'' :: more, last)
        else some ([], false, cursor)
      else if c == '\\' && quote == '"' then
        if rest.head? = some '\n' then some ([], true, cursor.next.pastBreak)
        else do
          let (d, length) ← escape? rest
          let (more, last) ← quotedWord? quote fuel (cursor.past (length + 1))
          return (d :: more, last)
      else do
        let (more, last) ← quotedWord? quote fuel cursor.next
        return (c :: more, last)

/-- The white space after a word in quotes. On a further line no tab may stand left of the column
`least`. -/
def quotedPause? (least : Int) :
    (fuel : Nat) → (broken : Bool) → Pause → Cursor → Option (Bool × Pause × Cursor)
  | 0, _, _, _ => none
  | fuel + 1, broken, pause, cursor =>
    match cursor.rest with
    | '\n' :: _ => quotedPause? least fuel true (pause.addBreak broken) cursor.pastBreak
    | c :: _ =>
      if !isGap c then some (broken, pause, cursor)
      else if !broken then quotedPause? least fuel false (pause.addGap c) (cursor.pastGaps 1)
      else if c == '\t' && cursor.column < least then none
      else quotedPause? least fuel true pause (cursor.pastGaps 1)
    | [] => some (broken, pause, cursor)

/-- The rest of a scalar in quotes, and the place after the closing quote. Its further lines start at
the column `least` or to the right of it. -/
def quotedRest? (quote : Char) (least : Int) : (fuel : Nat) → Cursor → Option (List Char × Cursor)
  | 0, _ => none
  | fuel + 1, cursor =>
    if cursor.atDocumentMark || cursor.rest.isEmpty || cursor.column < least then none
    else do
      let (word, joined, after) ← quotedWord? quote (cursor.rest.length + 1) cursor
      if after.rest.head? = some quote then return (word, after.next)
      let (broken, pause, after) ← quotedPause? least (after.rest.length + 1) joined {} after
      let (more, last) ← quotedRest? quote least fuel after
      return (word ++ pause.text broken ++ more, last)

/-- A scalar in quotes and the place after it. -/
def quotedScalar? (quote : Char) (least : Int) (cursor : Cursor) : Option (List Char × Cursor) :=
  quotedRest? quote least (cursor.rest.length + 1) cursor.next

end ExtractOptions.Yaml

/-
Module: ExtractOptions.Yaml.Property
Purpose: what is said about a value apart from the value: anchors, which name it, aliases, which stand
  for a named one, and tags, which tell its kind. A tag is a handle and a suffix, or a whole resource
  name in angle brackets. Directives in front of a document give handles their meaning.
Main exports: anchorName?, tag?, directive?
-/
import ExtractOptions.Text.Numeral
import ExtractOptions.Yaml.Cursor
import ExtractOptions.Yaml.Token

namespace ExtractOptions.Yaml

open Text

/-- The name of an anchor or alias, after its mark. -/
def anchorName? (cursor : Cursor) : Option (String × Cursor) :=
  let name := cursor.rest.takeWhile isAnchorCharacter
  if name.isEmpty then none else some (String.ofList name, cursor.past name.length)

/-- How many bytes a character takes whose first byte is given. -/
def byteCount? (byte : Nat) : Option Nat :=
  if byte < 0x80 then some 1
  else if 0xC0 ≤ byte ∧ byte < 0xE0 then some 2
  else if 0xE0 ≤ byte ∧ byte < 0xF0 then some 3
  else if 0xF0 ≤ byte ∧ byte < 0xF8 then some 4
  else none

/-- The number that two hexadecimal digits after a percent sign spell. -/
def percentByte? : List Char → Option Nat
  | '%' :: a :: b :: _ => Numeral.hexadecimal? [a, b]
  | _ => none

/-- The number that the further bytes of a character make of the first ones. -/
def percentBytes? : (count : Nat) → (code : Nat) → List Char → Option Nat
  | 0, code, _ => some code
  | count + 1, code, cs => do
    let byte ← percentByte? cs
    if 0x80 ≤ byte ∧ byte < 0xC0 then percentBytes? count (256 * code + byte) (cs.drop 3) else none

/-- The character that is spelled by percent signs, and how many characters spell it. Only a single
byte spells its own character; the bytes of a longer one are taken together as they are. -/
def percentCharacter? (cs : List Char) : Option (Char × Nat) := do
  let byte ← percentByte? cs
  let count ← byteCount? byte
  let code ← percentBytes? (count - 1) byte (cs.drop 3)
  if code.isValidChar then return (Char.ofNat code, 3 * count) else none

/-- The characters of a resource name that satisfy `p`, and the place after them. -/
def resourceName? (p : Char → Bool) : (fuel : Nat) → Cursor → Option (List Char × Cursor)
  | 0, _ => none
  | fuel + 1, cursor =>
    match cursor.rest with
    | c :: _ =>
      if !p c then some ([], cursor)
      else if c == '%' then do
        let (d, length) ← percentCharacter? cursor.rest
        let (more, last) ← resourceName? p fuel (cursor.past length)
        return (d :: more, last)
      else do
        let (more, last) ← resourceName? p fuel cursor.next
        return (c :: more, last)
    | [] => some ([], cursor)

/-- The handle that a tag starts with. It is an exclamation mark, a word, and possibly another
exclamation mark; without the latter the word belongs to the suffix. -/
def handle? (cursor : Cursor) : Option (List Char × Cursor) :=
  match cursor.rest with
  | '!' :: rest =>
    let word := rest.takeWhile isWordCharacter
    match rest.drop word.length with
    | '!' :: _ => some ('!' :: word ++ ['!'], cursor.past (word.length + 2))
    | _ => some ('!' :: word, cursor.past (word.length + 1))
  | _ => none

/-- The text is a handle with an exclamation mark at both of its ends. -/
def isNamedHandle (handle : String) : Bool :=
  decide (2 ≤ handle.length) && handle.toList.head? = some '!' && handle.toList.getLast? = some '!'

/-- A tag between `!<` and `>`. It has no handle. -/
def verbatimTag? (cursor : Cursor) : Option (Token × Cursor) := do
  let (suffix, after) ← resourceName? isUriCharacter (cursor.rest.length + 1) (cursor.past 2)
  if after.rest.head? = some '>' then return (.tag "" (String.ofList suffix), after.next) else none

/-- A tag with a handle. -/
def shortTag? (cursor : Cursor) : Option (Token × Cursor) := do
  let (handle, after) ← handle? cursor
  let (suffix, last) ← resourceName? isTagCharacter (after.rest.length + 1) after
  if isNamedHandle (String.ofList handle) then
    if suffix.isEmpty then none
    else return (.tag (String.ofList handle) (String.ofList suffix), last)
  else
    let suffix := handle.drop 1 ++ suffix
    if suffix.isEmpty then return (.tag "" "!", last)
    else return (.tag "!" (String.ofList suffix), last)

/-- A tag and the place after it. White space follows, or within brackets a mark. -/
def tag? (inFlow : Bool) (cursor : Cursor) : Option (Token × Cursor) := do
  let (tag, after) ←
    if (cursor.rest.drop 1).head? = some '<' then verbatimTag? cursor else shortTag? cursor
  if endsWord after.rest || (inFlow && startsFlowMark after.rest) then return (tag, after) else none

/-- A part of a version: up to nine digits. -/
def versionPart? (cursor : Cursor) : Option Cursor :=
  let digits := cursor.rest.takeWhile Char.isDigit
  if digits.isEmpty ∨ 9 < digits.length then none else some (cursor.past digits.length)

/-- The rest of a directive that gives the version of the language. -/
def versionDirective? (cursor : Cursor) : Option (Token × Cursor) := do
  let after ← versionPart? cursor.pastGap
  if after.rest.head? = some '.' then
    return (.versionDirective, ← versionPart? after.next)
  else none

/-- What a handle stands for. -/
def expansion? (cursor : Cursor) : Option (List Char × Cursor) :=
  let fuel := cursor.rest.length + 1
  match cursor.rest with
  | '!' :: _ => do
    let (more, last) ← resourceName? isUriCharacter fuel cursor.next
    return ('!' :: more, last)
  | c :: _ => if isTagCharacter c then resourceName? isUriCharacter fuel cursor else none
  | [] => none

/-- The rest of a directive that tells what a handle stands for. -/
def tagDirective? (cursor : Cursor) : Option (Token × Cursor) := do
  let (handle, after) ← handle? cursor.pastGap
  let named := String.ofList handle
  if handle ≠ ['!'] ∧ ¬ isNamedHandle named then none
  let (expansion, last) ← expansion? after.pastGap
  if endsWord last.rest then return (.tagDirective named (String.ofList expansion), last) else none

/-- A directive, from its mark to the next line. -/
def directive? (cursor : Cursor) : Option (Token × Cursor) := do
  let name := cursor.next.rest.takeWhile isWordCharacter
  let after := cursor.next.past name.length
  if name.isEmpty ∨ ¬ endsWord after.rest then none
  let (token, after) ←
    match String.ofList name with
    | "YAML" => versionDirective? after
    | "TAG" => tagDirective? after
    | _ => some (.tagDirective "" "", after.toLineEnd)
  let after ← after.restOfLine?
  if endsLine after.rest then
    return (token, if after.rest.isEmpty then after else after.pastBreak)
  else none

end ExtractOptions.Yaml

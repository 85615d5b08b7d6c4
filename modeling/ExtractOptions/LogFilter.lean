/-
Module: ExtractOptions.LogFilter
Purpose: which log filters are accepted. A filter is a list of directives between commas. A
  directive is a level, or a target with an optional span in brackets and an optional level after
  `=`. A field of the span may have a value: a number, or a pattern. White space may stand around a
  directive, but not around one that has a level.
Main exports: acceptsLogFilter
-/
import ExtractOptions.Decimal.Binary64
import ExtractOptions.LogFilter.Pattern
import ExtractOptions.Text.Utf8

namespace ExtractOptions

open Text

/-- The names of the levels. -/
def levelNames : List String :=
  ["off", "error", "warn", "info", "debug", "trace"]

/-- A level after `=`: nothing for the finest one, a number from zero to five, or a name in any
letter case. -/
def isLevel (cs : List Char) : Bool :=
  cs.isEmpty ||
    ((Numeral.unsigned? Numeral.max64 cs).any fun n => decide (n ≤ 5)) ||
    levelNames.contains (String.ofList cs).toLower

/-- A value of a span field: a number, or a pattern. -/
def isFieldValue (cs : List Char) : Bool :=
  (Numeral.unsigned? Numeral.max64 cs).isSome || (Numeral.signed64? cs).isSome ||
    (Binary64.parse? cs).isSome || isPattern cs

/-- A field of a span: a name, and possibly a value after `=`. What follows another `=` does not
count. -/
def isField (cs : List Char) : Bool :=
  match pieces '=' cs with
  | _ :: value :: _ => isFieldValue value
  | _ => true

/-- The parts of a directive. -/
inductive FilterPart where
  | target
  | span
  /-- A field of a span, which starts at a byte. -/
  | field (start : Nat)
  | afterFields
  | afterSpan
deriving DecidableEq, Repr

/-- The rest of a directive is well formed. The bytes before it are counted without white space at
its ends; a level or a field is taken out of the bytes as given, so white space in front of the
directive shifts it. -/
def acceptsRest (given : List UInt8) : FilterPart → (offset : Nat) → List Char → Bool
  | .target, _, [] | .afterSpan, _, [] => true
  | .target, offset, '=' :: _ | .afterSpan, offset, '=' :: _ =>
    isLevel (Utf8.decodeLossy (given.drop (offset + 1))).toList
  | .target, offset, '[' :: rest => acceptsRest given .span (offset + 1) rest
  | .target, offset, c :: rest => acceptsRest given .target (offset + c.utf8Size) rest
  | .span, offset, ']' :: rest | .afterFields, offset, ']' :: rest =>
    acceptsRest given .afterSpan (offset + 1) rest
  | .span, offset, '\x7b' :: rest => acceptsRest given (.field (offset + 1)) (offset + 1) rest
  | .span, offset, c :: rest => acceptsRest given .span (offset + c.utf8Size) rest
  | .field start, offset, '\x7d' :: rest =>
    decide (start < offset) &&
      isField (Utf8.decodeLossy ((given.drop start).take (offset - start))).toList &&
      acceptsRest given .afterFields (offset + 1) rest
  | .field start, offset, c :: rest =>
    acceptsRest given (.field start) (offset + c.utf8Size) rest
  | _, _, _ => false

/-- A directive is well formed. -/
def acceptsDirective (directive : List Char) : Bool :=
  let given := Utf8.encode (String.ofList directive)
  match trimChars directive with
  | [] => false
  | '[' :: rest => acceptsRest given .span 1 rest
  | c :: rest =>
    (c == '-' || c == ':' || c == '_' || isAlphanumeric c) &&
      acceptsRest given .target c.utf8Size rest

/-- A log filter is well formed. -/
def acceptsLogFilter (filter : String) : Bool :=
  (pieces ',' filter.toList).all fun directive => directive.isEmpty || acceptsDirective directive

end ExtractOptions

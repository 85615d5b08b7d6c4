/-
Module: ExtractOptions.Yaml.Writer
Purpose: texts written as YAML values, each at the end of its line. A text of several lines is written
  as a literal block; any other stands plain if it then reads back as a text, and else in single
  quotes. What neither form can hold, such as a control character, is spelled in double quotes.
Main exports: readsAsOther, standsPlain, WrittenStyle, writtenStyle, writeText
-/
import ExtractOptions.Decimal.Binary64
import ExtractOptions.Yaml.Node

namespace ExtractOptions.Yaml

open Text

/-! ## What a plain text would be read as -/

/-- The words that are read as null or as a truth value. -/
def reservedWords : List String :=
  ["~", "null", "Null", "NULL", "true", "True", "TRUE", "false", "False", "FALSE"]

/-- A run of digits of a base that spells a number of at most `most`. -/
def isNumeralOf (base most : Nat) (ds : List Char) : Bool :=
  match ds.mapM Numeral.hexValue? with
  | some values =>
    !ds.isEmpty && values.all (· < base) && decide (Numeral.ofValues base values ≤ most)
  | none => false

/-- A whole number of at most `most`, in base ten or with a mark for another base. -/
def isMagnitude (most : Nat) : List Char → Bool
  | '0' :: 'x' :: ds => isNumeralOf 16 most ds
  | '0' :: 'o' :: ds => isNumeralOf 8 most ds
  | '0' :: 'b' :: ds => isNumeralOf 2 most ds
  | ds => isNumeralOf 10 most ds

/-- A whole number of 128 bits, with an optional sign. -/
def isWholeNumber : List Char → Bool
  | '-' :: ds => isMagnitude (Nat.pow 2 127) ds
  | '+' :: ds => isMagnitude (Nat.pow 2 128 - 1) ds
  | ds => isMagnitude (Nat.pow 2 128 - 1) ds

/-- A numeral whose value is neither infinite nor beyond the range of numbers. -/
def isFinite (cs : List Char) : Bool :=
  match Binary64.parse? cs with
  | some (.finite ..) => true
  | _ => false

/-- A decimal numeral, or a word for infinity or for what is no number. -/
def isFractional (cs : List Char) : Bool :=
  Scalar.isPointWord cs ||
    match cs with
    | '+' :: ds => ds.head? != some '+' && ds.head? != some '-' && isFinite ds
    | ds => isFinite ds

/-- Digits of any length with a zero in front of them, which some readers take for octal. -/
def isPadded (cs : List Char) : Bool :=
  let ds := match cs with
    | '+' :: ds => ds
    | '-' :: ds => ds
    | ds => ds
  decide (1 < ds.length) && ds.head? = some '0' && ds.all Char.isDigit

/-- A text that would not be read as a text by every reader if it stood plain. -/
def readsAsOther (cs : List Char) : Bool :=
  cs.isEmpty || reservedWords.contains (String.ofList cs) || isWholeNumber cs ||
    isFractional cs || isPadded cs

/-! ## What each form can hold -/

/-- The characters that end a line, here or with another reader. -/
def endsWrittenLine (c : Char) : Bool :=
  c == '\n' || c == '\r' || c == '\u0085' || c == '\u2028' || c == '\u2029'

/-- A character that can be shown as it is. -/
def isPrintable (c : Char) : Bool :=
  let n := c.toNat
  n == 0x0A || (0x20 ≤ n && n ≤ 0x7E) || (0xA0 ≤ n && n ≤ 0xD7FF) ||
    (0xE000 ≤ n && n ≤ 0xFFFD && n != 0xFEFF) || 0x10000 ≤ n

/-- Two neighbouring characters satisfy `p`. -/
def anyNeighbours (p : Char → Char → Bool) : List Char → Bool
  | a :: b :: cs => p a b || anyNeighbours p (b :: cs)
  | _ => false

/-- A line ends with a space. -/
def endsLineWithSpace (cs : List Char) : Bool :=
  anyNeighbours (fun a b => a == ' ' && endsWrittenLine b) cs

/-- A line other than the first starts with a space. -/
def startsLineWithSpace (cs : List Char) : Bool :=
  anyNeighbours (fun a b => endsWrittenLine a && b == ' ') cs

/-- The marks that a plain text does not start with. -/
def openingMarks : List Char :=
  "#,[]{}&*!|>'\"%@`".toList

/-- A text can start plain with this character before those that follow. -/
def opensPlain (c : Char) (following : List Char) : Bool :=
  !openingMarks.contains c &&
    !((c == '?' || c == ':' || c == '-') && (following.isEmpty || following.head? = some ' '))

/-- A text that can stand on its line without quotes: no character in it ends it early. -/
def standsPlain (cs : List Char) : Bool :=
  match cs with
  | [] => false
  | c :: following =>
    opensPlain c following && c != ' ' && cs.getLast? != some ' ' && cs.getLast? != some ':' &&
      !(['-', '-', '-'].isPrefixOf cs) && !(['.', '.', '.'].isPrefixOf cs) &&
      !anyNeighbours (fun a b => (a == ':' && b == ' ') || (a == ' ' && b == '#')) cs &&
      cs.all fun c => isPrintable c && !endsWrittenLine c

/-- A text that single quotes can hold. -/
def fitsSingleQuotes (cs : List Char) : Bool :=
  cs.all isPrintable && !endsLineWithSpace cs && !startsLineWithSpace cs

/-- A text that a literal block can hold. -/
def fitsLiteral (cs : List Char) : Bool :=
  cs.all isPrintable && !endsLineWithSpace cs && cs.getLast? != some ' '

/-- The forms that a text is written in. -/
inductive WrittenStyle where
  | plain
  | singleQuoted
  | doubleQuoted
  | literal
deriving DecidableEq, Repr

/-- The form that a text is written in. -/
def writtenStyle (cs : List Char) : WrittenStyle :=
  if cs.contains '\n' then if fitsLiteral cs then .literal else .doubleQuoted
  else if standsPlain cs && !readsAsOther cs then .plain
  else if fitsSingleQuotes cs then .singleQuoted
  else .doubleQuoted

/-! ## The forms -/

/-- The letter that stands for a character after a backslash. -/
def escapeLetter? : Char → Option Char
  | '\x00' => some '0'
  | '\x07' => some 'a'
  | '\x08' => some 'b'
  | '\t' => some 't'
  | '\n' => some 'n'
  | '\x0b' => some 'v'
  | '\x0c' => some 'f'
  | '\r' => some 'r'
  | '\x1b' => some 'e'
  | '"' => some '"'
  | '\\' => some '\\'
  | '\u0085' => some 'N'
  | '\u2028' => some 'L'
  | '\u2029' => some 'P'
  | _ => none

/-- The code of a character in at least `width` hexadecimal digits. -/
def codeDigits (width : Nat) (c : Char) : List Char :=
  let digits := (Nat.toDigits 16 c.toNat).map Char.toUpper
  List.replicate (width - digits.length) '0' ++ digits

/-- A character within double quotes. -/
def escape (c : Char) : List Char :=
  match escapeLetter? c with
  | some letter => ['\\', letter]
  | none =>
    if isPrintable c then [c]
    else if c.toNat ≤ 0xFF then '\\' :: 'x' :: codeDigits 2 c
    else if c.toNat ≤ 0xFFFF then '\\' :: 'u' :: codeDigits 4 c
    else '\\' :: 'U' :: codeDigits 8 c

/-- The columns that a line inside a value is indented by. -/
def innerIndent : List Char :=
  [' ', ' ']

/-- The characters of a text with further lines indented. Each character is written by `write`, and
an end of line as it is. -/
def indentLines (write : Char → List Char) : (afterBreak : Bool) → List Char → List Char
  | _, [] => []
  | afterBreak, c :: cs =>
    if endsWrittenLine c then c :: indentLines write true cs
    else (if afterBreak then innerIndent else []) ++ write c ++ indentLines write false cs

/-- A text in single quotes. -/
def singleQuotes (cs : List Char) : List Char :=
  '\'' :: indentLines (fun c => if c = '\'' then ['\'', '\''] else [c]) false cs ++
    (if cs.getLast?.any endsWrittenLine then innerIndent else []) ++ ['\'']

/-- A text in double quotes. -/
def doubleQuotes (cs : List Char) : List Char :=
  '"' :: cs.flatMap escape ++ ['"']

/-- What the header of a literal block says of its indentation: a digit is needed if the text itself
starts with white space. -/
def indentHint (cs : List Char) : List Char :=
  if cs.head?.any fun c => c == ' ' || endsWrittenLine c then ['2'] else []

/-- What the header of a literal block says of the line breaks at its end. -/
def chompHint (cs : List Char) : List Char :=
  match cs.reverse with
  | a :: earlier =>
    if !endsWrittenLine a then ['-']
    else if earlier.isEmpty || earlier.head?.any endsWrittenLine then ['+']
    else []
  | [] => ['-']

/-- A text as a literal block. -/
def literalBlock (cs : List Char) : List Char :=
  '|' :: indentHint cs ++ chompHint cs ++ '\n' :: indentLines (fun c => [c]) true cs

/-- A text as a value, together with the end of its line. -/
def writeText (text : String) : List Char :=
  let cs := text.toList
  match writtenStyle cs with
  | .plain => cs ++ ['\n']
  | .singleQuoted => singleQuotes cs ++ ['\n']
  | .doubleQuoted => doubleQuotes cs ++ ['\n']
  | .literal => literalBlock cs ++ if cs.getLast?.any endsWrittenLine then [] else ['\n']

end ExtractOptions.Yaml

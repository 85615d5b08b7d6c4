/-
Module: ExtractOptions.OutputFormat
Purpose: the notations in which moves are written out, and their names. Standard algebraic notation
  may name six piece letters of another language right after its own name.
Main exports: OutputFormat, OutputFormat.parse?, OutputFormat.describe
-/
import ExtractOptions.Text.Combining

namespace ExtractOptions

open Text

/-- How moves are written. -/
inductive OutputFormat where
  /-- As the source has them. -/
  | source
  /-- Standard algebraic, with the letters of another language for pawn, knight, bishop, rook,
  queen and king if they are given. -/
  | san (pieces : Option String)
  | chessMaster
  | epd
  | fen
  | hyphenatedLong
  | long
  | enhancedLong
  | extendedLong
  | extendedLongCastling
  | uci
deriving DecidableEq, Repr

namespace OutputFormat

/-- The format of each name; no name at all stands for the source form. -/
def names : List (String × OutputFormat) :=
  [("", source), ("san", san none), ("cm", chessMaster), ("epd", epd), ("fen", fen),
    ("halg", hyphenatedLong), ("lalg", long), ("elalg", enhancedLong), ("xlalg", extendedLong),
    ("xolalg", extendedLongCastling), ("uci", uci)]

/-- Six letters of any script, one for each piece. -/
def arePieceLetters (cs : List Char) : Bool :=
  cs.length == 6 && cs.all isAlphabetic

/-- The format that a text names, in any mix of ASCII upper and lower case. Piece letters keep the
case in which they are given. -/
def parse? (text : String) : Option OutputFormat :=
  match names.lookup text.toLower with
  | some format => some format
  | none =>
    let letters := text.toList.drop 3
    if (text.toList.take 3).map Char.toLower = ['s', 'a', 'n'] ∧ arePieceLetters letters then
      some (san (some (String.ofList letters)))
    else none

/-- A letter as it is shown between quotes: one that joins the character before it is spelled by
its code point. -/
def quoteLetter (c : Char) : List Char :=
  if isDependentLetter c then
    ['\\', 'u', '\x7b'] ++ Nat.toDigits 16 c.toNat ++ ['\x7d']
  else [c]

/-- Piece letters between quotes. -/
def quoteLetters (letters : String) : String :=
  String.ofList ('"' :: letters.toList.flatMap quoteLetter ++ ['"'])

/-- The description of a format in the summary of a run. -/
def describe : OutputFormat → String
  | source => "Source"
  | san none => "San \x7b piece_letters: None \x7d"
  | san (some letters) => "San \x7b piece_letters: Some(" ++ quoteLetters letters ++ ") \x7d"
  | chessMaster => "ChessMaster"
  | epd => "Epd"
  | fen => "Fen"
  | hyphenatedLong => "HyphenatedLongAlgebraic"
  | long => "LongAlgebraic"
  | enhancedLong => "EnhancedLongAlgebraic"
  | extendedLong => "ExtendedLongAlgebraic"
  | extendedLongCastling => "ExtendedLongAlgebraicCastling"
  | uci => "Uci"

end OutputFormat

end ExtractOptions

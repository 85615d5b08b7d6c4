/-
Module: ExtractOptions.CommandLine
Purpose: the tokens of a command line. A token is a named option, an option by letter with its value
  attached, or a source file. They are taken from left to right, and a named option may use the
  token after it.
Main exports: Token, Token.ofText, resolve
-/
import ExtractOptions.ArgumentFile

namespace ExtractOptions

open Text

/-- What a token says. -/
inductive Token where
  | named (name : String)
  | letter (letter : Char) (value : String)
  | bareDash
  | source (path : String)
deriving DecidableEq, Repr

/-- The meaning of a token. -/
def Token.ofText (text : String) : Token :=
  match text.toList with
  | '-' :: '-' :: name => .named (String.ofList name)
  | '-' :: c :: value => .letter c (String.ofList value)
  | ['-'] => .bareDash
  | _ => .source text

/-- Apply the option named by a letter. -/
def performLetter (context : Context) (letter : Char) (value : String) : Action Unit :=
  match LetterOption.ofLetter? letter with
  | some option => option.perform context (readArgumentFile context) value
  | none => throw (.usage (.unknownLetter letter))

/-- Take the tokens of a command line from left to right. -/
def resolve (context : Context) : List String → Action Unit
  | [] => pure ()
  | token :: later =>
    match Token.ofText token with
    | .named name => do
      let value := later.head?.getD ""
      match ← performNamed context (readArgumentFile context) name value with
      | .nameOnly => resolve context later
      | .nameAndValue =>
        match later with
        | [] => pure ()
        | _ :: afterValue => resolve context afterValue
    | .letter c value => do
      performLetter context c value
      resolve context later
    | .bareDash => throw (.usage .missingLetter)
    | .source path => do
      Action.addSource path .normal
      resolve context later

end ExtractOptions

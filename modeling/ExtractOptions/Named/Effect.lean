/-
Module: ExtractOptions.Named.Effect
Purpose: what the options given by name do. An option that is another name for a letter does what
  the letter does, and a name without a value hands it none. Bounds given by name are soft: one
  that does not fit is reported and left out.
Main exports: NamedOption.effect, performNamed
-/
import ExtractOptions.Letter.Effect
import ExtractOptions.Named.Option

namespace ExtractOptions

open Text

/-- Write a FEN comment after each move, unless comments are to be written where a pattern
matches. -/
def commentWithFen (name : String) : Action Unit := do
  if (← get).config.fenPattern.isSome then
    Action.warn ("--" ++ name ++ " conflicts with " ++ LetterOption.fenComment.text ++ "pattern")
  else
    Action.modifyConfig fun config => (config.set .fenComments true).set .finalFen false

/-- Give a bound on the length of games that is left out when it does not fit. -/
def softBound (name : String) (unit : BoundUnit) (side : BoundSide) (value : String) :
    Action Unit := do
  match Value.unsigned (.named name) Numeral.max32 value with
  | .error failure => throw failure
  | .ok n =>
    match (← get).config.plyBounds.apply unit side n with
    | .ok plyBounds => Action.modifyConfig fun config => { config with plyBounds }
    | .error refusal =>
      Action.warn ("--" ++ name ++ " " ++ number n ++ ": " ++ refusal.message)

/-- Go on with the value of an option, which must not be empty. -/
def withValue (name what value : String) (go : Action Unit) : Action Unit :=
  match Value.required (.named name) what value with
  | .ok _ => go
  | .error failure => throw failure

/-- What a named option does with the value that follows it. -/
def NamedOption.effect (context : Context) (includeFile : String → Action Unit)
    (option : NamedOption) (value : String) : Action Unit :=
  let origin := "--" ++ option.name ++ " " ++ value
  match option.action with
  | .adjust adjustment => Action.adjust (adjustment.apply (.named option.name) value)
  | .letter letter =>
    letter.perform context includeFile (if option.takesValue then value else "")
  | .fenComments => commentWithFen option.name
  | .bound unit side => softBound option.name unit side value
  | .suppressTag =>
    withValue option.name "a tag name" value <|
      Action.modifyRegistry fun registry =>
        { registry with suppressedTags := registry.suppressedTags ++ [value] }
  | .fenPattern eitherColour =>
    withValue option.name "a pattern" value do
      Action.request context origin (.fenPattern value eitherColour)
      Action.modifyConfig fun config => config.set .positionalVariations true
  | .material bothColours =>
    withValue option.name "a string of material" value <|
      Action.request context origin (.material value bothColours)
  | .version => throw .versionRequested

/-- Apply the option with the given name. The value is the text that follows the name; the answer
says whether it was used. -/
def performNamed (context : Context) (includeFile : String → Action Unit) (name value : String) :
    Action Consumed :=
  match NamedOption.find? name with
  | none => throw (.usage (.unknownName name))
  | some option => do
    Action.count fun counters => { counters with names := counters.names + 1 }
    option.effect context includeFile value
    return option.consumed value

end ExtractOptions

/-
Module: ExtractOptions.Yaml.Character
Purpose: the characters of a YAML text by the part they play: the white space within a line, the
  marks that only count within brackets, and the characters of names and tags.
Main exports: isGap, endsWord, isFlowMark, isWordCharacter, isAnchorCharacter, isTagCharacter
-/

namespace ExtractOptions.Yaml

/-- A space or a tab. -/
def isGap (c : Char) : Bool :=
  c == ' ' || c == '\t'

/-- White space, line breaks included. -/
def isSpacing (c : Char) : Bool :=
  isGap c || c == '\n'

/-- The line ends here. -/
def endsLine : List Char → Bool
  | [] => true
  | c :: _ => c == '\n'

/-- The text ends, or white space follows. -/
def endsWord : List Char → Bool
  | [] => true
  | c :: _ => isSpacing c

/-- The marks that separate and enclose values within brackets. -/
def isFlowMark (c : Char) : Bool :=
  c == ',' || c == '[' || c == ']' || c == '\x7b' || c == '\x7d'

/-- A flow mark follows. -/
def startsFlowMark : List Char → Bool
  | [] => false
  | c :: _ => isFlowMark c

/-- The characters of directive names and of handles. -/
def isWordCharacter (c : Char) : Bool :=
  c.isAlphanum || c == '-' || c == '_'

/-- The characters of the name of an anchor. -/
def isAnchorCharacter (c : Char) : Bool :=
  !(isSpacing c || isFlowMark c || c == '\uFEFF')

/-- The characters of a resource name; those after a percent sign are spelled by their codes. -/
def isUriCharacter (c : Char) : Bool :=
  c.isAlphanum || "-#;/?:@&=+$,_.!~*'()[]%".toList.contains c

/-- The characters of a tag after its handle. -/
def isTagCharacter (c : Char) : Bool :=
  isUriCharacter c && !isFlowMark c && c != '!'

end ExtractOptions.Yaml

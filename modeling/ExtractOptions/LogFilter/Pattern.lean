/-
Module: ExtractOptions.LogFilter.Pattern
Purpose: which patterns are accepted for the values of span fields. They are regular expressions that
  a finite automaton can match, so there are neither back references nor conditions on what stands
  around, and word boundaries only among ASCII letters. Counts in braces cannot be written, since a
  brace ends the field.
Main exports: isPattern
-/
import ExtractOptions.Text.Numeral
import ExtractOptions.Text.Numeric

namespace ExtractOptions.Pattern

open Text

/-- How a part of a pattern is read. -/
structure Mode where
  /-- Classes hold characters of every script, and not only ASCII ones. -/
  unicode : Bool := true
  /-- White space and comments in the pattern do not count. -/
  loose : Bool := false
deriving DecidableEq, Repr

/-- The white space that may be left out of account in a pattern. -/
def isPatternBlank (c : Char) : Bool :=
  let n := c.toNat
  (9 ≤ n && n ≤ 13) || n == 0x20 || n == 0x85 || n == 0x200E || n == 0x200F || n == 0x2028 ||
    n == 0x2029

/-- The pattern without the white space and comments in front that do not count. -/
def Mode.skip (mode : Mode) : (fuel : Nat) → List Char → List Char
  | 0, cs => cs
  | fuel + 1, cs =>
    match cs with
    | c :: rest =>
      if !mode.loose then cs
      else if isPatternBlank c then mode.skip fuel rest
      else if c == '#' then mode.skip fuel ((rest.dropWhile (· != '\n')).drop 1)
      else cs
    | [] => []

/-! ## Escapes -/

/-- What a part of a pattern after a backslash stands for. -/
inductive Piece where
  | literal (c : Char)
  | characterClass
  | assertion
deriving DecidableEq, Repr

/-- The character that is spelled by so many hexadecimal digits. -/
def codeLiteral? (mode : Mode) (count : Nat) (cs : List Char) : Option (Piece × List Char) := do
  let digits := cs.take count
  let code ← Numeral.hexadecimal? digits
  if digits.length < count ∨ ¬ code.isValidChar then none
  else if !mode.unicode && decide (0x80 ≤ code) then none
  else return (.literal (Char.ofNat code), cs.drop count)

/-- The letters of the general categories. -/
def categoryLetters : List Char :=
  "CLMNPSZclmnpsz".toList

/-- A control character spelled by a letter. -/
def controlLetter? : Char → Option Char
  | 'a' => some '\x07'
  | 'f' => some '\x0c'
  | 't' => some '\t'
  | 'n' => some '\n'
  | 'r' => some '\r'
  | 'v' => some '\x0b'
  | _ => none

/-- What stands after a backslash, and what follows it. -/
def escape? (mode : Mode) : List Char → Option (Piece × List Char)
  | [] => none
  | c :: rest =>
    if c == 'x' then codeLiteral? mode 2 rest
    else if c == 'u' then codeLiteral? mode 4 rest
    else if c == 'U' then codeLiteral? mode 8 rest
    else if c == 'p' || c == 'P' then
      match rest with
      | category :: rest =>
        if mode.unicode && categoryLetters.contains category then some (.characterClass, rest)
        else none
      | [] => none
    else if c == 'd' || c == 's' || c == 'w' then some (.characterClass, rest)
    else if c == 'D' || c == 'S' || c == 'W' then
      if mode.unicode then some (.characterClass, rest) else none
    else if c == 'A' || c == 'z' then some (.assertion, rest)
    else if c == 'b' || c == 'B' || c == '<' || c == '>' then
      if mode.unicode then none else some (.assertion, rest)
    else
      match controlLetter? c with
      | some control => some (.literal control, rest)
      | none => if c.isAlphanum || decide (0x80 ≤ c.toNat) then none else some (.literal c, rest)

/-! ## Classes -/

/-- The names of the ASCII classes. -/
def asciiClassNames : List String :=
  ["alnum", "alpha", "ascii", "blank", "cntrl", "digit", "graph", "lower", "print", "punct",
    "space", "upper", "word", "xdigit"]

/-- What follows a named class within a class, after its opening bracket. -/
def asciiClass? : List Char → Option (List Char)
  | ':' :: cs =>
    let cs := if cs.head? = some '^' then cs.drop 1 else cs
    let name := cs.takeWhile (· != ':')
    match cs.drop name.length with
    | ':' :: ']' :: rest =>
      if asciiClassNames.contains (String.ofList name) then some rest else none
    | _ => none
  | _ => none

/-- What follows the opening of a class: its bracket, a mark that negates it, hyphens, and a closing
bracket that stands for itself. Without characters of every script a class cannot be negated. -/
def classOpening? (mode : Mode) (cs : List Char) : Option (List Char) :=
  let skip (cs : List Char) : List Char := mode.skip cs.length cs
  let cs := skip cs
  let negated := cs.head? = some '^'
  let cs := if negated then skip (cs.drop 1) else cs
  let hyphens := cs.takeWhile (· == '-')
  let cs := skip (cs.drop hyphens.length)
  if negated && !mode.unicode then none
  else if hyphens.isEmpty && cs.head? = some ']' then some (cs.drop 1)
  else some cs

/-- A single item of a class, and what follows it. -/
def classItem? (mode : Mode) : List Char → Option (Piece × List Char)
  | '\\' :: rest => escape? mode rest
  | c :: rest => some (.literal c, rest)
  | [] => none

/-- What follows an item of a class or a range of characters. -/
def classRange? (mode : Mode) (cs : List Char) : Option (List Char) := do
  let skip (cs : List Char) : List Char := mode.skip cs.length cs
  let (first, rest) ← classItem? mode cs
  if first = .assertion then none
  let rest := skip rest
  match rest with
  | [] => none
  | '-' :: beyond =>
    let beyond := skip beyond
    if beyond.head? = some ']' ∨ beyond.head? = some '-' then return rest
    else
      let (last, rest) ← classItem? mode beyond
      match first, last with
      | .literal a, .literal b => if a ≤ b then return rest else none
      | _, _ => none
  | _ => return rest

/-- What follows a class in which `depth` brackets are open. -/
def classRest? (mode : Mode) : (fuel : Nat) → (depth : Nat) → List Char → Option (List Char)
  | 0, _, _ => none
  | fuel + 1, depth, cs =>
    match mode.skip cs.length cs with
    | [] => none
    | '[' :: rest =>
      match asciiClass? rest with
      | some rest => classRest? mode fuel depth rest
      | none => (classOpening? mode rest).bind (classRest? mode fuel (depth + 1))
    | ']' :: rest => if depth ≤ 1 then some rest else classRest? mode fuel (depth - 1) rest
    | '&' :: '&' :: rest => classRest? mode fuel depth rest
    | '-' :: '-' :: rest => classRest? mode fuel depth rest
    | '~' :: '~' :: rest => classRest? mode fuel depth rest
    | cs => (classRange? mode cs).bind (classRest? mode fuel depth)

/-- What follows a class, after its opening bracket. -/
def class? (mode : Mode) (cs : List Char) : Option (List Char) :=
  (classOpening? mode cs).bind (classRest? mode (cs.length + 1) 1)

/-! ## Groups -/

/-- The flags of a group: the mode with them, the mark that ends them, and what follows it. No flag
is given twice, and a minus sign, which turns the flags after it off, has a flag after it. -/
def flags? : Mode → (given : List Char) → List Char → Option (Mode × Char × List Char)
  | _, _, [] => none
  | mode, given, c :: rest =>
    if c == ':' || c == ')' then
      if given.head? = some '-' || (c == ')' && given.isEmpty) then none else some (mode, c, rest)
    else if given.contains c || !("-imsUuRx".toList.contains c) then none
    else
      let on := !given.contains '-'
      let mode :=
        if c == 'u' then { mode with unicode := on }
        else if c == 'x' then { mode with loose := on }
        else mode
      flags? mode (c :: given) rest

/-- The name of a group that is not among those given, and what follows its angle bracket. -/
def groupName? (names : List (List Char)) (cs : List Char) : Option (List Char × List Char) := do
  let (name, rest) ← cut? '>' cs
  let (first, others) ← name.head?.map fun first => (first, name.drop 1)
  if (first == '_' || isAlphabetic first) &&
      others.all (fun c => c == '_' || c == '.' || c == '[' || c == ']' || isAlphanumeric c) &&
      !names.contains name then
    return (name, rest)
  else none

/-- The rest of a pattern is well formed. `modes` are those around each open group, `names` those of
the groups so far, and `repeatable` tells whether something stands before that can be repeated. -/
def acceptsRest : (fuel : Nat) → (mode : Mode) → (modes : List Mode) →
    (names : List (List Char)) → (repeatable : Bool) → List Char → Bool
  | 0, _, _, _, _, _ => false
  | fuel + 1, mode, modes, names, repeatable, cs =>
    match mode.skip cs.length cs with
    | [] => modes.isEmpty
    | '(' :: rest =>
      match rest with
      | '?' :: '=' :: _ | '?' :: '!' :: _ | '?' :: '<' :: '=' :: _ | '?' :: '<' :: '!' :: _ =>
        false
      | '?' :: 'P' :: '<' :: inside | '?' :: '<' :: inside =>
        match groupName? names inside with
        | some (name, rest) => acceptsRest fuel mode (mode :: modes) (name :: names) false rest
        | none => false
      | '?' :: inside =>
        match flags? mode [] inside with
        | some (inner, ':', rest) => acceptsRest fuel inner (mode :: modes) names false rest
        | some (later, _, rest) => acceptsRest fuel later modes names false rest
        | none => false
      | _ => acceptsRest fuel mode (mode :: modes) names false rest
    | ')' :: rest =>
      match modes with
      | outer :: modes => acceptsRest fuel outer modes names true rest
      | [] => false
    | '|' :: rest => acceptsRest fuel mode modes names false rest
    | '[' :: rest =>
      match class? mode rest with
      | some rest => acceptsRest fuel mode modes names true rest
      | none => false
    | '\x7b' :: _ => false
    | '\\' :: rest =>
      match escape? mode rest with
      | some (_, rest) => acceptsRest fuel mode modes names true rest
      | none => false
    | c :: rest =>
      if c == '*' || c == '+' || c == '?' then
        repeatable &&
          acceptsRest fuel mode modes names true
            (if rest.head? = some '?' then rest.drop 1 else rest)
      else if c == '.' && !mode.unicode then false
      else acceptsRest fuel mode modes names true rest

end Pattern

/-- A text is a pattern. -/
def isPattern (cs : List Char) : Bool :=
  Pattern.acceptsRest (cs.length + 1) {} [] [] false cs

end ExtractOptions

/-
Module: ExtractOptions.ArgumentFile
Purpose: argument files. A line gives an option by letter or by name, names a source file after a
  colon, or is a line of data. A data line belongs to the last directive before it in the same file,
  which must be one that takes data lines. Argument files can name further ones; a file that is
  still being read is not read again, and no more than a given number are open at once.
Main exports: interpretLine, interpretFile, readArgumentFile
-/
import ExtractOptions.Directive
import ExtractOptions.Named.Effect

namespace ExtractOptions

open Text

/-- Act on one line of an argument file. `pending` is the option of the last directive if plain lines
after it belong to it; the answer is the option in force afterwards. -/
def interpretLine (context : Context) (includeFile : String → Action Unit) (origin : String)
    (pending : Option LetterOption) (line : String) : Action (Option LetterOption) :=
  if isBlankText line then return pending
  else
    match Directive.ofLine? line with
    | .error failure => throw failure
    | .ok (some ⟨.named, value⟩) => do
      let (name, value) := splitNamed value
      discard <| performNamed context includeFile name value
      return none
    | .ok (some ⟨option, value⟩) => do
      option.perform context includeFile value
      return if option.persists then some option else none
    | .ok none =>
      match dropPrefix? [':'] line.toList, pending with
      | some path, _ => do
        Action.addSource (String.ofList path) .normal
        return pending
      | none, some option => do
        deliver context option origin line
        return pending
      | none, none => throw (.usage (.strayLine line))

/-- Read one line of an argument file, if any is left. -/
def nextLine (reader : LineReader) : Action (Option (String × LineReader)) := do
  match reader.next (← get).disk with
  | .ok step => return step
  | .error cause => throw (.resource reader.path .reading cause)

/-- Act on the lines of an argument file up to its end. Reading is given up for lack of memory
after more lines than `allowance`. -/
def interpretLines (context : Context) (includeFile : String → Action Unit) :
    (allowance : Nat) → LineReader → Option LetterOption → Action Unit
  | 0, reader, _ => throw (.resource reader.path .reading .outOfMemory)
  | allowance + 1, reader, pending => do
    match ← nextLine reader with
    | none => return
    | some (line, later) =>
      let pending ← interpretLine context includeFile reader.path pending line
      interpretLines context includeFile allowance later pending

/-- More lines than a file can hold: every line has a byte, and a file that grows while it is read
stays below the largest size of a file. -/
def lineAllowance (bytes : List UInt8) : Nat :=
  bytes.length + Nat.pow 2 63

/-- Act on the lines of an argument file. -/
def interpretFile (context : Context) (includeFile : String → Action Unit) (path : String) :
    Action Unit := do
  let disk := (← get).disk
  match disk.openReader path with
  | .error cause => throw (.resource path .reading cause)
  | .ok reader =>
    interpretLines context includeFile (lineAllowance ((disk.file? reader.place).getD [])) reader
      none

/-- Do something while an argument file counts as being read, whatever comes of it. -/
def whileIncluding (place : Location) (action : Action Unit) : Action Unit := fun session =>
  match action { session with including := place :: session.including } with
  | .ok _ after => .ok () { after with including := after.including.drop 1 }
  | .error failure after => .error failure { after with including := after.including.drop 1 }

/-- Read an argument file when `levels` more of them may be open. -/
def readNested (context : Context) : (levels : Nat) → String → Action Unit
  | levels, path => do
    let session ← get
    match session.disk.canonical path with
    | .error cause => throw (.resource path .reading cause)
    | .ok place =>
      if place ∈ session.including then throw (.recursiveInclude path)
      match levels with
      | 0 => throw (.includeTooDeep path context.maxIncludeDepth)
      | inner + 1 =>
        Action.count fun counters =>
          { counters with argumentFiles := counters.argumentFiles + 1 }
        whileIncluding place (interpretFile context (readNested context inner) path)

/-- Read an argument file, together with those that it names. -/
def readArgumentFile (context : Context) (path : String) : Action Unit := do
  let opened := (← get).including.length
  readNested context (context.maxIncludeDepth - opened) path

end ExtractOptions

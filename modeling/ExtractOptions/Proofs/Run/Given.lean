/-
Module: ExtractOptions.Proofs.Run.Given
Purpose: the options that are given in the course of a run, in order, each with the session that it
  met. They follow the run: whoever acts on options has a trace beside it that lists them, options
  of the argument files that it reads included. A call is one request from outside, and a history of
  calls goes on after one that failed.
Main exports: AnyOption, Given, Trace, givenInLines, givenNested, givenReading, givenResolving, Call,
  Call.run, Call.given, Calls.after, Calls.given, Calls.succeed
-/
import ExtractOptions.CommandLine
import ExtractOptions.Proofs.Run.Reading
import ExtractOptions.Proofs.Session.Effect

namespace ExtractOptions

open Text

/-- An option of either sort. -/
inductive AnyOption where
  | letter (option : LetterOption)
  | named (option : NamedOption)
deriving DecidableEq, Repr

namespace AnyOption

/-- The option as a message refers to it. -/
def name : AnyOption → OptionName
  | letter option => .letter option
  | named option => .named option.name

/-- There is such an option. -/
def isListed : AnyOption → Prop
  | letter _ => True
  | named option => option ∈ NamedOption.all

/-- The letter that the option is or stands for, with the value that the letter gets. -/
def asLetter? (option : AnyOption) (value : String) : Option (LetterOption × String) :=
  match option with
  | letter own => some (own, value)
  | named option =>
    match option.action with
    | .letter own => some (own, option.letterValue value)
    | _ => none

end AnyOption

/-- An option with its value, and the session that it met. -/
structure Given where
  option : AnyOption
  value : String
  session : Session

namespace Given

/-- What the option does, an argument file that it names left unread. -/
def alone (context : Context) (given : Given) : Action Unit :=
  match given.option with
  | .letter option => option.alone context given.value
  | .named option => option.alone context given.value

/-- The session that the option leaves by itself. -/
def after (context : Context) (given : Given) : Session :=
  (given.alone context).after given.session

/-- An option that is a letter or stands for one does what the letter does, on a session that
differs in its counters at most. -/
theorem alone_of_asLetter? {context : Context} {given : Given} {letter : LetterOption}
    {own : String} (stands : given.option.asLetter? given.value = some (letter, own)) :
    ∃ met : Session, met.config = given.session.config ∧ met.disk = given.session.disk ∧
      given.alone context given.session = letter.alone context own met := by
  obtain ⟨option, value, session⟩ := given
  cases option with
  | letter option =>
    cases stands
    exact ⟨session, rfl, rfl, rfl⟩
  | named option =>
    cases makes : option.action with
    | letter other =>
      simp only [AnyOption.asLetter?, makes, Option.some.injEq, Prod.mk.injEq] at stands
      obtain ⟨rfl, rfl⟩ := stands
      exact ⟨session.named, rfl, rfl, NamedOption.alone_of_letter makes value session⟩
    | adjust | fenComments | bound | suppressTag | fenPattern | material | version =>
      simp [AnyOption.asLetter?, makes] at stands

/-- The deeds of the option. -/
def may (given : Given) (deed : Deed) : Prop :=
  match given.option.asLetter? given.value with
  | some (letter, value) => letter.may value given.session.disk deed
  | none => False

end Given

/-- The options given while something runs on a session. -/
abbrev Trace := Session → List Given

namespace Trace

/-- No option is given. -/
def silent : Trace := fun _ => []

/-- The options given by an action and then by what follows its answer. -/
def andThen {α : Type} (trace : Trace) (action : Action α) (next : α → Trace) : Trace :=
  fun session =>
    trace session ++
      match action session with
      | .ok answer left => next answer left
      | .error .. => []

/-- After an action that succeeds, the trace goes on from what it leaves. -/
theorem andThen_of_ok {α : Type} {trace : Trace} {action : Action α} {next : α → Trace}
    {session left : Session} {answer : α} (run : action session = .ok answer left) :
    trace.andThen action next session = trace session ++ next answer left := by
  simp only [andThen, run]

end Trace

/-- The options given by an option with a letter: itself, and those in an argument file that it
names. -/
def LetterOption.given (context : Context) (included : String → Trace) (option : LetterOption)
    (value : String) : Trace :=
  fun session =>
    ⟨.letter option, value, session⟩ ::
      if option = .argumentFile ∧ skipSpaces value ≠ "" then
        included (skipSpaces value) ((option.alone context value).after session)
      else []

/-- An option that names an argument file is given before those in the file. -/
theorem LetterOption.given_argumentFile {context : Context} {included : String → Trace}
    {value : String} (named : skipSpaces value ≠ "") (session : Session) :
    argumentFile.given context included value session =
      ⟨.letter argumentFile, value, session⟩ ::
        included (skipSpaces value) session.lettered := by
  unfold LetterOption.given
  rw [if_pos ⟨rfl, named⟩, Action.after_of_ok (alone_argumentFile named session)]

/-- Any other option is given alone. -/
theorem LetterOption.given_alone {context : Context} {included : String → Trace}
    {option : LetterOption} {value : String}
    (unread : option = .argumentFile → skipSpaces value = "") (session : Session) :
    option.given context included value session = [⟨.letter option, value, session⟩] := by
  unfold LetterOption.given
  rw [if_neg fun reads => reads.2 (unread reads.1)]

/-- The option given by a name. -/
def givenByName (name value : String) : Trace :=
  fun session =>
    match NamedOption.find? name with
    | some option => [⟨.named option, value, session⟩]
    | none => []

/-- The options given by one line of an argument file. -/
def givenInLine (context : Context) (included : String → Trace) (line : String) : Trace :=
  match LineForm.ofText line with
  | .named name value => givenByName name value
  | .letter option value => option.given context included value
  | .blank | .source _ | .data | .unknown _ => .silent

/-- The options given by the lines of an argument file. -/
def givenInLines (context : Context) (includeFile : String → Action Unit)
    (included : String → Trace) : (allowance : Nat) → LineReader → Option LetterOption → Trace
  | 0, _, _ => .silent
  | allowance + 1, reader, pending =>
    Trace.silent.andThen (nextLine reader) fun
      | none => .silent
      | some (line, later) =>
        (givenInLine context included line).andThen
          (interpretLine context includeFile reader.path pending line)
          (givenInLines context includeFile included allowance later)

/-- The options of a file are those of its next line and those of the lines behind it. -/
theorem givenInLines_apply (context : Context) (includeFile : String → Action Unit)
    (included : String → Trace) (allowance : Nat) (reader : LineReader)
    (pending : Option LetterOption) (session : Session) :
    givenInLines context includeFile included (allowance + 1) reader pending session =
      match reader.next session.disk with
      | .ok (some (line, later)) =>
        (givenInLine context included line).andThen
          (interpretLine context includeFile reader.path pending line)
          (givenInLines context includeFile included allowance later) session
      | _ => [] := by
  unfold givenInLines Trace.andThen Trace.silent
  rw [nextLine_apply]
  cases reader.next session.disk with
  | error cause => rfl
  | ok next => cases next <;> rfl

/-- The options given by an argument file. -/
def givenInFile (context : Context) (includeFile : String → Action Unit)
    (included : String → Trace) (path : String) : Trace :=
  fun session =>
    match session.disk.openReader path with
    | .error _ => []
    | .ok reader =>
      givenInLines context includeFile included
        (lineAllowance ((session.disk.file? reader.place).getD [])) reader none session

/-- The file at the place is being read. -/
def Session.isReading (session : Session) (place : Location) : Bool :=
  session.including.contains place

@[simp] theorem Session.isReading_iff {session : Session} {place : Location} :
    session.isReading place = true ↔ place ∈ session.including := by
  simp [isReading]

/-- The options given by an argument file when `levels` more of them may be open. -/
def givenNested (context : Context) : (levels : Nat) → String → Trace
  | levels, path => fun session =>
    match session.disk.canonical path with
    | .error _ => []
    | .ok place =>
      if session.isReading place then []
      else
        match levels with
        | 0 => []
        | inner + 1 =>
          givenInFile context (readNested context inner) (givenNested context inner) path
            (session.entering place)

/-- A file gives no options if it cannot be found, is being read, or is one too many. -/
theorem givenNested_apply (context : Context) (levels : Nat) (path : String) (session : Session) :
    givenNested context levels path session =
      match session.disk.canonical path with
      | .error _ => []
      | .ok place =>
        if place ∈ session.including then []
        else
          match levels with
          | 0 => []
          | inner + 1 =>
            givenInFile context (readNested context inner) (givenNested context inner) path
              (session.entering place) := by
  cases found : session.disk.canonical path with
  | error cause => cases levels <;> simp [givenNested, found]
  | ok place => cases levels <;> simp [givenNested, found]

/-- The options given by an argument file, together with those that it names. -/
def givenReading (context : Context) (path : String) : Trace :=
  fun session =>
    givenNested context (context.maxIncludeDepth - session.including.length) path session

/-- The options given by the tokens of a command line. -/
def givenResolving (context : Context) : List String → Trace
  | [] => .silent
  | token :: later =>
    match Token.ofText token with
    | .named name =>
      let value := later.head?.getD ""
      (givenByName name value).andThen
        (performNamed context (readArgumentFile context) name value) fun
          | .nameOnly => givenResolving context later
          | .nameAndValue =>
            match later with
            | [] => .silent
            | _ :: afterValue => givenResolving context afterValue
    | .letter c value =>
      let trace : Trace :=
        match LetterOption.ofLetter? c with
        | some option => option.given context (givenReading context) value
        | none => .silent
      trace.andThen (performLetter context c value) fun _ => givenResolving context later
    | .bareDash => .silent
    | .source path =>
      Trace.silent.andThen (Action.addSource path .normal) fun _ => givenResolving context later

/-! ### Calls

The program is called from outside with a command line, with a single option, or with an argument
file, and a history of calls goes on after one that failed. The trace of a call is put together as
its run is. -/

/-- A call from outside. -/
inductive Call where
  | commandLine (tokens : List String)
  | letter (option : LetterOption) (value : String)
  | named (name value : String)
  | argumentFile (path : String)
deriving DecidableEq, Repr

/-- What a call does. -/
def Call.run (context : Context) : Call → Action Unit
  | commandLine tokens => resolve context tokens
  | letter option value => option.perform context (readArgumentFile context) value
  | named name value => discard (performNamed context (readArgumentFile context) name value)
  | argumentFile path => readArgumentFile context path

/-- The options given by a call. -/
def Call.given (context : Context) : Call → Trace
  | commandLine tokens => givenResolving context tokens
  | letter option value => option.given context (givenReading context) value
  | named name value => givenByName name value
  | argumentFile path => givenReading context path

namespace Calls

/-- The session after some calls, those that failed included. -/
def after (context : Context) : List Call → Session → Session
  | [], session => session
  | call :: later, session => after context later ((call.run context).after session)

/-- The options given by some calls. -/
def given (context : Context) : List Call → Trace
  | [], _ => []
  | call :: later, session =>
    call.given context session ++ given context later ((call.run context).after session)

/-- None of the calls fails. -/
def succeed (context : Context) : List Call → Session → Bool
  | [], _ => true
  | call :: later, session =>
    (call.run context).succeeds session &&
      succeed context later ((call.run context).after session)

end Calls

end ExtractOptions

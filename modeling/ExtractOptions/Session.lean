/-
Module: ExtractOptions.Session
Purpose: the state that options act on, and actions on it. A session holds the configuration and the
  registry being filled, the disk, what was written to standard error, counters, and the argument
  files being read. An action may fail; the session then stays as the action left it.
Main exports: Counters, Session, Context, Action, Action.adjust, Action.request, Action.diagnose,
  Action.warn, Action.openTarget
-/
import ExtractOptions.Disk.Lines
import ExtractOptions.Failure
import ExtractOptions.Registry

namespace ExtractOptions

/-- What happened so far, in numbers. -/
structure Counters where
  /-- Options given by letter, those that a named option stands for included. -/
  letters : Nat := 0
  /-- Options given by name. -/
  names : Nat := 0
  /-- Argument files read. -/
  argumentFiles : Nat := 0
  /-- Data lines handed on. -/
  dataLines : Nat := 0
  /-- Source files recorded. -/
  sourceFiles : Nat := 0
  /-- Warnings written. -/
  warnings : Nat := 0
deriving DecidableEq, Repr

/-- The options given in either way. -/
def Counters.options (counters : Counters) : Nat :=
  counters.letters + counters.names

/-- The state that options act on. -/
structure Session where
  config : Config := {}
  registry : Registry := {}
  disk : Disk
  /-- What was written to standard error. -/
  standardError : String := ""
  counters : Counters := {}
  /-- The argument files being read, the innermost first. -/
  including : List Location := []

/-- What a session is told about its surroundings and never changes. -/
structure Context where
  /-- How many argument files may be open inside one another. -/
  maxIncludeDepth : Nat := 16
  /-- The ECO file to use when an option names none. -/
  ecoFile : Option String := none
  /-- What the rest of the tool refuses. -/
  gate : Gate := Gate.everything

/-- Something done to a session, with an answer or a failure. -/
abbrev Action := EStateM Failure Session

namespace Action

/-- Change the configuration. -/
def modifyConfig (change : Config → Config) : Action Unit :=
  modify fun session => { session with config := change session.config }

/-- Change the registry. -/
def modifyRegistry (change : Registry → Registry) : Action Unit :=
  modify fun session => { session with registry := change session.registry }

/-- Change the counters. -/
def count (change : Counters → Counters) : Action Unit :=
  modify fun session => { session with counters := change session.counters }

/-- Change the configuration in a way that may be refused. A refused change leaves the session
alone. -/
def adjust (change : Config → Except Failure Config) : Action Unit := do
  match change (← get).config with
  | .ok config => modifyConfig fun _ => config
  | .error failure => throw failure

/-- Check the configuration without changing anything. -/
def check (test : Config → Except Failure Unit) : Action Unit := do
  match test (← get).config with
  | .ok () => pure ()
  | .error failure => throw failure

/-- Hand a request to the rest of the tool. `origin` says in an error message where it came
from. -/
def request (context : Context) (origin : String) (request : Request) : Action Unit := do
  match context.gate (← get).registry request with
  | some reason => throw (.refused origin reason)
  | none => modifyRegistry fun registry => registry.record request

/-- Record a source file. -/
def addSource (path : String) (kind : SourceKind) : Action Unit := do
  modifyRegistry fun registry => registry.addSource path kind
  count fun counters => { counters with sourceFiles := counters.sourceFiles + 1 }

/-- Set the line length of the output, which the writer of games is told as well. -/
def setLineLength (width : Nat) : Action Unit := do
  modifyConfig fun config => { config with lineLength := width }
  modifyRegistry fun registry => { registry with lineLength := some width }

/-- Open a file for output, or learn why it cannot be opened. -/
def tryOpen (path : String) (mode : OpenMode) : Action (Except IoError Target) := do
  match (← get).disk.openTarget path mode with
  | .ok (target, disk) =>
    modify fun session => { session with disk }
    return .ok target
  | .error cause => return .error cause

/-- Open a file for output. -/
def openTarget (path : String) (mode : OpenMode) : Action Target := do
  match ← tryOpen path mode with
  | .ok target => return target
  | .error cause => throw (.resource path .writing cause)

/-- The lines of a file that is not written while it is read. -/
def readLines (path : String) : Action Lines := do
  match (← get).disk.readLines path with
  | .ok lines => return lines
  | .error cause => throw (.resource path .reading cause)

/-- Do something with every line of a file in order. A line that cannot be read fails after the
lines before it. -/
def forLines (path : String) (step : String → Action Unit) : Action Unit := do
  let lines ← readLines path
  lines.lines.forM step
  match lines.failure with
  | some cause => throw (.resource path .reading cause)
  | none => pure ()

end Action

/-- Write a text to where diagnostics go. The answer says why it was lost, if it was. -/
def Session.writeLog (session : Session) (text : String) : Option IoError × Session :=
  match session.config.log with
  | .standardError => (none, { session with standardError := session.standardError ++ text })
  | .file target =>
    match session.disk.write target (Text.Utf8.encode text) with
    | .ok (target, disk) =>
      (none, { session with config := { session.config with log := .file target }, disk })
    | .error cause => (some cause, session)

/-- The session after writing one message, with a newline, to where diagnostics go. A message that
is lost is not missed. -/
def Session.diagnose (session : Session) (message : String) : Session :=
  (session.writeLog (message ++ "\n")).2

namespace Action

/-- Write one message to where diagnostics go. -/
def diagnose (message : String) : Action Unit :=
  modify fun session => session.diagnose message

/-- Report something that does not stop the run. -/
def warn (message : String) : Action Unit := do
  diagnose message
  count fun counters => { counters with warnings := counters.warnings + 1 }

end Action

end ExtractOptions

/-
Module: ExtractOptions.Destination
Purpose: the files that a configuration has opened, and writing to them. Each stays open from its
  choice to the end of the run, so what is written goes on where the last writing ended.
Main exports: Destination, Config.target?, Session.writeTo
-/
import ExtractOptions.Session

namespace ExtractOptions

/-- What a file is opened for. -/
inductive Destination where
  | output
  | duplicates
  | nonMatching
  | log
deriving DecidableEq, Repr

namespace Config

/-- The file opened for a destination, if there is one. -/
def target? (config : Config) : Destination → Option Target
  | .output => config.output
  | .duplicates => config.duplicates
  | .nonMatching =>
    match config.nonMatching with
    | some (.file target) => some target
    | _ => none
  | .log =>
    match config.log with
    | .file target => some target
    | .standardError => none

/-- The configuration with another state of the file opened for a destination. -/
def setTarget (config : Config) (destination : Destination) (target : Target) : Config :=
  match destination with
  | .output => { config with output := some target }
  | .duplicates => { config with duplicates := some target }
  | .nonMatching => { config with nonMatching := some (.file target) }
  | .log => { config with log := .file target }

end Config

/-- Write a text to a destination. There is no answer if no file is open for it, except that
diagnostics without a file go to standard error; otherwise the answer says whether writing
failed. -/
def Session.writeTo (session : Session) (destination : Destination) (text : String) :
    Option (Option IoError × Session) :=
  match destination, session.config.target? destination with
  | .log, _ => some (session.writeLog text)
  | _, none => none
  | _, some target =>
    match session.disk.write target (Text.Utf8.encode text) with
    | .ok (target, disk) =>
      let config := session.config.setTarget destination target
      some (none, { session with config, disk })
    | .error cause => some (some cause, session)

end ExtractOptions

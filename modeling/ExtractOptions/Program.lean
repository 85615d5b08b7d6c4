/-
Module: ExtractOptions.Program
Purpose: a run of the program from its arguments, its environment and the disk to its exit status,
  what it prints and the disk afterwards. The settings are loaded first; then the command line is
  resolved, and its outcome is reported.
Main exports: Outcome, run
-/
import ExtractOptions.CommandLine
import ExtractOptions.LogFilter
import ExtractOptions.Settings.Store
import ExtractOptions.Summary
import ExtractOptions.Usage

namespace ExtractOptions

/-- What a run leaves behind. -/
structure Outcome where
  exitCode : Int
  standardOutput : String
  standardError : String
  disk : Disk

/-- The variable that names the directory of the settings file. -/
def directoryVariable : String := "PGNOPTS_CONFIG_DIR"

/-- The directory of the settings file: the working directory unless the environment names one. -/
def settingsDirectory (environment : List (String × String)) : String :=
  (environment.lookup directoryVariable).getD "."

/-- Prepare the log: its filter must be accepted, and its directory is made if it is missing. -/
def prepareLog (disk : Disk) (settings : Settings) : Disk × Option SettingsFault :=
  if !(acceptsLogFilter settings.logLevel) then (disk, some (.badLogLevel settings.logLevel))
  else
    match settings.logDirectory with
    | none => (disk, none)
    | some directory =>
      if disk.exists? directory then (disk, none)
      else
        match disk.createDirectories directory with
        | (disk, none) => (disk, none)
        | (disk, some cause) => (disk, some (.logDirectoryNotMade directory cause))

/-- The outcome of a run whose settings cannot be used. -/
def refuse (disk : Disk) (fault : SettingsFault) : Outcome :=
  { exitCode := 1
    standardOutput := ""
    standardError := programName ++ ": " ++ fault.fullMessage ++ "\n"
    disk }

/-- The outcome of a run that ended in a session, printing the given text. -/
def Session.outcome (session : Session) (exitCode : Int) (standardOutput : String) : Outcome :=
  { exitCode, standardOutput, standardError := session.standardError, disk := session.disk }

/-- Report what resolving a command line came to. The usage text and errors go where diagnostics
go, the summary and the version to standard output. -/
def report : EStateM.Result Failure Session Unit → Outcome
  | .ok _ session => session.outcome 0 (summary session.config session.registry ++ "\n")
  | .error .versionRequested session =>
    session.outcome Failure.versionRequested.exitCode (Failure.versionRequested.message ++ "\n")
  | .error .helpRequested session =>
    (session.diagnose usageText).outcome Failure.helpRequested.exitCode ""
  | .error failure session => (session.diagnose failure.message).outcome failure.exitCode ""

/-- Run the program. -/
def run (arguments : List String) (environment : List (String × String)) (disk : Disk) :
    Outcome :=
  match loadSettings disk (settingsDirectory environment) environment with
  | .error fault => refuse disk fault
  | .ok settings =>
    match prepareLog disk settings with
    | (disk, some fault) => refuse disk fault
    | (disk, none) =>
      report ((resolve (settings.context Gate.everything) arguments).run { disk })

end ExtractOptions

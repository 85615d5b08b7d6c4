/-
Module: ExtractOptions.Settings.Store
Purpose: the settings of a directory. They are kept in one file there; saving makes the directory if
  it is missing, and loading lays the environment over the file. A missing file gives no setting.
Main exports: SettingsFault, settingsPath, loadSettings, saveSettings
-/
import ExtractOptions.Disk.Directory
import ExtractOptions.Settings.File

namespace ExtractOptions

open Text

/-- Why settings cannot be used. -/
inductive SettingsFault where
  /-- The file is no YAML mapping. -/
  | unreadable (path : String)
  /-- The topmost value of some setting does not fit. -/
  | invalid (path : String)
  | directoryNotMade (directory : String) (cause : IoError)
  | notWritten (path : String) (cause : IoError)
  | badLogLevel (level : String)
  | logDirectoryNotMade (directory : String) (cause : IoError)
deriving DecidableEq, Repr

namespace SettingsFault

/-- The text of a fault. -/
def message : SettingsFault → String
  | unreadable path => "Failed to load settings from " ++ path
  | invalid path => "Invalid settings in " ++ path
  | directoryNotMade directory _ => "Failed to create settings directory: " ++ directory
  | notWritten path _ => "Failed to write settings: " ++ path
  | badLogLevel level => "Invalid log level: " ++ level
  | logDirectoryNotMade directory _ => "Failed to create log directory: " ++ directory

/-- The failed file operation behind a fault, if there is one. -/
def cause? : SettingsFault → Option IoError
  | directoryNotMade _ cause => some cause
  | notWritten _ cause => some cause
  | logDirectoryNotMade _ cause => some cause
  | _ => none

/-- The text of a fault together with what is behind it. -/
def fullMessage (fault : SettingsFault) : String :=
  match fault.cause? with
  | some cause => fault.message ++ ": " ++ cause.message
  | none => fault.message

end SettingsFault

/-- The settings file of a directory. -/
def settingsPath (directory : String) : String :=
  Path.join directory "pgnopts.yaml"

/-- The names under which the settings file is looked for. -/
def settingsCandidates (path : String) : List String :=
  [path, path ++ ".yaml", path ++ ".yml"]

/-- The bytes of the file at a path, if a file is there. -/
def Disk.fileAt? (disk : Disk) (path : String) : Option (List UInt8) :=
  match disk.find path with
  | .ok (_, .file bytes) => some bytes
  | _ => none

/-- The text of a settings file. Bytes that are not UTF-8 are replaced. -/
def settingsText (bytes : List UInt8) : String :=
  match bytes with
  | 0xEF :: 0xBB :: 0xBF :: rest => Utf8.decodeLossy rest
  | _ => Utf8.decodeLossy bytes

/-- Load the settings of a directory under an environment. -/
def loadSettings (disk : Disk) (directory : String) (environment : List (String × String)) :
    Except SettingsFault Settings :=
  let path := settingsPath directory
  let text := ((settingsCandidates path).findSome? disk.fileAt?).map settingsText
  match readSettingsText? (text.getD "") with
  | none => .error (.unreadable path)
  | some file =>
    let layers : Layers := { ecoFile := environment.lookup ecoFileVariable, environment, file }
    match Settings.ofLayers? layers with
    | none => .error (.invalid path)
    | some settings => .ok settings

/-- Save settings in a directory. The answer holds the disk afterwards, and the fault if there was
one. -/
def saveSettings (disk : Disk) (directory : String) (settings : Settings) :
    Disk × Option SettingsFault :=
  let (disk, failure) :=
    if disk.exists? directory then (disk, none) else disk.createDirectories directory
  match failure with
  | some cause => (disk, some (.directoryNotMade directory cause))
  | none =>
    let path := settingsPath directory
    match disk.openTarget path .write with
    | .error cause => (disk, some (.notWritten path cause))
    | .ok (target, disk) =>
      match disk.write target (Utf8.encode settings.render) with
      | .error cause => (disk, some (.notWritten path cause))
      | .ok (_, disk) => (disk, none)

end ExtractOptions

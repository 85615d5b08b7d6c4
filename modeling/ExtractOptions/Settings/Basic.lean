/-
Module: ExtractOptions.Settings.Basic
Purpose: the settings of the installation, which hold for every run. Each of them can be given in
  several layers: a settings file, the environment, and for the ECO file a variable of its own. The
  topmost layer that gives a setting decides it, and only that layer's value must fit its type.
Main exports: Settings, Setting, SettingValue, Layer.value?, Layers, Layers.topmost?,
  Settings.ofLayers?
-/
import ExtractOptions.Decimal.Binary64
import ExtractOptions.Session
import ExtractOptions.Settings.Name

namespace ExtractOptions

open Text

/-- The settings of the installation. -/
structure Settings where
  /-- Which log records are kept. -/
  logLevel : String := "warn"
  /-- The directory that the log is written to, if it is not written to standard error. -/
  logDirectory : Option String := none
  /-- Log records are written as JSON. -/
  logJson : Bool := false
  /-- How many argument files may be open inside one another. -/
  maxIncludeDepth : Nat := 16
  /-- The ECO file to use when an option names none. -/
  ecoFile : Option String := none
deriving DecidableEq, Repr

/-- What options need to know of the settings. -/
def Settings.context (settings : Settings) (gate : Gate) : Context :=
  { maxIncludeDepth := settings.maxIncludeDepth, ecoFile := settings.ecoFile, gate }

/-- The names of the settings. -/
inductive Setting where
  | logLevel
  | logDirectory
  | logJson
  | maxIncludeDepth
  | ecoFile
deriving DecidableEq, Repr

/-- The name of a setting in the settings file. -/
def Setting.key : Setting → String
  | logLevel => "log_level"
  | logDirectory => "log_dir"
  | logJson => "log_json"
  | maxIncludeDepth => "max_include_depth"
  | ecoFile => "eco_file"

/-- What a layer gives for a setting. -/
inductive SettingValue where
  | null
  | boolean (value : Bool)
  | integer (value : Int)
  | real (value : Binary64)
  | text (value : String)
  /-- A list or a mapping, which no setting is. -/
  | nested
deriving DecidableEq, Repr

namespace SettingValue

/-- The value of a text in the environment: a truth value in any letter case, an integer of 64 bits,
any other number, or else the text itself. -/
def ofText (value : String) : SettingValue :=
  if value.toLower = "true" then boolean true
  else if value.toLower = "false" then boolean false
  else
    match Numeral.signed64? value.toList with
    | some n => integer n
    | none =>
      match Binary64.parse? value.toList with
      | some x => real x
      | none => text value

/-- A value as a text. Numbers and truth values are written out. -/
def toText? : SettingValue → Option String
  | text value => some value
  | boolean value => some (if value then "true" else "false")
  | integer value => some (signedNumber value)
  | real value => some value.text
  | null | nested => none

/-- A value as a text that may be missing. -/
def toOptionalText? : SettingValue → Option (Option String)
  | null => some none
  | value => value.toText?.map some

/-- The truth value that a word stands for. -/
def ofWord? (word : String) : Option Bool :=
  if ["true", "on", "yes"].contains word.toLower then some true
  else if ["false", "off", "no"].contains word.toLower then some false
  else none

/-- A value as a truth value. A number is true unless it is zero. -/
def toBool? : SettingValue → Option Bool
  | boolean value => some value
  | integer value => some (value ≠ 0)
  | real value => some value.isNonzero
  | text "1" => some true
  | text "0" => some false
  | text value => ofWord? value
  | null | nested => none

/-- A value as a natural number of 64 bits. -/
def toNat? : SettingValue → Option Nat
  | boolean value => some value.toNat
  | integer value => if 0 ≤ value then some value.toNat else none
  | real value => some (value.roundToNat Numeral.max64)
  | text value =>
    match ofWord? value with
    | some truth => some truth.toNat
    | none => Numeral.unsigned? Numeral.max64 value.toList
  | null | nested => none

end SettingValue

/-- What a layer gives, by name. -/
abbrev Layer := List (String × SettingValue)

/-- The value that a layer gives for a setting. One given for a part of it makes it a list or a
mapping. -/
def Layer.value? (layer : Layer) (setting : Setting) : Option SettingValue :=
  layer.findSome? fun entry =>
    let name := SettingName.ofText entry.1
    if name.root ≠ setting.key then none
    else if name.steps = [] then some entry.2
    else some .nested

/-- The layers that give settings, the topmost first. -/
structure Layers where
  /-- The variable that names an ECO file and nothing else. -/
  ecoFile : Option String := none
  /-- The variables of the environment. -/
  environment : List (String × String) := []
  /-- The entries of the settings file. -/
  file : Layer := []

/-- What the variables of settings start with, before the name of the setting. -/
def environmentMark : String := "pgnopts_"

/-- The variable that names an ECO file. -/
def ecoFileVariable : String := "ECO_FILE"

/-- The name of a variable in small letters. The sign for the kelvin counts as a capital k. -/
def lowerName (name : String) : List Char :=
  name.toList.map fun c => if c = '\u212A' then 'k' else c.toLower

/-- What the environment gives. Letter case does not matter in the names of its variables. -/
def environmentLayer (environment : List (String × String)) : Layer :=
  environment.filterMap fun entry =>
    (dropPrefix? environmentMark.toList (lowerName entry.1)).map fun name =>
      (String.ofList name, SettingValue.ofText entry.2)

namespace Layers

/-- The value that the layer above the environment gives for a setting. -/
def override? (layers : Layers) (setting : Setting) : Option SettingValue :=
  if setting = .ecoFile then layers.ecoFile.map .text else none

/-- The value of a setting in the topmost layer that gives it. -/
def topmost? (layers : Layers) (setting : Setting) : Option SettingValue :=
  layers.override? setting <|>
    (environmentLayer layers.environment).value? setting <|>
    layers.file.value? setting

/-- A setting read from its topmost layer; the default if no layer gives it. -/
def read {α : Type} (layers : Layers) (setting : Setting) (default : α)
    (ofValue? : SettingValue → Option α) : Option α :=
  match layers.topmost? setting with
  | some value => ofValue? value
  | none => some default

end Layers

/-- The settings that the layers give, if every topmost value fits. -/
def Settings.ofLayers? (layers : Layers) : Option Settings := do
  let standard : Settings := {}
  return {
    logLevel := ← layers.read .logLevel standard.logLevel SettingValue.toText?
    logDirectory :=
      ← layers.read .logDirectory standard.logDirectory SettingValue.toOptionalText?
    logJson := ← layers.read .logJson standard.logJson SettingValue.toBool?
    maxIncludeDepth :=
      ← layers.read .maxIncludeDepth standard.maxIncludeDepth SettingValue.toNat?
    ecoFile := ← layers.read .ecoFile standard.ecoFile SettingValue.toOptionalText? }

end ExtractOptions

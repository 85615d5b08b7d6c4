/-
Module: ExtractOptions.Settings.File
Purpose: the settings file, read and written. It is YAML, a mapping from the names of settings to
  their values; names that are no setting are passed over. It is written with one entry for each
  setting.
Main exports: layerOfYaml?, readSettingsText?, Settings.render
-/
import ExtractOptions.Settings.Basic
import ExtractOptions.Yaml.Document
import ExtractOptions.Yaml.Writer

namespace ExtractOptions

open Text

/-- A scalar as a setting. The words for infinity and for no number are none. -/
def SettingValue.ofScalar? : Yaml.Scalar → Option SettingValue
  | .null => some .null
  | .boolean value => some (.boolean value)
  | .integer value => some (.integer value)
  | .real spelling => (Binary64.parse? spelling.toList).map .real
  | .text value => some (.text value)

/-- The name that a key stands for. -/
def keyName? : Yaml → Option String
  | .scalar (.text value) => some value
  | .scalar (.integer value) => some (signedNumber value)
  | .scalar (.boolean value) => some (if value then "true" else "false")
  | .scalar (.real spelling) => some spelling
  | _ => none

mutual

/-- What a value in the settings file gives for a setting, if the value makes sense throughout. -/
def SettingValue.ofYaml? : Yaml → Option SettingValue
  | .scalar value => SettingValue.ofScalar? value
  | .list items => if itemsMakeSense items then some .nested else none
  | .mapping entries => (layerOfEntries? entries).map fun _ => .nested
  | .undefined => some .null

/-- Every item of a list makes sense. -/
def itemsMakeSense : List Yaml → Bool
  | [] => true
  | item :: items => (SettingValue.ofYaml? item).isSome && itemsMakeSense items

/-- The entries of a mapping by name. -/
def layerOfEntries? : List (Yaml × Yaml) → Option Layer
  | [] => some []
  | (key, value) :: entries =>
    match keyName? key, SettingValue.ofYaml? value, layerOfEntries? entries with
    | some name, some value, some layer => some ((name, value) :: layer)
    | _, _, _ => none

end

/-- What a settings file gives: the entries of its one document, which must be a mapping. A file
without a document gives nothing. -/
def layerOfYaml? : List Yaml → Option Layer
  | [] => some []
  | [.mapping entries] => layerOfEntries? entries
  | _ => none

/-- What the text of a settings file gives. -/
def readSettingsText? (text : String) : Option Layer :=
  (Yaml.readDocuments? text).bind layerOfYaml?

/-! ## Writing -/

/-- A text that may be missing, with the end of its line. -/
def writeOptionalText : Option String → List Char
  | some text => Yaml.writeText text
  | none => "null\n".toList

/-- The part of the settings file that gives one setting. The value ends with its line. -/
def settingLine (setting : Setting) (value : List Char) : List Char :=
  setting.key.toList ++ ':' :: ' ' :: value

/-- The text of the settings file. -/
def Settings.render (settings : Settings) : String :=
  String.ofList
    (settingLine .logLevel (Yaml.writeText settings.logLevel) ++
      settingLine .logDirectory (writeOptionalText settings.logDirectory) ++
      settingLine .logJson (if settings.logJson then "true\n".toList else "false\n".toList) ++
      settingLine .maxIncludeDepth (Numeral.decimal settings.maxIncludeDepth ++ ['\n']) ++
      settingLine .ecoFile (writeOptionalText settings.ecoFile))

end ExtractOptions

/-
Module: ExtractOptions.Proofs.Settings.RoundTrip
Purpose: settings saved and loaded again. The settings file has one line for each setting, and the
  line is read as the value that the setting holds, but for a text that is written without quotes and
  read as a number. So settings come back exactly if no text among them is misread so.
Main exports: Setting.line, Settings.IsStorable, Settings.render_eq, Setting.exists_read?_line,
  saved_settings_load_back
-/
import ExtractOptions.Proofs.Settings.Layers
import ExtractOptions.Proofs.Settings.Saving
import ExtractOptions.Proofs.Yaml.Recognition

namespace ExtractOptions

open Text Yaml

/-! ### One setting as a line

What is written for a setting is one line of YAML. Its shape is the same for all settings, with the
value plain, quoted, a number or null. -/

/-- The text is made of plain characters. -/
def IsPlainText (text : String) : Prop :=
  ∀ c ∈ text.toList, isPlainCharacter c = true

instance (text : String) : Decidable (IsPlainText text) :=
  decidable_of_iff (text.toList.all isPlainCharacter = true) List.all_eq_true

/-- The line that gives a text under a key, or null if there is none. -/
def optionalLine (key : List Char) : Option String → EntryLine
  | some text => writtenLine key text
  | none => ⟨key, .plain, "null".toList⟩

namespace Setting

/-- The settings in the order of the settings file. -/
def all : List Setting :=
  [logLevel, logDirectory, logJson, maxIncludeDepth, ecoFile]

theorem mem_all (setting : Setting) : setting ∈ all := by
  cases setting <;> decide

/-- The texts that a setting holds. -/
def texts : (setting : Setting) → setting.Held → List String
  | logLevel => fun text => [text]
  | logDirectory | ecoFile => Option.toList
  | logJson | maxIncludeDepth => fun _ => []

/-- The numbers that a setting holds. -/
def numbers : (setting : Setting) → setting.Held → List Nat
  | maxIncludeDepth => fun depth => [depth]
  | logLevel | logDirectory | logJson | ecoFile => fun _ => []

/-- What is written for a setting, with the end of its line. -/
def written : (setting : Setting) → setting.Held → List Char
  | logLevel => writeText
  | logDirectory | ecoFile => writeOptionalText
  | logJson => fun (json : Bool) => if json then "true\n".toList else "false\n".toList
  | maxIncludeDepth => fun depth => Numeral.decimal depth ++ ['\n']

/-- The line of the settings file that gives a setting. -/
def line (setting : Setting) : setting.Held → EntryLine :=
  match setting with
  | logLevel => writtenLine setting.key.toList
  | logDirectory | ecoFile => optionalLine setting.key.toList
  | logJson => fun (json : Bool) =>
    ⟨setting.key.toList, .plain, (if json then "true" else "false").toList⟩
  | maxIncludeDepth => fun depth => ⟨setting.key.toList, .plain, Numeral.decimal depth⟩

variable {setting : Setting} {held : setting.Held}

/-- The line of a setting has its key. -/
theorem line_key (setting : Setting) (held : setting.Held) :
    (setting.line held).key = setting.key.toList := by
  cases setting with
  | logLevel | logJson | maxIncludeDepth => rfl
  | logDirectory | ecoFile => cases held <;> rfl

/-- What is written for a setting is its line. -/
theorem settingLine_eq (plain : ∀ text ∈ setting.texts held, IsPlainText text) :
    settingLine setting (setting.written held) = (setting.line held).written := by
  have value : setting.written held = (setting.line held).value ++ ['\n'] := by
    cases setting with
    | logLevel => exact writeText_eq (plain held (List.mem_singleton.mpr rfl)) _
    | logDirectory | ecoFile =>
      cases held with
      | none => rfl
      | some text => exact writeText_eq (plain text (List.mem_singleton.mpr rfl)) _
    | logJson => cases held <;> rfl
    | maxIncludeDepth => rfl
  rw [settingLine, EntryLine.written, line_key, value]

/-- The line of a setting with plain texts is a simple one. -/
theorem line_isSimple (plain : ∀ text ∈ setting.texts held, IsPlainText text) :
    (setting.line held).IsSimple := by
  have named : setting.key.toList ≠ [] := by cases setting <;> decide
  have short : setting.key.toList.length ≤ keyLength := by cases setting <;> decide
  have word : ∀ c ∈ setting.key.toList, c.isAlpha = true ∨ c = '_' := by
    have all : (setting.key.toList.all fun c => c.isAlpha || c == '_') = true := by
      cases setting <;> decide
    simpa using all
  have fixed {text : List Char} (plain : text.all isPlainCharacter = true)
      (standing : text ≠ [] ∧ text ≠ ['-']) :
      EntryLine.IsSimple ⟨setting.key.toList, .plain, text⟩ :=
    ⟨named, short, word, List.all_eq_true.mp plain, fun _ => standing⟩
  cases setting with
  | logLevel => exact isSimple_writtenLine (plain held (List.mem_singleton.mpr rfl)) named short word
  | logDirectory | ecoFile =>
    cases held with
    | none => exact fixed (by decide) (by decide)
    | some text =>
      exact isSimple_writtenLine (plain text (List.mem_singleton.mpr rfl)) named short word
  | logJson => cases held <;> exact fixed (by decide) (by decide)
  | maxIncludeDepth =>
    have denotes := Numeral.denotes_decimal held
    refine fixed (List.all_eq_true.mpr fun c among => ?_) ⟨denotes.nonempty, fun dash => ?_⟩
    · simp [isPlainCharacter, Char.isAlphanum, denotes.digits c among]
    · rw [dash] at denotes
      exact absurd (denotes.digits '-' List.mem_cons_self) (by decide)

theorem keyNode_line (setting : Setting) (held : setting.Held) :
    (setting.line held).keyNode = .scalar (.text setting.key) := by
  rw [EntryLine.keyNode, line_key]
  cases setting <;> decide +kernel

end Setting

/-! ### What comes back

Reading a line gives a value, and the value is read for the setting again. A text may come back as
another one, where it was written without quotes and reads as a number. -/

/-- The numeral of a number holds digits and a minus sign at most. -/
theorem mem_signedNumber {n : Int} {c : Char} (among : c ∈ (signedNumber n).toList) :
    c.isDigit = true ∨ c = '-' := by
  have digits (m : Nat) : ∀ d ∈ (number m).toList, d.isDigit = true := by
    rw [number, String.toList_ofList]
    exact (Numeral.denotes_decimal m).digits
  cases n with
  | ofNat m => exact .inl (digits m c among)
  | negSucc m =>
    rw [signedNumber, String.toList_append, List.mem_append] at among
    rcases among with sign | digit
    · exact .inr (by simpa using sign)
    · exact .inl (digits _ c digit)

/-- What is written for a number that is not finite has no digits. -/
theorem digit_of_not_finite {cs : List Char} {x : Binary64} (read : Binary64.parse? cs = some x)
    (infinite : isFinite cs = false) : x.text.toList.any Char.isDigit = false := by
  cases x with
  | finite => simp [isFinite, read] at infinite
  | infinite negative => cases negative <;> decide
  | nan => decide

/-- A text comes back as some text, which is another one if it is misread. -/
theorem exists_toText?_line {text : String} (plain : IsPlainText text) (key : List Char) :
    ∃ value back, SettingValue.ofYaml? (writtenLine key text).valueNode = some value ∧
      value ≠ .null ∧ value.toText? = some back ∧ (back = text ↔ ¬ Misread text.toList) := by
  rcases valueNode_writtenLine plain key with ⟨kept, node⟩ | ⟨misread, read⟩
  · exact ⟨.text text, text, by rw [node]; rfl, nofun, rfl, iff_of_true rfl kept⟩
  · rcases read with ⟨radix, n, node⟩ | ⟨⟨digit, number, infinite⟩, node⟩
    · refine ⟨.integer n, signedNumber n, by rw [node]; rfl, nofun, rfl,
        iff_of_false (fun same => ?_) (not_not_intro misread)⟩
      -- The mark of the base is no character of a decimal number.
      obtain ⟨mark, among, other⟩ :
          ∃ mark ∈ text.toList, ¬ (mark.isDigit = true ∨ mark = '-') := by
        rcases radix.1 with begins | begins
        · exact ⟨'x', begins.subset (by simp), by decide⟩
        · exact ⟨'o', begins.subset (by simp), by decide⟩
      exact other (mem_signedNumber (same ▸ among))
    · obtain ⟨x, parsed⟩ := Option.isSome_iff_exists.mp number
      refine ⟨.real x, x.text, ?_, nofun, rfl,
        iff_of_false (fun same => ?_) (not_not_intro misread)⟩
      · rw [node, SettingValue.ofYaml?, SettingValue.ofScalar?, parsed]
        rfl
      · rw [← same, digit_of_not_finite parsed infinite] at digit
        cases digit

/-- What is not null is a text where a text may be missing. -/
theorem SettingValue.toOptionalText?_of_ne_null {value : SettingValue} (given : value ≠ .null) :
    value.toOptionalText? = value.toText?.map some := by
  cases value with
  | null => exact absurd rfl given
  | boolean | integer | real | text | nested => rfl

/-- Every setting comes back, and it is the same unless a text in it is misread. -/
theorem Setting.exists_read?_line (setting : Setting) {held : setting.Held}
    (plain : ∀ text ∈ setting.texts held, IsPlainText text)
    (small : ∀ number ∈ setting.numbers held, number < Nat.pow 2 63) :
    ∃ value back, SettingValue.ofYaml? (setting.line held).valueNode = some value ∧
      setting.read? value = some back ∧
      (back = held ↔ ∀ text ∈ setting.texts held, ¬ Misread text.toList) := by
  have alone (text : String) :
      (∀ other ∈ [text], ¬ Misread other.toList) ↔ ¬ Misread text.toList :=
    List.forall_mem_singleton
  cases setting with
  | logLevel =>
    obtain ⟨value, back, node, -, read, same⟩ :=
      exists_toText?_line (plain held (List.mem_singleton.mpr rfl)) _
    exact ⟨value, back, node, read, same.trans (alone held).symm⟩
  | logDirectory | ecoFile =>
    cases held with
    | none =>
      exact ⟨.null, none, by decide +kernel, rfl, iff_of_true rfl fun _ among => nomatch among⟩
    | some text =>
      obtain ⟨value, back, node, given, read, same⟩ :=
        exists_toText?_line (plain text (List.mem_singleton.mpr rfl)) _
      refine ⟨value, some back, node, ?_, ?_⟩
      · exact (SettingValue.toOptionalText?_of_ne_null given).trans (congrArg (Option.map some) read)
      · exact Option.some_inj.trans (same.trans (alone text).symm)
  | logJson =>
    have none : ∀ text ∈ texts .logJson held, ¬ Misread text.toList := fun _ among => nomatch among
    cases held with
    | false => exact ⟨.boolean false, false, by decide +kernel, rfl, iff_of_true rfl none⟩
    | true => exact ⟨.boolean true, true, by decide +kernel, rfl, iff_of_true rfl none⟩
  | maxIncludeDepth =>
    have number := ofPlain_decimal (small held (List.mem_singleton.mpr rfl))
    refine ⟨.integer (Int.ofNat held), held, ?_, rfl, iff_of_true rfl fun _ among => nomatch among⟩
    rw [show (line .maxIncludeDepth held).valueNode = .scalar (Scalar.ofPlain _) from rfl,
      String.toList_ofList]
    exact congrArg (fun scalar => SettingValue.ofYaml? (.scalar scalar)) number

/-! ### The settings file

The lines in order are the whole file. They are read as a mapping of their entries, since keys
differ. -/

/-- Every setting has a key of its own. -/
theorem Setting.key_inj {setting other : Setting} : other.key = setting.key ↔ other = setting := by
  cases setting <;> cases other <;> decide

namespace Settings

/-- The lines of the settings file. -/
def lines (settings : Settings) : List EntryLine :=
  Setting.all.map fun setting => setting.line (settings.get setting)

/-- The texts among the settings. -/
def texts (settings : Settings) : List String :=
  Setting.all.flatMap fun setting => setting.texts (settings.get setting)

/-- The texts are made of plain characters, and the depth is a signed number of 64 bits. -/
structure IsStorable (settings : Settings) : Prop where
  characters : ∀ text ∈ settings.texts, IsPlainText text
  depth : settings.maxIncludeDepth < Nat.pow 2 63

variable {settings : Settings}

/-- Each text among storable settings is plain. -/
theorem IsStorable.plain (storable : settings.IsStorable) (setting : Setting) :
    ∀ text ∈ setting.texts (settings.get setting), IsPlainText text :=
  fun text among =>
    storable.characters text (List.mem_flatMap.mpr ⟨setting, setting.mem_all, among⟩)

theorem IsStorable.small (storable : settings.IsStorable) (setting : Setting) :
    ∀ number ∈ setting.numbers (settings.get setting), number < Nat.pow 2 63 := by
  intro number among
  cases setting with
  | maxIncludeDepth => exact List.mem_singleton.mp among ▸ storable.depth
  | logLevel | logDirectory | logJson | ecoFile => cases among

/-- Settings are the same if each of them is. -/
theorem eq_iff_get {settings other : Settings} :
    other = settings ↔ ∀ setting, other.get setting = settings.get setting := by
  refine ⟨fun same _ => by rw [same], fun each => ?_⟩
  cases settings
  cases other
  congr
  · exact each .logLevel
  · exact each .logDirectory
  · exact each .logJson
  · exact each .maxIncludeDepth
  · exact each .ecoFile

/-- The settings file consists of the lines. -/
theorem render_eq (storable : settings.IsStorable) :
    settings.render = String.ofList (settings.lines.flatMap EntryLine.written) := by
  have each (setting : Setting) : settingLine setting (setting.written (settings.get setting)) =
      (setting.line (settings.get setting)).written :=
    Setting.settingLine_eq (storable.plain setting)
  have whole : settings.render = String.ofList (Setting.all.flatMap fun setting =>
      settingLine setting (setting.written (settings.get setting))) := by
    simp only [Setting.all, List.flatMap_cons, List.flatMap_nil, List.append_nil, ← List.append_assoc]
    rfl
  rw [whole, lines, List.flatMap_map]
  simp only [each]

/-- The settings file is read as one mapping, with an entry for each setting. -/
theorem readDocuments?_render (storable : settings.IsStorable) :
    readDocuments? settings.render = some [.mapping (settings.lines.map EntryLine.entry)] := by
  rw [render_eq storable]
  refine readDocuments?_lines (by simp [lines, Setting.all]) ?_ ?_
  · intro line among
    obtain ⟨setting, -, rfl⟩ := List.mem_map.mp among
    exact Setting.line_isSimple (storable.plain setting)
  · have keys : settings.lines.map EntryLine.keyNode =
        Setting.all.map fun setting => .scalar (.text setting.key) := by
      simp [lines, Setting.keyNode_line]
    rw [keys]
    decide

end Settings

section Layer

variable {settings : Settings} {value : Setting → SettingValue}

/-- The lines give each setting the value that its line is read as. -/
theorem layerOfEntries?_lines (node : ∀ setting,
      SettingValue.ofYaml? (setting.line (settings.get setting)).valueNode = some (value setting))
    (given : List Setting) :
    layerOfEntries? (given.map fun setting => (setting.line (settings.get setting)).entry) =
      some (given.map fun setting => (setting.key, value setting)) := by
  induction given with
  | nil => rfl
  | cons setting given ih =>
    rw [List.map_cons, EntryLine.entry, Setting.keyNode_line, layerOfEntries?, node, ih]
    rfl

/-- A setting is looked up under its own key. -/
theorem value?_keys {given : List Setting} {setting : Setting} (among : setting ∈ given) :
    Layer.value? (given.map fun setting => (setting.key, value setting)) setting =
      some (value setting) := by
  induction given with
  | nil => cases among
  | cons other given ih =>
    rw [List.map_cons, Layer.value?_cons, SettingName.ofText_key]
    by_cases same : other = setting
    · simp [same]
    · have later : setting ∈ given := (List.mem_cons.mp among).resolve_left (Ne.symm same)
      rw [if_pos (fun key => same (Setting.key_inj.mp key)), ih later]

end Layer

/-! ### Saved and loaded

The path from settings to the disk and back. In an empty environment no layer is above the settings
file, so what comes back is what it says. -/

section RoundTrip

variable {disk saved : Disk} {directory : String} {settings : Settings}

/-- After settings were saved, the settings file has their text. -/
theorem settingsFileText_of_saved (done : saveSettings disk directory settings = (saved, none)) :
    saved.settingsFileText directory = settings.render := by
  have found : (settingsCandidates (settingsPath directory)).findSome? saved.fileAt? =
      some (Utf8.encode settings.render) := by
    rw [settingsCandidates, List.findSome?_cons, fileAt?_of_saved done]
  rw [Disk.settingsFileText, found, Option.map_some, Option.getD_some, settingsText_encode_render]

/-- In an empty environment every setting is what the settings file says. -/
theorem exists_installation {value : Setting → SettingValue} (storable : settings.IsStorable)
    (done : saveSettings disk directory settings = (saved, none)) (node : ∀ setting,
      SettingValue.ofYaml? (setting.line (settings.get setting)).valueNode = some (value setting)) :
    ∃ here : Installation, here.load = loadSettings saved directory [] ∧
      ∀ setting, here.layers.Decides setting .file (value setting) := by
  have layer : layerOfEntries? (settings.lines.map EntryLine.entry) =
      some (Setting.all.map fun setting => (setting.key, value setting)) := by
    rw [Settings.lines, List.map_map]
    exact layerOfEntries?_lines node Setting.all
  let here : Installation :=
    { disk := saved
      directory
      environment := []
      entries := settings.lines.map EntryLine.entry
      holds := by
        rw [settingsFileText_of_saved done]
        exact .mapping (Settings.readDocuments?_render storable)
      sensible := by
        rw [← SettingValue.ofYaml?_isSome_iff, SettingValue.ofYaml?, layer]
        rfl }
  refine ⟨here, rfl, fun setting => ⟨?_, fun higher above => ?_⟩⟩
  · change (fileLayer (settings.lines.map EntryLine.entry)).value? setting = _
    rw [← layerOfEntries?_eq_some layer]
    exact value?_keys setting.mem_all
  · cases higher with
    | ecoVariable => cases setting <;> rfl
    | environment => rfl
    | file => simp [LayerRank.above] at above

/-- Settings that are saved can be loaded again. A setting is loaded as it was saved exactly if no text
in it is misread, and so are all of them together; saving what was loaded then changes nothing. -/
theorem saved_settings_load_back (storable : settings.IsStorable)
    (done : saveSettings disk directory settings = (saved, none)) :
    ∃ loaded, loadSettings saved directory [] = .ok loaded ∧
      (∀ setting, loaded.get setting = settings.get setting ↔
        ∀ text ∈ setting.texts (settings.get setting), ¬ Misread text.toList) ∧
      (loaded = settings ↔ ∀ text ∈ settings.texts, ¬ Misread text.toList) ∧
      (loaded = settings → saveSettings saved directory loaded = (saved, none)) := by
  have each (setting : Setting) :=
    setting.exists_read?_line (storable.plain setting) (storable.small setting)
  choose value back node read same using each
  obtain ⟨here, load, decides⟩ := exists_installation storable done node
  have loaded : here.load = .ok (Settings.ofHeld back) := by
    refine Installation.load_eq_ok_iff.mpr fun setting => ?_
    rw [Settings.get_ofHeld]
    exact .decided (decides setting) (read setting)
  have one (setting : Setting) :
      (Settings.ofHeld back).get setting = settings.get setting ↔
        ∀ text ∈ setting.texts (settings.get setting), ¬ Misread text.toList := by
    rw [Settings.get_ofHeld]
    exact same setting
  refine ⟨Settings.ofHeld back, load ▸ loaded, one, ?_, fun whole => ?_⟩
  · rw [Settings.eq_iff_get]
    simp only [one, Settings.texts, List.mem_flatMap]
    exact ⟨fun all text ⟨setting, _, among⟩ => all setting text among,
      fun all setting text among => all text ⟨setting, setting.mem_all, among⟩⟩
  · rw [whole]
    exact saveSettings_again done

end RoundTrip

/-- A directory with a settings file that is no YAML. -/
def brokenFiles : Disk where
  nodes := [(["cfg"], .directory), (["cfg", "pgnopts.yaml"], .file (Utf8.encode "log_dir: ["))]
  workingDirectory := []

/-- Settings whose texts look like a number, like null, and like nothing at all. -/
def wordlike : Settings where
  logLevel := "007"
  logDirectory := some "null"
  maxIncludeDepth := Nat.pow 2 63 - 1
  ecoFile := some ""

/-- They are written in quotes, and so they come back. -/
theorem wordlike_load_back :
    loadSettings (saveSettings brokenFiles "cfg" wordlike).1 "cfg" [] = .ok wordlike := by
  have storable : wordlike.IsStorable := ⟨by decide +kernel, by decide⟩
  have done : saveSettings brokenFiles "cfg" wordlike =
      ((saveSettings brokenFiles "cfg" wordlike).1, none) :=
    Prod.ext rfl (by decide +kernel)
  obtain ⟨loaded, read, -, whole, -⟩ := saved_settings_load_back storable done
  rwa [whole.mpr (by decide +kernel)] at read

/-- Not all texts come back. One that is too large for a number is written as it is, and it is read as
infinity. -/
theorem overflow_loaded_otherwise :
    ¬ ∀ (disk saved : Disk) (directory : String) (settings : Settings), settings.IsStorable →
      saveSettings disk directory settings = (saved, none) →
      loadSettings saved directory [] = .ok settings := by
  intro back
  have loaded := back brokenFiles _ "cfg" { logDirectory := some "1e512" }
    ⟨by decide +kernel, by decide⟩ (Prod.ext rfl (by decide +kernel))
  revert loaded
  decide +kernel

end ExtractOptions

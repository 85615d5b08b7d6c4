/-
Module: ExtractOptions.Proofs.Settings.Layers
Purpose: the layers of settings. A setting is decided by the topmost layer that gives it: a variable of
  its own for the ECO file, the environment, the settings file, and then the default. Whether it fits,
  and what it comes out as, is a matter of that one value. A settings file that is a mapping is read
  as a layer unless something in it cannot be a value: a number that is none, or a key that is no name.
Main exports: Setting.Held, LayerRank, Layers.Decides, Layers.Yields, Yaml.Sensible, Installation,
  Installation.load_by_topmost
-/
import ExtractOptions.Settings.Store

namespace ExtractOptions

open Text

/-! ### One setting

The settings have different types, so what a setting holds is a type that depends on it. A value
fits or does not, for each setting on its own. -/

/-- What a setting holds. -/
def Setting.Held : Setting → Type
  | logLevel => String
  | logDirectory | ecoFile => Option String
  | logJson => Bool
  | maxIncludeDepth => Nat

instance : (setting : Setting) → DecidableEq setting.Held
  | .logLevel => inferInstanceAs (DecidableEq String)
  | .logDirectory | .ecoFile => inferInstanceAs (DecidableEq (Option String))
  | .logJson => inferInstanceAs (DecidableEq Bool)
  | .maxIncludeDepth => inferInstanceAs (DecidableEq Nat)

/-- What a value means for a setting, if it fits. -/
def Setting.read? : (setting : Setting) → SettingValue → Option setting.Held
  | logLevel => SettingValue.toText?
  | logDirectory | ecoFile => SettingValue.toOptionalText?
  | logJson => SettingValue.toBool?
  | maxIncludeDepth => SettingValue.toNat?

namespace Settings

/-- One of the settings. -/
def get (settings : Settings) : (setting : Setting) → setting.Held
  | .logLevel => settings.logLevel
  | .logDirectory => settings.logDirectory
  | .logJson => settings.logJson
  | .maxIncludeDepth => settings.maxIncludeDepth
  | .ecoFile => settings.ecoFile

/-- The settings with the given ones. -/
def ofHeld (held : (setting : Setting) → setting.Held) : Settings where
  logLevel := held .logLevel
  logDirectory := held .logDirectory
  logJson := held .logJson
  maxIncludeDepth := held .maxIncludeDepth
  ecoFile := held .ecoFile

@[simp] theorem get_ofHeld (held : (setting : Setting) → setting.Held) (setting : Setting) :
    (ofHeld held).get setting = held setting := by
  cases setting <;> rfl

end Settings

/-- What a setting is if no layer gives it. -/
def Setting.standard (setting : Setting) : setting.Held :=
  Settings.get {} setting

/-! ### The layers by rank

Which layer decides is stated by rank: it gives the setting, and none above it does. The program
looks layers up in that order, and the two are shown to agree. -/

/-- The layers. -/
inductive LayerRank where
  | ecoVariable
  | environment
  | file
deriving DecidableEq, Repr

/-- The layers above a layer. -/
def LayerRank.above : LayerRank → List LayerRank
  | ecoVariable => []
  | environment => [ecoVariable]
  | file => [ecoVariable, environment]

namespace Layers

/-- The value that the layer of a rank gives for a setting. -/
def given? (layers : Layers) : LayerRank → Setting → Option SettingValue
  | .ecoVariable, setting => layers.override? setting
  | .environment, setting => (environmentLayer layers.environment).value? setting
  | .file, setting => layers.file.value? setting

/-- The layer gives the value for the setting, and no layer above it gives the setting. -/
structure Decides (layers : Layers) (setting : Setting) (rank : LayerRank) (value : SettingValue) :
    Prop where
  given : layers.given? rank setting = some value
  topmost : ∀ higher ∈ rank.above, layers.given? higher setting = none

/-- What a setting comes out as: what the deciding value means, or the default. -/
inductive Yields (layers : Layers) (setting : Setting) : setting.Held → Prop where
  | decided {rank : LayerRank} {value : SettingValue} {held : setting.Held}
      (decides : layers.Decides setting rank value) (reads : setting.read? value = some held) :
    Yields layers setting held
  | silent (none : ∀ rank, layers.given? rank setting = none) :
    Yields layers setting setting.standard

/-- The setting as it is read from the layers. -/
def outcome? (layers : Layers) (setting : Setting) : Option setting.Held :=
  layers.read setting setting.standard setting.read?

variable {layers : Layers} {setting : Setting}

/-- Layers are asked from the top, and the first to answer decides. -/
theorem topmost?_eq : layers.topmost? setting =
    (layers.given? .ecoVariable setting).or
      ((layers.given? .environment setting).or (layers.given? .file setting)) := by
  unfold topmost?
  simp only [Option.orElse_eq_orElse, Option.orElse_eq_or]
  rfl

/-- The value that is looked up first is that of the deciding layer. -/
theorem topmost?_eq_some_iff {value : SettingValue} :
    layers.topmost? setting = some value ↔ ∃ rank, layers.Decides setting rank value := by
  rw [topmost?_eq]
  constructor
  · intro found
    rcases Option.or_eq_some_iff.mp found with own | ⟨noVariable, below⟩
    · exact ⟨.ecoVariable, own, by simp [LayerRank.above]⟩
    · rcases Option.or_eq_some_iff.mp below with own | ⟨noEnvironment, own⟩
      · exact ⟨.environment, own, by simp [LayerRank.above, noVariable]⟩
      · exact ⟨.file, own, by simp [LayerRank.above, noVariable, noEnvironment]⟩
  · rintro ⟨rank, given, topmost⟩
    cases rank with
    | ecoVariable => rw [given, Option.some_or]
    | environment => rw [topmost .ecoVariable (by simp [LayerRank.above]), given]; rfl
    | file =>
      rw [topmost .ecoVariable (by simp [LayerRank.above]),
        topmost .environment (by simp [LayerRank.above]), given]
      rfl

/-- A setting has no value exactly if no layer gives it. -/
theorem topmost?_eq_none_iff :
    layers.topmost? setting = none ↔ ∀ rank, layers.given? rank setting = none := by
  rw [topmost?_eq, Option.or_eq_none_iff, Option.or_eq_none_iff]
  constructor
  · rintro ⟨noVariable, noEnvironment, noFile⟩ rank
    cases rank <;> assumption
  · intro silent
    exact ⟨silent _, silent _, silent _⟩

/-- A setting is read as what it comes out as. -/
theorem outcome?_eq_some_iff {held : setting.Held} :
    layers.outcome? setting = some held ↔ layers.Yields setting held := by
  unfold outcome? read
  constructor
  · intro read
    cases top : layers.topmost? setting with
    | some value =>
      rw [top] at read
      obtain ⟨rank, decides⟩ := topmost?_eq_some_iff.mp top
      exact .decided decides read
    | none =>
      rw [top] at read
      cases read
      exact .silent (topmost?_eq_none_iff.mp top)
  · intro yields
    cases yields with
    | @decided rank value held decides reads =>
      rw [topmost?_eq_some_iff.mpr ⟨rank, decides⟩]
      exact reads
    | silent silent => rw [topmost?_eq_none_iff.mpr silent]

/-- A setting comes out as one thing only. -/
theorem Yields.unique {held other : setting.Held} (yields : layers.Yields setting held)
    (another : layers.Yields setting other) : held = other := by
  rw [← outcome?_eq_some_iff] at yields another
  exact Option.some.inj (yields.symm.trans another)

/-- The settings are read exactly if every one of them is. -/
theorem ofLayers?_eq_some_iff {settings : Settings} :
    Settings.ofLayers? layers = some settings ↔
      ∀ setting, layers.outcome? setting = some (settings.get setting) := by
  constructor
  · intro read
    obtain ⟨level, levelRead, rest⟩ := Option.bind_eq_some_iff.mp read
    obtain ⟨directory, directoryRead, rest⟩ := Option.bind_eq_some_iff.mp rest
    obtain ⟨json, jsonRead, rest⟩ := Option.bind_eq_some_iff.mp rest
    obtain ⟨depth, depthRead, rest⟩ := Option.bind_eq_some_iff.mp rest
    obtain ⟨eco, ecoRead, made⟩ := Option.bind_eq_some_iff.mp rest
    cases made
    intro setting
    cases setting with
    | logLevel => exact levelRead
    | logDirectory => exact directoryRead
    | logJson => exact jsonRead
    | maxIncludeDepth => exact depthRead
    | ecoFile => exact ecoRead
  · intro each
    refine Option.bind_eq_some_iff.mpr ⟨_, each .logLevel, ?_⟩
    refine Option.bind_eq_some_iff.mpr ⟨_, each .logDirectory, ?_⟩
    refine Option.bind_eq_some_iff.mpr ⟨_, each .logJson, ?_⟩
    refine Option.bind_eq_some_iff.mpr ⟨_, each .maxIncludeDepth, ?_⟩
    exact Option.bind_eq_some_iff.mpr ⟨_, each .ecoFile, rfl⟩

/-- A setting that some layer gives is a matter of that layer and those above it. -/
theorem Decides.yields_iff {rank : LayerRank} {value : SettingValue} {other : Layers}
    (decides : layers.Decides setting rank value)
    (same : ∀ higher ∈ rank :: rank.above,
      other.given? higher setting = layers.given? higher setting) (held : setting.Held) :
    other.Yields setting held ↔ layers.Yields setting held := by
  have alike : other.Decides setting rank value := by
    refine ⟨(same rank List.mem_cons_self).trans decides.given, fun higher above => ?_⟩
    rw [same higher (List.mem_cons_of_mem _ above)]
    exact decides.topmost higher above
  rw [← outcome?_eq_some_iff, ← outcome?_eq_some_iff, outcome?, outcome?, read, read,
    topmost?_eq_some_iff.mpr ⟨rank, alike⟩, topmost?_eq_some_iff.mpr ⟨rank, decides⟩]

end Layers

/-! ### Unknown names

A name may lead into a setting by a path, and then it hides what lies below without giving a value.
Names that lead to no setting at all have no effect, and they can be taken away. -/

/-- The name is that of a setting, or leads into one. -/
def isSettingName (name : String) : Bool :=
  [Setting.logLevel, .logDirectory, .logJson, .maxIncludeDepth, .ecoFile].any fun setting =>
    setting.key = (SettingName.ofText name).root

/-- The variable gives a setting, or leads into one. -/
def isSettingVariable (name : String) : Bool :=
  (dropPrefix? environmentMark.toList (lowerName name)).any fun own =>
    isSettingName (String.ofList own)

/-- The layers without the names that are no setting's. -/
def Layers.known (layers : Layers) : Layers where
  ecoFile := layers.ecoFile
  environment := layers.environment.filter fun entry => isSettingVariable entry.1
  file := layers.file.filter fun entry => isSettingName entry.1

/-- A name that leads to a setting is that of one. -/
theorem isSettingName_of_root {name : String} {setting : Setting}
    (root : (SettingName.ofText name).root = setting.key) : isSettingName name = true := by
  unfold isSettingName
  rw [root]
  cases setting <;> rfl

/-- The key of a setting is its name, with no steps into it. -/
theorem SettingName.ofText_key (setting : Setting) :
    SettingName.ofText setting.key = ⟨setting.key, []⟩ := by
  cases setting <;> rfl

/-- The first entry that leads to a setting decides, and gives its value if it leads no further. -/
theorem Layer.value?_cons (entry : String × SettingValue) (later : Layer) (setting : Setting) :
    Layer.value? (entry :: later) setting =
      if (SettingName.ofText entry.1).root ≠ setting.key then later.value? setting
      else if (SettingName.ofText entry.1).steps = [] then some entry.2
      else some .nested := by
  unfold Layer.value?
  rw [List.findSome?_cons]
  by_cases root : (SettingName.ofText entry.1).root = setting.key
  · by_cases whole : (SettingName.ofText entry.1).steps = [] <;> simp [root, whole]
  · simp [root]

/-- Entries that lead to no setting may be left out. -/
theorem Layer.value?_filter (layer : Layer) (setting : Setting) :
    Layer.value? (layer.filter fun entry => isSettingName entry.1) setting =
      layer.value? setting := by
  induction layer with
  | nil => rfl
  | cons entry later ih =>
    rw [List.filter_cons, value?_cons]
    by_cases root : (SettingName.ofText entry.1).root = setting.key
    · rw [if_pos (isSettingName_of_root root), value?_cons, ih]
    · rw [if_pos root]
      split
      · rw [value?_cons, if_pos root, ih]
      · exact ih

/-- A variable with the mark of the program is an entry, and any other one is none. -/
theorem environmentLayer_cons (entry : String × String) (later : List (String × String)) :
    environmentLayer (entry :: later) =
      match dropPrefix? environmentMark.toList (lowerName entry.1) with
      | none => environmentLayer later
      | some own => (String.ofList own, SettingValue.ofText entry.2) :: environmentLayer later := by
  unfold environmentLayer
  rw [List.filterMap_cons]
  cases dropPrefix? environmentMark.toList (lowerName entry.1) <;> rfl

/-- Variables that lead to no setting may be left out. -/
theorem environmentLayer_filter (environment : List (String × String)) :
    environmentLayer (environment.filter fun entry => isSettingVariable entry.1) =
      (environmentLayer environment).filter fun entry => isSettingName entry.1 := by
  induction environment with
  | nil => rfl
  | cons entry later ih =>
    rw [List.filter_cons, environmentLayer_cons]
    cases marked : dropPrefix? environmentMark.toList (lowerName entry.1) with
    | none =>
      have unmarked : isSettingVariable entry.1 = false := by simp [isSettingVariable, marked]
      simp only [unmarked, Bool.false_eq_true, if_false, ih]
    | some own =>
      have same : isSettingVariable entry.1 = isSettingName (String.ofList own) := by
        simp [isSettingVariable, marked]
      rw [same]
      simp only [List.filter_cons]
      split
      · rw [environmentLayer_cons, marked]
        simp only [ih]
      · exact ih

/-- Names that are no setting's give nothing. -/
theorem Layers.given?_known (layers : Layers) (rank : LayerRank) (setting : Setting) :
    layers.known.given? rank setting = layers.given? rank setting := by
  cases rank with
  | ecoVariable => rfl
  | file => exact layers.file.value?_filter setting
  | environment =>
    unfold given? known
    rw [environmentLayer_filter]
    exact Layer.value?_filter _ setting

/-- No setting depends on names that are none of a setting. -/
theorem Layers.outcome?_known (layers : Layers) (setting : Setting) :
    layers.known.outcome? setting = layers.outcome? setting := by
  unfold outcome? read
  simp only [topmost?_eq, given?_known]

/-! ### The settings file as a layer

A settings file is YAML, and not everything in YAML is a value. The recursion over nested values
follows the reader, and what is left is a condition on scalars and keys. -/

/-- What a value in a settings file must be. Numbers are written in digits, and the keys of a mapping
are texts, numbers or truth values, at every depth. -/
inductive Yaml.Sensible : Yaml → Prop where
  | scalar (value : Scalar)
      (numeral : ∀ spelling, value = .real spelling →
        (Binary64.parse? spelling.toList).isSome = true) :
    Sensible (.scalar value)
  | list (items : List Yaml) (each : ∀ item ∈ items, Sensible item) : Sensible (.list items)
  | mapping (entries : List (Yaml × Yaml))
      (names : ∀ entry ∈ entries, ∃ value, entry.1 = .scalar value ∧ value ≠ .null)
      (values : ∀ entry ∈ entries, Sensible entry.2) : Sensible (.mapping entries)
  | undefined : Sensible .undefined

/-- A key has a name exactly if it is a text, a number or a truth value. -/
theorem keyName?_isSome_iff {key : Yaml} :
    (keyName? key).isSome = true ↔ ∃ value, key = .scalar value ∧ value ≠ .null := by
  cases key with
  | scalar value => cases value <;> simp [keyName?]
  | list | mapping | undefined => simp [keyName?]

/-- A scalar is a value unless it is a number that is none. -/
theorem SettingValue.ofScalar?_isSome_iff {value : Yaml.Scalar} :
    (SettingValue.ofScalar? value).isSome = true ↔
      ∀ spelling, value = .real spelling → (Binary64.parse? spelling.toList).isSome = true := by
  cases value <;> simp [SettingValue.ofScalar?]

mutual

/-- A value is read exactly if it is sensible. -/
theorem SettingValue.ofYaml?_isSome_iff :
    (value : Yaml) → ((SettingValue.ofYaml? value).isSome = true ↔ value.Sensible)
  | .scalar value => by
    rw [SettingValue.ofYaml?, SettingValue.ofScalar?_isSome_iff]
    refine ⟨.scalar value, fun sensible => ?_⟩
    cases sensible with
    | scalar _ numeral => exact numeral
  | .list items => by
    have each := itemsMakeSense_iff items
    rw [SettingValue.ofYaml?]
    constructor
    · intro read
      split at read
      · rename_i sense
        exact .list items (each.mp sense)
      · cases read
    · intro sensible
      cases sensible with
      | list _ sense => rw [if_pos (each.mpr sense)]; rfl
  | .mapping entries => by
    have each := layerOfEntries?_isSome_iff entries
    rw [SettingValue.ofYaml?, Option.isSome_map, each]
    constructor
    · rintro ⟨names, values⟩
      exact .mapping entries names values
    · intro sensible
      cases sensible with
      | mapping _ names values => exact ⟨names, values⟩
  | .undefined => by
    rw [SettingValue.ofYaml?]
    exact ⟨fun _ => .undefined, fun _ => rfl⟩

/-- Items make sense exactly if each of them is sensible. -/
theorem itemsMakeSense_iff :
    (items : List Yaml) → (itemsMakeSense items = true ↔ ∀ item ∈ items, item.Sensible)
  | [] => by simp [itemsMakeSense]
  | item :: items => by
    have head := SettingValue.ofYaml?_isSome_iff item
    have tail := itemsMakeSense_iff items
    rw [itemsMakeSense, Bool.and_eq_true, head, tail, List.forall_mem_cons]

/-- The entries of a mapping are read exactly if they are sensible. -/
theorem layerOfEntries?_isSome_iff :
    (entries : List (Yaml × Yaml)) → ((layerOfEntries? entries).isSome = true ↔
      (∀ entry ∈ entries, ∃ value, entry.1 = .scalar value ∧ value ≠ .null) ∧
        ∀ entry ∈ entries, entry.2.Sensible)
  | [] => by simp [layerOfEntries?]
  | (key, value) :: entries => by
    have name : (keyName? key).isSome = true ↔ ∃ value, key = .scalar value ∧ value ≠ .null :=
      keyName?_isSome_iff
    have head := SettingValue.ofYaml?_isSome_iff value
    have tail := layerOfEntries?_isSome_iff entries
    rw [List.forall_mem_cons, List.forall_mem_cons, ← name, ← head, and_and_and_comm, ← tail,
      layerOfEntries?]
    cases keyName? key <;> cases SettingValue.ofYaml? value <;> cases layerOfEntries? entries <;>
      simp

end

/-- What the entries of a mapping give, those left out that make no sense. -/
def fileLayer (entries : List (Yaml × Yaml)) : Layer :=
  entries.filterMap fun entry =>
    match keyName? entry.1, SettingValue.ofYaml? entry.2 with
    | some name, some value => some (name, value)
    | _, _ => none

/-- Entries that can be read are read as the layer of those that make sense. -/
theorem layerOfEntries?_eq_some {entries : List (Yaml × Yaml)} {layer : Layer}
    (read : layerOfEntries? entries = some layer) : layer = fileLayer entries := by
  induction entries generalizing layer with
  | nil =>
    rw [layerOfEntries?] at read
    cases read
    rfl
  | cons entry later ih =>
    obtain ⟨key, value⟩ := entry
    rw [layerOfEntries?] at read
    split at read
    · rename_i name given rest named valued read'
      cases read
      rw [fileLayer, List.filterMap_cons]
      simp only [named, valued]
      rw [ih read']
      rfl
    · cases read

/-! ### Loading

An installation is a directory and an environment in which the settings file is one that can be
read. There everything is a matter of the layers. -/

/-- The text of the settings file of a directory, which is empty if there is no file. -/
def Disk.settingsFileText (disk : Disk) (directory : String) : String :=
  (((settingsCandidates (settingsPath directory)).findSome? disk.fileAt?).map settingsText).getD ""

/-- The text of a settings file holds the entries. -/
inductive HoldsEntries (text : String) : List (Yaml × Yaml) → Prop where
  | empty (documents : Yaml.readDocuments? text = some []) : HoldsEntries text []
  | mapping {entries : List (Yaml × Yaml)}
      (documents : Yaml.readDocuments? text = some [.mapping entries]) : HoldsEntries text entries

/-- The layers of an environment and the entries of a settings file. -/
def layersOf (environment : List (String × String)) (entries : List (Yaml × Yaml)) : Layers where
  ecoFile := environment.lookup ecoFileVariable
  environment := environment
  file := fileLayer entries

/-- A settings file that holds entries is read as they are. -/
theorem HoldsEntries.readSettingsText?_eq {text : String} {entries : List (Yaml × Yaml)}
    (holds : HoldsEntries text entries) : readSettingsText? text = layerOfEntries? entries := by
  unfold readSettingsText?
  cases holds with
  | empty documents => rw [documents, Option.bind_some, layerOfYaml?, layerOfEntries?]
  | mapping documents => rw [documents, Option.bind_some, layerOfYaml?]

/-- A directory with a settings file that is a sensible mapping or missing, and an environment. -/
structure Installation where
  disk : Disk
  directory : String
  environment : List (String × String)
  entries : List (Yaml × Yaml)
  holds : HoldsEntries (disk.settingsFileText directory) entries
  sensible : (Yaml.mapping entries).Sensible

namespace Installation

/-- The settings that are loaded. -/
def load (here : Installation) : Except SettingsFault Settings :=
  loadSettings here.disk here.directory here.environment

/-- The layers that give settings. -/
def layers (here : Installation) : Layers :=
  layersOf here.environment here.entries

theorem readSettingsText?_eq (here : Installation) :
    readSettingsText? (here.disk.settingsFileText here.directory) = some here.layers.file := by
  rw [here.holds.readSettingsText?_eq]
  have sense := here.sensible
  have read : (layerOfEntries? here.entries).isSome = true := by
    cases sense with
    | mapping _ names values => exact (layerOfEntries?_isSome_iff _).mpr ⟨names, values⟩
  obtain ⟨layer, made⟩ := Option.isSome_iff_exists.mp read
  rw [made, layerOfEntries?_eq_some made]
  rfl

/-- Loading fails only where a setting cannot be read from the layers. -/
theorem load_eq (here : Installation) :
    here.load =
      match Settings.ofLayers? here.layers with
      | none => .error (.invalid (settingsPath here.directory))
      | some settings => .ok settings := by
  have text := here.readSettingsText?_eq
  unfold Disk.settingsFileText at text
  unfold load loadSettings
  simp only [text]
  rfl

/-- Settings are loaded exactly if each of them comes out of the layers. -/
theorem load_eq_ok_iff {here : Installation} {settings : Settings} :
    here.load = .ok settings ↔
      ∀ setting, here.layers.Yields setting (settings.get setting) := by
  have each : Settings.ofLayers? here.layers = some settings ↔ _ := Layers.ofLayers?_eq_some_iff
  simp only [Layers.outcome?_eq_some_iff] at each
  rw [← each, load_eq]
  cases Settings.ofLayers? here.layers <;> simp

theorem exists_load_eq_ok_iff {here : Installation} :
    (∃ settings, here.load = .ok settings) ↔
      ∀ setting, ∃ held, here.layers.Yields setting held := by
  constructor
  · rintro ⟨settings, loaded⟩ setting
    exact ⟨_, load_eq_ok_iff.mp loaded setting⟩
  · intro each
    refine ⟨Settings.ofHeld fun setting => (each setting).choose, load_eq_ok_iff.mpr ?_⟩
    intro setting
    rw [Settings.get_ofHeld]
    exact (each setting).choose_spec

/-- Where loading fails, the settings file is what is blamed. -/
theorem load_eq_error {here : Installation} {fault : SettingsFault}
    (failed : here.load = .error fault) : fault = .invalid (settingsPath here.directory) := by
  rw [load_eq] at failed
  split at failed
  · cases failed
    rfl
  · cases failed

/-- Only what the layers say of the settings matters for loading. -/
theorem load_congr {here there : Installation} (directory : there.directory = here.directory)
    (same : ∀ setting, there.layers.outcome? setting = here.layers.outcome? setting) :
    there.load = here.load := by
  have read : Settings.ofLayers? there.layers = Settings.ofLayers? here.layers := by
    apply Option.ext
    intro settings
    rw [Layers.ofLayers?_eq_some_iff, Layers.ofLayers?_eq_some_iff]
    simp only [same]
  rw [load_eq, load_eq, read, directory]

/-- Settings are loaded exactly if every one of them has a topmost value that fits, and then they are
what these mean; otherwise the settings file is named as invalid. A layer below the one that gives a
setting has no say in it, whatever it holds, and names that are no setting's have none in anything. -/
theorem load_by_topmost (here : Installation) :
    (∀ settings, here.load = .ok settings ↔
        ∀ setting, here.layers.Yields setting (settings.get setting)) ∧
      ((∃ settings, here.load = .ok settings) ↔
        ∀ setting, ∃ held, here.layers.Yields setting held) ∧
      (∀ fault, here.load = .error fault → fault = .invalid (settingsPath here.directory)) ∧
      (∀ (there : Installation) (setting : Setting) (rank : LayerRank) (value : SettingValue),
        here.layers.Decides setting rank value →
        (∀ higher ∈ rank :: rank.above,
          there.layers.given? higher setting = here.layers.given? higher setting) →
        ∀ held, there.layers.Yields setting held ↔ here.layers.Yields setting held) ∧
      ∀ there : Installation, there.directory = here.directory →
        there.layers.known = here.layers.known → there.load = here.load := by
  refine ⟨fun _ => load_eq_ok_iff, exists_load_eq_ok_iff, fun _ => load_eq_error, ?_, ?_⟩
  · intro there setting rank value decides same held
    exact decides.yields_iff same held
  · intro there directory same
    apply load_congr directory
    intro setting
    rw [← there.layers.outcome?_known, same, here.layers.outcome?_known]

/-- A settings file with a list for the log level, and a part of the ECO file in the environment. -/
def layered : Installation where
  disk :=
    { nodes := [(["cfg"], .directory), (["cfg", "pgnopts.yaml"],
        .file (Utf8.encode "log_level: [1]\nmax_include_depth: 3.2\nextra: {a: 1}\n"))]
      workingDirectory := [] }
  directory := "cfg"
  environment := [("PGNOPTS_Log_Level", "007"), ("PGNOPTS_ECO_FILE.X", "1"), ("ECO_FILE", "0x10")]
  entries :=
    [(.scalar (.text "log_level"), .list [.scalar (.integer 1)]),
      (.scalar (.text "max_include_depth"), .scalar (.real "3.2")),
      (.scalar (.text "extra"), .mapping [(.scalar (.text "a"), .scalar (.integer 1))])]
  holds := .mapping (by decide +kernel)
  sensible := (SettingValue.ofYaml?_isSome_iff _).mp (by decide +kernel)

/-- Neither matters, since a layer above gives both settings. -/
theorem layered_load :
    layered.load = .ok { logLevel := "7", maxIncludeDepth := 3, ecoFile := some "0x10" } := by
  have level : layered.layers.Decides .logLevel .environment (.integer 7) :=
    ⟨by decide +kernel, by decide +kernel⟩
  have eco : layered.layers.Decides .ecoFile .ecoVariable (.text "0x10") :=
    ⟨by decide +kernel, by decide +kernel⟩
  have silent : ∀ setting : Setting, setting = .logDirectory ∨ setting = .logJson →
      ∀ rank, layered.layers.given? rank setting = none := by
    rintro _ (rfl | rfl) rank <;> cases rank <;> decide +kernel
  apply (layered.load_by_topmost.1 _).mpr
  intro setting
  cases setting with
  | logLevel => exact .decided level (by decide +kernel)
  | logDirectory => exact .silent (silent _ (.inl rfl))
  | logJson => exact .silent (silent _ (.inr rfl))
  | ecoFile => exact .decided eco (by decide +kernel)
  | maxIncludeDepth =>
    obtain ⟨value, given⟩ : ∃ value, layered.layers.given? .file .maxIncludeDepth = some value :=
      Option.isSome_iff_exists.mp (by decide +kernel)
    refine .decided ⟨given, by decide +kernel⟩ ?_
    have reads : (layered.layers.given? .file .maxIncludeDepth).bind SettingValue.toNat? = some 3 := by
      decide +kernel
    rw [given] at reads
    exact reads

/-- A directory with a settings file in which no setting is given, but a number that is infinite. -/
def infiniteFiles : Disk where
  nodes := [(["cfg"], .directory),
    (["cfg", "pgnopts.yaml"], .file (Utf8.encode "other: .inf\n"))]
  workingDirectory := []

/-- That the file is a mapping is not enough. An infinite number makes it unreadable, although all
settings would have their defaults. -/
theorem infinity_unreadable :
    ¬ ∀ (disk : Disk) (directory : String) (environment : List (String × String))
        (entries : List (Yaml × Yaml)),
      HoldsEntries (disk.settingsFileText directory) entries →
      ((∃ settings, loadSettings disk directory environment = .ok settings) ↔
        ∀ setting, ∃ held, (layersOf environment entries).Yields setting held) := by
  intro reads
  have holds : HoldsEntries (infiniteFiles.settingsFileText "cfg")
      [(.scalar (.text "other"), .scalar (.real ".inf"))] :=
    .mapping (by decide +kernel)
  have silent : ∀ setting rank,
      (layersOf [] [(.scalar (.text "other"), .scalar (.real ".inf"))]).given? rank setting =
        none := by
    intro setting rank
    cases setting <;> cases rank <;> decide +kernel
  have fails : (loadSettings infiniteFiles "cfg" []).toBool = false := by decide +kernel
  obtain ⟨settings, loaded⟩ := (reads infiniteFiles "cfg" [] _ holds).mpr fun setting =>
    ⟨_, .silent (silent setting)⟩
  rw [loaded] at fails
  cases fails

end Installation

end ExtractOptions

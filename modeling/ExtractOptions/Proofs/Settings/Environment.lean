/-
Module: ExtractOptions.Proofs.Settings.Environment
Purpose: texts that are given in the environment. A text that looks like a truth value or a number is
  read as one and written out again, in small letters and in its shortest decimal form; any other text
  is taken as it is. The variable that names an ECO file and nothing else is always taken as it is.
Main exports: Respells, IsRespelled, GivenByVariable, Installation.load_text_settings
-/
import ExtractOptions.Proofs.Settings.Layers

namespace ExtractOptions

open Text

/-! ### How a text comes back

The environment holds texts only, and each is first taken for whatever it looks like. Where a text
is wanted the value is written out again, and `Respells` says as what. -/

/-- The text is read as a truth value. -/
def IsTruthWord (text : String) : Prop :=
  text.toLower = "true" ∨ text.toLower = "false"

/-- What a text in the environment comes back as where a text is wanted. -/
inductive Respells (text : String) : String → Prop where
  | yes (word : text.toLower = "true") : Respells text "true"
  | no (word : text.toLower = "false") : Respells text "false"
  | integer {n : Int} (other : ¬ IsTruthWord text)
      (reads : Numeral.signed64? text.toList = some n) : Respells text (signedNumber n)
  | real {x : Binary64} (other : ¬ IsTruthWord text)
      (broken : Numeral.signed64? text.toList = none)
      (reads : Binary64.parse? text.toList = some x) : Respells text x.text
  | asWritten (other : ¬ IsTruthWord text) (unsigned : Numeral.signed64? text.toList = none)
      (unread : Binary64.parse? text.toList = none) : Respells text text

/-- The text comes back as another one. -/
def IsRespelled (text : String) : Prop :=
  ∃ other, Respells text other ∧ other ≠ text

/-- What the reader makes of a text and writes out again is its respelling. -/
theorem SettingValue.toText?_ofText_iff {text other : String} :
    (SettingValue.ofText text).toText? = some other ↔ Respells text other := by
  unfold ofText
  constructor
  · intro reads
    split at reads
    · rename_i word
      cases reads
      exact .yes word
    · rename_i notTrue
      split at reads
      · rename_i word
        cases reads
        exact .no word
      · rename_i notFalse
        have word : ¬ IsTruthWord text := not_or.mpr ⟨notTrue, notFalse⟩
        split at reads
        · rename_i n whole
          cases reads
          exact .integer word whole
        · rename_i broken
          split at reads
          · rename_i x number
            cases reads
            exact .real word broken number
          · rename_i unread
            cases reads
            exact .asWritten word broken unread
  · intro respells
    cases respells with
    | yes word => rw [if_pos word]; rfl
    | no word => rw [if_neg (by simp [word]), if_pos word]; rfl
    | integer other whole =>
      obtain ⟨notTrue, notFalse⟩ := not_or.mp other
      rw [if_neg notTrue, if_neg notFalse, whole]
      rfl
    | real other broken number =>
      obtain ⟨notTrue, notFalse⟩ := not_or.mp other
      rw [if_neg notTrue, if_neg notFalse, broken, number]
      rfl
    | asWritten other broken unread =>
      obtain ⟨notTrue, notFalse⟩ := not_or.mp other
      rw [if_neg notTrue, if_neg notFalse, broken, unread]
      rfl

/-- Every text comes back in one way. -/
theorem existsUnique_respells (text : String) : ∃ other, Respells text other ∧
    ∀ another, Respells text another → another = other := by
  have some : ∃ other, (SettingValue.ofText text).toText? = some other := by
    unfold SettingValue.ofText
    split
    · exact ⟨_, rfl⟩
    · split
      · exact ⟨_, rfl⟩
      · split
        · exact ⟨_, rfl⟩
        · split <;> exact ⟨_, rfl⟩
  obtain ⟨other, reads⟩ := some
  refine ⟨other, SettingValue.toText?_ofText_iff.mp reads, fun another respells => ?_⟩
  rw [← SettingValue.toText?_ofText_iff, reads] at respells
  exact (Option.some.inj respells).symm

/-- A text comes back as it is unless it is one that is respelled. -/
theorem Respells.eq_text_iff {text other : String} (respells : Respells text other) :
    other = text ↔ ¬ IsRespelled text := by
  obtain ⟨only, _, unique⟩ := existsUnique_respells text
  constructor
  · rintro rfl ⟨another, comes, differs⟩
    exact differs ((unique another comes).trans (unique other respells).symm)
  · intro stays
    exact Decidable.byContradiction fun differs => stays ⟨other, respells, differs⟩

/-! ### Settings that are texts

Some settings hold a text, or hold one or nothing. For these the text is what comes back, and
nothing else can go wrong. -/

/-- The text that a setting holds, if it holds one. -/
def Setting.heldText? : (setting : Setting) → setting.Held → Option String
  | logLevel, text => some text
  | logDirectory, text | ecoFile, text => text
  | logJson, _ | maxIncludeDepth, _ => none

/-- The setting is a text. -/
def Setting.isText : Setting → Bool
  | logLevel | logDirectory | ecoFile => true
  | logJson | maxIncludeDepth => false

/-- The text of a setting. -/
def Settings.text? (settings : Settings) (setting : Setting) : Option String :=
  setting.heldText? (settings.get setting)

/-- A setting that is a text holds what its value comes to as a text. -/
theorem Setting.read?_of_toText? {setting : Setting} (textual : setting.isText = true)
    {value : SettingValue} {text : String} (reads : value.toText? = some text) :
    ∃ held, setting.read? value = some held ∧ setting.heldText? held = some text := by
  have optional : value.toOptionalText? = some (some text) := by
    unfold SettingValue.toOptionalText?
    split
    · cases reads
    · rw [reads]
      rfl
  cases setting with
  | logLevel => exact ⟨text, reads, rfl⟩
  | logDirectory | ecoFile => exact ⟨some text, optional, rfl⟩
  | logJson | maxIncludeDepth => cases textual

/-! ### The variable of a setting

A setting has one variable of its own. Other variables may lead into it, and then it is not given by
its variable alone. -/

/-- The variable of the environment that gives a setting. -/
def Setting.variableName : Setting → String
  | logLevel => "PGNOPTS_LOG_LEVEL"
  | logDirectory => "PGNOPTS_LOG_DIR"
  | logJson => "PGNOPTS_LOG_JSON"
  | maxIncludeDepth => "PGNOPTS_MAX_INCLUDE_DEPTH"
  | ecoFile => "PGNOPTS_ECO_FILE"

/-- The name of the variable leads to the setting. -/
theorem Setting.dropPrefix?_variableName (setting : Setting) :
    dropPrefix? environmentMark.toList (lowerName setting.variableName) =
      some setting.key.toList := by
  cases setting <;> rfl

/-- The setting is given by its variable, and neither it nor a part of it by any other one. -/
structure GivenByVariable (environment : List (String × String)) (setting : Setting)
    (text : String) : Prop where
  given : environment.lookup setting.variableName = some text
  alone : ∀ entry ∈ environment, entry.1 ≠ setting.variableName →
    ∀ name ∈ dropPrefix? environmentMark.toList (lowerName entry.1),
      (SettingName.ofText (String.ofList name)).root ≠ setting.key

/-- What the variable of a setting says is what the environment gives for it. -/
theorem GivenByVariable.value? {environment : List (String × String)} {setting : Setting}
    {text : String} (given : GivenByVariable environment setting text) :
    (environmentLayer environment).value? setting = some (.ofText text) := by
  induction environment with
  | nil => cases given.given
  | cons entry later ih =>
    rw [environmentLayer_cons]
    by_cases own : entry.1 = setting.variableName
    · have same : entry.2 = text := by
        have found := given.given
        rw [List.lookup_cons, own, beq_self_eq_true] at found
        exact Option.some.inj found
      rw [own, setting.dropPrefix?_variableName]
      simp only
      rw [Layer.value?_cons, String.ofList_toList, SettingName.ofText_key, same]
      simp
    · have rest : GivenByVariable later setting text := by
        refine ⟨?_, fun other among => given.alone other (List.mem_cons_of_mem _ among)⟩
        have found := given.given
        rwa [List.lookup_cons, beq_eq_false_iff_ne.mpr (Ne.symm own)] at found
      cases named : dropPrefix? environmentMark.toList (lowerName entry.1) with
      | none => exact ih rest
      | some name =>
        have other := given.alone entry List.mem_cons_self own name named
        simp only
        rw [Layer.value?_cons, if_pos other]
        exact ih rest

namespace Installation

/-- Where every setting comes out as something, the settings are loaded as that. -/
theorem load_of_yields {here : Installation} {setting : Setting} {held : setting.Held}
    (yields : here.layers.Yields setting held)
    (others : ∀ other, other ≠ setting → ∃ held, here.layers.Yields other held) :
    ∃ settings, here.load = .ok settings ∧ settings.get setting = held := by
  have each : ∀ any, ∃ held, here.layers.Yields any held := by
    intro any
    by_cases same : any = setting
    · subst same
      exact ⟨held, yields⟩
    · exact others any same
  obtain ⟨settings, loaded⟩ := exists_load_eq_ok_iff.mpr each
  exact ⟨settings, loaded, (load_eq_ok_iff.mp loaded setting).unique yields⟩

/-- A text that a variable of the environment gives to a setting is loaded as it comes back, whatever
the settings file gives. It is loaded as it is written exactly if it is no other spelling of a truth
value or of a number. The variable that names an ECO file is loaded as it is written. -/
theorem load_text_settings (here : Installation) :
    (∀ (setting : Setting) (text : String), setting.isText = true →
      GivenByVariable here.environment setting text →
      (setting = .ecoFile → here.environment.lookup ecoFileVariable = none) →
      (∀ other, other ≠ setting → ∃ held, here.layers.Yields other held) →
      ∃ settings comes, here.load = .ok settings ∧ Respells text comes ∧
        settings.text? setting = some comes ∧
        (settings.text? setting = some text ↔ ¬ IsRespelled text)) ∧
    ∀ text : String, here.environment.lookup ecoFileVariable = some text →
      (∀ other, other ≠ .ecoFile → ∃ held, here.layers.Yields other held) →
      ∃ settings, here.load = .ok settings ∧ settings.text? .ecoFile = some text := by
  constructor
  · intro setting text textual given uncovered others
    obtain ⟨comes, respells, -⟩ := existsUnique_respells text
    have reads := SettingValue.toText?_ofText_iff.mpr respells
    obtain ⟨held, fits, shows⟩ := Setting.read?_of_toText? textual reads
    have covered : here.layers.given? .ecoVariable setting = none := by
      change (if setting = .ecoFile then _ else none) = none
      split
      · rename_i eco
        change (here.environment.lookup ecoFileVariable).map SettingValue.text = none
        rw [uncovered eco, Option.map_none]
      · rfl
    have decides : here.layers.Decides setting .environment (.ofText text) := by
      refine ⟨given.value?, fun higher above => ?_⟩
      rw [List.mem_singleton.mp above]
      exact covered
    obtain ⟨settings, loaded, same⟩ := load_of_yields (.decided decides fits) others
    have text : settings.text? setting = some comes := by
      rw [Settings.text?, same, shows]
    refine ⟨settings, comes, loaded, respells, text, ?_⟩
    rw [text, Option.some.injEq]
    exact respells.eq_text_iff
  · intro text given others
    have decides : here.layers.Decides .ecoFile .ecoVariable (.text text) := by
      refine ⟨?_, fun higher above => nomatch above⟩
      change (here.environment.lookup ecoFileVariable).map SettingValue.text = _
      rw [given, Option.map_some]
    obtain ⟨settings, loaded, same⟩ := load_of_yields (.decided decides rfl) others
    refine ⟨settings, loaded, ?_⟩
    rw [Settings.text?, same]
    rfl

/-- Numerals and a truth value for texts, over a settings file that would not do. -/
def spelled : Installation where
  disk :=
    { nodes := [(["cfg"], .directory),
        (["cfg", "pgnopts.yaml"], .file (Utf8.encode "log_level: [x]\nlog_dir: d\n"))]
      workingDirectory := [] }
  directory := "cfg"
  environment := [("PGNOPTS_LOG_LEVEL", "007"), ("PGNOPTS_ECO_FILE", "TRUE"), ("ECO_FILE", "1e3")]
  entries :=
    [(.scalar (.text "log_level"), .list [.scalar (.text "x")]),
      (.scalar (.text "log_dir"), .scalar (.text "d"))]
  holds := .mapping (by decide +kernel)
  sensible := (SettingValue.ofYaml?_isSome_iff _).mp (by decide +kernel)

/-- Every setting comes out of those layers as something. -/
theorem spelled_yields (setting : Setting) : ∃ held, spelled.layers.Yields setting held := by
  have outcome : (spelled.layers.outcome? setting).isSome = true := by
    cases setting <;> decide +kernel
  obtain ⟨held, outcome⟩ := Option.isSome_iff_exists.mp outcome
  exact ⟨held, Layers.outcome?_eq_some_iff.mp outcome⟩

/-- The log level is given by its variable alone. -/
theorem spelled_given : GivenByVariable spelled.environment .logLevel "007" :=
  ⟨by decide +kernel, by decide +kernel⟩

/-- A log level of digits is loaded without its zeros, and a name of an ECO file as it is written. -/
theorem spelled_load :
    (∃ settings, spelled.load = .ok settings ∧ settings.logLevel = "7") ∧
      ∃ settings, spelled.load = .ok settings ∧ settings.ecoFile = some "1e3" := by
  constructor
  · obtain ⟨settings, comes, loaded, respells, shows, -⟩ :=
      spelled.load_text_settings.1 .logLevel "007" rfl spelled_given (fun other => nomatch other)
        fun other _ => spelled_yields other
    refine ⟨settings, loaded, ?_⟩
    have seven : Respells "007" "7" :=
      SettingValue.toText?_ofText_iff.mp (by decide +kernel)
    obtain ⟨only, -, unique⟩ := existsUnique_respells "007"
    have same : comes = "7" := (unique comes respells).trans (unique "7" seven).symm
    rw [same] at shows
    exact Option.some.inj shows
  · exact spelled.load_text_settings.2 "1e3" (by decide +kernel) fun other _ => spelled_yields other

/-- A text in the environment is not always taken as it is written. -/
theorem text_respelled :
    ¬ ∀ (here : Installation) (text : String) (settings : Settings),
      GivenByVariable here.environment .logLevel text → here.load = .ok settings →
      settings.logLevel = text := by
  intro asWritten
  obtain ⟨settings, loaded⟩ := exists_load_eq_ok_iff.mpr spelled_yields
  have level : spelled.layers.Yields .logLevel "7" :=
    Layers.outcome?_eq_some_iff.mp (by decide +kernel)
  have same : settings.logLevel = "7" := (load_eq_ok_iff.mp loaded .logLevel).unique level
  have other := asWritten spelled "007" settings spelled_given loaded
  rw [same] at other
  exact absurd other (by decide)

end Installation

end ExtractOptions

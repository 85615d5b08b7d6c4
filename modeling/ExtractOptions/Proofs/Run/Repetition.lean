/-
Module: ExtractOptions.Proofs.Run.Repetition
Purpose: options given twice in a row. An option that succeeded finds nothing in its own doing that it
  would refuse: the values that it set are the ones it asks for, the file that it opened can be opened
  again, and a gate that looks at nothing but the request lets the request pass again. So it succeeds
  again, and the configuration stays as it is. Options that choose the output or read a file are left
  out: the first are refused the second time, and what the second read may have been written
  meanwhile.
Main exports: Gate.IsFixed, Action.Repeats, LetterOption.isRepeatable, Call.isRepeatable,
  Call.run_again
-/
import ExtractOptions.Proofs.Config.Repetition
import ExtractOptions.Proofs.Disk.Beside
import ExtractOptions.Proofs.Disk.Growth
import ExtractOptions.Proofs.Run.Given

namespace ExtractOptions

open Text ExtractOptions.Action

/-- The verdict on a request does not depend on what was recorded before. -/
def Gate.IsFixed (gate : Gate) : Prop :=
  ∀ first second request, gate first request = gate second request

theorem Gate.isFixed_ofRules (rules : List Gate.Rule) : (Gate.ofRules rules).IsFixed :=
  fun _ _ _ => rfl

/-- A file that was opened can be opened again, as the same target. -/
theorem Disk.openTarget_again {disk opened : Disk} {path : String} {mode : OpenMode}
    {target : Target} (made : disk.openTarget path mode = .ok (target, opened)) :
    ∃ reopened, opened.openTarget path mode = .ok (target, reopened) := by
  have grows := Disk.grows_openTarget made
  obtain ⟨place, chosen, same⟩ := bind_eq_ok.mp made
  cases same
  exact ⟨_, bind_eq_ok.mpr
    ⟨place, placeForOutput_of_directories grows.workingDirectory grows.directories chosen, rfl⟩⟩

/-- After the action has succeeded it succeeds again, on any session with the configuration and the
disk that it left, and leaves the configuration as it was, however much it wrote to the log. -/
def Action.Repeats (action : Action Unit) : Prop :=
  ∀ session left : Session, action session = .ok () left →
    ∀ met : Session, met.config = left.config → met.disk = left.disk →
      ∃ again, action met = .ok () again ∧ again.config.rewound = left.config.rewound

/-- The action changes neither the configuration nor the disk, and where it succeeded once it succeeds
always. -/
def Action.Passes (action : Action Unit) : Prop :=
  ∀ session between : Session, action session = .ok () between →
    ∀ met : Session, ∃ passed, action met = .ok () passed ∧
      passed.config = met.config ∧ passed.disk = met.disk

namespace Action.Passes

theorem count (change : Counters → Counters) : Passes (Action.count change) :=
  fun _ _ _ _ => ⟨_, rfl, rfl, rfl⟩

theorem modifyRegistry (change : Registry → Registry) : Passes (Action.modifyRegistry change) :=
  fun _ _ _ _ => ⟨_, rfl, rfl, rfl⟩

/-- What passed a gate that is fixed passes it always. -/
theorem request {context : Context} (fixed : context.gate.IsFixed) (origin : String)
    (request : Request) : Passes (Action.request context origin request) := by
  intro session between run met
  rw [request_apply] at run
  cases verdict : context.gate session.registry request with
  | some reason =>
    rw [verdict] at run
    cases run
  | none =>
    refine ⟨{ met with registry := met.registry.record request }, ?_, rfl, rfl⟩
    rw [request_apply, fixed met.registry session.registry, verdict]

theorem requireFile (option : LetterOption) (file : String) :
    Passes (ExtractOptions.requireFile option file) := by
  intro session between run met
  unfold ExtractOptions.requireFile at run ⊢
  split at run
  · cases run
  · rename_i named
    exact ⟨met, by rw [if_neg named]; rfl, rfl, rfl⟩

end Action.Passes

namespace Action.Repeats

variable {action : Action Unit}

theorem throw (failure : Failure) : Repeats (throw failure) := fun _ _ run => nomatch run

theorem of_passes (passes : Passes action) : Repeats action := by
  intro session left run met config disk
  obtain ⟨again, does, same, -⟩ := passes _ _ run met
  exact ⟨again, does, by rw [same, config]⟩

theorem after_passes {first : Action Unit} (passes : Passes first) (repeats : Repeats action) :
    Repeats (do first; action) := by
  intro session left run met config disk
  obtain ⟨_, between, passed, rest⟩ := bind_ok run
  obtain ⟨on, does, sameConfig, sameDisk⟩ := passes _ _ passed met
  obtain ⟨again, goes, same⟩ :=
    repeats _ _ rest on (by rw [sameConfig, config]) (by rw [sameDisk, disk])
  refine ⟨again, ?_, same⟩
  rw [bind_apply, does]
  exact goes

/-- An action that makes one change to the configuration repeats itself if the change does, and if it
does not look at how much was written to the log. -/
theorem of_change {change : Config → Config}
    (does : ∀ session, ∃ left, action session = .ok () left ∧
      left.config.rewound = (change session.config).rewound)
    (absorbs : ∀ config, change (change config) = change config)
    (blind : ∀ config : Config, (change config).rewound = change config.rewound) :
    Repeats action := by
  intro session left run met config disk
  obtain ⟨_, first, once⟩ := does session
  cases run.symm.trans first
  obtain ⟨again, second, twice⟩ := does met
  refine ⟨again, second, ?_⟩
  calc again.config.rewound
    _ = change left.config.rewound := by rw [twice, config, blind]
    _ = change (change session.config.rewound) := by rw [once, blind]
    _ = change session.config.rewound := absorbs _
    _ = left.config.rewound := by rw [once, blind]

theorem modifyConfig {change : Config → Config}
    (absorbs : ∀ config, change (change config) = change config)
    (blind : ∀ config : Config, (change config).rewound = change config.rewound) :
    Repeats (Action.modifyConfig change) :=
  of_change (fun _ => ⟨_, rfl, rfl⟩) absorbs blind

theorem setLineLength (width : Nat) : Repeats (Action.setLineLength width) :=
  @of_change _ (fun config => { config with lineLength := width }) (fun _ => ⟨_, rfl, rfl⟩)
    (fun _ => rfl) (fun _ => rfl)

theorem warn (message : String) : Repeats (Action.warn message) :=
  @of_change _ id (fun session => ⟨_, rfl, session.rewound_diagnose message⟩) (fun _ => rfl)
    (fun _ => rfl)

theorem adjust {change : Config → Except Failure Config}
    (absorbs : ∀ {config changed}, change config = .ok changed → change changed = .ok changed) :
    Repeats (Action.adjust change) := by
  intro session left run met config disk
  rw [adjust_apply] at run
  cases made : change session.config with
  | error failure =>
    rw [made] at run
    cases run
  | ok changed =>
    rw [made] at run
    cases run
    refine ⟨{ met with config := changed }, ?_, rfl⟩
    rw [adjust_apply, config, absorbs made]

/-- A check that passed passes again, if what was done after it leaves alone what it looks at. -/
theorem checked {test : Config → Except Failure Unit} (repeats : Repeats action)
    (stays : ∀ session left, test session.config = .ok () → action session = .ok () left →
      test left.config = .ok ()) :
    Repeats (do check test; action) := by
  intro session left run met config disk
  obtain ⟨_, between, passed, rest⟩ := bind_ok run
  obtain ⟨rfl, holds⟩ := check_eq_ok passed
  obtain ⟨again, does, same⟩ := repeats _ _ rest met config disk
  refine ⟨again, ?_, same⟩
  rw [bind_apply, check_apply, config, stays _ _ holds rest]
  exact does

/-- An action that goes one of two ways repeats itself if both ways do and each leads back to
itself. -/
theorem branch {test : Config → Bool} {first second : Action Unit} (one : Repeats first)
    (other : Repeats second)
    (stays : ∀ session left, test session.config = true → first session = .ok () left →
      test left.config = true)
    (keepsOff : ∀ session left, test session.config = false → second session = .ok () left →
      test left.config = false) :
    Repeats (do if test (← get).config then first else second) := by
  intro session left run met config disk
  rw [bind_apply, get_apply] at run
  rw [bind_apply, get_apply]
  cases taken : test session.config with
  | true =>
    simp only [taken, if_true] at run
    simp only [config, stays _ _ taken run, if_true]
    exact one _ _ run met config disk
  | false =>
    simp only [taken, Bool.false_eq_true, if_false] at run
    simp only [config, keepsOff _ _ taken run, Bool.false_eq_true, if_false]
    exact other _ _ run met config disk

theorem withValue {name what value : String} {go : Action Unit} (repeats : Repeats go) :
    Repeats (ExtractOptions.withValue name what value go) := by
  unfold ExtractOptions.withValue
  split
  · exact repeats
  · exact throw _

end Action.Repeats

/-! ### Opening a file again -/

/-- An action that opens a file and puts it to use opens it again, as the same target. -/
theorem choose_again {path : String} {mode : OpenMode} {use : Target → Config → Config}
    {session left : Session}
    (run : (do let target ← openTarget path mode; modifyConfig (use target)) session =
      .ok () left) :
    ∃ target, left.config = use target session.config ∧
      ∀ met : Session, met.disk = left.disk →
        ∃ again, (do let target ← openTarget path mode; modifyConfig (use target)) met =
            .ok () again ∧ again.config = use target met.config := by
  rw [bind_apply, openTarget_apply] at run
  cases made : session.disk.openTarget path mode with
  | error cause =>
    rw [made] at run
    cases run
  | ok answer =>
    obtain ⟨target, opened⟩ := answer
    rw [made] at run
    cases run
    obtain ⟨reopened, anew⟩ := Disk.openTarget_again made
    refine ⟨target, rfl, fun met disk =>
      ⟨{ met with disk := reopened, config := use target met.config }, ?_, rfl⟩⟩
    rw [bind_apply, openTarget_apply, disk, anew]
    rfl

theorem selectDuplicates_repeats (file : String) : Repeats (selectDuplicates file) := by
  refine .after_passes (.requireFile _ file) (.checked ?_ ?_)
  · intro session left run met config disk
    obtain ⟨target, chosen, anew⟩ := choose_again run
    obtain ⟨again, does, same⟩ := anew met disk
    exact ⟨again, does, by rw [same, config, chosen]⟩
  · intro session left free run
    obtain ⟨target, chosen, -⟩ := choose_again run
    rw [chosen]
    exact free

theorem selectNonMatching_repeats (file : String) : Repeats (selectNonMatching file) := by
  unfold selectNonMatching
  refine .after_passes (.requireFile _ file) ?_
  by_cases standard : file = "stdout"
  · simp only [if_pos standard]
    exact @Repeats.of_change _ (fun config => { config with nonMatching := some .standardOutput })
      (fun _ => ⟨_, rfl, rfl⟩) (fun _ => rfl) (fun _ => rfl)
  · simp only [if_neg standard]
    intro session left run met config disk
    obtain ⟨_, _, ⟨⟩, run⟩ := bind_ok run
    obtain ⟨target, chosen, anew⟩ := choose_again run
    obtain ⟨again, does, same⟩ :=
      anew { met with config := { met.config with nonMatching := none } } disk
    refine ⟨again, does, ?_⟩
    rw [same, config, chosen]

theorem selectLog_of_ok {file : String} {mode : OpenMode} {session : Session} {target : Target}
    {opened : Disk} (made : session.disk.openTarget file mode = .ok (target, opened)) :
    ∃ left, selectLog file mode session = .ok () left ∧
      left.config = { session.config with log := .file target } ∧ left.disk = opened := by
  unfold selectLog
  simp only [bind_apply, modifyConfig_apply, tryOpen_apply, made]
  exact ⟨_, rfl, rfl, rfl⟩

theorem selectLog_of_error {file : String} {mode : OpenMode} {session : Session} {cause : IoError}
    (made : session.disk.openTarget file mode = .error cause) :
    ∃ left, selectLog file mode session = .ok () left ∧
      left.config = { session.config with log := .standardError } ∧ left.disk = session.disk := by
  unfold selectLog
  simp only [bind_apply, modifyConfig_apply, tryOpen_apply, made]
  exact ⟨_, rfl, rfl, rfl⟩

/-- A log that was opened is opened again. One that could not be opened cannot be the second time
either: the warning went to standard error. -/
theorem selectLog_repeats (file : String) (mode : OpenMode) : Repeats (selectLog file mode) := by
  intro session left run met config disk
  cases made : session.disk.openTarget file mode with
  | ok answer =>
    obtain ⟨target, opened⟩ := answer
    obtain ⟨_, first, logs, leaves⟩ := selectLog_of_ok made
    cases run.symm.trans first
    obtain ⟨reopened, anew⟩ := Disk.openTarget_again made
    rw [← leaves, ← disk] at anew
    obtain ⟨again, second, same, -⟩ := selectLog_of_ok anew
    exact ⟨again, second, by rw [same, config, logs]⟩
  | error cause =>
    obtain ⟨_, first, logs, leaves⟩ := selectLog_of_error made
    cases run.symm.trans first
    rw [← leaves, ← disk] at made
    obtain ⟨again, second, same, -⟩ := selectLog_of_error made
    exact ⟨again, second, by rw [same, config, logs]⟩

/-! ### Every other effect -/

/-- Switches that are off can be turned off, and nothing changes. -/
theorem Config.clear_of_off {config : Config} {switches : List Switch}
    (off : ∀ switch ∈ switches, config.on switch = false) : config.clear switches = config := by
  induction switches with
  | nil => rfl
  | cons switch switches ih =>
    have step : config.clear (switch :: switches) = (config.set switch false).clear switches := rfl
    rw [step, set_of_on (off switch List.mem_cons_self)]
    exact ih fun other among => off other (List.mem_cons_of_mem _ among)

theorem selectFormat_repeats (value : String) : Repeats (selectFormat value) := by
  unfold selectFormat
  split
  · exact .throw _
  · rename_i format parsed
    split
    · rename_i uci
      refine @Repeats.of_change _
        (fun config =>
          { config.stripped with lineLength := uciLineLength, outputFormat := format })
        (fun _ => ⟨_, rfl, rfl⟩) (fun config => ?_) (fun _ => rfl)
      have off : config.stripped.stripped = config.stripped :=
        Config.clear_of_off fun switch among => by simp [Config.stripped, Config.on_clear, among]
      exact congrArg (fun config : Config =>
        { config with lineLength := uciLineLength, outputFormat := format }) off
    · exact .modifyConfig (fun _ => rfl) (fun _ => rfl)

theorem matchHash_repeats (value : String) : Repeats (matchHash value) := by
  unfold matchHash
  split
  · exact .throw _
  · exact .after_passes (.modifyRegistry _)
      (.modifyConfig (fun config => config.set_set _ true) (fun _ => rfl))

/-- The configuration with games classified by the file named, else the one of the settings, else the
one in force. -/
def Config.withEcoFile (context : Context) (file : String) (config : Config) : Config :=
  { config.set .addEco true with
    ecoFile := if file = "" then context.ecoFile.getD config.ecoFile else file }

theorem Config.withEcoFile_again (context : Context) (file : String) (config : Config) :
    (config.withEcoFile context file).withEcoFile context file =
      config.withEcoFile context file := by
  have turned : (config.withEcoFile context file).set .addEco true =
      config.withEcoFile context file := set_of_on (config.on_set .addEco .addEco true)
  have found : (if file = "" then context.ecoFile.getD (config.withEcoFile context file).ecoFile
      else file) = (config.withEcoFile context file).ecoFile := by
    unfold withEcoFile
    cases context.ecoFile <;> by_cases named : file = "" <;> simp [named]
  calc (config.withEcoFile context file).withEcoFile context file
    _ = { (config.withEcoFile context file).set .addEco true with
          ecoFile := if file = "" then
              context.ecoFile.getD (config.withEcoFile context file).ecoFile
            else file } := rfl
    _ = config.withEcoFile context file := by rw [turned, found]

theorem useEcoFile_apply (context : Context) (file : String) (session : Session) :
    useEcoFile context file session =
      Action.request context
        (LetterOption.ecoFile.text ++ (session.config.withEcoFile context file).ecoFile)
        (.ecoTable (session.config.withEcoFile context file).ecoFile)
        { session with config := session.config.withEcoFile context file } := rfl

theorem useEcoFile_repeats {context : Context} (fixed : context.gate.IsFixed) (file : String) :
    Repeats (useEcoFile context file) := by
  intro session left run met config disk
  rw [useEcoFile_apply] at run
  have passes := Passes.request fixed _ _ _ _ run
  obtain ⟨_, first, kept, -⟩ :=
    passes { session with config := session.config.withEcoFile context file }
  cases run.symm.trans first
  have same : met.config.withEcoFile context file = session.config.withEcoFile context file := by
    rw [config, kept]
    exact session.config.withEcoFile_again context file
  obtain ⟨again, second, keeps, -⟩ :=
    passes { met with config := met.config.withEcoFile context file }
  refine ⟨again, ?_, by rw [keeps, kept, same]⟩
  rw [same] at second
  rw [useEcoFile_apply, same]
  exact second

/-- The flag for FEN comments at the end of a game goes by the one for comments after every move. -/
def Config.withFinalFen (config : Config) : Config :=
  config.set .finalFen (!config.on .fenComments)

theorem Config.withFinalFen_again (config : Config) :
    config.withFinalFen.withFinalFen = config.withFinalFen := by
  simp [withFinalFen, set_set]

theorem writeFen_repeats (value : String) : Repeats (writeFen value) := by
  unfold writeFen
  split
  · refine @Repeats.branch (fun config => config.on .fenComments) _ _ ?_ ?_ ?_ ?_
    · exact @Repeats.of_change _ Config.withFinalFen
        (fun session => ⟨_, rfl, congrArg Config.withFinalFen (session.rewound_diagnose _)⟩)
        Config.withFinalFen_again (fun _ => rfl)
    · refine @Repeats.of_change _
        (fun config => Config.withFinalFen { config with fenPattern := some value })
        (fun _ => ⟨_, rfl, rfl⟩) (fun config => ?_) (fun _ => rfl)
      exact Config.withFinalFen_again { config with fenPattern := some value }
    · intro session left commented run
      cases run
      simpa using commented
    · intro session left free run
      cases run
      simpa [Config.on, Config.set] using free
  · exact .modifyConfig Config.withFinalFen_again (fun _ => rfl)

theorem commentWithFen_repeats (name : String) : Repeats (commentWithFen name) := by
  refine @Repeats.branch (fun config => config.fenPattern.isSome) _ _ (.warn _) ?_ ?_ ?_
  · refine .modifyConfig (fun config => ?_) (fun _ => rfl)
    have commented : ((config.set .fenComments true).set .finalFen false).set .fenComments true =
        (config.set .fenComments true).set .finalFen false := Config.set_of_on (by simp)
    rw [commented, Config.set_set]
  · intro session left patterned run
    cases run
    simpa using patterned
  · intro session left free run
    cases run
    exact free

theorem softBound_repeats (name : String) (unit : BoundUnit) (side : BoundSide) (value : String) :
    Repeats (softBound name unit side value) := by
  unfold softBound
  split
  · exact .throw _
  · rename_i n read
    intro session left run met config disk
    rw [bind_apply, get_apply] at run
    rw [bind_apply, get_apply]
    cases fits : session.config.plyBounds.apply unit side n with
    | ok plyBounds =>
      simp only [fits] at run
      have given : left.config.plyBounds = plyBounds := by
        cases run
        rfl
      simp only [config, given, PlyBounds.apply_again fits]
      exact @Repeats.modifyConfig (fun config => { config with plyBounds }) (fun _ => rfl)
        (fun _ => rfl) _ _ run met config disk
    | error refusal =>
      simp only [fits] at run
      have kept : left.config.plyBounds = session.config.plyBounds := by
        cases run
        exact session.plyBounds_diagnose _
      simp only [config, kept, fits]
      exact Repeats.warn _ _ _ run met config disk

/-! ### Options and calls -/

/-- The option neither chooses where games are written to nor reads a file. -/
def LetterOption.isRepeatable : LetterOption → Bool
  | appendOutput | argumentFile | checkFile | sourceList | writeOutput | tagRoster | tagCriteria
  | textualVariations | positionalVariations | colouredEndings | endings => false
  | _ => true

section

variable {context : Context} {includeFile : String → Action Unit}

theorem LetterOption.effect_repeats (fixed : context.gate.IsFixed) {option : LetterOption}
    (repeatable : option.isRepeatable = true) (value : String) :
    Repeats (option.effect context includeFile value) := by
  cases adjusts : option.adjustment? with
  | some adjustment =>
    rw [effect_of_adjustment? adjusts]
    exact .adjust Adjustment.apply_again
  | none =>
    cases option with
    | duplicatesFile => exact selectDuplicates_repeats _
    | ecoFile => exact useEcoFile_repeats fixed _
    | fenComment => exact writeFen_repeats value
    | positionHash => exact matchHash_repeats value
    | help | helpAgain | named => exact .throw _
    | writeLog => exact selectLog_repeats _ .write
    | appendLog => exact selectLog_repeats _ .append
    | nonMatchingFile => exact selectNonMatching_repeats _
    | tagCriterion => exact .of_passes (.request fixed _ _)
    | lineWidth =>
      cases read : Value.plain .lineWidth value with
      | ok width =>
        simp only [effect, read]
        exact .setLineLength width
      | error failure =>
        simp only [effect, read]
        exact .throw failure
    | outputFormat => exact selectFormat_repeats value
    | appendOutput | argumentFile | checkFile | sourceList | writeOutput | tagRoster | tagCriteria
    | textualVariations | positionalVariations | colouredEndings | endings => cases repeatable
    | sevenTagRoster | gamesPerFile | moveBounds | dropComments | dropDuplicates | ecoLevel
    | checkmate | dropNags | plyBounds | exactOrder | checkOnly | soundex | silent | dropFirstCopies
    | dropVariations | virtualHashTable => cases adjusts

theorem LetterOption.perform_repeats (fixed : context.gate.IsFixed) {option : LetterOption}
    (repeatable : option.isRepeatable = true) (value : String) :
    Repeats (option.perform context includeFile value) :=
  .after_passes (.count _) (effect_repeats fixed repeatable value)

/-- The option does not stand for a letter that chooses where games are written to or reads a
file. -/
def NamedOption.isRepeatable (option : NamedOption) : Bool :=
  match option.action with
  | .letter letter => letter.isRepeatable
  | _ => true

theorem NamedOption.effect_repeats (fixed : context.gate.IsFixed) {option : NamedOption}
    (repeatable : option.isRepeatable = true) (value : String) :
    Repeats (option.effect context includeFile value) := by
  unfold effect
  unfold isRepeatable at repeatable
  cases does : option.action with
  | adjust adjustment => exact .adjust Adjustment.apply_again
  | letter letter =>
    rw [does] at repeatable
    exact LetterOption.perform_repeats fixed repeatable _
  | fenComments => exact commentWithFen_repeats _
  | bound unit side => exact softBound_repeats _ unit side value
  | suppressTag => exact .withValue (.of_passes (.modifyRegistry _))
  | fenPattern eitherColour =>
    exact .withValue (.after_passes (.request fixed _ _)
      (.modifyConfig (fun config => config.set_set _ true) (fun _ => rfl)))
  | material bothColours => exact .withValue (.of_passes (.request fixed _ _))
  | version => exact .throw _

end

/-- The call gives one option, which neither chooses where games are written to nor reads a file. -/
def Call.isRepeatable : Call → Bool
  | letter option _ => option.isRepeatable
  | named name _ => (NamedOption.find? name).all NamedOption.isRepeatable
  | commandLine _ | argumentFile _ => false

/-- An option that succeeded succeeds again if it is given again at once with the same value, and
leaves the configuration as it was. -/
theorem Call.run_again {context : Context} (fixed : context.gate.IsFixed) {call : Call}
    (repeatable : call.isRepeatable = true) {session left : Session}
    (run : call.run context session = .ok () left) :
    ∃ again, call.run context left = .ok () again ∧
      again.config.rewound = left.config.rewound := by
  cases call with
  | letter option value =>
    exact LetterOption.perform_repeats fixed repeatable value _ _ run left rfl rfl
  | named name value =>
    cases found : NamedOption.find? name with
    | none =>
      rw [Call.run, performNamed_of_unknown found] at run
      cases run
    | some option =>
      have may : option.isRepeatable = true := by simpa [isRepeatable, found] using repeatable
      rw [Call.run, discard_performNamed found] at run ⊢
      exact Repeats.after_passes (.count _) (NamedOption.effect_repeats fixed may value)
        _ _ run left rfl rfl
  | commandLine | argumentFile => cases repeatable

/-- The file for duplicates is emptied and opened a second time. -/
theorem Call.run_again_opened :
    let context : Context := { gate := Gate.ofRules [⟨.material, "x", "no such piece"⟩] }
    let call : Call := .letter .duplicatesFile "twice.pgn"
    let start : Session := { disk := ⟨[], []⟩ }
    let left := (call.run context).after start
    call.isRepeatable = true ∧ call.run context start = .ok () left ∧
      left.config.duplicates.isSome = true ∧
      ∃ again, call.run context left = .ok () again ∧
        again.config.rewound = left.config.rewound := by
  intro context call start left
  obtain ⟨_, run⟩ := exists_ok_of_succeeds
    (show (call.run context).succeeds start = true by decide +kernel)
  exact ⟨rfl, run, by decide +kernel, Call.run_again (Gate.isFixed_ofRules _) rfl run⟩

end ExtractOptions

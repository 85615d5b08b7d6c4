/-
Module: ExtractOptions.Proofs.Session.Step
Purpose: the steps that a session goes by. A step changes one thing, and says what was checked
  before. Two things are done by few options only, and a step that does one of them needs leave:
  opening a file, and keeping nothing but moves whatever else was asked for.
Main exports: Deed, Session.Step, Session.Steps, Config.rewound, Session.rewound_diagnose, Aside
-/
import ExtractOptions.Proofs.Config.Change
import ExtractOptions.Proofs.DataLine

namespace ExtractOptions

/-- What not every option does. -/
inductive Deed where
  /-- Opening the file at a place for output. -/
  | opening (place : Location)
  /-- Keeping nothing but moves in the output. -/
  | stripping

/-- One step of a session that may do certain deeds. -/
inductive Session.Step (context : Context) (may : Deed → Prop) (session : Session) :
    Session → Prop where
  | countLetter :
    Step context may session
      { session with
        counters := { session.counters with letters := session.counters.letters + 1 } }
  | countName :
    Step context may session
      { session with counters := { session.counters with names := session.counters.names + 1 } }
  | countFile :
    Step context may session
      { session with
        counters :=
          { session.counters with argumentFiles := session.counters.argumentFiles + 1 } }
  | countDataLine :
    Step context may session
      { session with
        counters := { session.counters with dataLines := session.counters.dataLines + 1 } }
  | enter (place : Location) :
    Step context may session { session with including := place :: session.including }
  | leave : Step context may session { session with including := session.including.drop 1 }
  | configure {config : Config} (change : session.config.Change config) :
    Step context may session { session with config }
  | strip (allowed : may .stripping) :
    Step context may session { session with config := session.config.stripped }
  | choose {path : String} {mode : OpenMode} {target : Target} {disk : Disk} {config : Config}
      (opened : session.disk.openTarget path mode = .ok (target, disk))
      (allowed : may (.opening target.place)) (choice : session.config.Chooses target config) :
    Step context may session { session with config, disk }
  | setLineLength (width : Nat) :
    Step context may session
      { session with
        config := { session.config with lineLength := width }
        registry := { session.registry with lineLength := some width } }
  | record (request : Request) (passes : context.gate session.registry request = none) :
    Step context may session { session with registry := session.registry.record request }
  | addSource (path : String) (kind : SourceKind) :
    Step context may session
      { session with
        registry := session.registry.addSource path kind
        counters := { session.counters with sourceFiles := session.counters.sourceFiles + 1 } }
  | suppressTag (tag : String) :
    Step context may session
      { session with
        registry :=
          { session.registry with suppressedTags := session.registry.suppressedTags ++ [tag] } }
  | addHash (hash : Nat) :
    Step context may session
      { session with
        registry :=
          { session.registry with positionHashes := session.registry.positionHashes ++ [hash] } }
  | warn (message : String) :
    Step context may session
      { session.diagnose message with
        counters :=
          { (session.diagnose message).counters with
            warnings := (session.diagnose message).counters.warnings + 1 } }

/-- Any number of steps. -/
abbrev Session.Steps (context : Context) (may : Deed → Prop) : Session → Session → Prop :=
  Relation.ReflTransGen (Session.Step context may)

/-- A step may be taken where more is allowed. -/
theorem Session.Step.mono {context : Context} {may wider : Deed → Prop}
    {first second : Session} (wide : ∀ deed, may deed → wider deed)
    (step : Session.Step context may first second) :
    Session.Step context wider first second := by
  cases step with
  | countLetter => exact .countLetter
  | countName => exact .countName
  | countFile => exact .countFile
  | countDataLine => exact .countDataLine
  | enter place => exact .enter place
  | leave => exact .leave
  | configure change => exact .configure change
  | strip allowed => exact .strip (wide _ allowed)
  | choose opened allowed choice => exact .choose opened (wide _ allowed) choice
  | setLineLength width => exact .setLineLength width
  | record request passes => exact .record request passes
  | addSource path kind => exact .addSource path kind
  | suppressTag tag => exact .suppressTag tag
  | addHash hash => exact .addHash hash
  | warn message => exact .warn message

theorem Session.Steps.mono {context : Context} {may wider : Deed → Prop}
    {first second : Session} (wide : ∀ deed, may deed → wider deed)
    (steps : Session.Steps context may first second) :
    Session.Steps context wider first second :=
  Relation.ReflTransGen.mono (fun _ _ step => step.mono wide) _ _ steps

/-- A message changes the configuration in the log at most. -/
theorem Session.diagnose_config (session : Session) (message : String) :
    ∃ log, (session.diagnose message).config = { session.config with log } := by
  unfold Session.diagnose Session.writeLog
  split
  · exact ⟨session.config.log, rfl⟩
  · split
    · exact ⟨_, rfl⟩
    · exact ⟨session.config.log, rfl⟩

section Diagnose

variable (session : Session) (message : String)

@[simp] theorem Session.on_diagnose (switch : Switch) :
    (session.diagnose message).config.on switch = session.config.on switch := by
  obtain ⟨log, same⟩ := session.diagnose_config message
  rw [same]
  rfl

@[simp] theorem Session.fenPattern_diagnose :
    (session.diagnose message).config.fenPattern = session.config.fenPattern := by
  obtain ⟨log, same⟩ := session.diagnose_config message
  rw [same]

@[simp] theorem Session.plyBounds_diagnose :
    (session.diagnose message).config.plyBounds = session.config.plyBounds := by
  obtain ⟨log, same⟩ := session.diagnose_config message
  rw [same]

end Diagnose

/-- The destination, however much was written to it. -/
def LogTarget.rewound : LogTarget → LogTarget
  | standardError => standardError
  | file target => file { target with offset := 0 }

/-- The configuration, however much was written to the log. -/
def Config.rewound (config : Config) : Config :=
  { config with log := config.log.rewound }

/-- Writing moves a target on, and changes nothing else of it. -/
theorem Disk.rewound_of_write {disk written : Disk} {target later : Target} {bytes : List UInt8}
    (made : disk.write target bytes = .ok (later, written)) :
    { later with offset := 0 } = { target with offset := 0 } := by
  unfold Disk.write at made
  split at made
  · cases made
    rfl
  · split at made
    · split at made <;> cases made <;> rfl
    all_goals cases made

/-- A message moves on in the log, and leaves every other part of the configuration alone. -/
theorem Session.rewound_diagnose (session : Session) (message : String) :
    (session.diagnose message).config.rewound = session.config.rewound := by
  unfold Session.diagnose Session.writeLog
  cases log : session.config.log with
  | standardError => rfl
  | file target =>
    cases made : session.disk.write target (Text.Utf8.encode (message ++ "\n")) with
    | error cause => simp only [made]
    | ok moved => simp [made, Config.rewound, log, LogTarget.rewound, Disk.rewound_of_write made]

/-- A message leaves the registry alone. -/
theorem Session.diagnose_registry (session : Session) (message : String) :
    (session.diagnose message).registry = session.registry := by
  unfold Session.diagnose Session.writeLog
  split
  · rfl
  · split <;> rfl

/-- A message leaves the counters alone. -/
theorem Session.counters_diagnose (session : Session) (message : String) :
    (session.diagnose message).counters = session.counters := by
  unfold Session.diagnose Session.writeLog
  split
  · rfl
  · split <;> rfl

/-- A step that is not an option's. At most it asks for positional variations, and no option is
counted. The disk stays as it is. -/
structure Aside (context : Context) (first second : Session) : Prop where
  step : Session.Step context (fun _ => False) first second
  quiet : second.config = first.config ∨
    second.config = first.config.set .positionalVariations true
  uncounted : second.counters.options = first.counters.options
  disk : second.disk = first.disk

/-- Steps that no option takes leave the disk alone. -/
theorem disk_of_asides {context : Context} {first second : Session}
    (steps : Relation.ReflTransGen (Aside context) first second) : second.disk = first.disk := by
  induction steps with
  | refl => rfl
  | tail _ step ih => rw [step.disk, ih]

/-! ### What lines that give no option do

A line of an argument file may be data or name a source. What it does then is an aside, which is a
step that needs no leave. -/

section Asides

variable {context : Context} {may : Deed → Prop}

open ExtractOptions.Action

/-- What goes by steps that are nobody's goes by steps that are an option's. -/
theorem Aside.goesBy {α : Type} {action : Action α} (goes : GoesBy (Aside context) action) :
    GoesBy (Session.Step context may) action :=
  goes.mono fun _ _ step => step.step.mono fun _ => False.elim

/-- To record a source is an aside. -/
theorem addSource_asides (path : String) (kind : SourceKind) :
    GoesBy (Aside context) (addSource path kind) :=
  fun _ => .single ⟨.addSource path kind, .inl rfl, rfl, rfl⟩

theorem request_asides (origin : String) (request : Request) :
    GoesBy (Aside context) (Action.request context origin request) := by
  intro session
  cases verdict : context.gate session.registry request with
  | some reason => rw [after_of_error (by rw [request_apply, verdict])]
  | none =>
    rw [after_of_ok (by rw [request_apply, verdict])]
    exact .single ⟨.record request verdict, .inl rfl, rfl, rfl⟩

theorem deliver_asides (option : LetterOption) (origin line : String) :
    GoesBy (Aside context) (deliver context option origin line) := by
  have counted : GoesBy (Aside context)
      (count fun counters => { counters with dataLines := counters.dataLines + 1 }) :=
    fun _ => .single ⟨.countDataLine, .inl rfl, rfl, rfl⟩
  have positional : GoesBy (Aside context)
      (modifyConfig fun config => config.set .positionalVariations true) :=
    fun _ => .single ⟨.configure .positional, .inr rfl, rfl, rfl⟩
  obtain ⟨kind, rfl⟩ | takes := option.exists_kind_or
  · rw [deliver_option]
    refine counted.bind fun _ => ?_
    split
    · exact positional.bind fun _ => request_asides _ _
    · exact (GoesBy.pure _).bind fun _ => request_asides _ _
  · rw [deliver_of_not_persists takes]
    exact counted.bind fun _ => .throw _

end Asides

/-! ### What options are made of

The basic actions as steps. Only an adjustment has to be looked at, and for it there is
`Adjustment.change_of_apply`. -/

section Basic

variable {context : Context} {may : Deed → Prop}

open ExtractOptions.Action

/-- An adjustment that an option makes is one change, or none. -/
theorem adjust_goesBy {adjustment : Adjustment} (offered : adjustment.isOffered = true)
    (option : OptionName) (value : String) :
    GoesBy (Session.Step context may) (Action.adjust (adjustment.apply option value)) := by
  intro session
  cases made : adjustment.apply option value session.config with
  | error failure =>
    rw [after_of_error (by rw [adjust_apply, made])]
  | ok config =>
    rw [after_of_ok (by rw [adjust_apply, made])]
    rcases Adjustment.change_of_apply offered made with same | change
    · rw [same]
    · exact .single (.configure change)

/-- A change of the configuration that is listed is a step. -/
theorem modifyConfig_goesBy {change : Config → Config}
    (changes : ∀ config : Config, config.Change (change config)) :
    GoesBy (Session.Step context may) (modifyConfig change) :=
  fun session => .single (.configure (changes session.config))

theorem setLineLength_goesBy (width : Nat) :
    GoesBy (Session.Step context may) (setLineLength width) :=
  fun _ => .single (.setLineLength width)

theorem warn_goesBy (message : String) : GoesBy (Session.Step context may) (warn message) :=
  fun _ => .single (.warn message)

theorem check_goesBy (test : Config → Except Failure Unit) :
    GoesBy (Session.Step context may) (check test) := by
  intro session
  cases outcome : test session.config with
  | ok => rw [after_of_ok (by rw [check_apply, outcome])]
  | error failure => rw [after_of_error (by rw [check_apply, outcome])]

theorem readLines_goesBy (path : String) :
    GoesBy (Session.Step context may) (readLines path) := by
  intro session
  cases outcome : session.disk.readLines path with
  | ok lines => rw [after_of_ok (by rw [readLines_apply, outcome])]
  | error cause => rw [after_of_error (by rw [readLines_apply, outcome])]

/-- What is done for every line of a file goes by steps if each line does. -/
theorem forLines_goesBy {path : String} {visit : String → Action Unit}
    (each : ∀ line, GoesBy (Session.Step context may) (visit line)) :
    GoesBy (Session.Step context may) (forLines path visit) := by
  refine (readLines_goesBy path).bind fun lines => (GoesBy.forM each).bind fun _ => ?_
  split
  · exact .throw _
  · exact .pure ()

end Basic

end ExtractOptions

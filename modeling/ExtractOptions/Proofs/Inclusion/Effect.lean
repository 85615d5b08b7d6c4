/-
Module: ExtractOptions.Proofs.Inclusion.Effect
Purpose: every option does the same on mirrored sessions, as long as it stays away from the file in
  which they differ. It may not read that file as lines of data or as a list, nor open it for
  output. Then it succeeds on both sessions or fails on both in the same way.
Main exports: LetterOption.source?, LetterOption.Spares, LetterOption.alone_matches,
  NamedOption.alone_matches
-/
import ExtractOptions.Proofs.Inclusion.Mirror

namespace ExtractOptions

open Text ExtractOptions.Action

/-- The path that an option reads as a whole when it has the given value. -/
def LetterOption.source? (option : LetterOption) (value : String) : Option String :=
  match option with
  | tagRoster | tagCriteria | textualVariations | positionalVariations | colouredEndings
  | endings | sourceList => some (skipSpaces value)
  | checkFile => if isGameFile (skipSpaces value) then none else some (skipSpaces value)
  | _ => none

namespace Matches

variable {stage : Stage} {session : Session} {context : Context}

/-! ### Basic actions

The actions that programs are built from match themselves unless they touch a file. None of them
looks at what mirrored sessions differ in: the counters, the files being read, and the origins of
tag criteria. -/

/-- The configuration may be changed in any way that leaves alone where diagnostics go. -/
theorem modifyConfig {change : Config → Config}
    (log : (change session.config).log = session.config.log) :
    Matches stage (modifyConfig change) session := by
  intro mirrored mirror
  rw [modifyConfig_apply, modifyConfig_apply, mirror.config]
  exact .ok () (mirror.configure fun target same => mirror.log target (log ▸ same))

theorem check (test : Config → Except Failure Unit) : Matches stage (check test) session := by
  intro mirrored mirror
  rw [check_apply, check_apply, mirror.config]
  cases test session.config with
  | error failure => exact .error failure mirror
  | ok => exact .ok () mirror

/-- No adjustment says where diagnostics go. -/
theorem adjust {adjustment : Adjustment} (offered : adjustment.isOffered = true)
    (option : OptionName) (value : String) :
    Matches stage (Action.adjust (adjustment.apply option value)) session := by
  intro mirrored mirror
  rw [adjust_apply, adjust_apply, mirror.config]
  cases made : adjustment.apply option value session.config with
  | error failure => exact .error failure mirror
  | ok config =>
    refine .ok () (mirror.configure fun target same => ?_)
    rcases Adjustment.change_of_apply offered made with unchanged | change
    · rw [unchanged] at same
      exact mirror.log target same
    · exact mirror.log target (change.log_eq same)

/-- The counters may be changed in any way that does not look at how much was counted. -/
theorem count {change : Counters → Counters}
    (keeps : ∀ counters more, change
        { counters with
          letters := counters.letters + more
          argumentFiles := counters.argumentFiles + more } =
      { change counters with
        letters := (change counters).letters + more
        argumentFiles := (change counters).argumentFiles + more }) :
    Matches stage (Action.count change) session :=
  fun _ mirror => .ok () (mirror.count keeps)

/-- The registry may be changed in any way that does not look at tag criteria. -/
theorem modifyRegistry {change : Registry → Registry}
    (keeps : ∀ registry criteria, change { registry with tagCriteria := criteria } =
      { change registry with tagCriteria := criteria }) :
    Matches stage (Action.modifyRegistry change) session :=
  fun _ mirror => .ok () (mirror.alter keeps)

/-- A gate that ignores origins answers both sessions alike. -/
theorem request (blind : context.gate.IgnoresOrigins) (origin : String) (request : Request) :
    Matches stage (Action.request context origin request) session := by
  intro mirrored mirror
  rw [request_apply, request_apply, mirror.gate_eq blind]
  cases context.gate session.registry request with
  | some reason => exact .error _ mirror
  | none => exact .ok () (mirror.record request)

theorem warn (message : String) : Matches stage (warn message) session := by
  have told : Matches stage (diagnose message) session :=
    fun _ mirror => .ok () (mirror.diagnose message)
  exact told.bind fun _ _ _ => count fun _ _ => rfl

theorem addSource (path : String) (kind : SourceKind) :
    Matches stage (addSource path kind) session :=
  (modifyRegistry fun _ _ => rfl).bind fun _ _ _ => count fun _ _ => rfl

theorem setLineLength (width : Nat) : Matches stage (setLineLength width) session :=
  (modifyConfig rfl).bind fun _ _ _ => modifyRegistry fun _ _ => rfl

/-! ### Files

Opening and reading match themselves away from the two files. Where a path leads is the same on both
disks, so it is enough to keep away on the first. -/

/-- A file that is none of the two is opened for both sessions or for neither. -/
theorem openTarget {path : String} {mode : OpenMode}
    (away : ∀ place, session.disk.placeForOutput path = .ok place → ¬ stage.reserves place) :
    Matches stage (openTarget path mode) session := by
  intro mirrored mirror
  rw [openTarget_apply, openTarget_apply]
  cases made : session.disk.openTarget path mode with
  | error cause =>
    rw [mirror.disk.openTarget_error made]
    exact .error _ mirror
  | ok answer =>
    obtain ⟨target, disk⟩ := answer
    obtain ⟨opened, alike, still⟩ := mirror.openTarget made (away _ (openTarget_eq_ok made).1)
    rw [alike]
    exact .ok target still

/-- A file other than the swapped one reads the same for both sessions. -/
theorem readLines {path : String}
    (away : ∀ place node, session.disk.find path = .ok (place, node) → place ≠ stage.swap.place) :
    Matches stage (readLines path) session := by
  intro mirrored mirror
  have same : mirrored.disk.readLines path = session.disk.readLines path := by
    unfold Disk.readLines
    cases found : session.disk.find path with
    | error cause => rw [mirror.disk.find_error found]
    | ok answer => rw [mirror.disk.find_of_ne found (away answer.1 answer.2 found)]
  rw [readLines_apply, readLines_apply, same]
  cases session.disk.readLines path with
  | error cause => exact .error _ mirror
  | ok held => exact .ok held mirror

/-- What is done for every line of a file is the same if each line is. -/
theorem forLines {path : String} {visit : String → Action Unit}
    (away : ∀ place node, session.disk.find path = .ok (place, node) → place ≠ stage.swap.place)
    (each : ∀ line session, Matches stage (visit line) session) :
    Matches stage (forLines path visit) session := by
  refine (readLines away).bind fun read _ _ => (Matches.forM each).bind fun _ _ _ => ?_
  split
  · exact .throw _
  · exact .pure ()

/-! ### Effects that open a file

Each of these effects opens a file and then puts it to use. Both sessions get the same target, and
the configurations stay the same. -/

/-- A file that diagnostics are directed to is not the one that is swapped. -/
theorem directLog {target : Target} (away : ¬ stage.reserves target.place) :
    Matches stage (Action.modifyConfig fun config => { config with log := .file target })
      session := by
  intro mirrored mirror
  rw [modifyConfig_apply, modifyConfig_apply, mirror.config]
  refine .ok () (mirror.configure fun other same => ?_)
  cases same
  exact away

theorem requireFile (option : LetterOption) (file : String) :
    Matches stage (requireFile option file) session := by
  unfold ExtractOptions.requireFile
  split
  · exact .throw _
  · exact .pure ()

section Opening

variable {path : String} {mode : OpenMode}

/-- Opening a file and putting it to use, though not for diagnostics. -/
theorem choose {use : Target → Config → Config}
    (log : ∀ target config, (use target config).log = config.log)
    (away : ∀ place, session.disk.placeForOutput path = .ok place → ¬ stage.reserves place) :
    Matches stage
      (do let target ← Action.openTarget path mode; Action.modifyConfig (use target)) session :=
  (openTarget away).bind fun target between _ => modifyConfig (log target between.config)

/-- A file other than the two may be chosen for output. -/
theorem selectOutput (option : LetterOption)
    (away : ∀ place, session.disk.placeForOutput path = .ok place → ¬ stage.reserves place) :
    Matches stage (selectOutput option path mode) session := by
  refine (check _).bind fun _ between checked => ?_
  obtain ⟨rfl, -⟩ := check_eq_ok checked
  refine (requireFile option path).bind fun _ later required => ?_
  obtain rfl := requireFile_eq_ok required
  exact choose (fun _ _ => rfl) away

theorem selectDuplicates
    (away : ∀ place, session.disk.placeForOutput path = .ok place → ¬ stage.reserves place) :
    Matches stage (selectDuplicates path) session := by
  refine (requireFile _ path).bind fun _ between required => ?_
  obtain rfl := requireFile_eq_ok required
  refine (check _).bind fun _ later checked => ?_
  obtain ⟨rfl, -⟩ := check_eq_ok checked
  exact choose (fun _ _ => rfl) away

/-- Games that do not match may go to a file other than the two, or to standard output. -/
theorem selectNonMatching
    (away : path ≠ "stdout" →
      ∀ place, session.disk.placeForOutput path = .ok place → ¬ stage.reserves place) :
    Matches stage (selectNonMatching path) session := by
  refine (requireFile _ path).bind fun _ between required => ?_
  obtain rfl := requireFile_eq_ok required
  refine (modifyConfig rfl).bind fun _ later given => ?_
  cases given
  split
  · exact modifyConfig rfl
  · rename_i named
    exact choose (fun _ _ => rfl) (away named)

/-- A file that can be opened for neither session leaves both as they are. -/
theorem tryOpen
    (away : ∀ place, session.disk.placeForOutput path = .ok place → ¬ stage.reserves place) :
    Matches stage (tryOpen path mode) session := by
  intro mirrored mirror
  rw [tryOpen_apply, tryOpen_apply]
  cases made : session.disk.openTarget path mode with
  | error cause =>
    rw [mirror.disk.openTarget_error made]
    exact .ok (Except.error cause) mirror
  | ok answer =>
    obtain ⟨target, disk⟩ := answer
    obtain ⟨opened, alike, still⟩ := mirror.openTarget made (away _ (openTarget_eq_ok made).1)
    rw [alike]
    exact .ok (Except.ok target) still

/-- Until the new file is open, diagnostics go to standard error. -/
theorem leaveLog :
    Matches stage (Action.modifyConfig fun config => { config with log := .standardError })
      session := by
  intro mirrored mirror
  rw [modifyConfig_apply, modifyConfig_apply, mirror.config]
  exact .ok () (mirror.configure nofun)

/-- Diagnostics may go to a file other than the two, even if the old file was left for nothing. -/
theorem selectLog
    (away : ∀ place, session.disk.placeForOutput path = .ok place → ¬ stage.reserves place) :
    Matches stage (selectLog path mode) session := by
  refine leaveLog.bind fun _ between given => ?_
  cases given
  have opens : Matches stage (Action.tryOpen path mode)
      { session with config := { session.config with log := .standardError } } := tryOpen away
  refine opens.bind fun outcome _ tried => ?_
  cases outcome with
  | error cause => exact warn _
  | ok target =>
    obtain ⟨disk, made⟩ := tryOpen_eq_ok tried
    exact directLog (away _ (openTarget_eq_ok made).1)

end Opening

/-! ### Every other effect

The remaining effects of letters and names, put together from the basic actions. Those that read a
file name it in their hypothesis. -/

section Effects

variable {path : String}

/-- A data line makes the same request wherever it stands. -/
theorem deliver (blind : context.gate.IgnoresOrigins) (option : LetterOption)
    (origin line : String) : Matches stage (deliver context option origin line) session := by
  obtain ⟨kind, rfl⟩ | takes := option.exists_kind_or
  · rw [deliver_option]
    refine (count fun _ _ => rfl).bind fun _ _ _ => ?_
    split
    · exact (modifyConfig rfl).bind fun _ _ _ => request blind _ _
    · exact request blind _ _
  · rw [deliver_of_not_persists takes]
    exact (count fun _ _ => rfl).bind fun _ _ _ => .throw _

/-- A file of data lines other than the swapped one is delivered alike. -/
theorem deliverFile (blind : context.gate.IgnoresOrigins) (option : LetterOption)
    (away : ∀ place node, session.disk.find path = .ok (place, node) → place ≠ stage.swap.place) :
    Matches stage (deliverFile context option path) session := by
  refine forLines away fun line _ => ?_
  split
  · exact .pure ()
  · exact deliver blind option path line

/-- A list of source files other than the swapped one is read alike. -/
theorem readSourceList (kind : SourceKind)
    (away : ∀ place node, session.disk.find path = .ok (place, node) → place ≠ stage.swap.place) :
    Matches stage (readSourceList path kind) session := by
  refine forLines away fun line _ => ?_
  split
  · exact .pure ()
  · exact addSource _ kind

theorem deliverNamedFile (blind : context.gate.IgnoresOrigins) (option : LetterOption)
    (away : ∀ place node, session.disk.find path = .ok (place, node) → place ≠ stage.swap.place) :
    Matches stage (deliverNamedFile context option path) session := by
  unfold ExtractOptions.deliverNamedFile
  split
  · exact .pure ()
  · exact deliverFile blind option away

/-- A check file is a source, or a list that must not be the swapped file. -/
theorem addCheckFile
    (away : isGameFile path = false → ∀ place node, session.disk.find path = .ok (place, node) →
      place ≠ stage.swap.place) :
    Matches stage (addCheckFile path) session := by
  refine (requireFile _ path).bind fun _ between required => ?_
  obtain rfl := requireFile_eq_ok required
  split
  · exact addSource path .check
  · rename_i listing
    exact readSourceList .check (away (by simpa using listing))

/-- The gate is asked about the same table of ECO codes. -/
theorem useEcoFile (blind : context.gate.IgnoresOrigins) (file : String) :
    Matches stage (useEcoFile context file) session := by
  refine (modifyConfig rfl).bind fun _ between _ => .get (fun mirrored mirror => ?_) ?_
  · rw [mirror.config]
  · exact request blind _ _

theorem selectFormat (value : String) : Matches stage (selectFormat value) session := by
  unfold ExtractOptions.selectFormat
  cases OutputFormat.parse? value with
  | none => exact .throw _
  | some format =>
    have chosen : ∀ between : Session, Matches stage
        (Action.modifyConfig fun config => { config with outputFormat := format }) between :=
      fun _ => modifyConfig rfl
    simp only
    split
    · exact (modifyConfig rfl).bind fun _ _ _ => (setLineLength _).bind fun _ between _ =>
        chosen between
    · exact chosen session

theorem writeFen (value : String) : Matches stage (writeFen value) session := by
  have finished : ∀ between : Session, Matches stage
      (Action.modifyConfig fun config => config.set .finalFen (!config.on .fenComments)) between :=
    fun _ => modifyConfig rfl
  unfold ExtractOptions.writeFen
  split
  · refine .get (fun mirrored mirror => by rw [mirror.config]) ?_
    split
    · exact (warn _).bind fun _ between _ => finished between
    · exact (modifyConfig rfl).bind fun _ between _ => finished between
  · exact finished session

theorem matchHash (value : String) : Matches stage (matchHash value) session := by
  unfold ExtractOptions.matchHash
  cases Value.hash? value with
  | none => exact .throw _
  | some hash =>
    exact (modifyRegistry fun _ _ => rfl).bind fun _ _ _ => modifyConfig rfl

theorem commentWithFen (name : String) : Matches stage (commentWithFen name) session := by
  refine .get (fun mirrored mirror => by rw [mirror.config]) ?_
  split
  · exact warn _
  · exact modifyConfig rfl

theorem softBound (name : String) (unit : BoundUnit) (side : BoundSide) (value : String) :
    Matches stage (softBound name unit side value) session := by
  unfold ExtractOptions.softBound
  cases Value.unsigned (.named name) Numeral.max32 value with
  | error failure => exact .throw _
  | ok n =>
    refine .get (fun mirrored mirror => by rw [mirror.config]) ?_
    cases session.config.plyBounds.apply unit side n with
    | error refusal => exact warn _
    | ok bounds => exact modifyConfig rfl

theorem withValue {name what value : String} {go : Action Unit}
    (goes : Matches stage go session) : Matches stage (withValue name what value go) session := by
  unfold ExtractOptions.withValue
  split
  · exact goes
  · exact .throw _

end Effects

end Matches

/-! ### Data lines of two files

The inner file of one session is part of the outer file of the other, so a data line may have two
origins. A gate that ignores origins cannot tell. -/

/-- A request that passes for the first session passes for the second one, wherever it is said to come
from. -/
theorem Follows.request {stage : Stage} {session : Session} {context : Context}
    (blind : context.gate.IgnoresOrigins) (origin other : String) (request : Request) :
    Follows stage stage (Action.request context origin request)
      (Action.request context other request) session := by
  intro mirrored mirror _ left run
  rw [request_apply] at run
  cases verdict : context.gate session.registry request with
  | some reason =>
    rw [verdict] at run
    cases run
  | none =>
    rw [verdict] at run
    cases run
    refine ⟨_, ?_, mirror.record request⟩
    rw [request_apply, mirror.gate_eq blind, verdict]

/-- Where a data line stands does not matter as long as it makes the same request. -/
theorem Follows.deliver {stage : Stage} {session : Session} {context : Context}
    (blind : context.gate.IgnoresOrigins) {kind : DataKind} {origin other line : String}
    (same : kind.request other line = kind.request origin line) :
    Follows stage stage (deliver context kind.option origin line)
      (deliver context kind.option other line) session := by
  rw [deliver_option, deliver_option]
  refine (Matches.count fun _ _ => rfl).follows.bind fun _ _ _ => ?_
  rw [same]
  split
  · exact (Matches.modifyConfig rfl).follows.bind fun _ _ _ => .request blind _ _ _
  · exact .request blind _ _ _

/-! ### Every option

All cases of the two tables of options. What an option reads and what it opens is said by `Spares`,
and every case needs just its own part of that. -/

/-- The option neither opens one of the two files for output nor reads the outer one as data. -/
structure LetterOption.Spares (inclusion : Inclusion) (option : LetterOption) (value : String)
    (disk : Disk) : Prop where
  target : ∀ path, option.target? value = some path →
    ∀ place, disk.placeForOutput path = .ok place → ¬ inclusion.reserves place
  source : ∀ path, option.source? value = some path →
    ∀ place node, disk.find path = .ok (place, node) → place ≠ inclusion.swap.place

/-- Every option with a letter matches itself if it spares the two files. -/
theorem LetterOption.alone_matches {stage : Stage} {context : Context} {option : LetterOption}
    {value : String} {session : Session} (blind : context.gate.IgnoresOrigins)
    (spares : option.Spares stage.toInclusion value session.disk) :
    Matches stage (option.alone context value) session := by
  refine (Matches.count fun _ _ => by ac_rfl).bind fun _ _ counted => ?_
  cases counted
  cases makes : option.adjustment? with
  | some adjustment =>
    rw [effect_of_adjustment? makes]
    exact .adjust (isOffered_of_adjustment? makes) _ value
  | none =>
    have away := spares.target
    have reads := spares.source
    cases option with
    | appendOutput => exact .selectOutput _ (away _ rfl)
    | writeOutput => exact .selectOutput _ (away _ rfl)
    | duplicatesFile => exact .selectDuplicates (away _ rfl)
    | writeLog => exact .selectLog (away _ rfl)
    | appendLog => exact .selectLog (away _ rfl)
    | nonMatchingFile => exact .selectNonMatching fun named => away _ (by simp [target?, named])
    | argumentFile => exact (Matches.requireFile _ _).bind fun _ _ _ => .pure ()
    | checkFile => exact .addCheckFile fun listing => reads _ (by simp [source?, listing])
    | ecoFile => exact .useEcoFile blind _
    | fenComment => exact .writeFen value
    | sourceList =>
      refine (Matches.requireFile _ _).bind fun _ between required => ?_
      obtain rfl := requireFile_eq_ok required
      exact .readSourceList .normal (reads _ rfl)
    | positionHash => exact .matchHash value
    | outputFormat => exact .selectFormat value
    | lineWidth =>
      simp only [effect]
      split
      · exact .setLineLength _
      · exact .throw _
    | tagCriterion => exact .request blind _ _
    | tagRoster | tagCriteria | textualVariations | positionalVariations | colouredEndings
    | endings => exact .deliverNamedFile blind _ (reads _ rfl)
    | help | helpAgain | named => exact .throw _
    | sevenTagRoster | gamesPerFile | moveBounds | dropComments | dropDuplicates | ecoLevel
    | checkmate | dropNags | plyBounds | exactOrder | checkOnly | soundex | silent
    | dropFirstCopies | dropVariations | virtualHashTable => cases makes

/-- Every option with a name does, since it stands for a letter or opens no file. -/
theorem NamedOption.alone_matches {stage : Stage} {context : Context} {option : NamedOption}
    {value : String} {session : Session} (blind : context.gate.IgnoresOrigins)
    (listed : option ∈ NamedOption.all)
    (spares : ∀ letter, option.action = .letter letter →
      letter.Spares stage.toInclusion (option.letterValue value) session.disk) :
    Matches stage (option.alone context value) session := by
  refine (Matches.count fun _ _ => rfl).bind fun _ _ counted => ?_
  cases counted
  unfold NamedOption.effect
  cases makes : option.action with
  | adjust adjustment => exact .adjust (isOffered_of_mem listed makes) _ value
  | letter letter => exact letter.alone_matches blind (spares letter makes)
  | fenComments => exact .commentWithFen _
  | bound unit side => exact .softBound _ unit side value
  | suppressTag => exact .withValue (.modifyRegistry fun _ _ => rfl)
  | fenPattern eitherColour =>
    exact .withValue ((Matches.request blind _ _).bind fun _ _ _ => .modifyConfig rfl)
  | material bothColours => exact .withValue (.request blind _ _)
  | version => exact .throw _

end ExtractOptions

/-
Module: ExtractOptions.Proofs.Session.Surface
Purpose: what of a session is seen from outside: the disk, what was written to standard error, and
  where diagnostics go. An option does at most one thing out there: it gives a warning, it opens a
  file, or it directs diagnostics to one. All else that it does is inward.
Main exports: Session.surface, Outward, Outward.apply, Outward.warning?, Session.Shows,
  LetterOption.outward, NamedOption.outward, LetterOption.surface_alone, LetterOption.shows_alone,
  NamedOption.shows_alone, LetterOption.succeeds_of_warning, NamedOption.succeeds_of_warning
-/
import ExtractOptions.Proofs.Config.Aims
import ExtractOptions.Proofs.Session.Atomic

namespace ExtractOptions

open Text ExtractOptions.Action

/-! ### The surface of a session

What an option does outside is one of a few things, and it acts on the surface alone. So the surface
after a run can be computed from the options given, without the rest of the session. -/

/-- What of a session is seen from outside. -/
structure Surface where
  disk : Disk
  standardError : String
  log : LogTarget

/-- The surface of a session. -/
def Session.surface (session : Session) : Surface :=
  ⟨session.disk, session.standardError, session.config.log⟩

/-- The surface after writing one message, with a newline, to where diagnostics go. -/
def Surface.diagnose (surface : Surface) (message : String) : Surface :=
  match surface.log with
  | .standardError => { surface with standardError := surface.standardError ++ (message ++ "\n") }
  | .file target =>
    match surface.disk.write target (Utf8.encode (message ++ "\n")) with
    | .ok (target, disk) => { surface with log := .file target, disk }
    | .error _ => surface

/-- A message changes the surface as it changes the session. -/
theorem Session.surface_diagnose (session : Session) (message : String) :
    (session.diagnose message).surface = session.surface.diagnose message := by
  cases directed : session.config.log with
  | standardError => simp [diagnose, writeLog, Surface.diagnose, surface, directed]
  | file target =>
    cases written : session.disk.write target (Utf8.encode (message ++ "\n")) <;>
      simp [diagnose, writeLog, Surface.diagnose, surface, directed, written]

/-- What an option does outside of the session. -/
inductive Outward where
  | nothing
  | warning (message : String)
  /-- Opening a file that is not for diagnostics. -/
  | opening (path : String) (mode : OpenMode)
  /-- Directing diagnostics to a file. -/
  | logging (path : String) (mode : OpenMode)
deriving DecidableEq, Repr

/-- The warning that a file cannot be opened for diagnostics. -/
def unopenedWarning (path : String) : String :=
  "Unable to open " ++ path ++ " for writing."

/-- The surface after something was done outside. Diagnostics that cannot be directed to a file go
to standard error from then on, and are told so. -/
def Outward.apply (surface : Surface) : Outward → Surface
  | nothing => surface
  | warning message => surface.diagnose message
  | opening path mode =>
    match surface.disk.openTarget path mode with
    | .ok (_, disk) => { surface with disk }
    | .error _ => surface
  | logging path mode =>
    match surface.disk.openTarget path mode with
    | .ok (target, disk) => { surface with disk, log := .file target }
    | .error _ => Surface.diagnose { surface with log := .standardError } (unopenedWarning path)

/-- The warning that is given when something is done outside, if there is one. -/
def Outward.warning? (disk : Disk) : Outward → Option String
  | warning message => some message
  | logging path mode =>
    match disk.openTarget path mode with
    | .ok _ => none
    | .error _ => some (unopenedWarning path)
  | nothing | opening .. => none

/-- The surface after what is done outside, the warning left out. -/
def Outward.applySilently (surface : Surface) : Outward → Surface
  | nothing | warning _ => surface
  | opening path mode =>
    match surface.disk.openTarget path mode with
    | .ok (_, disk) => { surface with disk }
    | .error _ => surface
  | logging path mode =>
    match surface.disk.openTarget path mode with
    | .ok (target, disk) => { surface with disk, log := .file target }
    | .error _ => { surface with log := .standardError }

/-- The warning comes last. -/
theorem Outward.apply_eq (outward : Outward) (surface : Surface) :
    outward.apply surface =
      (outward.warning? surface.disk).toList.foldl Surface.diagnose
        (outward.applySilently surface) := by
  cases outward with
  | nothing | warning | opening => rfl
  | logging path mode =>
    simp only [apply, applySilently, warning?]
    cases surface.disk.openTarget path mode <;> rfl

/-- The second session is the first one after something was done outside. A warning is counted. How
many games go into a file is no part of that, and stays as it was. -/
structure Session.Shows (outward : Outward) (first second : Session) : Prop where
  surface : second.surface = outward.apply first.surface
  gamesPerFile : second.config.gamesPerFile = first.config.gamesPerFile
  warnings : second.counters.warnings =
    first.counters.warnings + (outward.warning? first.disk).toList.length

/-- Nothing was done outside. -/
abbrev Session.Inward : Session → Session → Prop :=
  Session.Shows .nothing

namespace Session.Shows

variable {first second third : Session} {outward : Outward}

theorem refl (session : Session) : session.Inward session :=
  ⟨rfl, rfl, rfl⟩

/-- What is inward may come before something that shows. -/
theorem after_inward (head : first.Inward second) (tail : second.Shows outward third) :
    first.Shows outward third where
  surface := by rw [tail.surface, head.surface]; rfl
  gamesPerFile := tail.gamesPerFile.trans head.gamesPerFile
  warnings := by
    have disk : second.disk = first.disk := congrArg Surface.disk head.surface
    have quiet : second.counters.warnings = first.counters.warnings := head.warnings
    rw [tail.warnings, disk, quiet]

/-- What is inward may come after something that shows. -/
theorem then_inward (head : first.Shows outward second) (tail : second.Inward third) :
    first.Shows outward third where
  surface := tail.surface.trans head.surface
  gamesPerFile := tail.gamesPerFile.trans head.gamesPerFile
  warnings := by
    have quiet : third.counters.warnings = second.counters.warnings := tail.warnings
    rw [quiet, head.warnings]

/-- A warning shows as the one message that it is. -/
theorem warn (session : Session) (message : String) :
    session.Shows (.warning message) ((warn message).after session) where
  surface := session.surface_diagnose message
  gamesPerFile := by
    obtain ⟨log, same⟩ := session.diagnose_config message
    have kept : (session.diagnose message).config.gamesPerFile = session.config.gamesPerFile := by
      rw [same]
    exact kept
  warnings := by
    have counted : (session.diagnose message).counters = session.counters :=
      session.counters_diagnose message
    exact congrArg (fun counters : Counters => counters.warnings + 1) counted

/-- Inward steps come down to one. -/
theorem of_goesBy {α : Type} {action : Action α} (goes : GoesBy Session.Inward action)
    (session : Session) : session.Inward (action.after session) := by
  have collapse : ∀ {last}, Relation.ReflTransGen Session.Inward session last →
      session.Inward last := by
    intro last steps
    induction steps with
    | refl => exact refl session
    | tail _ step ih => exact ih.after_inward step
  exact collapse (goes session)

end Session.Shows

/-! ### Actions that are inward

Most actions change the registry, the counters or the configuration, and none of these shows. They
are inward one by one and in any sequence. -/

/-- Only looking shows nowhere. -/
theorem Action.GoesBy.of_looks {α : Type} {step : Session → Session → Prop} {action : Action α}
    (looks : Looks action) : GoesBy step action := by
  intro session
  rw [looks session]

section Inward

variable {context : Context}

theorem modifyConfig_inward {change : Config → Config}
    (log : ∀ config, (change config).log = config.log)
    (gamesPerFile : ∀ config, (change config).gamesPerFile = config.gamesPerFile) :
    GoesBy Session.Inward (modifyConfig change) := by
  intro session
  have same : ({ session with config := change session.config } : Session).surface =
      session.surface := by
    unfold Session.surface
    rw [log]
  exact .single ⟨same, gamesPerFile session.config, rfl⟩

theorem modifyRegistry_inward (change : Registry → Registry) :
    GoesBy Session.Inward (modifyRegistry change) :=
  fun _ => .single ⟨rfl, rfl, rfl⟩

/-- Counting is inward, unless it counts warnings. -/
theorem count_inward {change : Counters → Counters}
    (quiet : ∀ counters, (change counters).warnings = counters.warnings) :
    GoesBy Session.Inward (count change) :=
  fun session => .single ⟨rfl, rfl, quiet session.counters⟩

theorem setLineLength_inward (width : Nat) : GoesBy Session.Inward (setLineLength width) :=
  fun _ => .single ⟨rfl, rfl, rfl⟩

theorem addSource_inward (path : String) (kind : SourceKind) :
    GoesBy Session.Inward (addSource path kind) :=
  fun _ => .single ⟨rfl, rfl, rfl⟩

theorem request_inward (origin : String) (request : Request) :
    GoesBy Session.Inward (Action.request context origin request) := by
  intro session
  cases verdict : context.gate session.registry request with
  | some reason => rw [after_of_error (by rw [request_apply, verdict])]
  | none =>
    rw [after_of_ok (by rw [request_apply, verdict])]
    exact .single ⟨rfl, rfl, rfl⟩

theorem deliver_inward (option : LetterOption) (origin line : String) :
    GoesBy Session.Inward (deliver context option origin line) := by
  have counted : GoesBy Session.Inward
      (count fun counters => { counters with dataLines := counters.dataLines + 1 }) :=
    count_inward fun _ => rfl
  obtain ⟨kind, rfl⟩ | takes := option.exists_kind_or
  · rw [deliver_option]
    refine counted.bind fun _ => ?_
    split
    · refine (modifyConfig_inward ?_ ?_).bind fun _ => request_inward _ _ <;> exact fun _ => rfl
    · exact (GoesBy.pure _).bind fun _ => request_inward _ _
  · rw [deliver_of_not_persists takes]
    exact counted.bind fun _ => .throw _

theorem readLines_looks (path : String) : Looks (readLines path) := by
  intro session
  cases read : session.disk.readLines path with
  | error cause => rw [after_of_error (by rw [readLines_apply, read])]
  | ok lines => rw [after_of_ok (by rw [readLines_apply, read])]

theorem forLines_inward {path : String} {visit : String → Action Unit}
    (each : ∀ line, GoesBy Session.Inward (visit line)) :
    GoesBy Session.Inward (forLines path visit) := by
  refine (GoesBy.of_looks (readLines_looks path)).bind fun lines => ?_
  refine (GoesBy.forM each).bind fun _ => ?_
  split
  · exact .throw _
  · exact .pure ()

/-- Data lines are recorded, which shows nowhere. -/
theorem deliverFile_inward (option : LetterOption) (path : String) :
    GoesBy Session.Inward (deliverFile context option path) := by
  refine forLines_inward fun line => ?_
  split
  · exact .pure ()
  · exact deliver_inward option path line

theorem readSourceList_inward (path : String) (kind : SourceKind) :
    GoesBy Session.Inward (readSourceList path kind) := by
  refine forLines_inward fun line => ?_
  split
  · exact .pure ()
  · exact addSource_inward _ kind

theorem deliverNamedFile_inward (option : LetterOption) (file : String) :
    GoesBy Session.Inward (deliverNamedFile context option file) := by
  unfold deliverNamedFile
  split
  · exact .pure ()
  · exact deliverFile_inward option file

theorem addCheckFile_inward (file : String) : GoesBy Session.Inward (addCheckFile file) := by
  refine (GoesBy.of_looks (.requireFile _ file)).bind fun _ => ?_
  split
  · exact addSource_inward file .check
  · exact readSourceList_inward file .check

theorem useEcoFile_inward (file : String) : GoesBy Session.Inward (useEcoFile context file) := by
  refine (modifyConfig_inward ?_ ?_).bind fun _ => ?_
  · exact fun _ => rfl
  · exact fun _ => rfl
  · exact (GoesBy.of_looks .get).bind fun _ => request_inward _ _

theorem matchHash_inward (value : String) : GoesBy Session.Inward (matchHash value) := by
  unfold matchHash
  split
  · exact .throw _
  · refine (modifyRegistry_inward _).bind fun _ => modifyConfig_inward ?_ ?_ <;> exact fun _ => rfl

theorem selectFormat_inward (value : String) : GoesBy Session.Inward (selectFormat value) := by
  unfold selectFormat
  split
  · exact .throw _
  · rename_i format _
    have chosen : GoesBy Session.Inward
        (modifyConfig fun config => { config with outputFormat := format }) :=
      modifyConfig_inward (fun _ => rfl) fun _ => rfl
    have stripped : GoesBy Session.Inward (modifyConfig Config.stripped) := by
      refine modifyConfig_inward ?_ ?_ <;> intro config <;> rw [Config.stripped, Config.clear_eq]
    split
    · exact stripped.bind fun _ => (setLineLength_inward _).bind fun _ => chosen
    · exact chosen

theorem withValue_inward {go : Action Unit} (goes : GoesBy Session.Inward go)
    (name what value : String) : GoesBy Session.Inward (withValue name what value go) := by
  unfold withValue
  split
  · exact goes
  · exact .throw _

end Inward

/-! ### Adjustments

An adjustment leaves alone where diagnostics go, and so it is inward. How many games go into a file
is watched too, and the one adjustment that changes it is excepted. -/

/-- An adjustment shows nowhere. -/
theorem surface_adjust (adjustment : Adjustment) (option : OptionName) (value : String)
    (session : Session) :
    ((Action.adjust (adjustment.apply option value)).after session).surface = session.surface := by
  cases made : adjustment.apply option value session.config with
  | error failure => rw [after_of_error (by rw [adjust_apply, made])]
  | ok config =>
    rw [after_of_ok (by rw [adjust_apply, made])]
    unfold Session.surface
    rw [(Adjustment.yields_spares config made).log]

/-- An adjustment gives no warning. -/
theorem warnings_adjust (change : Config → Except Failure Config) (session : Session) :
    ((Action.adjust change).after session).counters.warnings = session.counters.warnings := by
  cases made : change session.config with
  | error failure => rw [after_of_error (by rw [adjust_apply, made])]
  | ok config => rw [after_of_ok (by rw [adjust_apply, made])]

/-- An adjustment is inward, unless it says how many games go into a file. -/
theorem adjust_inward {adjustment : Adjustment} (other : adjustment ≠ .gamesPerFile)
    (option : OptionName) (value : String) :
    GoesBy Session.Inward (Action.adjust (adjustment.apply option value)) := by
  intro session
  refine .single ⟨surface_adjust adjustment option value session, ?_,
    warnings_adjust _ session⟩
  cases made : adjustment.apply option value session.config with
  | error failure => rw [after_of_error (by rw [adjust_apply, made])]
  | ok config =>
    rw [after_of_ok (by rw [adjust_apply, made])]
    exact (Adjustment.yields_spares config made).gamesPerFile other

/-! ### Actions that open files

Each of these opens one file, or fails and shows nothing. -/

/-- The action opens the file if it succeeds, and does nothing outside otherwise. -/
def Action.Opens (path : String) (mode : OpenMode) (action : Action Unit) : Prop :=
  ∀ session : Session,
    session.Shows (if action.succeeds session then .opening path mode else .nothing)
      (action.after session)

section Opening

variable {path : String} {mode : OpenMode}

/-- Where the first part is inward, the second one decides what shows. -/
theorem Action.Opens.after_inward {α : Type} {action : Action α} {next : α → Action Unit}
    (inward : GoesBy Session.Inward action) (opens : ∀ answer, Opens path mode (next answer)) :
    Opens path mode (action >>= next) := by
  intro session
  have first := Session.Shows.of_goesBy inward session
  cases run : action session with
  | ok answer between =>
    have same : (action >>= next) session = next answer between := by rw [bind_apply, run]
    rw [after_of_ok run] at first
    rw [succeeds_congr same, after_congr same]
    exact first.after_inward (opens answer between)
  | error failure between =>
    have same : (action >>= next) session = .error failure between := by rw [bind_apply, run]
    rw [after_of_error run] at first
    rw [succeeds_of_error same, after_of_error same]
    exact first

/-- A file that is opened is put to use. -/
theorem choose_opens {use : Target → Config → Config}
    (log : ∀ target config, (use target config).log = config.log)
    (gamesPerFile : ∀ target config, (use target config).gamesPerFile = config.gamesPerFile) :
    Opens path mode (do let target ← openTarget path mode; modifyConfig (use target)) := by
  intro session
  cases made : session.disk.openTarget path mode with
  | error cause =>
    have run : (do let target ← openTarget path mode; modifyConfig (use target)) session =
        .error (.resource path .writing cause) session := by
      rw [bind_apply, openTarget_apply, made]
    rw [succeeds_of_error run, after_of_error run]
    exact .refl session
  | ok answer =>
    obtain ⟨target, disk⟩ := answer
    have run : (do let target ← openTarget path mode; modifyConfig (use target)) session =
        .ok () { session with disk, config := use target session.config } := by
      rw [bind_apply, openTarget_apply, made]
      rfl
    rw [succeeds_of_ok run, after_of_ok run]
    refine ⟨?_, gamesPerFile target session.config, rfl⟩
    simp [Outward.apply, Session.surface, made, log]

theorem selectOutput_opens (option : LetterOption) :
    Opens path mode (selectOutput option path mode) := by
  refine Opens.after_inward (.of_looks (.check _)) fun _ => ?_
  refine Opens.after_inward (.of_looks (.requireFile option path)) fun _ => ?_
  exact choose_opens (fun _ _ => rfl) fun _ _ => rfl

theorem selectDuplicates_opens : Opens path .write (selectDuplicates path) := by
  refine Opens.after_inward (.of_looks (.requireFile _ path)) fun _ => ?_
  refine Opens.after_inward (.of_looks (.check _)) fun _ => ?_
  exact choose_opens (fun _ _ => rfl) fun _ _ => rfl

theorem noNonMatching_inward :
    GoesBy Session.Inward (modifyConfig fun config => { config with nonMatching := none }) :=
  modifyConfig_inward (fun _ => rfl) fun _ => rfl

/-- A file for games that do not match is opened, unless it is standard output. -/
theorem selectNonMatching_opens (named : path ≠ "stdout") :
    Opens path .write (selectNonMatching path) := by
  refine Opens.after_inward (.of_looks (.requireFile _ path)) fun _ => ?_
  refine Opens.after_inward noNonMatching_inward fun _ => ?_
  rw [if_neg named]
  exact choose_opens (fun _ _ => rfl) fun _ _ => rfl

/-- Standard output is not opened. -/
theorem selectNonMatching_inward : GoesBy Session.Inward (selectNonMatching "stdout") := by
  refine (GoesBy.of_looks (.requireFile _ _)).bind fun _ => noNonMatching_inward.bind fun _ => ?_
  rw [if_pos rfl]
  exact modifyConfig_inward (fun _ => rfl) fun _ => rfl

/-- Diagnostics go to standard error before the file is opened for them. -/
theorem selectLog_shows (session : Session) :
    session.Shows (.logging path mode) ((selectLog path mode).after session) := by
  cases made : session.disk.openTarget path mode with
  | ok answer =>
    obtain ⟨target, disk⟩ := answer
    have run : selectLog path mode session =
        .ok () { session with disk, config := { session.config with log := .file target } } := by
      simp [selectLog, tryOpen_apply, made]
    rw [after_of_ok run]
    refine ⟨by simp [Outward.apply, Session.surface, made], rfl, ?_⟩
    simp [Outward.warning?, made]
  | error cause =>
    have run : selectLog path mode session =
        warn (unopenedWarning path)
          { session with config := { session.config with log := .standardError } } := by
      simp only [selectLog, bind_apply, modifyConfig_apply, tryOpen_apply, made]
      rfl
    have warned := Session.Shows.warn
      { session with config := { session.config with log := .standardError } }
      (unopenedWarning path)
    rw [after_congr run]
    refine ⟨by rw [warned.surface]; simp [Outward.apply, Session.surface, made],
      warned.gamesPerFile, ?_⟩
    rw [warned.warnings]
    simp [Outward.warning?, made]

end Opening

/-! ### Options that warn

The options that may warn, each with the condition on which it does. -/

/-- What writing a FEN comment does outside: comments after every move already hold it. -/
theorem writeFen_shows (value : String) (session : Session) :
    session.Shows
      (if value ≠ "" ∧ session.config.on .fenComments = true then
        .warning (LetterOption.fenComment.text ++ value ++ " conflicts with --fencomments")
      else .nothing)
      ((writeFen value).after session) := by
  have finished : GoesBy Session.Inward
      (modifyConfig fun config => config.set .finalFen (!config.on .fenComments)) :=
    modifyConfig_inward (fun _ => rfl) fun _ => rfl
  unfold writeFen
  by_cases given : value ≠ ""
  · rw [if_pos given, after_bind_of_ok (get_apply session)]
    cases commented : session.config.on .fenComments with
    | true =>
      rw [if_pos ⟨given, rfl⟩, if_pos rfl, after_bind_of_ok (warn_apply _ session)]
      exact (Session.Shows.warn session _).then_inward (.of_goesBy finished _)
    | false =>
      rw [if_neg (by simp), if_neg (by simp)]
      refine Session.Shows.of_goesBy (GoesBy.bind ?_ fun _ => finished) session
      exact modifyConfig_inward (fun _ => rfl) fun _ => rfl
  · rw [if_neg given, if_neg (by simp [given])]
    exact Session.Shows.of_goesBy finished session

/-- Comments after every move are warned about where a pattern was given. -/
theorem commentWithFen_shows (name : String) (session : Session) :
    session.Shows
      (if session.config.fenPattern.isSome then
        .warning ("--" ++ name ++ " conflicts with " ++ LetterOption.fenComment.text ++ "pattern")
      else .nothing)
      ((commentWithFen name).after session) := by
  unfold commentWithFen
  rw [after_bind_of_ok (get_apply session)]
  split
  · exact .warn session _
  · refine Session.Shows.of_goesBy ?_ session
    exact modifyConfig_inward (fun _ => rfl) fun _ => rfl

/-- What a bound given by name does outside, when the bounds in force are the given ones. -/
def softBoundOutward (name : String) (unit : BoundUnit) (side : BoundSide) (value : String)
    (bounds : PlyBounds) : Outward :=
  match Value.unsigned (.named name) Numeral.max32 value with
  | .error _ => .nothing
  | .ok n =>
    match bounds.apply unit side n with
    | .ok _ => .nothing
    | .error refusal => .warning ("--" ++ name ++ " " ++ number n ++ ": " ++ refusal.message)

/-- A bound given by name shows exactly if it is refused. -/
theorem softBound_shows (name : String) (unit : BoundUnit) (side : BoundSide) (value : String)
    (session : Session) :
    session.Shows (softBoundOutward name unit side value session.config.plyBounds)
      ((softBound name unit side value).after session) := by
  unfold softBound softBoundOutward
  cases Value.unsigned (.named name) Numeral.max32 value with
  | error failure => exact .refl session
  | ok n =>
    simp only
    rw [after_bind_of_ok (get_apply session)]
    cases session.config.plyBounds.apply unit side n with
    | error refusal => exact .warn session _
    | ok bounds => exact ⟨rfl, rfl, rfl⟩

/-! ### What options do outside

A function from the option, its value and the session that it meets to what it does outside. That it
is right is shown letter by letter and name by name. -/

/-- How an option opens its file. -/
def LetterOption.openMode : LetterOption → OpenMode
  | appendOutput | appendLog => .append
  | _ => .write

/-- What an option with the given value does outside of the session that it meets. -/
def LetterOption.outward (context : Context) (option : LetterOption) (value : String)
    (session : Session) : Outward :=
  match option with
  | writeLog | appendLog => .logging (skipSpaces value) option.openMode
  | fenComment =>
    if value ≠ "" ∧ session.config.on .fenComments = true then
      .warning (fenComment.text ++ value ++ " conflicts with --fencomments")
    else .nothing
  | _ =>
    match option.target? value with
    | some path =>
      if (option.alone context value).succeeds session then .opening path option.openMode
      else .nothing
    | none => .nothing

/-- An option that opens a file has succeeded, and the file is the one that its value names. -/
theorem LetterOption.target?_of_opening {context : Context} {option : LetterOption}
    {value path : String} {session : Session} {mode : OpenMode}
    (does : option.outward context value session = .opening path mode) :
    option.target? value = some path ∧ option.openMode = mode ∧
      (option.alone context value).succeeds session = true := by
  have opens : (match option.target? value with
      | some path =>
        if (option.alone context value).succeeds session then .opening path option.openMode
        else .nothing
      | none => .nothing) = Outward.opening path mode := by
    cases option with
    | writeLog | appendLog => cases does
    | fenComment =>
      simp only [outward] at does
      split at does <;> cases does
    | _ => exact does
  cases names : option.target? value with
  | none =>
    rw [names] at opens
    cases opens
  | some file =>
    simp only [names] at opens
    split at opens
    · rename_i success
      cases opens
      exact ⟨rfl, rfl, success⟩
    · cases opens

/-- Directing diagnostics to a file never fails. -/
theorem LetterOption.target?_of_logging {context : Context} {option : LetterOption}
    {value path : String} {session : Session} {mode : OpenMode}
    (does : option.outward context value session = .logging path mode) :
    option.target? value = some path ∧ option.openMode = mode ∧
      (option.alone context value).succeeds session = true := by
  have selects : (option.effect context (fun _ => pure ()) value).succeeds session.lettered = true →
      (option.alone context value).succeeds session = true := id
  cases option with
  | writeLog =>
    cases does
    exact ⟨rfl, rfl, selects (Total.selectLog (skipSpaces value) .write session.lettered)⟩
  | appendLog =>
    cases does
    exact ⟨rfl, rfl, selects (Total.selectLog (skipSpaces value) .append session.lettered)⟩
  | fenComment =>
    simp only [outward] at does
    split at does <;> cases does
  | appendOutput | writeOutput | duplicatesFile =>
    simp only [outward, target?] at does
    split at does <;> cases does
  | nonMatchingFile =>
    simp only [outward, target?] at does
    split at does
    · split at does <;> cases does
    · cases does
  | _ => cases does

/-- What a named option with the given value does outside of the session that it meets. -/
def NamedOption.outward (context : Context) (option : NamedOption) (value : String)
    (session : Session) : Outward :=
  match option.action with
  | .letter letter => letter.outward context (option.letterValue value) session.named
  | .fenComments =>
    if session.config.fenPattern.isSome then
      .warning ("--" ++ option.name ++ " conflicts with " ++ LetterOption.fenComment.text ++
        "pattern")
    else .nothing
  | .bound unit side =>
    softBoundOutward option.name unit side value session.config.plyBounds
  | .adjust _ | .suppressTag | .fenPattern _ | .material _ | .version => .nothing

section Options

variable (context : Context)

/-- Counting an option shows nowhere. -/
theorem LetterOption.shows_of_effect {option : LetterOption} {value : String} {session : Session}
    {outward : Outward}
    (shows : session.lettered.Shows outward
      ((option.effect context (fun _ => pure ()) value).after session.lettered)) :
    session.Shows outward ((option.alone context value).after session) := by
  have counted : option.alone context value session =
      option.effect context (fun _ => pure ()) value session.lettered := rfl
  have lettered : session.Inward session.lettered := ⟨rfl, rfl, rfl⟩
  rw [after_congr counted]
  exact lettered.after_inward shows

/-- An option that comes down to an adjustment does nothing outside. -/
theorem LetterOption.outward_of_adjustment? {option : LetterOption} {adjustment : Adjustment}
    (makes : option.adjustment? = some adjustment) (value : String) (session : Session) :
    option.outward context value session = .nothing := by
  cases option <;> cases makes <;> rfl

/-- An option named by a letter does outside what it is said to do, and nothing else. -/
theorem LetterOption.shows_alone {option : LetterOption} (other : option ≠ .gamesPerFile)
    (value : String) (session : Session) :
    session.Shows (option.outward context value session)
      ((option.alone context value).after session) := by
  have counted : GoesBy Session.Inward
      (count fun counters => { counters with letters := counters.letters + 1 }) :=
    count_inward fun _ => rfl
  have inward : GoesBy Session.Inward (option.effect context (fun _ => pure ()) value) →
      session.Inward ((option.alone context value).after session) := fun goes =>
    .of_goesBy (counted.bind fun _ => goes) session
  have opens : ∀ {path mode}, Opens path mode (option.effect context (fun _ => pure ()) value) →
      session.Shows
        (if (option.alone context value).succeeds session then .opening path mode else .nothing)
        ((option.alone context value).after session) := fun opens =>
    Opens.after_inward counted (fun _ => opens) session
  cases makes : option.adjustment? with
  | some adjustment =>
    have apart : adjustment ≠ .gamesPerFile := by
      rintro rfl
      cases option <;> first | exact absurd rfl other | cases makes
    rw [outward_of_adjustment? context makes]
    exact inward (by rw [effect_of_adjustment? makes]; exact adjust_inward apart _ _)
  | none =>
    cases option with
    | appendOutput | writeOutput => exact opens (selectOutput_opens _)
    | duplicatesFile => exact opens selectDuplicates_opens
    | nonMatchingFile =>
      unfold outward target?
      by_cases standard : skipSpaces value = "stdout"
      · rw [if_pos standard]
        refine inward ?_
        unfold effect
        rw [standard]
        exact selectNonMatching_inward
      · rw [if_neg standard]
        exact opens (selectNonMatching_opens standard)
    | writeLog | appendLog => exact shows_of_effect context (selectLog_shows session.lettered)
    | fenComment => exact shows_of_effect context (writeFen_shows value session.lettered)
    | argumentFile =>
      exact inward ((GoesBy.of_looks (.requireFile _ _)).bind fun _ => .pure ())
    | checkFile => exact inward (addCheckFile_inward _)
    | ecoFile => exact inward (useEcoFile_inward _)
    | sourceList =>
      refine inward ((GoesBy.of_looks (.requireFile _ _)).bind fun _ => ?_)
      exact readSourceList_inward _ _
    | positionHash => exact inward (matchHash_inward value)
    | outputFormat => exact inward (selectFormat_inward value)
    | lineWidth =>
      refine inward ?_
      simp only [effect]
      split
      · exact setLineLength_inward _
      · exact .throw _
    | tagCriterion => exact inward (request_inward _ _)
    | tagRoster | tagCriteria | textualVariations | positionalVariations | colouredEndings
    | endings => exact inward (deliverNamedFile_inward _ _)
    | help | helpAgain | named => exact inward (.throw _)
    | sevenTagRoster | gamesPerFile | moveBounds | dropComments | dropDuplicates | ecoLevel
    | checkmate | dropNags | plyBounds | exactOrder | checkOnly | soundex | silent
    | dropFirstCopies | dropVariations | virtualHashTable => cases makes

/-- What shows of an option named by a letter is what it does outside, and a warning is counted. -/
theorem LetterOption.surface_alone (option : LetterOption) (value : String) (session : Session) :
    ((option.alone context value).after session).surface =
        (option.outward context value session).apply session.surface ∧
      ((option.alone context value).after session).counters.warnings =
        session.counters.warnings +
          ((option.outward context value session).warning? session.disk).toList.length := by
  by_cases numbers : option = .gamesPerFile
  · subst numbers
    exact ⟨surface_adjust .gamesPerFile _ value session.lettered,
      warnings_adjust _ session.lettered⟩
  · have shows := option.shows_alone context numbers value session
    exact ⟨shows.surface, shows.warnings⟩

/-- No name stands for the option that says how many games go into a file. -/
theorem NamedOption.gamesPerFile_absent {option : NamedOption} (listed : option ∈ NamedOption.all) :
    option.action ≠ .letter .gamesPerFile ∧ option.action ≠ .adjust .gamesPerFile := by
  have every : ∀ option ∈ NamedOption.all,
      option.action ≠ .letter .gamesPerFile ∧ option.action ≠ .adjust .gamesPerFile := by decide
  exact every option listed

/-- An option that warns does not fail. -/
theorem LetterOption.succeeds_of_warning {option : LetterOption} {value message : String}
    {session : Session}
    (warns : (option.outward context value session).warning? session.disk = some message) :
    (option.alone context value).succeeds session = true := by
  cases does : option.outward context value session with
  | nothing | opening => simp [does, Outward.warning?] at warns
  | logging path mode => exact (target?_of_logging does).2.2
  | warning message =>
    cases option with
    | fenComment => exact Total.writeFen value session.lettered
    | writeLog | appendLog => cases does
    | appendOutput | writeOutput | duplicatesFile =>
      simp only [outward, target?] at does
      split at does <;> cases does
    | nonMatchingFile =>
      simp only [outward, target?] at does
      split at does
      · split at does <;> cases does
      · cases does
    | _ => cases does

/-- An option with a name that warns does not fail either. -/
theorem NamedOption.succeeds_of_warning {option : NamedOption} {value message : String}
    {session : Session}
    (warns : (option.outward context value session).warning? session.disk = some message) :
    (option.alone context value).succeeds session = true := by
  have counted : option.alone context value session =
      option.effect context (fun _ => pure ()) value session.named := rfl
  unfold outward at warns
  cases makes : option.action with
  | letter letter =>
    rw [makes] at warns
    have run : option.alone context value session = _ := alone_of_letter makes value session
    rw [succeeds_congr run]
    exact letter.succeeds_of_warning context warns
  | fenComments =>
    rw [succeeds_congr counted]
    simp only [effect, makes]
    exact Total.commentWithFen option.name session.named
  | bound unit side =>
    simp only [makes, softBoundOutward] at warns
    rw [succeeds_congr counted]
    simp only [effect, makes, softBound]
    cases read : Value.unsigned (.named option.name) Numeral.max32 value with
    | error failure => simp [read, Outward.warning?] at warns
    | ok n =>
      refine Total.bind .get (fun met => ?_) session.named
      split
      · exact .modifyConfig _
      · exact .warn _
  | adjust | suppressTag | fenPattern | material | version =>
    simp [makes, Outward.warning?] at warns

/-- What shows of an option with a name is what it does outside, and nothing else. -/
theorem NamedOption.shows_alone {option : NamedOption} (listed : option ∈ NamedOption.all)
    (value : String) (session : Session) :
    session.Shows (option.outward context value session)
      ((option.alone context value).after session) := by
  obtain ⟨otherLetter, otherAdjustment⟩ := gamesPerFile_absent listed
  have counted : option.alone context value session =
      option.effect context (fun _ => pure ()) value session.named := rfl
  have named : session.Inward session.named := ⟨rfl, rfl, rfl⟩
  rw [after_congr counted]
  unfold effect outward
  cases makes : option.action with
  | letter letter =>
    have other : letter ≠ .gamesPerFile := by
      rintro rfl
      exact otherLetter makes
    exact named.after_inward (letter.shows_alone context other _ _)
  | adjust adjustment =>
    have other : adjustment ≠ .gamesPerFile := by
      rintro rfl
      exact otherAdjustment makes
    exact named.after_inward (.of_goesBy (adjust_inward other _ _) _)
  | fenComments => exact named.after_inward (commentWithFen_shows option.name session.named)
  | bound unit side =>
    exact named.after_inward (softBound_shows option.name unit side value session.named)
  | suppressTag =>
    exact named.after_inward (.of_goesBy (withValue_inward (modifyRegistry_inward _) _ _ _) _)
  | fenPattern eitherColour =>
    refine named.after_inward (.of_goesBy (withValue_inward ?_ _ _ _) _)
    refine (request_inward _ _).bind fun _ => modifyConfig_inward ?_ ?_ <;> exact fun _ => rfl
  | material bothColours =>
    exact named.after_inward (.of_goesBy (withValue_inward (request_inward _ _) _ _ _) _)
  | version => exact named

end Options

end ExtractOptions

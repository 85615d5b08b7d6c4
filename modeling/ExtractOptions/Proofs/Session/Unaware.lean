/-
Module: ExtractOptions.Proofs.Session.Unaware
Purpose: actions that have nothing to do with argument files. Whether one more of them is being
  read, and lies on the disk for that, makes no difference to such an action if it succeeds. It
  leaves the argument files that are being read as they were, whether it succeeds or fails, and
  fails for ordinary reasons only. Every option is of this sort when an argument file that it names
  is left unread.
Main exports: Action.Parallel, Action.Unaware, LetterOption.alone_unaware,
  NamedOption.alone_unaware, performNamed_unaware
-/
import ExtractOptions.Proofs.Config.Refusal
import ExtractOptions.Proofs.Session.Beside
import ExtractOptions.Proofs.Session.Effect

namespace ExtractOptions

namespace Action

/-! ### Unaware actions

Two things are asked of an action: what it leaves alone in one session, and that it runs alike in
two. They are shown together, since the proofs go through the same cases. -/

/-- What succeeds in the first of two sessions succeeds in the second one with the same answer,
unless it creates the file by which they differ, and they still differ by no more than that. -/
def Parallel {α : Type} (action : Action α) : Prop :=
  ∀ ⦃addition first second answer left⦄, Session.Beside addition first second →
    action first = .ok answer left →
    (first.disk.node? addition.place = none → left.disk.node? addition.place = none) →
    ∃ after, action second = .ok answer after ∧ Session.Beside addition left after

/-- The action neither sees nor changes which argument files are being read. -/
structure Unaware {α : Type} (action : Action α) : Prop where
  within : ∀ session : Session, session.Within (action.after session)
  parallel : Parallel action
  ordinary : ∀ session failure left, action session = .error failure left →
    failure.isOrdinary = true

namespace Unaware

variable {α β : Type}

/-! ### Actions made of others

Unaware actions are closed under the ways in which actions are put together. -/

protected theorem pure (answer : α) : Unaware (pure answer) where
  within := Session.Within.refl
  parallel := by
    intro _ _ second _ _ beside run _
    cases run
    exact ⟨second, rfl, beside⟩
  ordinary := fun _ _ _ fails => by cases fails

/-- An unaware action may fail for ordinary reasons. -/
protected theorem throw {failure : Failure} (ordinary : failure.isOrdinary = true) :
    Unaware (throw failure : Action α) where
  within := Session.Within.refl
  parallel := fun _ _ _ _ _ _ run => by cases run
  ordinary := by
    rintro _ _ _ ⟨⟩
    exact ordinary

/-- Unaware actions in a row are unaware. -/
protected theorem bind {action : Action α} {next : α → Action β} (head : Unaware action)
    (tail : ∀ answer, Unaware (next answer)) : Unaware (action >>= next) where
  within := by
    intro session
    have first := head.within session
    cases run : action session with
    | ok answer between =>
      rw [after_of_ok run] at first
      rw [after_bind_of_ok run]
      exact first.trans ((tail answer).within between)
    | error failure between =>
      rw [after_of_error run] at first
      rw [after_bind_of_error run]
      exact first
  parallel := by
    intro addition first second answer left beside run uncreated
    obtain ⟨reply, between, begun, ended⟩ := bind_ok run
    -- What is missing in the end was missing in between, since nothing disappears.
    have missing : first.disk.node? addition.place = none →
        between.disk.node? addition.place = none := by
      intro none
      have grows := ((tail reply).within between).grows
      rw [after_of_ok ended] at grows
      exact Decidable.byContradiction fun there => grows.present _ there (uncreated none)
    obtain ⟨middle, goes, still⟩ := head.parallel beside begun missing
    have keeps : between.disk.node? addition.place = none →
        left.disk.node? addition.place = none := by
      intro none
      refine uncreated (Decidable.byContradiction fun there => ?_)
      have grows := (head.within first).grows
      rw [after_of_ok begun] at grows
      exact grows.present _ there none
    obtain ⟨after, ends, finally_⟩ := (tail reply).parallel still ended keeps
    refine ⟨after, ?_, finally_⟩
    rw [bind_apply, goes]
    exact ends
  ordinary := by
    intro session failure left fails
    rw [bind_apply] at fails
    cases run : action session with
    | ok answer between =>
      rw [run] at fails
      exact (tail answer).ordinary between failure left fails
    | error cause between =>
      rw [run] at fails
      cases fails
      exact head.ordinary session failure left run

protected theorem map {action : Action α} {f : α → β} (unaware : Unaware action) :
    Unaware (f <$> action) := by
  rw [← bind_pure_comp]
  exact unaware.bind fun answer => .pure (f answer)

/-- An action may look at the configuration and at the registry. -/
protected theorem get {next : Session → Action β}
    (same : ∀ first second : Session, second.config = first.config →
      second.registry = first.registry → next second = next first)
    (each : ∀ session, Unaware (next session)) : Unaware (get >>= next) where
  within := fun session => (each session).within session
  parallel := by
    intro addition first second answer left beside run uncreated
    obtain ⟨after, goes, still⟩ := (each first).parallel beside run uncreated
    refine ⟨after, ?_, still⟩
    rw [← same first second beside.config beside.registry] at goes
    exact goes
  ordinary := fun session => (each session).ordinary session

protected theorem forM {items : List α} {visit : α → Action Unit}
    (each : ∀ item, Unaware (visit item)) : Unaware (items.forM visit) := by
  induction items with
  | nil => exact .pure ()
  | cons item items ih => exact (each item).bind fun _ => ih

/-! ### Basic actions

The actions that options are made of. Those that open or read files need the relation between the
two disks, and the others only that the rest of the sessions is the same. -/

/-- A change of the session that keeps both relations is unaware. -/
protected theorem modify {change : Session → Session}
    (within : ∀ session : Session, session.Within (change session))
    (parallel : ∀ {addition first second}, Session.Beside addition first second →
      Session.Beside addition (change first) (change second)) :
    Unaware (modify change : Action Unit) where
  within := within
  parallel := by
    intro _ _ second _ _ beside run _
    cases run
    exact ⟨change second, rfl, parallel beside⟩
  ordinary := fun _ _ _ fails => by cases fails

/-- The configuration may change, but not in where diagnostics go. -/
protected theorem modifyConfig {change : Config → Config}
    (log : ∀ config, (change config).log = config.log) : Unaware (modifyConfig change) := by
  refine .modify (fun session => ⟨rfl, .refl session.disk⟩) fun {addition first second} beside => ?_
  rw [beside.config]
  exact beside.configure fun target writes => beside.log target (log first.config ▸ writes)

protected theorem modifyRegistry (change : Registry → Registry) :
    Unaware (modifyRegistry change) := by
  refine .modify (fun session => ⟨rfl, .refl session.disk⟩) fun beside => ?_
  rw [beside.registry]
  exact beside.register _

/-- Whatever is counted, it is counted on top of what there is. -/
protected theorem count {change : Counters → Counters}
    (same : ∀ counters files,
      change { counters with argumentFiles := counters.argumentFiles + files } =
      { change counters with argumentFiles := (change counters).argumentFiles + files }) :
    Unaware (count change) :=
  .modify (fun session => ⟨rfl, .refl session.disk⟩) fun beside => beside.count same

/-- No adjustment says where diagnostics go. -/
protected theorem adjust {adjustment : Adjustment} (offered : adjustment.isOffered = true)
    (option : OptionName) (value : String) : Unaware (adjust (adjustment.apply option value)) where
  within := by
    intro session
    cases made : adjustment.apply option value session.config with
    | ok config =>
      rw [after_of_ok (by rw [adjust_apply, made])]
      exact ⟨rfl, .refl session.disk⟩
    | error failure =>
      rw [after_of_error (by rw [adjust_apply, made])]
      exact .refl session
  parallel := by
    intro addition first second answer left beside run _
    rw [adjust_apply] at run
    cases made : adjustment.apply option value first.config with
    | error failure =>
      rw [made] at run
      cases run
    | ok config =>
      rw [made] at run
      cases run
      refine ⟨{ second with config }, ?_, beside.configure fun target writes => ?_⟩
      · rw [adjust_apply, beside.config, made]
      · rcases Adjustment.change_of_apply offered made with unchanged | change
        · rw [unchanged] at writes
          exact beside.log target writes
        · exact beside.log target (change.log_eq writes)
  ordinary := by
    intro session failure left fails
    rw [adjust_apply] at fails
    cases made : adjustment.apply option value session.config with
    | ok config =>
      rw [made] at fails
      cases fails
    | error refused =>
      rw [made] at fails
      cases fails
      exact Failure.isOrdinary_of_isObjection
        (adjustment.refusal_apply option value session.config failure made)

/-- A check that only objects is unaware. -/
protected theorem check {test : Config → Except Failure Unit}
    (refusal : ∀ config, Refusal (test config)) : Unaware (check test) := by
  refine .get (fun _ _ config _ => by simp only [config]) fun session => ?_
  split
  · exact .pure ()
  · rename_i failure refused
    exact .throw (Failure.isOrdinary_of_isObjection (refusal session.config failure refused))

protected theorem request (context : Context) (origin : String) (request : Request) :
    Unaware (Action.request context origin request) := by
  refine .get (fun _ _ _ registry => by simp only [registry]) fun session => ?_
  split
  · exact .throw rfl
  · exact .modifyRegistry _

protected theorem addSource (path : String) (kind : SourceKind) : Unaware (addSource path kind) :=
  (Unaware.modifyRegistry _).bind fun _ => .count fun _ _ => rfl

protected theorem setLineLength (width : Nat) : Unaware (setLineLength width) :=
  Unaware.bind (.modifyConfig fun _ => rfl) fun _ => .modifyRegistry _

/-- A file is opened alike in both sessions, unless it is the added file where that is missing. -/
protected theorem openTarget (path : String) (mode : OpenMode) :
    Unaware (openTarget path mode) where
  within := by
    intro session
    cases made : session.disk.openTarget path mode with
    | ok answer =>
      rw [after_of_ok (by rw [openTarget_apply, made])]
      exact ⟨rfl, Disk.grows_openTarget made⟩
    | error cause =>
      rw [after_of_error (by rw [openTarget_apply, made])]
      exact .refl session
  parallel := by
    intro addition first second answer left beside run uncreated
    rw [openTarget_apply] at run
    cases made : first.disk.openTarget path mode with
    | error cause =>
      rw [made] at run
      cases run
    | ok opened =>
      rw [made] at run
      cases run
      obtain ⟨other, alike, disks, -⟩ := beside.disk.openTarget made uncreated
      refine ⟨{ second with disk := other }, ?_,
        beside.rewrite (Disk.grows_openTarget made) disks⟩
      rw [openTarget_apply, alike]
  ordinary := by
    intro session failure left fails
    rw [openTarget_apply] at fails
    cases made : session.disk.openTarget path mode with
    | ok opened =>
      rw [made] at fails
      cases fails
    | error cause =>
      rw [made] at fails
      cases fails
      rfl

/-- What the first session can read, the second one reads alike. -/
protected theorem readLines (path : String) : Unaware (readLines path) where
  within := by
    intro session
    cases read : session.disk.readLines path with
    | ok lines =>
      rw [after_of_ok (by rw [readLines_apply, read])]
      exact .refl session
    | error cause =>
      rw [after_of_error (by rw [readLines_apply, read])]
      exact .refl session
  parallel := by
    intro addition first second answer left beside run _
    rw [readLines_apply] at run
    cases read : first.disk.readLines path with
    | error cause =>
      rw [read] at run
      cases run
    | ok lines =>
      rw [read] at run
      cases run
      refine ⟨second, ?_, beside⟩
      rw [readLines_apply, beside.disk.readLines read]
  ordinary := by
    intro session failure left fails
    rw [readLines_apply] at fails
    cases read : session.disk.readLines path with
    | ok lines =>
      rw [read] at fails
      cases fails
    | error cause =>
      rw [read] at fails
      cases fails
      rfl

protected theorem forLines (path : String) {visit : String → Action Unit}
    (each : ∀ line, Unaware (visit line)) : Unaware (forLines path visit) := by
  refine (Unaware.readLines path).bind fun lines => (Unaware.forM each).bind fun _ => ?_
  split
  · exact .throw rfl
  · exact .pure ()

protected theorem warn (message : String) : Unaware (warn message) := by
  refine Unaware.bind (.modify (fun session => ⟨?_, session.diagnose_grows message⟩)
    fun beside => beside.diagnose message) fun _ => .count fun _ _ => rfl
  unfold Session.diagnose Session.writeLog
  split
  · rfl
  · split <;> rfl

/-- Directing diagnostics to a file, or to standard error with a warning if that cannot be opened.
Why it cannot be is not told. -/
protected theorem directLog (path message : String) (mode : OpenMode) :
    Unaware (do
      match ← tryOpen path mode with
      | .ok target => modifyConfig fun config => { config with log := .file target }
      | .error _ => warn message) := by
  generalize directs : (do
      match ← tryOpen path mode with
      | .ok target => modifyConfig fun config => { config with log := .file target }
      | .error _ => warn message : Action Unit) = action
  have opens : ∀ {session : Session} {target disk},
      session.disk.openTarget path mode = .ok (target, disk) →
      action session = .ok ()
        { session with disk, config := { session.config with log := .file target } } := by
    intro session target disk made
    rw [← directs, bind_apply, tryOpen_apply, made]
    rfl
  have warns : ∀ {session : Session} {cause}, session.disk.openTarget path mode = .error cause →
      action session = warn message session := by
    intro session cause fails
    rw [← directs, bind_apply, tryOpen_apply, fails]
  exact
    { within := by
        intro session
        cases made : session.disk.openTarget path mode with
        | ok answer =>
          rw [after_of_ok (opens made)]
          exact ⟨rfl, Disk.grows_openTarget made⟩
        | error cause =>
          rw [after_congr (warns made)]
          exact (Unaware.warn message).within session
      parallel := by
        intro addition first second answer left beside run uncreated
        cases made : first.disk.openTarget path mode with
        | ok opened =>
          rw [opens made] at run
          cases run
          obtain ⟨other, alike, disks, created⟩ := beside.disk.openTarget made uncreated
          refine ⟨_, opens alike, ?_⟩
          rw [beside.config]
          have rewritten := beside.rewrite (Disk.grows_openTarget made) disks
          refine rewritten.configure fun target same _ => ?_
          cases same
          exact created
        | error cause =>
          rw [warns made] at run
          obtain ⟨reason, alike⟩ := beside.disk.openTarget_error made
          rw [warns alike]
          exact (Unaware.warn message).parallel beside run uncreated
      ordinary := by
        intro session failure left fails
        cases made : session.disk.openTarget path mode with
        | ok answer =>
          rw [opens made] at fails
          cases fails
        | error cause =>
          rw [warns made] at fails
          cases fails }

/-! ### Effects

The effects of options, put together from these. -/

section Effects

variable (context : Context)

protected theorem requireFile (option : LetterOption) (file : String) :
    Unaware (requireFile option file) := by
  unfold ExtractOptions.requireFile
  split
  · exact .throw rfl
  · exact .pure ()

protected theorem selectOutput (option : LetterOption) (file : String) (mode : OpenMode) :
    Unaware (selectOutput option file mode) := by
  have checked : ∀ config : Config, Refusal (do
      config.checkNoEcoLevel (.letter option)
      config.checkNoGamesPerFile (.letter option)
      config.checkNoOutput (.letter option)) := by
    intro config
    refine (Refusal.checkNoEcoLevel config _).bind fun _ => ?_
    exact (Refusal.checkNoGamesPerFile config _).bind fun _ => .checkNoOutput config _
  refine (Unaware.check checked).bind fun _ => (Unaware.requireFile option file).bind fun _ => ?_
  exact (Unaware.openTarget file mode).bind fun _ => .modifyConfig fun _ => rfl

/-- Until the new file is open, diagnostics go to standard error. -/
protected theorem selectLog (file : String) (mode : OpenMode) : Unaware (selectLog file mode) := by
  refine Unaware.bind (.modify (fun session => ⟨rfl, .refl session.disk⟩) fun beside => ?_)
    fun _ => .directLog file _ mode
  rw [beside.config]
  exact beside.configure nofun

protected theorem selectDuplicates (file : String) : Unaware (selectDuplicates file) := by
  refine (Unaware.requireFile _ file).bind fun _ =>
    (Unaware.check fun _ => .clashIf _ _).bind fun _ => ?_
  exact (Unaware.openTarget file .write).bind fun _ => .modifyConfig fun _ => rfl

protected theorem selectNonMatching (file : String) : Unaware (selectNonMatching file) := by
  refine (Unaware.requireFile _ file).bind fun _ => ?_
  refine Unaware.bind (.modifyConfig fun _ => rfl) fun _ => ?_
  split
  · exact .modifyConfig fun _ => rfl
  · exact (Unaware.openTarget file .write).bind fun _ => .modifyConfig fun _ => rfl

protected theorem useEcoFile (file : String) : Unaware (useEcoFile context file) := by
  refine Unaware.bind (.modifyConfig fun _ => rfl) fun _ => ?_
  exact .get (fun _ _ config _ => by simp only [config]) fun _ => .request context _ _

/-- A data line of an option that takes it is handed on without a look at argument files. -/
protected theorem deliver {option : LetterOption} (takes : option.persists = true)
    (origin line : String) : Unaware (deliver context option origin line) := by
  obtain ⟨kind, rfl⟩ := LetterOption.persists_iff.mp takes
  rw [deliver_option]
  refine (Unaware.count fun _ _ => rfl).bind fun _ => ?_
  split
  · exact Unaware.bind (.modifyConfig fun _ => rfl) fun _ => .request context _ _
  · exact (Unaware.pure _).bind fun _ => .request context _ _

protected theorem deliverFile {option : LetterOption} (takes : option.persists = true)
    (path : String) : Unaware (deliverFile context option path) := by
  refine .forLines path fun line => ?_
  split
  · exact .pure ()
  · exact .deliver context takes path line

protected theorem readSourceList (path : String) (kind : SourceKind) :
    Unaware (readSourceList path kind) := by
  refine .forLines path fun line => ?_
  split
  · exact .pure ()
  · exact .addSource _ kind

protected theorem deliverNamedFile {option : LetterOption} (takes : option.persists = true)
    (file : String) : Unaware (deliverNamedFile context option file) := by
  unfold ExtractOptions.deliverNamedFile
  split
  · exact .pure ()
  · exact .deliverFile context takes file

protected theorem addCheckFile (file : String) : Unaware (addCheckFile file) := by
  refine (Unaware.requireFile _ file).bind fun _ => ?_
  split
  · exact .addSource file .check
  · exact .readSourceList file .check

protected theorem selectFormat (value : String) : Unaware (selectFormat value) := by
  unfold ExtractOptions.selectFormat
  split
  · exact .throw rfl
  · split
    · refine Unaware.bind (.modifyConfig fun _ => rfl) fun _ => ?_
      exact (Unaware.setLineLength _).bind fun _ => .modifyConfig fun _ => rfl
    · exact .modifyConfig fun _ => rfl

protected theorem writeFen (value : String) : Unaware (writeFen value) := by
  unfold ExtractOptions.writeFen
  split
  · refine .get (fun _ _ config _ => by simp only [config]) fun session => ?_
    split
    · exact (Unaware.warn _).bind fun _ => .modifyConfig fun _ => rfl
    · exact Unaware.bind (.modifyConfig fun _ => rfl) fun _ => .modifyConfig fun _ => rfl
  · exact .modifyConfig fun _ => rfl

protected theorem matchHash (value : String) : Unaware (matchHash value) := by
  unfold ExtractOptions.matchHash
  split
  · exact .throw rfl
  · exact (Unaware.modifyRegistry _).bind fun _ => .modifyConfig fun _ => rfl

protected theorem commentWithFen (name : String) : Unaware (commentWithFen name) := by
  refine .get (fun _ _ config _ => by simp only [config]) fun session => ?_
  split
  · exact .warn _
  · exact .modifyConfig fun _ => rfl

protected theorem softBound (name : String) (unit : BoundUnit) (side : BoundSide)
    (value : String) : Unaware (softBound name unit side value) := by
  unfold ExtractOptions.softBound
  split
  · rename_i failure refused
    exact .throw (Failure.isOrdinary_of_isObjection (Refusal.unsigned _ _ _ failure refused))
  · refine .get (fun _ _ config _ => by simp only [config]) fun session => ?_
    split
    · exact .modifyConfig fun _ => rfl
    · exact .warn _

protected theorem withValue {go : Action Unit} (unaware : Unaware go) (name what value : String) :
    Unaware (withValue name what value go) := by
  unfold ExtractOptions.withValue
  split
  · exact unaware
  · rename_i failure refused
    exact .throw
      (Failure.isOrdinary_of_isObjection (Refusal.required _ value what failure refused))

end Effects

end Unaware

end Action

open ExtractOptions.Action

/-- Every letter that can be given as an option is unaware of argument files, but for the file that
it may name. -/
theorem LetterOption.alone_unaware (context : Context) {option : LetterOption}
    (given : option ≠ .named) (value : String) : Unaware (option.alone context value) := by
  refine (Unaware.count fun _ _ => rfl).bind fun _ => ?_
  cases makes : option.adjustment? with
  | some adjustment =>
    rw [effect_of_adjustment? makes]
    exact .adjust (isOffered_of_adjustment? makes) _ value
  | none =>
    cases option with
    | appendOutput => exact .selectOutput _ _ _
    | writeOutput => exact .selectOutput _ _ _
    | duplicatesFile => exact .selectDuplicates _
    | writeLog => exact .selectLog _ _
    | appendLog => exact .selectLog _ _
    | nonMatchingFile => exact .selectNonMatching _
    | argumentFile => exact (Unaware.requireFile _ _).bind fun _ => .pure ()
    | checkFile => exact .addCheckFile _
    | ecoFile => exact .useEcoFile context _
    | fenComment => exact .writeFen value
    | sourceList => exact (Unaware.requireFile _ _).bind fun _ => .readSourceList _ _
    | positionHash => exact .matchHash value
    | outputFormat => exact .selectFormat value
    | lineWidth =>
      simp only [effect]
      split
      · exact .setLineLength _
      · rename_i failure refused
        exact .throw
          (Failure.isOrdinary_of_isObjection (Refusal.plain value .lineWidth failure refused))
    | tagCriterion => exact .request context _ _
    | tagRoster | tagCriteria | textualVariations | positionalVariations | colouredEndings
    | endings => exact .deliverNamedFile context rfl _
    | help | helpAgain => exact .throw rfl
    | named => exact absurd rfl given
    | sevenTagRoster | gamesPerFile | moveBounds | dropComments | dropDuplicates | ecoLevel
    | checkmate | dropNags | plyBounds | exactOrder | checkOnly | soundex | silent
    | dropFirstCopies | dropVariations | virtualHashTable => cases makes

/-- No name stands for the letter that starts the directives of named options. -/
theorem NamedOption.ne_named {option : NamedOption} {letter : LetterOption}
    (listed : option ∈ NamedOption.all) (stands : option.action = .letter letter) :
    letter ≠ .named := by
  have every : ∀ option ∈ NamedOption.all, option.action ≠ .letter .named := by decide
  rintro rfl
  exact every option listed stands

/-- Every named option is unaware of argument files. -/
theorem NamedOption.alone_unaware (context : Context) {option : NamedOption}
    (listed : option ∈ NamedOption.all) (value : String) :
    Unaware (option.alone context value) := by
  refine (Unaware.count fun _ _ => rfl).bind fun _ => ?_
  unfold NamedOption.effect
  cases makes : option.action with
  | adjust adjustment => exact .adjust (isOffered_of_mem listed makes) _ value
  | letter letter => exact letter.alone_unaware context (ne_named listed makes) _
  | fenComments => exact .commentWithFen _
  | bound unit side => exact .softBound _ unit side value
  | suppressTag => exact .withValue (.modifyRegistry _) _ _ _
  | fenPattern eitherColour =>
    have positional : Unaware
        (modifyConfig fun config => config.set .positionalVariations true) :=
      .modifyConfig fun _ => rfl
    exact .withValue ((Unaware.request context _ _).bind fun _ => positional) _ _ _
  | material bothColours => exact .withValue (.request context _ _) _ _ _
  | version => exact .throw rfl

/-- So is every option that is given by name, and a name that is not listed. -/
theorem performNamed_unaware (context : Context) (includeFile : String → Action Unit)
    (name value : String) : Unaware (performNamed context includeFile name value) := by
  cases found : NamedOption.find? name with
  | none =>
    unfold performNamed
    simp only [found]
    exact .throw rfl
  | some option =>
    rw [performNamed_eq found]
    exact (option.alone_unaware context (List.mem_of_find?_eq_some found) value).map

end ExtractOptions

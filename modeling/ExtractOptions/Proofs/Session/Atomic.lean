/-
Module: ExtractOptions.Proofs.Session.Atomic
Purpose: actions that do all or nothing. An action that only looks can come first and one that never
  fails can come last, and what is made of such parts leaves a session as it was if it fails. All
  options are made so but those that read a file of lines and two that write before they are sure.
Main exports: Action.Looks, Action.Total, Action.Atomic, LetterOption.failsMidway,
  LetterOption.effect_atomic, NamedOption.effect_atomic
-/
import ExtractOptions.Proofs.Session.Effect

namespace ExtractOptions

open Text

namespace Action

variable {α β : Type}

/-- The action never changes the session. -/
def Looks (action : Action α) : Prop :=
  ∀ session, action.after session = session

/-- The action never fails. -/
def Total (action : Action α) : Prop :=
  ∀ session, action.succeeds session = true

/-- The action leaves the session as it was if it fails. -/
def Atomic (action : Action α) : Prop :=
  ∀ session left failure, action session = .error failure left → left = session

/-! ### Actions that look

An action that looks may fail, but it changes nothing. It can be put in front of anything. -/

namespace Looks

protected theorem pure (answer : α) : Looks (pure answer) :=
  fun _ => rfl

protected theorem throw (failure : Failure) : Looks (throw failure : Action α) :=
  fun _ => rfl

protected theorem get : Looks get :=
  fun _ => rfl

theorem check (test : Config → Except Failure Unit) : Looks (check test) := by
  intro session
  unfold after
  rw [check_apply]
  cases test session.config <;> rfl

/-- To ask for a file name changes nothing. -/
theorem requireFile (option : LetterOption) (file : String) :
    Looks (requireFile option file) := by
  unfold ExtractOptions.requireFile
  split
  · exact .throw _
  · exact .pure ()

end Looks

/-! ### Actions that never fail

Such actions may change what they like, since nothing has to be taken back. They can be put behind
anything. -/

namespace Total

protected theorem get : Total get :=
  fun _ => rfl

protected theorem bind {action : Action α} {next : α → Action β} (first : Total action)
    (later : ∀ answer, Total (next answer)) : Total (action >>= next) := by
  intro session
  obtain ⟨answer, run⟩ := exists_ok_of_succeeds (first session)
  have same : (action >>= next) session = next answer (action.after session) := by
    rw [bind_apply, run]
  rw [succeeds_congr same]
  exact later answer _

theorem modifyConfig (change : Config → Config) : Total (modifyConfig change) :=
  fun _ => rfl

theorem modifyRegistry (change : Registry → Registry) : Total (modifyRegistry change) :=
  fun _ => rfl

theorem setLineLength (width : Nat) : Total (setLineLength width) :=
  fun _ => rfl

theorem warn (message : String) : Total (warn message) :=
  fun _ => rfl

theorem tryOpen (path : String) (mode : OpenMode) : Total (tryOpen path mode) := by
  intro session
  unfold succeeds
  rw [tryOpen_apply]
  cases session.disk.openTarget path mode <;> rfl

/-- A log that cannot be opened is no failure. -/
theorem selectLog (file : String) (mode : OpenMode) : Total (selectLog file mode) := by
  apply Total.bind (.modifyConfig _)
  intro _
  apply Total.bind (.tryOpen file mode)
  intro opened
  cases opened with
  | ok target => exact .modifyConfig _
  | error cause => exact .warn _

theorem writeFen (value : String) : Total (writeFen value) := by
  unfold ExtractOptions.writeFen
  split
  · apply Total.bind .get
    intro session
    split
    · exact .bind (.warn _) fun _ => .modifyConfig _
    · exact .bind (.modifyConfig _) fun _ => .modifyConfig _
  · exact .modifyConfig _

theorem commentWithFen (name : String) : Total (commentWithFen name) := by
  apply Total.bind .get
  intro session
  split
  · exact .warn _
  · exact .modifyConfig _

end Total

/-! ### Actions that do all or nothing

All or nothing is not closed under sequences, because the second part may fail when the first one
has changed something. Looking first and never failing last are the two sequences that keep it. -/

namespace Atomic

/-- What changes nothing does nothing if it fails. -/
theorem of_looks {action : Action α} (looks : Looks action) : Atomic action := by
  intro session left failure fails
  have same := looks session
  rwa [after_of_error fails] at same

theorem of_total {action : Action α} (total : Total action) : Atomic action := by
  intro session left failure fails
  have success := total session
  rw [succeeds_of_error fails] at success
  cases success

protected theorem throw (failure : Failure) : Atomic (throw failure : Action α) :=
  of_looks (.throw failure)

/-- Looking before doing all or nothing is doing all or nothing. -/
theorem after_looking {action : Action α} {next : α → Action β} (looks : Looks action)
    (later : ∀ answer, Atomic (next answer)) : Atomic (action >>= next) := by
  intro session left failure fails
  rw [bind_apply] at fails
  cases run : action session with
  | ok answer between =>
    have same := looks session
    rw [after_of_ok run] at same
    rw [run, same] at fails
    exact later answer _ _ _ fails
  | error other between =>
    rw [run] at fails
    cases fails
    exact of_looks looks _ _ _ run

/-- What cannot fail can follow. -/
theorem before_total {action : Action α} {next : α → Action β} (first : Atomic action)
    (later : ∀ answer, Total (next answer)) : Atomic (action >>= next) := by
  intro session left failure fails
  rw [bind_apply] at fails
  cases run : action session with
  | ok answer between =>
    rw [run] at fails
    exact absurd (later answer between) (by rw [succeeds_of_error fails]; decide)
  | error other between =>
    rw [run] at fails
    cases fails
    exact first _ _ _ run

/-- An adjustment is made as a whole or refused. -/
theorem adjust (change : Config → Except Failure Config) : Atomic (adjust change) := by
  intro session left failure fails
  rw [adjust_apply] at fails
  cases made : change session.config with
  | ok config =>
    rw [made] at fails
    cases fails
  | error _ =>
    rw [made] at fails
    cases fails
    rfl

/-- A request is recorded if it passes, and nothing is if it does not. -/
theorem request (context : Context) (origin : String) (request : Request) :
    Atomic (Action.request context origin request) := by
  intro session left failure fails
  rw [request_apply] at fails
  cases verdict : context.gate session.registry request with
  | none =>
    rw [verdict] at fails
    cases fails
  | some reason =>
    rw [verdict] at fails
    cases fails
    rfl

/-- A file that cannot be opened leaves the disk as it was. -/
theorem openTarget (path : String) (mode : OpenMode) : Atomic (openTarget path mode) := by
  intro session left failure fails
  rw [openTarget_apply] at fails
  cases made : session.disk.openTarget path mode with
  | ok answer =>
    rw [made] at fails
    cases fails
  | error cause =>
    rw [made] at fails
    cases fails
    rfl

/-! ### Effects of options

The effects of the options fall into this pattern: look, do one thing that may fail, and end with
what cannot fail. -/

/-- A file is opened for output last, and only put to use after that. -/
theorem choose (path : String) (mode : OpenMode) (use : Target → Config → Config) :
    Atomic (do let target ← Action.openTarget path mode; Action.modifyConfig (use target)) :=
  (openTarget path mode).before_total fun target => .modifyConfig (use target)

theorem selectOutput (option : LetterOption) (file : String) (mode : OpenMode) :
    Atomic (selectOutput option file mode) := by
  apply after_looking (.check _)
  intro _
  apply after_looking (.requireFile option file)
  intro _
  exact choose file mode fun target config => { config with output := some target }

theorem selectDuplicates (file : String) : Atomic (selectDuplicates file) := by
  apply after_looking (.requireFile _ file)
  intro _
  apply after_looking (.check _)
  intro _
  exact choose file .write fun target config => { config with duplicates := some target }

theorem selectLog (file : String) (mode : OpenMode) : Atomic (selectLog file mode) :=
  of_total (.selectLog file mode)

theorem selectFormat (value : String) : Atomic (selectFormat value) := by
  unfold ExtractOptions.selectFormat
  split
  · exact .throw _
  · apply of_total
    split
    · apply Total.bind (.modifyConfig _)
      intro _
      apply Total.bind (.setLineLength _)
      intro _
      exact .modifyConfig _
    · exact .modifyConfig _

theorem writeFen (value : String) : Atomic (writeFen value) :=
  of_total (.writeFen value)

theorem matchHash (value : String) : Atomic (matchHash value) := by
  unfold ExtractOptions.matchHash
  split
  · exact .throw _
  · exact of_total (.bind (.modifyRegistry _) fun _ => .modifyConfig _)

theorem commentWithFen (name : String) : Atomic (commentWithFen name) :=
  of_total (.commentWithFen name)

theorem softBound (name : String) (unit : BoundUnit) (side : BoundSide) (value : String) :
    Atomic (softBound name unit side value) := by
  unfold ExtractOptions.softBound
  split
  · exact .throw _
  · apply after_looking .get
    intro session
    split
    · exact of_total (.modifyConfig _)
    · exact of_total (.warn _)

/-- What is atomic stays so behind the check for a value. -/
theorem withValue {go : Action Unit} (goes : Atomic go) (name what value : String) :
    Atomic (withValue name what value go) := by
  unfold ExtractOptions.withValue
  split
  · exact goes
  · exact .throw _

end Atomic

end Action

open ExtractOptions.Action

/-! ### Options

What is left are the options that read a file of lines and two more, and these are listed. -/

/-- The option can fail when part of its work is done. -/
def LetterOption.failsMidway : LetterOption → Bool
  | checkFile | sourceList | tagRoster | tagCriteria | textualVariations | positionalVariations
  | colouredEndings | endings | nonMatchingFile | ecoFile => true
  | _ => false

section

variable {context : Context} {includeFile : String → Action Unit}

/-- Every other letter does all or nothing, but for the one that reads an argument file. -/
theorem LetterOption.effect_atomic {option : LetterOption} (whole : option.failsMidway = false)
    (other : option ≠ .argumentFile) (value : String) :
    Atomic (option.effect context includeFile value) := by
  cases makes : option.adjustment? with
  | some adjustment =>
    rw [effect_of_adjustment? makes]
    exact .adjust _
  | none =>
    cases option with
    | appendOutput => exact .selectOutput _ _ _
    | writeOutput => exact .selectOutput _ _ _
    | duplicatesFile => exact .selectDuplicates _
    | writeLog => exact .selectLog _ _
    | appendLog => exact .selectLog _ _
    | fenComment => exact .writeFen value
    | positionHash => exact .matchHash value
    | outputFormat => exact .selectFormat value
    | tagCriterion => exact .request context _ _
    | lineWidth =>
      simp only [effect]
      split
      · exact .of_total (.setLineLength _)
      · exact .throw _
    | help | helpAgain | named => exact .throw _
    | argumentFile => exact absurd rfl other
    | checkFile | sourceList | tagRoster | tagCriteria | textualVariations | positionalVariations
    | colouredEndings | endings | nonMatchingFile | ecoFile => cases whole
    | sevenTagRoster | gamesPerFile | moveBounds | dropComments | dropDuplicates | ecoLevel
    | checkmate | dropNags | plyBounds | exactOrder | checkOnly | soundex | silent
    | dropFirstCopies | dropVariations | virtualHashTable => cases makes

/-- Every named option that does not stand for a letter does all or nothing. -/
theorem NamedOption.effect_atomic {option : NamedOption}
    (own : ∀ letter, option.action ≠ .letter letter) (value : String) :
    Atomic (option.effect context includeFile value) := by
  unfold NamedOption.effect
  cases makes : option.action with
  | letter letter => exact absurd makes (own letter)
  | adjust adjustment => exact .adjust _
  | fenComments => exact .commentWithFen _
  | bound unit side => exact .softBound _ unit side value
  | suppressTag => exact .withValue (.of_total (.modifyRegistry _)) _ _ _
  | fenPattern eitherColour =>
    exact .withValue ((Atomic.request context _ _).before_total fun _ => .modifyConfig _) _ _ _
  | material bothColours => exact .withValue (.request context _ _) _ _ _
  | version => exact .throw _

end

end ExtractOptions

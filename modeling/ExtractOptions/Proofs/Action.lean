/-
Module: ExtractOptions.Proofs.Action
Purpose: what comes of running an action on a session. An action leaves a session behind whether it
  succeeds or fails; the equations say what each basic action leaves. An action goes by steps of a
  relation when the session it leaves is always reached from the one it met by such steps.
Main exports: Action.after, Action.succeeds, Action.failure?, Action.GoesBy
-/
import ExtractOptions.Proofs.Basic
import ExtractOptions.Session
import Mathlib.Logic.Relation

namespace ExtractOptions

namespace Action

variable {α β : Type}

/-- The session that an action leaves, whatever comes of it. -/
def after (action : Action α) (session : Session) : Session :=
  match action session with
  | .ok _ left => left
  | .error _ left => left

/-- The action does not fail on the session. -/
def succeeds (action : Action α) (session : Session) : Bool :=
  match action session with
  | .ok .. => true
  | .error .. => false

/-- How the action fails on the session, if it does. -/
def failure? (action : Action α) (session : Session) : Option Failure :=
  match action session with
  | .ok .. => none
  | .error failure _ => some failure

/-- What a successful run leaves is the session it ends with. -/
theorem after_of_ok {action : Action α} {session left : Session} {answer : α}
    (run : action session = .ok answer left) : action.after session = left := by
  simp [after, run]

/-- A run that fails leaves a session as well. -/
theorem after_of_error {action : Action α} {session left : Session} {failure : Failure}
    (run : action session = .error failure left) : action.after session = left := by
  simp [after, run]

theorem succeeds_of_ok {action : Action α} {session left : Session} {answer : α}
    (run : action session = .ok answer left) : action.succeeds session = true := by
  simp [succeeds, run]

theorem succeeds_of_error {action : Action α} {session left : Session} {failure : Failure}
    (run : action session = .error failure left) : action.succeeds session = false := by
  simp [succeeds, run]

theorem failure?_of_ok {action : Action α} {session left : Session} {answer : α}
    (run : action session = .ok answer left) : action.failure? session = none := by
  simp [failure?, run]

theorem failure?_of_error {action : Action α} {session left : Session} {failure : Failure}
    (run : action session = .error failure left) : action.failure? session = some failure := by
  simp [failure?, run]

/-- An action succeeds exactly if there is no failure to report. -/
theorem failure?_eq_none {action : Action α} {session : Session} :
    action.failure? session = none ↔ action.succeeds session = true := by
  unfold failure? succeeds
  cases action session <;> simp

theorem failure?_congr {action other : Action α} {session met : Session}
    (same : action session = other met) : action.failure? session = other.failure? met := by
  simp only [failure?, same]

/-- What an action leaves depends only on how it runs, so runs that are alike leave the same. -/
theorem after_congr {action other : Action α} {session met : Session}
    (same : action session = other met) : action.after session = other.after met := by
  simp only [after, same]

theorem succeeds_congr {action other : Action α} {session met : Session}
    (same : action session = other met) : action.succeeds session = other.succeeds met := by
  simp only [succeeds, same]

/-- An action that does not fail has an answer, and ends with the session that it leaves. -/
theorem exists_ok_of_succeeds {action : Action α} {session : Session}
    (success : action.succeeds session = true) :
    ∃ answer, action session = .ok answer (action.after session) := by
  cases run : action session with
  | ok answer left => exact ⟨answer, by rw [after_of_ok run]⟩
  | error failure left => simp [succeeds, run] at success

/-! ### What the basic actions do

Each action that the program is built from has an equation that says how it ends on a session. The
rest of the development runs actions with these equations alone and never unfolds how an action is
represented. -/

@[simp] theorem pure_apply (answer : α) (session : Session) :
    (pure answer : Action α) session = .ok answer session := rfl

@[simp] theorem throw_apply (failure : Failure) (session : Session) :
    (throw failure : Action α) session = .error failure session := rfl

@[simp] theorem get_apply (session : Session) :
    (get : Action Session) session = .ok session session := rfl

@[simp] theorem modify_apply (change : Session → Session) (session : Session) :
    (modify change : Action Unit) session = .ok () (change session) := rfl

/-- Two actions in a row: the later one meets what the earlier one leaves, or is not reached. -/
@[simp] theorem bind_apply (action : Action α) (next : α → Action β) (session : Session) :
    (action >>= next) session =
      match action session with
      | .ok answer left => next answer left
      | .error failure left => .error failure left := by
  cases run : action session <;> simp [bind, EStateM.bind, run]

@[simp] theorem map_apply (action : Action α) (f : α → β) (session : Session) :
    (f <$> action) session =
      match action session with
      | .ok answer left => .ok (f answer) left
      | .error failure left => .error failure left := by
  cases run : action session <;> simp [Functor.map, EStateM.map, run]

/-- Two actions that succeed in a row can be taken apart at the session between them. -/
theorem bind_ok {action : Action α} {next : α → Action β} {session left : Session} {answer : β}
    (run : (action >>= next) session = .ok answer left) :
    ∃ first between, action session = .ok first between ∧ next first between = .ok answer left := by
  rw [bind_apply] at run
  cases head : action session with
  | ok first between => exact ⟨first, between, rfl, by simpa [head] using run⟩
  | error failure between => simp [head] at run

@[simp] theorem modifyConfig_apply (change : Config → Config) (session : Session) :
    modifyConfig change session = .ok () { session with config := change session.config } := rfl

@[simp] theorem modifyRegistry_apply (change : Registry → Registry) (session : Session) :
    modifyRegistry change session =
      .ok () { session with registry := change session.registry } := rfl

@[simp] theorem count_apply (change : Counters → Counters) (session : Session) :
    count change session = .ok () { session with counters := change session.counters } := rfl

/-- An adjustment of the configuration changes no other part of a session, and leaves all of it
alone when it is refused. -/
theorem adjust_apply (change : Config → Except Failure Config) (session : Session) :
    adjust change session =
      match change session.config with
      | .ok config => .ok () { session with config }
      | .error failure => .error failure session := by
  cases outcome : change session.config <;> simp [adjust, outcome]

/-- A check leaves the session alone, whatever it finds. -/
theorem check_apply (test : Config → Except Failure Unit) (session : Session) :
    check test session =
      match test session.config with
      | .ok () => .ok () session
      | .error failure => .error failure session := by
  cases outcome : test session.config <;> simp [check, outcome]

/-- A collaborator that is asked sees the registry and the request. A refusal changes nothing, and
what is accepted is noted in the registry. -/
theorem request_apply (context : Context) (origin : String) (request : Request)
    (session : Session) :
    Action.request context origin request session =
      match context.gate session.registry request with
      | some reason => .error (.refused origin reason) session
      | none => .ok () { session with registry := session.registry.record request } := by
  cases verdict : context.gate session.registry request <;> simp [Action.request, verdict]

@[simp] theorem addSource_apply (path : String) (kind : SourceKind) (session : Session) :
    addSource path kind session =
      .ok ()
        { session with
          registry := session.registry.addSource path kind
          counters :=
            { session.counters with sourceFiles := session.counters.sourceFiles + 1 } } := rfl

@[simp] theorem setLineLength_apply (width : Nat) (session : Session) :
    setLineLength width session =
      .ok ()
        { session with
          config := { session.config with lineLength := width }
          registry := { session.registry with lineLength := some width } } := rfl

theorem tryOpen_apply (path : String) (mode : OpenMode) (session : Session) :
    tryOpen path mode session =
      match session.disk.openTarget path mode with
      | .ok (target, disk) => .ok (.ok target) { session with disk }
      | .error cause => .ok (.error cause) session := by
  cases outcome : session.disk.openTarget path mode <;> simp [tryOpen, outcome]

/-- Opening a file changes the disk alone, and nothing at all when it fails. -/
theorem openTarget_apply (path : String) (mode : OpenMode) (session : Session) :
    openTarget path mode session =
      match session.disk.openTarget path mode with
      | .ok (target, disk) => .ok target { session with disk }
      | .error cause => .error (.resource path .writing cause) session := by
  cases outcome : session.disk.openTarget path mode <;>
    simp [openTarget, tryOpen_apply, outcome]

/-- Reading a file leaves the session alone, whether it can be read or not. -/
theorem readLines_apply (path : String) (session : Session) :
    readLines path session =
      match session.disk.readLines path with
      | .ok lines => .ok lines session
      | .error cause => .error (.resource path .reading cause) session := by
  cases outcome : session.disk.readLines path <;> simp [readLines, outcome]

@[simp] theorem diagnose_apply (message : String) (session : Session) :
    diagnose message session = .ok () (session.diagnose message) := rfl

@[simp] theorem warn_apply (message : String) (session : Session) :
    warn message session =
      .ok ()
        { session.diagnose message with
          counters :=
            { (session.diagnose message).counters with
              warnings := (session.diagnose message).counters.warnings + 1 } } := rfl

/-- Where the first of two actions succeeds, the second decides what is left. -/
theorem after_bind_of_ok {action : Action α} {next : α → Action β} {session between : Session}
    {answer : α} (run : action session = .ok answer between) :
    (action >>= next).after session = (next answer).after between := by
  simp [after, run]

/-- Making another answer of an action does not change what it leaves. -/
theorem after_map (f : α → β) (action : Action α) (session : Session) :
    (f <$> action).after session = action.after session := by
  unfold after
  rw [map_apply]
  cases action session <;> rfl

/-- Where the first of two actions fails, it decides what is left. -/
theorem after_bind_of_error {action : Action α} {next : α → Action β} {session between : Session}
    {failure : Failure} (run : action session = .error failure between) :
    (action >>= next).after session = between := by
  simp [after, run]

/-! ### Going by steps

An action need not be known in full to know what it cannot do. It goes by steps of a relation if
whatever it leaves can be reached by such steps, so any property that a step keeps is kept by the
action. The relation `GoesBy` is closed under the ways in which actions are put together. -/

variable {step : Session → Session → Prop}

/-- An action reaches what it leaves if both its parts do. -/
theorem reaches_bind {action : Action α} {next : α → Action β} {session : Session}
    (first : Relation.ReflTransGen step session (action.after session))
    (later : ∀ answer between, action session = .ok answer between →
      Relation.ReflTransGen step between ((next answer).after between)) :
    Relation.ReflTransGen step session ((action >>= next).after session) := by
  cases run : action session with
  | ok answer between =>
    rw [after_of_ok run] at first
    rw [after_bind_of_ok run]
    exact first.trans (later answer between run)
  | error failure between =>
    rw [after_of_error run] at first
    rw [after_bind_of_error run]
    exact first

/-- The session that the action leaves is always reached by steps of the relation. -/
def GoesBy (step : Session → Session → Prop) (action : Action α) : Prop :=
  ∀ session, Relation.ReflTransGen step session (action.after session)

namespace GoesBy

protected theorem pure (answer : α) : GoesBy step (pure answer) :=
  fun _ => .refl

protected theorem throw (failure : Failure) : GoesBy step (throw failure : Action α) :=
  fun _ => .refl

protected theorem bind {action : Action α} {next : α → Action β} (first : GoesBy step action)
    (later : ∀ answer, GoesBy step (next answer)) : GoesBy step (action >>= next) :=
  fun session => reaches_bind (first session) fun answer between _ => later answer between

protected theorem forM {items : List α} {visit : α → Action Unit}
    (each : ∀ item, GoesBy step (visit item)) : GoesBy step (items.forM visit) := by
  induction items with
  | nil => exact GoesBy.pure ()
  | cons item items ih => exact (each item).bind fun _ => ih

protected theorem mono {wider : Session → Session → Prop} {action : Action α}
    (goes : GoesBy step action) (wide : ∀ first second, step first second → wider first second) :
    GoesBy wider action :=
  fun session => Relation.ReflTransGen.mono wide _ _ (goes session)

end GoesBy

end Action

end ExtractOptions

/-
Module: ExtractOptions.Proofs.Run.Ledger
Purpose: the counters of a run against what it recorded. Sources are counted as they are recorded.
  Lines of data are counted as they are recorded too, but for the values of three options, which are
  not counted, and for the line that ends a call by being refused, which is not recorded. Warnings
  are counted as they are sent, and nothing else is sent where diagnostics go.
Main exports: Given.handsOver, Calls.failures, Calls.Reckoned, Calls.counters_reckoned
-/
import ExtractOptions.Proofs.Run.Diagnosis
import ExtractOptions.Proofs.Session.Ledger

namespace ExtractOptions

open Text ExtractOptions.Action

/-! ### Options

For each option, the lines that it records against those that it counts. The two agree but for
options that hand over their own value, and for the line whose refusal ends the option. -/

/-- The options that hand over their own value, which is recorded among the lines of data. -/
def valueOptions : List OptionName :=
  [.letter .tagCriterion, .named "materialy", .named "materialz"]

/-- The option succeeds in handing over its own value. -/
def Given.handsOver (context : Context) (given : Given) : Bool :=
  decide (given.option.name ∈ valueOptions) && (given.alone context).succeeds given.session

namespace AnyOption

@[inherit_doc LetterOption.recordsValue]
def recordsValue : AnyOption → Bool
  | letter option => option.recordsValue
  | named option => option.recordsValue

/-- The options that hand over their own value are those of the list. -/
theorem recordsValue_eq {option : AnyOption} (listed : option.isListed) :
    option.recordsValue = decide (option.name ∈ valueOptions) := by
  cases option with
  | letter option => cases option <;> decide
  | named option =>
    have every : ∀ option ∈ NamedOption.all,
        option.recordsValue = decide (OptionName.named option.name ∈ valueOptions) := by
      decide
    exact every option listed

end AnyOption

section Options

variable {context : Context}

/-- A value that is handed over is recorded, but not counted among the lines of data. A refusal of
it is not that of a line. -/
def Action.HandsOver (action : Action Unit) : Prop :=
  ∀ session,
    match action session with
    | .ok () left =>
      left.counters.dataLines + session.registry.lineCount + 1 =
        session.counters.dataLines + left.registry.lineCount
    | .error failure left => session.Balances 0 left ∧ failure.isLineRefusal = false

/-- A value that is handed over is not reported as a line of data. -/
theorem request_handsOver {origin : String} {request : Request} (line : request.isLine = true)
    (elsewhere : isLineContext origin = false) :
    HandsOver (Action.request context origin request) := by
  intro session
  rw [request_apply]
  cases verdict : context.gate session.registry request with
  | none =>
    change session.counters.dataLines + session.registry.lineCount + 1 =
      session.counters.dataLines + (session.registry.record request).lineCount
    rw [Registry.lineCount_record, line, Bool.toNat_true, Nat.add_assoc]
  | some reason => exact ⟨.of_eq rfl rfl, elsewhere⟩

/-- An option that hands over its own value does nothing else about data lines. -/
theorem LetterOption.effect_handsOver {option : LetterOption}
    (records : option.recordsValue = true) (value : String) :
    HandsOver (option.effect context (fun _ => pure ()) value) := by
  cases option with
  | tagCriterion => exact request_handsOver rfl (by decide)
  | _ => cases records

/-- No name stands for a letter that hands over its own value. -/
theorem NamedOption.effect_handsOver {option : NamedOption} (listed : option ∈ NamedOption.all)
    (records : option.recordsValue = true) (value : String) :
    HandsOver (option.effect context (fun _ => pure ()) value) := by
  have every : ∀ option ∈ NamedOption.all, option.action ≠ .letter .tagCriterion := by decide
  unfold recordsValue at records
  unfold effect
  cases makes : option.action with
  | letter letter =>
    rw [makes] at records
    cases letter with
    | tagCriterion => exact absurd makes (every option listed)
    | _ => cases records
  | material bothColours =>
    simp only [withValue]
    cases required : Value.required (.named option.name) "a string of material" value with
    | ok given =>
      refine request_handsOver rfl ?_
      simp only [isLineContext, String.toList_append]
      rfl
    | error failure =>
      have objection := Refusal.required (.named option.name) value _ failure required
      exact fun session =>
        ⟨.of_eq rfl rfl, Failure.isLineRefusal_of_isObjection objection⟩
  | adjust | fenComments | bound | suppressTag | fenPattern | version => simp [makes] at records

namespace Given

/-- An option that hands over its value is counted, and the rest hands over. -/
theorem alone_handsOver (context : Context) (given : Given) (listed : given.option.isListed)
    (records : given.option.recordsValue = true) :
    ∃ (rest : Action Unit) (letters names : Nat), HandsOver rest ∧
      given.alone context given.session = rest (given.session.recounted letters names) := by
  obtain ⟨option, value, session⟩ := given
  cases option with
  | letter option =>
    exact ⟨_, session.counters.letters + 1, session.counters.names,
      option.effect_handsOver records value, rfl⟩
  | named option =>
    exact ⟨_, session.counters.letters, session.counters.names + 1,
      option.effect_handsOver listed records value, rfl⟩

/-- Any option counts itself, and the rest is assembled from parts. -/
theorem alone_assembled (context : Context) (given : Given) :
    ∃ (hands : Prop) (rest : Action Unit) (letters names : Nat),
      Assembled context hands (given.option.recordsValue = true) rest ∧
        given.alone context given.session = rest (given.session.recounted letters names) := by
  obtain ⟨option, value, session⟩ := given
  cases option with
  | letter option => exact ⟨_, option.alone_assembled context value session⟩
  | named option => exact ⟨_, option.alone_assembled context value session⟩

/-- The lines of data that an option records are counted, unless it hands over its own value. -/
theorem lines_of_ok {given : Given} {left : Session} (listed : given.option.isListed)
    (does : given.alone context given.session = .ok () left) :
    left.counters.dataLines + given.session.registry.lineCount + (given.handsOver context).toNat =
      given.session.counters.dataLines + left.registry.lineCount := by
  have hands : given.handsOver context = given.option.recordsValue := by
    rw [handsOver, AnyOption.recordsValue_eq listed, succeeds_of_ok does, Bool.and_true]
  rw [hands]
  cases records : given.option.recordsValue with
  | true =>
    obtain ⟨rest, letters, names, handsOver, same⟩ := given.alone_handsOver context listed records
    have made := handsOver (given.session.recounted letters names)
    rw [← same, does] at made
    exact made
  | false =>
    obtain ⟨_, rest, letters, names, assembled, same⟩ := given.alone_assembled context
    have own := (assembled.balanced (by simp [records])).of_ok (same.symm.trans does)
    exact own

/-- A line of data that is refused is counted all the same. -/
theorem lines_of_error {given : Given} {failure : Failure} {left : Session}
    (listed : given.option.isListed)
    (fails : given.alone context given.session = .error failure left) :
    given.session.Balances failure.isLineRefusal.toNat left ∧
      (failure.isLineRefusal = true → context.Rejects left.registry failure) := by
  cases records : given.option.recordsValue with
  | true =>
    obtain ⟨rest, letters, names, handsOver, same⟩ := given.alone_handsOver context listed records
    have made := handsOver (given.session.recounted letters names)
    rw [← same, fails] at made
    obtain ⟨balances, other⟩ := made
    rw [other]
    exact ⟨balances, fun impossible => nomatch impossible⟩
  | false =>
    obtain ⟨_, rest, letters, names, assembled, same⟩ := given.alone_assembled context
    have own := (assembled.balanced (by simp [records])).of_error (same.symm.trans fails)
    exact own

theorem warning?_eq (context : Context) (given : Given) :
    given.warning? context = (given.outward context).warning? given.session.disk := by
  unfold warning? Outward.warning?
  cases given.outward context <;> rfl

/-- What an option does outside, its warning last. -/
theorem surface_after_warning {given : Given} (listed : given.option.isListed) :
    (given.after context).surface =
      (given.warning? context).toList.foldl Surface.diagnose
        ((given.outward context).applySilently given.session.surface) := by
  rw [given.surface_after listed, Outward.apply_eq, warning?_eq]
  rfl

end Given

end Options

/-! ### Histories

The equations of single options are added up along a history. They are written without subtraction:
a line that is refused at the end is added to those that were recorded. -/

section Histories

variable {context : Context} {first second last : Session} {given : List Given}
  {ending : Option Failure}

/-- Between options, what goes well records every line of data that it counts. -/
theorem Interlude.balances (interlude : Interlude context True first second) :
    first.Balances 0 second := by
  cases interlude with
  | dataLine kind origin line success =>
    obtain ⟨answer, run⟩ := exists_ok_of_succeeds (success trivial)
    exact (Balanced.deliver kind origin line).of_ok run
  | source | enter | leave => exact .of_eq rfl rfl

/-- The lines that are counted in a history against those that are recorded. -/
theorem History.lines (history : History context first given ending last) :
    last.counters.dataLines + first.registry.lineCount + given.countP (Given.handsOver context) =
      first.counters.dataLines + last.registry.lineCount +
        ending.toList.countP Failure.isLineRefusal := by
  induction history with
  | done session => rfl
  | stopped session other => simp [other]
  | lineFailed kind origin line fails =>
    rw [Option.toList_some, countP_single]
    exact ((Balanced.deliver kind origin line).of_error fails).1
  | optionFailed one listed fails =>
    have hands : one.handsOver context = false := by
      rw [Given.handsOver, succeeds_of_error fails, Bool.and_false]
    rw [Option.toList_some, countP_single, countP_single, hands]
    exact (one.lines_of_error listed fails).1
  | left _ ih => exact ih
  | interlude interlude _ ih =>
    have own := interlude.balances
    unfold Session.Balances at own
    omega
  | option one listed does _ ih =>
    have own := one.lines_of_ok listed does
    rw [← List.singleton_append, List.countP_append, countP_single]
    omega

/-- A run that is ended by the refusal of a line is ended by one that is really refused. -/
theorem History.rejects (history : History context first given ending last) {failure : Failure}
    (ends : ending = some failure) (refusal : failure.isLineRefusal = true) :
    context.Rejects last.registry failure := by
  induction history with
  | done => cases ends
  | stopped session other =>
    cases ends
    rw [other] at refusal
    cases refusal
  | lineFailed kind origin line fails =>
    cases ends
    exact ((Balanced.deliver kind origin line).of_error fails).2 refusal
  | optionFailed one listed fails =>
    cases ends
    exact (one.lines_of_error listed fails).2 refusal
  | left _ ih => exact ih ends
  | interlude _ _ ih => exact ih ends
  | option _ _ _ _ ih => exact ih ends

/-- The surface is that of the options given, each with its warning last. -/
theorem Chronology.told {clean : Prop} (chronology : Chronology context clean first given last) :
    last.surface =
        given.foldl
          (fun surface one => (one.warning? context).toList.foldl Surface.diagnose
            ((one.outward context).applySilently surface)) first.surface ∧
      last.counters.warnings =
        first.counters.warnings + (given.filterMap (Given.warning? context)).length := by
  induction chronology with
  | done session => exact ⟨rfl, rfl⟩
  | interlude interlude _ ih =>
    have inward := interlude.inward
    have warnings := inward.warnings
    rw [inward.surface] at ih
    rw [ih.2, warnings]
    exact ⟨ih.1, rfl⟩
  | option one listed _ _ ih =>
    rw [List.foldl_cons, ← one.surface_after_warning listed, ih.2, one.warnings_after listed,
      ← one.warning?_eq, List.filterMap_cons]
    refine ⟨ih.1, ?_⟩
    cases one.warning? context with
    | none => rfl
    | some message =>
      simp only [Option.toList_some, List.length_cons, List.length_nil]
      omega

end Histories

/-! ### Calls

A call that fails ends, and the next one goes on from what it left. The failures of the calls are
therefore a list that the counters are reckoned against. -/

section Calls

variable (context : Context)

/-- The failures of the calls that fail, in order. -/
def Calls.failures : List Call → Session → List Failure
  | [], _ => []
  | call :: later, session =>
    ((call.run context).failure? session).toList ++
      failures later ((call.run context).after session)

/-- The counters of some calls match what the calls recorded and sent. -/
structure Calls.Reckoned (calls : List Call) (first last : Session) (given : List Given) :
    Prop where
  /-- Every source that is recorded is counted. -/
  sources : (last.counters.sourceFiles : Int) - first.counters.sourceFiles =
    last.registry.sources.length - first.registry.sources.length
  /-- Every line of data that is recorded is counted, unless an option handed it over as its value;
  a line that ended a call by being refused is counted too. -/
  lines : (last.counters.dataLines : Int) - first.counters.dataLines =
    (last.registry.lineCount : Int) - first.registry.lineCount -
      given.countP (Given.handsOver context) +
      (Calls.failures context calls first).countP Failure.isLineRefusal
  /-- What ended such a call is a line of data that the rest of the tool refuses. -/
  refused : ∀ front call back, calls = front ++ call :: back →
    ∀ failure ∈ (call.run context).failure? (Calls.after context front first),
      (failure.isLineRefusal = true ↔
        context.Rejects ((call.run context).after (Calls.after context front first)).registry
          failure)
  /-- Every warning of an option is counted. -/
  warnings : last.counters.warnings =
    first.counters.warnings + (given.filterMap (Given.warning? context)).length
  /-- The warnings of the options, in their order, are all that is sent where diagnostics go. -/
  sent : last.surface =
    given.foldl
      (fun surface one => (one.warning? context).toList.foldl Surface.diagnose
        ((one.outward context).applySilently surface)) first.surface
  /-- An option that fails sends no warning. -/
  unwarned : ∀ one ∈ given, (one.alone context).succeeds one.session = false →
    one.warning? context = none

/-- The lines that are counted in some calls against those that are recorded. -/
theorem Calls.lines (calls : List Call) (session : Session) :
    (Calls.after context calls session).counters.dataLines + session.registry.lineCount +
        (Calls.given context calls session).countP (Given.handsOver context) =
      session.counters.dataLines + (Calls.after context calls session).registry.lineCount +
        (Calls.failures context calls session).countP Failure.isLineRefusal := by
  induction calls generalizing session with
  | nil => rfl
  | cons call later ih =>
    have history : History context session _ _ _ := call.chronicles session
    have head := history.lines
    have tail := ih ((call.run context).after session)
    simp only [Calls.after, Calls.given, failures, List.countP_append]
    omega

/-- A call is ended by the refusal of a line if and only if the rest of the tool refuses one. -/
theorem Call.isLineRefusal_iff {call : Call} {session : Session} {failure : Failure}
    (fails : (call.run context).failure? session = some failure) :
    failure.isLineRefusal = true ↔
      context.Rejects ((call.run context).after session).registry failure := by
  have history : History context session _ _ _ := call.chronicles session
  constructor
  · exact history.rejects fails
  · rintro ⟨kind, origin, line, reason, -, rfl⟩
    exact kind.isLineRefusal_refusal origin line reason

/-- Whatever the calls, those that fail included, and whatever the rules that refuse requests:
sources are counted as they are recorded; lines of data are, but for the values that options hand
over and the lines that end a call by being refused; and warnings are counted as they are sent, at
most one for each option and none for one that fails, with nothing else sent. -/
theorem Calls.counters_reckoned (calls : List Call) (session : Session) :
    Calls.Reckoned context calls session (Calls.after context calls session)
      (Calls.given context calls session) := by
  have chronology : Chronology context _ session _ _ := Calls.chronology calls session
  obtain ⟨sent, warnings⟩ := chronology.told
  exact
    { sources := by
        have counted := chronology.steps.sources
        omega
      lines := by
        have counted := Calls.lines context calls session
        omega
      refused := fun front call back _ failure fails => Call.isLineRefusal_iff context fails
      warnings
      sent
      unwarned := by
        intro one _ fails
        cases run : one.alone context one.session with
        | ok _ left =>
          rw [succeeds_of_ok run] at fails
          cases fails
        | error failure left =>
          rw [one.warning?_eq]
          exact Given.unwarned_of_error run }

end Calls

end ExtractOptions

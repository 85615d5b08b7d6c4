/-
Module: ExtractOptions.Proofs.Run.Chronology
Purpose: a run as the chronology of the options given in it. Between options the session only
  changes by what lines and tokens do that give none; at an option it changes by what the option
  does alone. A history also says what ends the run, if it fails. Every action on options has a
  history of the options in its trace.
Main exports: Interlude, Chronology, History, History.chronology, Chronicles, Call.chronicles,
  Calls.chronology, Chronology.steps
-/
import ExtractOptions.Proofs.Run.Course
import ExtractOptions.Proofs.Session.Atomic
import ExtractOptions.Proofs.Session.Parts

namespace ExtractOptions

open Text ExtractOptions.Action

/-- What happens between options: a line of data is handed on, a source is named, an argument file
is entered or left. None of it fails if `clean` holds. -/
inductive Interlude (context : Context) (clean : Prop) (first : Session) : Session → Prop where
  | dataLine (kind : DataKind) (origin line : String)
      (success : clean → (deliver context kind.option origin line).succeeds first = true) :
    Interlude context clean first ((deliver context kind.option origin line).after first)
  | source (path : String) : Interlude context clean first ((addSource path .normal).after first)
  | enter (place : Location) : Interlude context clean first (first.entering place)
  | leave : Interlude context clean first first.leaving

namespace Interlude

variable {context : Context} {clean : Prop} {first second : Session}

theorem mono {cleaner : Prop} (interlude : Interlude context clean first second)
    (implied : cleaner → clean) : Interlude context cleaner first second := by
  cases interlude with
  | dataLine kind origin line success => exact .dataLine kind origin line (success ∘ implied)
  | source path => exact .source path
  | enter place => exact .enter place
  | leave => exact .leave

/-- It comes down to steps that are no option's. -/
theorem asides (interlude : Interlude context clean first second) :
    Relation.ReflTransGen (Aside context) first second := by
  cases interlude with
  | dataLine kind origin line => exact deliver_asides kind.option origin line first
  | source path => exact addSource_asides path .normal first
  | enter place =>
    apply Relation.ReflTransGen.tail (.single ⟨.countFile, .inl rfl, rfl, rfl⟩)
    exact ⟨.enter place, .inl rfl, rfl, rfl⟩
  | leave => exact .single ⟨.leave, .inl rfl, rfl, rfl⟩

/-- Nothing that happens between options touches the disk. -/
theorem disk (interlude : Interlude context clean first second) : second.disk = first.disk :=
  disk_of_asides interlude.asides

/-- What happens between options is made of steps that no option takes. -/
theorem steps {may : Deed → Prop} (interlude : Interlude context clean first second) :
    Session.Steps context may first second :=
  Relation.ReflTransGen.mono (fun _ _ aside => aside.step.mono fun _ => False.elim) _ _
    interlude.asides

end Interlude

/-- The session goes from the first to the last while some options are given, one after the other.
None of them fails if `clean` holds. -/
inductive Chronology (context : Context) (clean : Prop) :
    Session → List Given → Session → Prop where
  | done (session : Session) : Chronology context clean session [] session
  | interlude {first second last : Session} {given : List Given}
      (interlude : Interlude context clean first second)
      (rest : Chronology context clean second given last) :
    Chronology context clean first given last
  | option {later : List Given} {last : Session} (given : Given) (listed : given.option.isListed)
      (success : clean → (given.alone context).succeeds given.session = true)
      (rest : Chronology context clean (given.after context) later last) :
    Chronology context clean given.session (given :: later) last

namespace Chronology

variable {context : Context} {clean : Prop} {first second last : Session}
  {given later : List Given}

/-- Two chronologies are one if the second starts where the first one ends. -/
theorem append (head : Chronology context clean first given second)
    (tail : Chronology context clean second later last) :
    Chronology context clean first (given ++ later) last := by
  induction head with
  | done => exact tail
  | interlude interlude _ ih => exact .interlude interlude (ih tail)
  | option given listed success _ ih => exact .option given listed success (ih tail)

theorem then_interlude (chronology : Chronology context clean first given second)
    (interlude : Interlude context clean second last) :
    Chronology context clean first given last := by
  have whole := chronology.append (.interlude interlude (.done last))
  rwa [List.append_nil] at whole

/-- A chronology says less of a run that may fail. -/
theorem mono {cleaner : Prop} (chronology : Chronology context clean first given last)
    (implied : cleaner → clean) : Chronology context cleaner first given last := by
  induction chronology with
  | done session => exact .done session
  | interlude interlude _ ih => exact .interlude (interlude.mono implied) ih
  | option given listed success _ ih => exact .option given listed (success ∘ implied) ih

/-- What holds at first and is kept by every interlude and every option holds at every option and at
last. -/
theorem keeps (holds : Session → Prop) (chronology : Chronology context clean first given last)
    (interludes : ∀ {first second : Session}, Interlude context clean first second →
      holds first → holds second)
    (options : ∀ one ∈ given, one.option.isListed →
      (clean → (one.alone context).succeeds one.session = true) →
      holds one.session → holds (one.after context))
    (begins : holds first) : holds last ∧ ∀ one ∈ given, holds one.session := by
  induction chronology with
  | done session => exact ⟨begins, fun _ among => nomatch among⟩
  | interlude interlude _ ih => exact ih options (interludes interlude begins)
  | option one listed success _ ih =>
    have left := options one List.mem_cons_self listed success begins
    obtain ⟨ends, others⟩ :=
      ih (fun other among => options other (List.mem_cons_of_mem _ among)) left
    refine ⟨ends, fun other among => ?_⟩
    rcases List.mem_cons.mp among with rfl | later
    · exact begins
    · exact others other later

end Chronology

/-! ### Histories

A history is a chronology that also says how the run ended. What goes well can go on, so histories
are put together at their good ends, and the one failure that there may be stands last. -/

/-- The session goes from the first to the last while some options are given, one after the other,
and nothing fails but what ends it. That is an option, a line of data, or something that leaves the
session alone. Argument files that are being read are left after a failure too. -/
inductive History (context : Context) :
    Session → List Given → (ending : Option Failure) → Session → Prop where
  | done (session : Session) : History context session [] none session
  | stopped (session : Session) {failure : Failure} (other : failure.isLineRefusal = false) :
    History context session [] (some failure) session
  | lineFailed {session left : Session} {failure : Failure} (kind : DataKind)
      (origin line : String)
      (fails : deliver context kind.option origin line session = .error failure left) :
    History context session [] (some failure) left
  | optionFailed {left : Session} {failure : Failure} (given : Given)
      (listed : given.option.isListed)
      (fails : given.alone context given.session = .error failure left) :
    History context given.session [given] (some failure) left
  | left {first last : Session} {given : List Given} {failure : Failure}
      (inside : History context first given (some failure) last) :
    History context first given (some failure) last.leaving
  | interlude {first second last : Session} {given : List Given} {ending : Option Failure}
      (interlude : Interlude context True first second)
      (rest : History context second given ending last) : History context first given ending last
  | option {second last : Session} {later : List Given} {ending : Option Failure} (given : Given)
      (listed : given.option.isListed)
      (does : given.alone context given.session = .ok () second)
      (rest : History context second later ending last) :
    History context given.session (given :: later) ending last

namespace History

variable {context : Context} {first second last : Session} {given later : List Given}
  {ending : Option Failure}

/-- What goes well can go on. -/
theorem append (head : History context first given none second)
    (tail : History context second later ending last) :
    History context first (given ++ later) ending last := by
  generalize well : (none : Option Failure) = outcome at head
  induction head with
  | done => exact tail
  | stopped | lineFailed | optionFailed | left => cases well
  | interlude interlude _ ih => exact .interlude interlude (ih tail well)
  | option given listed does _ ih => exact .option given listed does (ih tail well)

theorem then_interlude (history : History context first given none second)
    (interlude : Interlude context True second last) : History context first given none last := by
  have whole := history.append (.interlude interlude (.done last))
  rwa [List.append_nil] at whole

/-- A history is a chronology, in which nothing fails if nothing ends it. -/
theorem chronology (history : History context first given ending last) :
    Chronology context (ending = none) first given last := by
  induction history with
  | done session | stopped session => exact .done session
  | lineFailed kind origin line fails =>
    rw [← after_of_error fails]
    exact .interlude (.dataLine kind origin line fun well => nomatch well) (.done _)
  | optionFailed given listed fails =>
    have left : given.after context = _ := after_of_error fails
    rw [← left]
    exact .option given listed (fun well => nomatch well) (.done _)
  | left _ ih => exact ih.then_interlude .leave
  | interlude interlude _ ih => exact .interlude (interlude.mono fun _ => trivial) ih
  | option given listed does _ ih =>
    refine .option given listed (fun _ => succeeds_of_ok does) ?_
    rw [Given.after, after_of_ok does]
    exact ih

end History

/-! ### Actions and their traces

That a trace belongs to an action is closed under the ways in which actions are put together. Each
clause has its counterpart among the combinators of traces. -/

/-- The trace lists the options that are given while the action runs. -/
def Chronicles {α : Type} (context : Context) (action : Action α) (trace : Trace) : Prop :=
  ∀ session,
    History context session (trace session) (action.failure? session) (action.after session)

namespace Chronicles

variable {α β : Type} {context : Context}

/-- Every run of a chronicled action is a chronology of the options in its trace. -/
theorem chronology {action : Action α} {trace : Trace}
    (chronicles : Chronicles context action trace) (session : Session) :
    Chronology context (action.succeeds session = true) session (trace session)
      (action.after session) :=
  (chronicles session).chronology.mono failure?_eq_none.mpr

/-- None of the options fails in a run that ends well. -/
theorem of_ok {action : Action α} {trace : Trace} (chronicles : Chronicles context action trace)
    {session left : Session} {answer : α} (run : action session = .ok answer left) :
    Chronology context True session (trace session) left := by
  have whole := chronicles.chronology session
  rw [after_of_ok run, succeeds_of_ok run] at whole
  exact whole.mono fun _ => rfl

protected theorem pure (answer : α) : Chronicles context (pure answer) .silent :=
  fun session => .done session

/-- A failure other than the refusal of a data line gives no option. -/
protected theorem throw {failure : Failure} (other : failure.isLineRefusal = false) :
    Chronicles context (throw failure : Action α) .silent :=
  fun session => .stopped session other

/-- To record a source of games gives no option. -/
theorem addSource (path : String) : Chronicles context (addSource path .normal) .silent :=
  fun _ => .interlude (.source path) (.done _)

theorem deliver (kind : DataKind) (origin line : String) :
    Chronicles context (deliver context kind.option origin line) .silent := by
  intro session
  cases does : ExtractOptions.deliver context kind.option origin line session with
  | ok answer left =>
    have success := succeeds_of_ok does
    rw [failure?_of_ok does]
    exact .interlude (.dataLine kind origin line fun _ => success) (.done _)
  | error failure left =>
    rw [failure?_of_error does, after_of_error does]
    exact .lineFailed kind origin line does

protected theorem bind {action : Action α} {next : α → Action β} {trace : Trace}
    {traces : α → Trace} (head : Chronicles context action trace)
    (tail : ∀ answer session left, action session = .ok answer left →
      Chronicles context (next answer) (traces answer)) :
    Chronicles context (action >>= next) (trace.andThen action traces) := by
  intro session
  have begins := head session
  cases run : action session with
  | ok answer between =>
    have same : (action >>= next) session = next answer between := by rw [bind_apply, run]
    rw [after_of_ok run, failure?_of_ok run] at begins
    rw [after_congr same, failure?_congr same, Trace.andThen_of_ok run]
    exact begins.append (tail answer session between run between)
  | error failure between =>
    have same : (action >>= next) session = .error failure between := by rw [bind_apply, run]
    rw [after_of_error run, failure?_of_error run] at begins
    rw [after_of_error same, failure?_of_error same]
    simp only [Trace.andThen, run, List.append_nil]
    exact begins

/-- What follows an option within the same action changes the answer only. -/
protected theorem map {action : Action α} {trace : Trace} {f : α → β}
    (head : Chronicles context action trace) : Chronicles context (f <$> action) trace := by
  intro session
  have begins := head session
  cases run : action session with
  | ok answer between =>
    have left : (f <$> action) session = .ok (f answer) between := by simp [run]
    rw [after_of_ok run, failure?_of_ok run] at begins
    rwa [after_of_ok left, failure?_of_ok left]
  | error failure between =>
    have left : (f <$> action) session = .error failure between := by simp [run]
    rw [after_of_error run, failure?_of_error run] at begins
    rwa [after_of_error left, failure?_of_error left]

/-- An action that looks at the session first is chronicled for each session that it may see. -/
protected theorem get_bind {next : Session → Action β} (traces : Session → Trace)
    (tail : ∀ session, Chronicles context (next session) (traces session)) :
    Chronicles context (get >>= next) (fun session => traces session session) :=
  fun session => tail session session

protected theorem bind_pure {action : Action α} {trace : Trace} {f : α → β}
    (head : Chronicles context action trace) :
    Chronicles context (action >>= fun answer => pure (f answer)) trace := by
  rw [bind_pure_comp]
  exact head.map

protected theorem discard {action : Action α} {trace : Trace}
    (head : Chronicles context action trace) : Chronicles context (discard action) trace :=
  head.map (f := fun _ => PUnit.unit)

end Chronicles

/-! ### The chronicle of every action

The clauses follow the program from single options to whole calls. For argument files within
argument files the induction is over the levels that are left. -/

section Actions

variable {context : Context} {includeFile : String → Action Unit} {included : String → Trace}

/-- An option that is given alone is all that there is to its history. -/
theorem Given.history (given : Given) (listed : given.option.isListed) :
    History context given.session [given] ((given.alone context).failure? given.session)
      (given.after context) := by
  cases does : given.alone context given.session with
  | ok answer left =>
    rw [failure?_of_ok does, Given.after, after_of_ok does]
    exact .option given listed does (.done left)
  | error failure left =>
    rw [failure?_of_error does, Given.after, after_of_error does]
    exact .optionFailed given listed does

/-- An option with a letter gives itself and, before it is done, the options of the file that it may
include. -/
theorem LetterOption.chronicles
    (includes : ∀ file, Chronicles context (includeFile file) (included file))
    (option : LetterOption) (value : String) :
    Chronicles context (option.perform context includeFile value)
      (option.given context included value) := by
  intro session
  rcases option.reads_or_unread value with ⟨rfl, named⟩ | unread
  · have counted : argumentFile.alone context value session = _ := alone_argumentFile named session
    have left : argumentFile.perform context includeFile value session = _ :=
      perform_argumentFile named session
    rw [failure?_congr left, after_congr left, given_argumentFile named]
    exact .option ⟨.letter .argumentFile, value, session⟩ trivial counted
      (includes (skipSpaces value) session.lettered)
  · rw [perform_eq_alone unread, given_alone unread]
    exact Given.history ⟨.letter option, value, session⟩ trivial

theorem performNamed_chronicles (name value : String) :
    Chronicles context (performNamed context includeFile name value) (givenByName name value) := by
  unfold performNamed givenByName
  cases found : NamedOption.find? name with
  | none => exact .throw rfl
  | some option =>
    have listed : option ∈ NamedOption.all := List.mem_of_find?_eq_some found
    have alone : Chronicles context (option.alone context value)
        (fun session => [⟨.named option, value, session⟩]) :=
      fun session => Given.history ⟨.named option, value, session⟩ listed
    have run : performNamed context includeFile name value = _ := performNamed_eq found value
    unfold performNamed at run
    simp only [found] at run ⊢
    rw [run]
    exact alone.map

/-- A line gives the option that it is a directive for, if it is one. -/
theorem interpretLine_chronicles
    (includes : ∀ file, Chronicles context (includeFile file) (included file)) (origin : String)
    {pending : Option LetterOption} (persisting : Persisting pending) (line : String) :
    Chronicles context (interpretLine context includeFile origin pending line)
      (givenInLine context included line) := by
  rw [interpretLine_eq]
  unfold givenInLine
  cases form : LineForm.ofText line with
  | blank => exact .pure pending
  | named name value => exact (performNamed_chronicles name value).discard.bind_pure
  | letter option value => exact (option.chronicles includes value).bind_pure
  | source path => exact (Chronicles.addSource path).bind_pure
  | data =>
    cases pending with
    | none => exact .throw rfl
    | some option =>
      obtain ⟨kind, rfl⟩ := LetterOption.persists_iff.mp (persisting option rfl)
      exact (Chronicles.deliver kind origin line).bind_pure
  | unknown failure =>
    rw [LineForm.failure_of_unknown form]
    exact .throw rfl

/-- The same for a line at its place in a file. -/
theorem lineAction_chronicles
    (includes : ∀ file, Chronicles context (includeFile file) (included file)) (origin : String)
    (before : List String) (line : String) :
    Chronicles context (lineAction context includeFile origin before line)
      (givenInLine context included line) := by
  intro session
  have history := interpretLine_chronicles includes origin (persisting_optionAfter? before) line
    session
  have run : interpretLine context includeFile origin (optionAfter? before) line session = _ :=
    interpretLine_optionAfter? origin before line session
  cases does : lineAction context includeFile origin before line session with
  | ok answer left =>
    rw [does] at run
    rw [after_of_ok run, failure?_of_ok run] at history
    rwa [after_of_ok does, failure?_of_ok does]
  | error failure left =>
    rw [does] at run
    rw [after_of_error run, failure?_of_error run] at history
    rwa [after_of_error does, failure?_of_error does]

theorem nextLine_chronicles (reader : LineReader) :
    Chronicles context (nextLine reader) .silent := by
  intro session
  have reads : nextLine reader session = _ := nextLine_apply reader session
  cases outcome : reader.next session.disk with
  | ok next =>
    rw [outcome] at reads
    rw [after_of_ok reads, failure?_of_ok reads]
    exact .done session
  | error cause =>
    rw [outcome] at reads
    rw [after_of_error reads, failure?_of_error reads]
    exact .stopped session rfl

/-- The lines of a file give their options in order, up to the first that fails. -/
theorem interpretLines_chronicles
    (includes : ∀ file, Chronicles context (includeFile file) (included file)) (allowance : Nat)
    (reader : LineReader) {pending : Option LetterOption} (persisting : Persisting pending) :
    Chronicles context (interpretLines context includeFile allowance reader pending)
      (givenInLines context includeFile included allowance reader pending) := by
  induction allowance generalizing reader pending with
  | zero => exact .throw rfl
  | succ allowance ih =>
    refine (nextLine_chronicles reader).bind fun next _ _ _ => ?_
    cases next with
    | none => exact .pure ()
    | some next =>
      obtain ⟨line, later⟩ := next
      exact (interpretLine_chronicles includes reader.path persisting line).bind
        fun _ _ _ does => ih later (interpretLine_persisting persisting does)

theorem interpretFile_chronicles
    (includes : ∀ file, Chronicles context (includeFile file) (included file)) (path : String) :
    Chronicles context (interpretFile context includeFile path)
      (givenInFile context includeFile included path) := by
  intro session
  have reads : interpretFile context includeFile path session = _ :=
    interpretFile_apply path session
  unfold givenInFile
  cases found : session.disk.openReader path with
  | error cause =>
    simp only [found] at reads
    rw [after_of_error reads, failure?_of_error reads]
    exact .stopped session rfl
  | ok reader =>
    simp only [found] at reads
    rw [failure?_congr reads, after_congr reads]
    exact interpretLines_chronicles includes _ reader persisting_none session

/-- What is given in a file is given between the entry into it and the exit. -/
theorem readNested_chronicles (levels : Nat) (path : String) :
    Chronicles context (readNested context levels path) (givenNested context levels path) := by
  induction levels generalizing path with
  | zero =>
    intro session
    have stays : givenNested context 0 path session = [] := by
      rw [givenNested_apply]
      cases session.disk.canonical path <;> simp
    have ends := readNested_ends context 0 path session
    generalize run : readNested context 0 path session = outcome at ends
    rw [stays]
    cases ends <;>
    · rw [after_of_error run, failure?_of_error run]
      exact .stopped session rfl
  | succ inner ih =>
    intro session
    have inside := fun place => interpretFile_chronicles ih path (session.entering place)
    have ends := readNested_ends context (inner + 1) path session
    generalize run : readNested context (inner + 1) path session = outcome at ends
    rw [givenNested_apply]
    cases ends with
    | missing lost =>
      rw [lost, after_of_error run, failure?_of_error run]
      exact .stopped session rfl
    | again found reading =>
      simp only [found, if_pos reading]
      rw [after_of_error run, failure?_of_error run]
      exact .stopped session rfl
    | @finished _ place between found fresh reads =>
      have inside := inside place
      rw [after_of_ok reads, failure?_of_ok reads] at inside
      simp only [found, if_neg fresh]
      rw [after_of_ok run, failure?_of_ok run]
      exact .interlude (.enter place) (inside.then_interlude .leave)
    | @failed _ place between failure found fresh reads =>
      have inside := inside place
      rw [after_of_error reads, failure?_of_error reads] at inside
      simp only [found, if_neg fresh]
      rw [after_of_error run, failure?_of_error run]
      exact .interlude (.enter place) (.left inside)

/-- Reading an argument file gives the options of its lines. -/
theorem readArgumentFile_chronicles (path : String) :
    Chronicles context (readArgumentFile context path) (givenReading context path) :=
  Chronicles.get_bind
    (fun session =>
      givenNested context (context.maxIncludeDepth - session.including.length) path)
    fun session => readNested_chronicles (context.maxIncludeDepth - session.including.length) path

/-- A letter gives its option, and a letter without one gives none. -/
theorem performLetter_chronicles (c : Char) (value : String) :
    Chronicles context (performLetter context c value)
      (match LetterOption.ofLetter? c with
        | some option => option.given context (givenReading context) value
        | none => .silent) := by
  unfold performLetter
  cases LetterOption.ofLetter? c with
  | some option => exact option.chronicles readArgumentFile_chronicles value
  | none => exact .throw rfl

/-- A command line gives the options of its entries in order. -/
theorem resolve_chronicles (tokens : List String) :
    Chronicles context (resolve context tokens) (givenResolving context tokens) := by
  induction tokens using resolve.induct with
  | case1 => exact .pure ()
  | case2 token later name form next afterNext =>
    unfold resolve givenResolving
    simp only [form]
    refine (performNamed_chronicles name _).bind fun consumed _ _ _ => ?_
    cases consumed with
    | nameOnly => exact next
    | nameAndValue =>
      cases later with
      | nil => exact .pure ()
      | cons value afterValue => exact afterNext
  | case3 token later c value form next =>
    unfold resolve givenResolving
    simp only [form]
    exact (performLetter_chronicles c value).bind fun _ _ _ _ => next
  | case4 token later form =>
    unfold resolve givenResolving
    simp only [form]
    exact .throw rfl
  | case5 token later path form next =>
    unfold resolve givenResolving
    simp only [form]
    exact (Chronicles.addSource path).bind fun _ _ _ _ => next

/-- The trace of a call lists the options that are given in it. -/
theorem Call.chronicles (call : Call) :
    Chronicles context (call.run context) (call.given context) := by
  cases call with
  | commandLine tokens => exact resolve_chronicles tokens
  | letter option value => exact option.chronicles readArgumentFile_chronicles value
  | named name value => exact (performNamed_chronicles name value).discard
  | argumentFile path => exact readArgumentFile_chronicles path

/-- Some calls together are chronicled by what each of them is given. -/
theorem Calls.chronology (calls : List Call) (session : Session) :
    Chronology context (Calls.succeed context calls session = true) session
      (Calls.given context calls session) (Calls.after context calls session) := by
  induction calls generalizing session with
  | nil => exact .done session
  | cons call later ih =>
    have head : Chronology context _ session _ _ := call.chronicles.chronology session
    have tail := ih ((call.run context).after session)
    simp only [Calls.succeed, Bool.and_eq_true]
    exact (head.mono And.left).append (tail.mono And.right)

end Actions

/-! ### From a chronology to steps

The step relation says what a deed may change. A chronology comes down to steps with the deeds of
its options, so invariants of steps are invariants of runs. -/

namespace Given

theorem alone_steps (context : Context) {given : Given} (listed : given.option.isListed) :
    Session.Steps context given.may given.session (given.after context) := by
  obtain ⟨option, value, session⟩ := given
  cases option with
  | letter option => exact option.alone_steps context value session
  | named option =>
    have deeds : option.may value session.disk = (Given.mk (.named option) value session).may := by
      funext deed
      cases makes : option.action <;>
        simp [NamedOption.may, Given.may, AnyOption.asLetter?, makes]
    rw [← deeds]
    exact NamedOption.alone_steps context listed value session

end Given

/-- A chronology comes down to steps, with no other deeds than those of the options given. -/
theorem Chronology.steps {context : Context} {clean : Prop} {first last : Session}
    {given : List Given} (chronology : Chronology context clean first given last) :
    Session.Steps context (fun deed => ∃ one ∈ given, one.may deed) first last := by
  induction chronology with
  | done session => exact .refl
  | interlude interlude _ ih => exact interlude.steps.trans ih
  | @option later last one listed success rest ih =>
    have own : Session.Steps context (fun deed => ∃ other ∈ one :: later, other.may deed)
        one.session (one.after context) :=
      (one.alone_steps context listed).mono fun _ does => ⟨one, by simp, does⟩
    refine own.trans (ih.mono fun deed does => ?_)
    obtain ⟨other, among, does⟩ := does
    exact ⟨other, by simp [among], does⟩

end ExtractOptions

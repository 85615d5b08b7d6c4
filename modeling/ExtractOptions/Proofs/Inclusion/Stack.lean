/-
Module: ExtractOptions.Proofs.Inclusion.Stack
Purpose: the argument files that are being read. Every call leaves them as it met them, whether it
  succeeds or fails, and so does the reading of a file at any depth. While a file is read it stands
  in front of the files around it; no file stands there twice, and there are never more than may be
  open at once.
Main exports: Session.Guarded, readNested_keepsStack, Call.including_after, Given.file?, Call.Reads,
  Call.guarded_of_given, Call.Reads.guarded
-/
import ExtractOptions.Proofs.Run.Course
import ExtractOptions.Proofs.Session.Unaware

namespace ExtractOptions

open Text ExtractOptions.Action

/-! ### The files around a session

`KeepsStack` is closed under the ways in which actions are put together, so the proof for a whole
call follows its program. The one place where the files change is the entering of a file, and there
they are put back whatever happens. -/

/-- The action leaves the argument files that are being read as they were. -/
def Action.KeepsStack {α : Type} (action : Action α) : Prop :=
  ∀ session, (action.after session).including = session.including

namespace Action.KeepsStack

variable {α β : Type}

/-- What is unaware of the files being read does not change them. -/
theorem of_unaware {action : Action α} (unaware : Unaware action) : KeepsStack action :=
  fun session => (unaware.within session).including

theorem of_ok {action : Action α} (keeps : KeepsStack action) {session left : Session} {answer : α}
    (run : action session = .ok answer left) : left.including = session.including := by
  rw [← after_of_ok run]
  exact keeps session

protected theorem pure (answer : α) : KeepsStack (pure answer) :=
  fun _ => rfl

protected theorem throw (failure : Failure) : KeepsStack (throw failure : Action α) :=
  fun _ => rfl

/-- Two actions that leave the files as they met them do so together. -/
protected theorem bind {action : Action α} {next : α → Action β} (head : KeepsStack action)
    (tail : ∀ answer, KeepsStack (next answer)) : KeepsStack (action >>= next) := by
  intro session
  have first := head session
  cases run : action session with
  | ok answer between =>
    rw [after_of_ok run] at first
    rw [after_bind_of_ok run, tail answer between, first]
  | error failure between =>
    rw [after_of_error run] at first
    rw [after_bind_of_error run, first]

protected theorem map {action : Action α} {f : α → β} (keeps : KeepsStack action) :
    KeepsStack (f <$> action) := by
  intro session
  rw [after_map]
  exact keeps session

end Action.KeepsStack

section

variable {context : Context} {includeFile : String → Action Unit}

/-- An option that includes no file leaves the files being read alone. -/
theorem LetterOption.alone_keepsStack (option : LetterOption) (value : String) :
    KeepsStack (option.alone context value) := by
  by_cases marker : option = .named
  · subst marker
    exact fun _ => rfl
  · exact .of_unaware (option.alone_unaware context marker value)

/-- An option leaves them as it met them if the reading it may start does. -/
theorem LetterOption.keepsStack (includes : ∀ file, KeepsStack (includeFile file))
    (option : LetterOption) (value : String) :
    KeepsStack (option.perform context includeFile value) := by
  rcases option.reads_or_alone context value with ⟨rfl, named⟩ | alone
  · intro session
    rw [after_congr (perform_argumentFile named session), includes]
    rfl
  · rw [alone]
    exact option.alone_keepsStack value

theorem performNamed_keepsStack (name value : String) :
    KeepsStack (performNamed context includeFile name value) :=
  .of_unaware (performNamed_unaware context includeFile name value)

theorem lineAction_keepsStack (includes : ∀ file, KeepsStack (includeFile file)) (origin : String)
    (before : List String) (line : String) :
    KeepsStack (lineAction context includeFile origin before line) := by
  unfold lineAction
  cases LineForm.ofText line with
  | blank => exact .pure ()
  | named name value => exact (performNamed_keepsStack name value).map
  | letter option value => exact option.keepsStack includes value
  | source path => exact .of_unaware (.addSource path .normal)
  | data =>
    cases kindAfter? before with
    | none => exact .throw _
    | some kind => exact .of_unaware (.deliver context kind.persists_option origin line)
  | unknown failure => exact .throw failure

/-- At every point of its course a reading has the files around it that it started with. -/
theorem Course.including_eq (includes : ∀ file, KeepsStack (includeFile file)) {path : String}
    {session met : Session} {before : List String} {reader : LineReader}
    (course : Course context includeFile path session before reader met) :
    met.including = session.including := by
  induction course with
  | opened => rfl
  | @line before _ _ met _ line _ _ _ does ih =>
    rw [← ih, ← after_of_ok does]
    exact lineAction_keepsStack includes path before line met

/-- A reading that has come to a line has the files around it that it started with. -/
theorem ComesTo.including_eq (includes : ∀ file, KeepsStack (includeFile file)) {path : String}
    {session met : Session} {before : List String} {line : String}
    (comes : ComesTo context includeFile path session before line met) :
    met.including = session.including := by
  obtain ⟨reader, later, course, -⟩ := comes
  exact course.including_eq includes

/-- So does acting on all the lines of a file. -/
theorem interpretFile_keepsStack (includes : ∀ file, KeepsStack (includeFile file))
    (path : String) : KeepsStack (interpretFile context includeFile path) := by
  intro session
  have ends := interpretFile_ends context includeFile path session
  cases run : interpretFile context includeFile path session with
  | ok answer left =>
    rw [run] at ends
    rw [after_of_ok run]
    cases ends with
    | finished course => exact course.including_eq includes
  | error failure left =>
    rw [run] at ends
    rw [after_of_error run]
    cases ends with
    | unopened => rfl
    | unreadable course => exact course.including_eq includes
    | exhausted course => exact course.including_eq includes
    | @failed before line met _ _ comes fails =>
      rw [← after_of_error fails, ← comes.including_eq includes]
      exact lineAction_keepsStack includes path before line met

/-- A file that was read is no longer being read, however its reading ended. -/
theorem readNested_keepsStack (levels : Nat) (path : String) :
    KeepsStack (readNested context levels path) := by
  induction levels generalizing path with
  | zero =>
    intro session
    have ends := readNested_ends context 0 path session
    generalize run : readNested context 0 path session = outcome at ends
    cases ends <;> rw [after_of_error run]
  | succ inner ih =>
    intro session
    have inside : KeepsStack (interpretFile context (readNested context inner) path) :=
      interpretFile_keepsStack ih path
    have ends := readNested_ends context (inner + 1) path session
    generalize run : readNested context (inner + 1) path session = outcome at ends
    cases ends with
    | missing | again => rw [after_of_error run]
    | @finished _ place between _ _ reads =>
      have inside := inside (session.entering place)
      rw [after_of_ok reads] at inside
      rw [after_of_ok run]
      simp [Session.leaving, inside, Session.entering]
    | @failed _ place between failure _ _ reads =>
      have inside := inside (session.entering place)
      rw [after_of_error reads] at inside
      rw [after_of_error run]
      simp [Session.leaving, inside, Session.entering]

/-- Reading an argument file leaves the files being read as it met them. -/
theorem readArgumentFile_keepsStack (path : String) :
    KeepsStack (readArgumentFile context path) :=
  fun session =>
    readNested_keepsStack (context.maxIncludeDepth - session.including.length) path session

theorem performLetter_keepsStack (c : Char) (value : String) :
    KeepsStack (performLetter context c value) := by
  unfold performLetter
  cases LetterOption.ofLetter? c with
  | none => exact .throw _
  | some option => exact option.keepsStack readArgumentFile_keepsStack value

/-- A command line leaves the files being read as it met them. -/
theorem resolve_keepsStack (tokens : List String) : KeepsStack (resolve context tokens) := by
  induction tokens using resolve.induct with
  | case1 => exact .pure ()
  | case2 token later name form next afterNext =>
    unfold resolve
    simp only [form]
    refine (performNamed_keepsStack name _).bind fun consumed => ?_
    cases consumed with
    | nameOnly => exact next
    | nameAndValue =>
      cases later with
      | nil => exact .pure ()
      | cons value afterValue => exact afterNext
  | case3 token later c value form next =>
    unfold resolve
    simp only [form]
    exact (performLetter_keepsStack c value).bind fun _ => next
  | case4 token later form =>
    unfold resolve
    simp only [form]
    exact .throw _
  | case5 token later path form next =>
    unfold resolve
    simp only [form]
    exact (KeepsStack.of_unaware (.addSource path .normal)).bind fun _ => next

/-- Every call leaves the argument files that are being read as it met them. -/
theorem Call.keepsStack (call : Call) : KeepsStack (call.run context) := by
  cases call with
  | commandLine tokens => exact resolve_keepsStack tokens
  | letter option value => exact option.keepsStack readArgumentFile_keepsStack value
  | named name value => exact (performNamed_keepsStack name value).map
  | argumentFile path => exact readArgumentFile_keepsStack path

/-! ### Files within files

How deep a session is and how many levels are left add up to the bound on open files. Entering a
file moves one from the one to the other, and no file is entered that is being read. -/

/-- No file is being read twice, and `levels` more files may be opened. -/
structure Session.Guarded (context : Context) (levels : Nat) (session : Session) : Prop where
  distinct : session.including.Nodup
  bounded : levels + session.including.length ≤ context.maxIncludeDepth

namespace Session.Guarded

variable {levels : Nat} {session other : Session}

theorem congr (guarded : session.Guarded context levels)
    (same : other.including = session.including) : other.Guarded context levels where
  distinct := same ▸ guarded.distinct
  bounded := same ▸ guarded.bounded

theorem mono {fewer : Nat} (guarded : session.Guarded context levels) (le : fewer ≤ levels) :
    session.Guarded context fewer where
  distinct := guarded.distinct
  bounded := Nat.le_trans (Nat.add_le_add_right le _) guarded.bounded

/-- Entering a file that is not being read uses up one level. -/
theorem entering {place : Location} (guarded : session.Guarded context (levels + 1))
    (fresh : place ∉ session.including) : (session.entering place).Guarded context levels where
  distinct := List.nodup_cons.mpr ⟨fresh, guarded.distinct⟩
  bounded := by
    have bounded := guarded.bounded
    simp only [Session.entering, List.length_cons]
    omega

/-- As many files may be opened as `readArgumentFile` lets be. -/
theorem rest (guarded : session.Guarded context 0) :
    session.Guarded context (context.maxIncludeDepth - session.including.length) where
  distinct := guarded.distinct
  bounded := by
    have bounded := guarded.bounded
    omega

end Session.Guarded

/-- Where `levels` more files may be opened, every option in the trace is given while no more files
are being read than may be, and none of them twice. -/
def Trace.Guarded (context : Context) (levels : Nat) (trace : Trace) : Prop :=
  ∀ session, session.Guarded context levels → ∀ one ∈ trace session, one.session.Guarded context 0

namespace Trace.Guarded

variable {included : String → Trace} {levels : Nat}

theorem silent : Guarded context levels .silent :=
  fun _ _ _ among => nomatch among

/-- Options given before an action and after it are guarded if both are, and the action leaves the
files as it met them. -/
theorem andThen {α : Type} {trace : Trace} {action : Action α} {next : α → Trace}
    (keeps : KeepsStack action) (head : Guarded context levels trace)
    (tail : ∀ answer, Guarded context levels (next answer)) :
    Guarded context levels (trace.andThen action next) := by
  intro session guarded one among
  rcases List.mem_append.mp among with first | later
  · exact head session guarded one first
  · have same := keeps session
    cases run : action session with
    | ok answer left =>
      rw [run] at later
      rw [after_of_ok run] at same
      exact tail answer left (guarded.congr same) one later
    | error failure left =>
      rw [run] at later
      cases later

/-- The options given in an option are itself and those of the file it may include. -/
theorem letter (includes : ∀ file, Guarded context levels (included file)) (option : LetterOption)
    (value : String) : Guarded context levels (option.given context included value) := by
  intro session guarded one among
  rcases List.mem_cons.mp among with rfl | inside
  · exact guarded.mono (Nat.zero_le _)
  · split at inside
    · exact includes _ _ (guarded.congr (option.alone_keepsStack value session)) one inside
    · cases inside

theorem byName (name value : String) : Guarded context levels (givenByName name value) := by
  intro session guarded one among
  unfold givenByName at among
  split at among
  · rw [List.mem_singleton] at among
    rw [among]
    exact guarded.mono (Nat.zero_le _)
  · cases among

theorem inLine (includes : ∀ file, Guarded context levels (included file)) (line : String) :
    Guarded context levels (givenInLine context included line) := by
  unfold givenInLine
  cases LineForm.ofText line with
  | named name value => exact byName name value
  | letter option value => exact letter includes option value
  | blank | source | data | unknown => exact silent

/-- The options given in a file are those given in its lines. -/
theorem inFile (keeps : ∀ file, KeepsStack (includeFile file))
    (includes : ∀ file, Guarded context levels (included file)) (path : String) :
    Guarded context levels (givenInFile context includeFile included path) := by
  intro session guarded one among
  obtain ⟨before, line, met, comes, here⟩ := exists_comesTo_of_mem among
  exact inLine includes line met (guarded.congr (comes.including_eq keeps)) one here

/-- The options given in files within files are guarded, level by level. -/
theorem nested (levels : Nat) (path : String) :
    Guarded context levels (givenNested context levels path) := by
  induction levels generalizing path with
  | zero =>
    intro session guarded one among
    rw [givenNested_apply] at among
    split at among
    · cases among
    · split at among <;> cases among
  | succ inner ih =>
    intro session guarded one among
    rw [givenNested_apply] at among
    split at among
    · cases among
    · split at among
      · cases among
      · rename_i place found fresh
        exact inFile (readNested_keepsStack inner) ih path _ (guarded.entering fresh) one among

/-- A run that reads an argument file gives only guarded options. -/
theorem reading (path : String) : Guarded context 0 (givenReading context path) :=
  fun session guarded => nested _ path session guarded.rest

/-- A command line gives only guarded options. -/
theorem resolving (tokens : List String) : Guarded context 0 (givenResolving context tokens) := by
  induction tokens using resolve.induct with
  | case1 => exact silent
  | case2 token later name form next afterNext =>
    unfold givenResolving
    simp only [form]
    refine (byName name _).andThen (performNamed_keepsStack name _) fun consumed => ?_
    cases consumed with
    | nameOnly => exact next
    | nameAndValue =>
      cases later with
      | nil => exact silent
      | cons value afterValue => exact afterNext
  | case3 token later c value form next =>
    unfold givenResolving
    simp only [form]
    refine andThen (performLetter_keepsStack c value) ?_ fun _ => next
    cases LetterOption.ofLetter? c with
    | none => exact silent
    | some option => exact letter reading option value
  | case4 token later form =>
    unfold givenResolving
    simp only [form]
    exact silent
  | case5 token later path form next =>
    unfold givenResolving
    simp only [form]
    exact silent.andThen (.of_unaware (.addSource path .normal)) fun _ => next

end Trace.Guarded

/-- Where a call meets no more files than may be read, and none twice, so does every option that is
given in it. -/
theorem Call.guarded_of_given {call : Call} {session : Session}
    (guarded : session.Guarded context 0) :
    ∀ one ∈ call.given context session, one.session.Guarded context 0 := by
  cases call with
  | commandLine tokens => exact Trace.Guarded.resolving tokens session guarded
  | letter option value =>
    exact Trace.Guarded.letter Trace.Guarded.reading option value session guarded
  | named name value => exact Trace.Guarded.byName name value session guarded
  | argumentFile path => exact Trace.Guarded.reading path session guarded

/-- The argument file that an option names, if it names one. -/
def Given.file? (given : Given) : Option String :=
  match given.option with
  | .letter .argumentFile =>
    if skipSpaces given.value = "" then none else some (skipSpaces given.value)
  | _ => none

/-- Only one option names an argument file, and its value is the path. -/
theorem Given.file?_eq_some {given : Given} {file : String} (names : given.file? = some file) :
    given.option = .letter .argumentFile ∧ skipSpaces given.value ≠ "" ∧
      skipSpaces given.value = file := by
  obtain ⟨option, value, session⟩ := given
  unfold file? at names
  split at names
  · rename_i argumentFile
    split at names
    · cases names
    · rename_i named
      exact ⟨argumentFile, named, Option.some.inj names⟩
  · cases names

/-- To name a file only counts the option. -/
theorem Given.after_of_file? {given : Given} {file : String} (names : given.file? = some file) :
    given.after context = given.session.lettered := by
  obtain ⟨argumentFile, named, -⟩ := given.file?_eq_some names
  unfold Given.after Given.alone
  rw [argumentFile]
  exact after_of_ok (LetterOption.alone_argumentFile named given.session)

/-- A file is read in the course of a call, from a session on: the file that the call is about, or
one that an option given in it names. It can be found, is not being read already, and there is room
for it. -/
structure Call.Reads (context : Context) (call : Call) (session : Session) (path : String)
    (start : Session) (place : Location) : Prop where
  asked : call = .argumentFile path ∧ start = session ∨
    ∃ one ∈ call.given context session, one.file? = some path ∧ start = one.after context
  found : start.disk.canonical path = .ok place
  fresh : place ∉ start.including
  room : start.including.length < context.maxIncludeDepth

/-- While a file is read it stands in front of the files around it. No file stands there twice, and
not more of them than may. -/
theorem Call.Reads.guarded {call : Call} {session start met : Session} {path : String}
    {place : Location} {before : List String} {line : String}
    (reads : call.Reads context session path start place) (guarded : session.Guarded context 0)
    (comes : ComesTo context
      (readNested context (context.maxIncludeDepth - (start.entering place).including.length)) path
      (start.entering place) before line met) :
    met.including = place :: start.including ∧ met.Guarded context 0 := by
  have same := comes.including_eq (readNested_keepsStack _)
  have started : start.Guarded context 0 := by
    rcases reads.asked with ⟨-, rfl⟩ | ⟨one, among, names, rfl⟩
    · exact guarded
    · refine (Call.guarded_of_given guarded one among).congr ?_
      rw [Given.after_of_file? names]
      rfl
  have inside : start.Guarded context 1 := ⟨started.distinct, by have room := reads.room; omega⟩
  exact ⟨same, (inside.entering reads.fresh).congr same⟩

end

end ExtractOptions

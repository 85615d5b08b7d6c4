/-
Module: ExtractOptions.Proofs.Run.Reading
Purpose: the equations by which argument files are read. A line takes one of a few forms, which
  depend on its text alone; what it does depends on its form and, for a data line, on the option
  in force. A file is read if it can be found and is not being read already.
Main exports: LineForm, LineForm.ofText, LineForm.pendingAfter, interpretLine_eq, Persisting,
  interpretLine_persisting, nextLine_apply, interpretFile_apply, readNested_apply,
  readArgumentFile_apply, NestedEnds, readNested_ends, readNested_eq_ok
-/
import ExtractOptions.ArgumentFile
import ExtractOptions.Proofs.Action

namespace ExtractOptions

open Text

/-- What a line of an argument file may be. -/
inductive LineForm where
  | blank
  | named (name value : String)
  | letter (option : LetterOption) (value : String)
  | source (path : String)
  | data
  /-- A directive whose letter names no option. -/
  | unknown (failure : Failure)

namespace LineForm

/-- The form of a line. -/
def ofText (line : String) : LineForm :=
  if isBlankText line then blank
  else
    match Directive.ofLine? line with
    | .error failure => unknown failure
    | .ok (some ⟨option, value⟩) =>
      if option = .named then named (splitNamed value).1 (splitNamed value).2
      else letter option value
    | .ok none =>
      match dropPrefix? [':'] line.toList with
      | some path => source (String.ofList path)
      | none => data

/-- The option in force after a line that succeeds. -/
def pendingAfter (pending : Option LetterOption) : LineForm → Option LetterOption
  | named .. => none
  | letter option _ => if option.persists then some option else none
  | _ => pending

end LineForm

/-- The data line that a line is, if it is one of a wanted option. -/
def dataLine (wanted : LetterOption → Bool) (pending : Option LetterOption) (line : String) :
    List String :=
  match LineForm.ofText line, pending with
  | .data, some option => if wanted option then [line] else []
  | _, _ => []

/-- The data lines of the wanted options among some lines. -/
def dataLines (wanted : LetterOption → Bool) : Option LetterOption → List String → List String
  | _, [] => []
  | pending, line :: later =>
    dataLine wanted pending line ++
      dataLines wanted ((LineForm.ofText line).pendingAfter pending) later

/-- Where no option is wanted, no line is a data line. -/
@[simp] theorem dataLine_unwanted (pending : Option LetterOption) (line : String) :
    dataLine (fun _ => false) pending line = [] := by
  unfold dataLine
  split <;> rfl

/-- The same for any number of lines. -/
@[simp] theorem dataLines_unwanted (pending : Option LetterOption) (lines : List String) :
    dataLines (fun _ => false) pending lines = [] := by
  induction lines generalizing pending with
  | nil => rfl
  | cons line later ih => simp [dataLines, ih]

/-- A line does what its form says. -/
theorem interpretLine_eq (context : Context) (includeFile : String → Action Unit) (origin : String)
    (pending : Option LetterOption) (line : String) :
    interpretLine context includeFile origin pending line =
      match LineForm.ofText line with
      | .blank => pure pending
      | .named name value => do
        discard <| performNamed context includeFile name value
        return none
      | .letter option value => do
        option.perform context includeFile value
        return if option.persists then some option else none
      | .source path => do
        Action.addSource path .normal
        return pending
      | .data =>
        match pending with
        | some option => do
          deliver context option origin line
          return some option
        | none => throw (.usage (.strayLine line))
      | .unknown failure => throw failure := by
  unfold interpretLine LineForm.ofText
  cases isBlankText line with
  | true => rfl
  | false =>
    cases Directive.ofLine? line with
    | error failure => rfl
    | ok directive =>
      cases directive with
      | none => cases dropPrefix? [':'] line.toList <;> cases pending <;> rfl
      | some directive =>
        obtain ⟨option, value⟩ := directive
        cases option <;> rfl

/-! ### The option in force

The loop over lines keeps the option of the last directive if that takes data lines. One step keeps
it so, and `Persisting` is all that the router of data lines needs to know. -/

/-- An option is in force only if it takes data lines. -/
def Persisting (pending : Option LetterOption) : Prop :=
  ∀ option ∈ pending, option.persists = true

theorem persisting_none : Persisting none :=
  fun _ among => nomatch among

/-- A line leaves in force what was so before it, or the option of its letter if that takes data
lines. -/
theorem LineForm.persisting_pendingAfter {pending : Option LetterOption}
    (persisting : Persisting pending) (form : LineForm) : Persisting (form.pendingAfter pending) := by
  cases form with
  | named => exact persisting_none
  | letter option value =>
    change Persisting (if option.persists then some option else none)
    cases takes : option.persists with
    | false => exact persisting_none
    | true =>
      rintro _ ⟨⟩
      exact takes
  | blank | source | data | unknown => exact persisting

/-- A line that succeeds answers with the option in force after it. -/
theorem interpretLine_answer {context : Context} {includeFile : String → Action Unit}
    {origin line : String} {pending answer : Option LetterOption} {session left : Session}
    (run : interpretLine context includeFile origin pending line session = .ok answer left) :
    answer = (LineForm.ofText line).pendingAfter pending := by
  rw [interpretLine_eq] at run
  cases form : LineForm.ofText line with
  | blank =>
    rw [form] at run
    cases run
    rfl
  | named | letter | source =>
    rw [form] at run
    obtain ⟨_, _, _, ended⟩ := Action.bind_ok run
    cases ended
    rfl
  | data =>
    rw [form] at run
    cases pending with
    | none => cases run
    | some option =>
      obtain ⟨_, _, _, ended⟩ := Action.bind_ok run
      cases ended
      rfl
  | unknown failure =>
    rw [form] at run
    cases run

/-- One line keeps it so that only options with data lines are in force. -/
theorem interpretLine_persisting {context : Context} {includeFile : String → Action Unit}
    {origin line : String} {pending answer : Option LetterOption} {session left : Session}
    (persisting : Persisting pending)
    (run : interpretLine context includeFile origin pending line session = .ok answer left) :
    Persisting answer := by
  rw [interpretLine_answer run]
  exact LineForm.persisting_pendingAfter persisting _

/-! ### Files

The readings of files as equations. Each of them is unfolded here once and is applied from then on. -/

section Files

variable {context : Context} {includeFile : String → Action Unit}

open ExtractOptions.Action

/-- The next line is read from the disk of the session, and reading changes nothing. -/
theorem nextLine_apply (reader : LineReader) (session : Session) :
    nextLine reader session =
      match reader.next session.disk with
      | .ok next => .ok next session
      | .error cause => .error (.resource reader.path .reading cause) session := by
  cases outcome : reader.next session.disk <;> simp [nextLine, outcome]

/-- Lines are acted on one after the other. -/
theorem interpretLines_apply (allowance : Nat) (reader : LineReader) (pending : Option LetterOption)
    (session : Session) :
    interpretLines context includeFile (allowance + 1) reader pending session =
      match reader.next session.disk with
      | .error cause => .error (.resource reader.path .reading cause) session
      | .ok none => .ok () session
      | .ok (some (line, later)) =>
        (interpretLine context includeFile reader.path pending line >>=
          interpretLines context includeFile allowance later) session := by
  unfold interpretLines
  rw [bind_apply, nextLine_apply]
  cases reader.next session.disk with
  | error cause => rfl
  | ok next => cases next <;> rfl

/-- A file is opened and its lines are acted on, with room for as many as it has bytes. -/
theorem interpretFile_apply (path : String) (session : Session) :
    interpretFile context includeFile path session =
      match session.disk.openReader path with
      | .error cause => .error (.resource path .reading cause) session
      | .ok reader =>
        interpretLines context includeFile
          (lineAllowance ((session.disk.file? reader.place).getD [])) reader none session := by
  cases outcome : session.disk.openReader path <;> simp [interpretFile, outcome]

/-- The session with one more argument file being read. -/
def Session.entering (session : Session) (place : Location) : Session :=
  { session with
    counters := { session.counters with argumentFiles := session.counters.argumentFiles + 1 }
    including := place :: session.including }

/-- The session with the innermost argument file no longer being read. -/
def Session.leaving (session : Session) : Session :=
  { session with including := session.including.drop 1 }

/-- A file within files is read if it can be found, is not being read, and a level is left; however
that ends, the file is left again. -/
theorem readNested_apply (levels : Nat) (path : String) (session : Session) :
    readNested context levels path session =
      match session.disk.canonical path with
      | .error cause => .error (.resource path .reading cause) session
      | .ok place =>
        if place ∈ session.including then .error (.recursiveInclude path) session
        else
          match levels with
          | 0 => .error (.includeTooDeep path context.maxIncludeDepth) session
          | inner + 1 =>
            match interpretFile context (readNested context inner) path
              (session.entering place) with
            | .ok _ after => .ok () after.leaving
            | .error failure after => .error failure after.leaving := by
  cases found : session.disk.canonical path with
  | error cause => cases levels <;> simp [readNested, found]
  | ok place =>
    by_cases again : place ∈ session.including
    · cases levels <;> simp [readNested, found, again]
    · cases levels with
      | zero => simp [readNested, found, again]
      | succ inner =>
        simp only [Session.entering]
        cases inside : interpretFile context (readNested context inner) path
            { session with
              counters :=
                { session.counters with argumentFiles := session.counters.argumentFiles + 1 }
              including := place :: session.including } <;>
          simp [readNested, found, again, whileIncluding, Session.leaving, inside]

/-- The files that are being read already count towards how many may be. -/
theorem readArgumentFile_apply (path : String) (session : Session) :
    readArgumentFile context path session =
      readNested context (context.maxIncludeDepth - session.including.length) path session :=
  rfl

/-- How the reading of an argument file may end when `levels` more of them may be open: the file
cannot be found, it is being read already, no more may be open, or its lines end it. -/
inductive NestedEnds (context : Context) (path : String) (session : Session) :
    (levels : Nat) → EStateM.Result Failure Session Unit → Prop where
  | missing {levels : Nat} {cause : IoError} (fails : session.disk.canonical path = .error cause) :
    NestedEnds context path session levels (.error (.resource path .reading cause) session)
  | again {levels : Nat} {place : Location} (found : session.disk.canonical path = .ok place)
      (reading : place ∈ session.including) :
    NestedEnds context path session levels (.error (.recursiveInclude path) session)
  | tooDeep {place : Location} (found : session.disk.canonical path = .ok place)
      (fresh : place ∉ session.including) :
    NestedEnds context path session 0
      (.error (.includeTooDeep path context.maxIncludeDepth) session)
  | finished {inner : Nat} {place : Location} {between : Session}
      (found : session.disk.canonical path = .ok place) (fresh : place ∉ session.including)
      (run : interpretFile context (readNested context inner) path (session.entering place) =
        .ok () between) :
    NestedEnds context path session (inner + 1) (.ok () between.leaving)
  | failed {inner : Nat} {place : Location} {between : Session} {failure : Failure}
      (found : session.disk.canonical path = .ok place) (fresh : place ∉ session.including)
      (run : interpretFile context (readNested context inner) path (session.entering place) =
        .error failure between) :
    NestedEnds context path session (inner + 1) (.error failure between.leaving)

/-- The reading of an argument file ends in one of these ways. -/
theorem readNested_ends (context : Context) (levels : Nat) (path : String) (session : Session) :
    NestedEnds context path session levels (readNested context levels path session) := by
  rw [readNested_apply]
  cases found : session.disk.canonical path with
  | error cause => exact .missing found
  | ok place =>
    by_cases reading : place ∈ session.including
    · simp only [if_pos reading]
      exact .again found reading
    · simp only [if_neg reading]
      cases levels with
      | zero => exact .tooDeep found reading
      | succ inner =>
        simp only
        cases run : interpretFile context (readNested context inner) path
            (session.entering place) with
        | ok done between => exact .finished found reading run
        | error failure between => exact .failed found reading run

/-- What it takes for an argument file to be read with success. -/
theorem readNested_eq_ok {levels : Nat} {path : String} {session left : Session} :
    readNested context levels path session = .ok () left ↔
      ∃ inner place between, levels = inner + 1 ∧ session.disk.canonical path = .ok place ∧
        place ∉ session.including ∧
        interpretFile context (readNested context inner) path (session.entering place) =
          .ok () between ∧
        left = between.leaving := by
  constructor
  · intro run
    have ends := readNested_ends context levels path session
    rw [run] at ends
    cases ends with
    | finished found fresh inside => exact ⟨_, _, _, rfl, found, fresh, inside, rfl⟩
  · rintro ⟨inner, place, between, rfl, found, fresh, inside, rfl⟩
    rw [readNested_apply, found]
    simp only [if_neg fresh, inside]

end Files

end ExtractOptions

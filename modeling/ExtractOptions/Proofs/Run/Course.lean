/-
Module: ExtractOptions.Proofs.Run.Course
Purpose: an argument file as its lines in order. What a line does depends on the lines before it in
  its file only through the nearest directive among them, and the course of a reading is made of
  these doings, one line after the other. A reading always ends at a point of its course: at the
  end of the file, at a line that cannot be read, or at a line that fails.
Main exports: directiveLetter?, nearestLetter?, kindAfter?, optionAfter?, lineAction, Course, ComesTo,
  Course.split, Course.Ends, interpretFile_ends, Course.lines_of_done
-/
import ExtractOptions.Proofs.Directive
import ExtractOptions.Proofs.Disk.Frame
import ExtractOptions.Proofs.Disk.Lines
import ExtractOptions.Proofs.Run.Given

namespace ExtractOptions

open Text ExtractOptions.Action

/-! ### The nearest directive

Which option a data line belongs to depends on the lines before it in its file, and of these only on
the last directive. This is said without the loop that keeps the option in hand, and then shown to
be what the loop keeps. -/

/-- The letter of a directive: a line that starts with a colon, a dash and at least one more
character. -/
def directiveLetter? (line : String) : Option Char :=
  match line.toList with
  | ':' :: '-' :: letter :: _ => some letter
  | _ => none

/-- The letter of the last directive among some lines. -/
def nearestLetter? (before : List String) : Option Char :=
  before.reverse.findSome? directiveLetter?

/-- The kind of the data lines that may follow a letter. -/
def DataKind.ofLetter? : Char → Option DataKind
  | 't' => some .tagCriteria
  | 'R' => some .tagRoster
  | 'v' => some .textualVariations
  | 'x' => some .positionalVariations
  | 'y' => some .colouredEndings
  | 'z' => some .endings
  | _ => none

/-- The kind of data lines that may follow some lines of a file. -/
def kindAfter? (before : List String) : Option DataKind :=
  (nearestLetter? before).bind DataKind.ofLetter?

/-- The option in force after some lines of a file. -/
def optionAfter? (before : List String) : Option LetterOption :=
  (kindAfter? before).map DataKind.option

@[simp] theorem optionAfter?_nil : optionAfter? [] = none := rfl

/-- A directive at the end of some lines is the nearest one. -/
theorem nearestLetter?_concat (before : List String) (line : String) :
    nearestLetter? (before ++ [line]) = (directiveLetter? line).or (nearestLetter? before) := by
  cases letter : directiveLetter? line <;> simp [nearestLetter?, letter]

/-- A written directive has its letter. -/
theorem directiveLetter?_written (letter : Char) (value : String) :
    directiveLetter? (Directive.written letter value) = some letter := by
  simp [directiveLetter?, Directive.toList_written, Directive.opening]

/-- A line without the opening is no directive. -/
theorem directiveLetter?_of_unopened {line : String} (apart : ¬ Directive.opening <+: line.toList) :
    directiveLetter? line = none := by
  unfold directiveLetter?
  split
  · rename_i letter value chars
    exact absurd ⟨letter :: value, chars.symm⟩ apart
  · rfl

/-- A line gives an option exactly if it is a directive. -/
theorem Directive.ofLine?_eq (line : String) :
    Directive.ofLine? line =
      match directiveLetter? line with
      | none => .ok none
      | some letter =>
        match LetterOption.ofLetter? letter with
        | some option => .ok (some ⟨option, String.ofList (line.toList.drop 3)⟩)
        | none => .error (.usage (.unknownDirective line)) := by
  cases shape line with
  | unopened apart => rw [ofLine?_of_unopened apart, directiveLetter?_of_unopened apart]
  | bare => rfl
  | lettered letter value =>
    have rest : (written letter value).toList.drop 3 = value.toList := by
      rw [toList_written]
      rfl
    rw [ofLine?_written, directiveLetter?_written, rest]
    cases known : LetterOption.ofLetter? letter <;> simp only [known, String.ofList_toList]

/-- A directive is not blank. -/
theorem not_blank_of_directiveLetter? {line : String} {letter : Char}
    (directive : directiveLetter? line = some letter) : isBlankText line = false := by
  unfold directiveLetter? at directive
  split at directive
  · rename_i chars
    have colon : isBlank ':' = false := by decide
    simp [isBlankText, chars, colon]
  · cases directive

namespace LineForm

/-- The form of a line without a directive. -/
theorem ofText_of_none {line : String} (plain : directiveLetter? line = none) :
    ofText line =
      if isBlankText line then blank
      else
        match dropPrefix? [':'] line.toList with
        | some path => source (String.ofList path)
        | none => data := by
  cases source : dropPrefix? [':'] line.toList <;>
    simp only [ofText, Directive.ofLine?_eq, plain, source]

/-- The form of a directive. -/
theorem ofText_of_some {line : String} {letter : Char}
    (directive : directiveLetter? line = some letter) :
    ofText line =
      match LetterOption.ofLetter? letter with
      | some option =>
        let value := String.ofList (line.toList.drop 3)
        if option = .named then named (splitNamed value).1 (splitNamed value).2
        else LineForm.letter option value
      | none => unknown (.usage (.unknownDirective line)) := by
  unfold ofText
  simp only [Directive.ofLine?_eq, directive, not_blank_of_directiveLetter? directive]
  cases LetterOption.ofLetter? letter <;> rfl

/-- The lines that give an option by letter. -/
theorem ofText_eq_letter_iff {line value : String} {option : LetterOption} :
    ofText line = letter option value ↔
      option ≠ .named ∧ line = Directive.render ⟨option, value⟩ := by
  constructor
  · intro form
    unfold ofText at form
    split at form
    · cases form
    · split at form
      · cases form
      · rename_i own text read
        split at form
        · cases form
        · rename_i other
          cases form
          exact ⟨other, Directive.ofLine?_eq_some_iff.mp read⟩
      · split at form <;> cases form
  · rintro ⟨other, rfl⟩
    have directive : directiveLetter? (Directive.render ⟨option, value⟩) = some option.letter :=
      directiveLetter?_written option.letter value
    have rest : (Directive.render ⟨option, value⟩).toList.drop 3 = value.toList := by
      rw [Directive.render, Directive.toList_written]
      rfl
    rw [ofText_of_some directive, rest]
    simp [other]

/-- A directive with an unknown letter is reported as a whole. -/
theorem failure_of_unknown {line : String} {failure : Failure}
    (form : ofText line = unknown failure) : failure = .usage (.unknownDirective line) := by
  unfold ofText at form
  split at form
  · cases form
  · split at form
    · rename_i read
      cases form
      exact (Directive.ofLine?_eq_error_iff.mp read).1
    · split at form <;> cases form
    · split at form <;> cases form

/-- A letter leaves its option in force if it takes data lines. -/
theorem persisting_eq (option : LetterOption) :
    (if option.persists then some option else none) =
      (DataKind.ofLetter? option.letter).map DataKind.option := by
  cases option <;> rfl

/-- A line changes the option in force as a directive with its letter, if it does. -/
theorem pendingAfter_optionAfter? (before : List String) (line : String)
    (known : ∀ failure, ofText line ≠ unknown failure) :
    (ofText line).pendingAfter (optionAfter? before) = optionAfter? (before ++ [line]) := by
  unfold optionAfter? kindAfter?
  rw [nearestLetter?_concat]
  cases directive : directiveLetter? line with
  | none =>
    rw [ofText_of_none directive]
    split
    · rfl
    · split <;> rfl
  | some letter =>
    rw [ofText_of_some directive] at known ⊢
    cases found : LetterOption.ofLetter? letter with
    | none => exact absurd (by simp [found]) (known (.usage (.unknownDirective line)))
    | some option =>
      have own := LetterOption.letter_of_ofLetter? found
      subst own
      simp only [Option.some_or, Option.bind_some, ← persisting_eq]
      by_cases named : option = .named
      · subst named
        rfl
      · rw [if_neg named]
        rfl

end LineForm

/-- Only an option with data lines is in force after some lines. -/
theorem persisting_optionAfter? (before : List String) : Persisting (optionAfter? before) := by
  intro option among
  obtain ⟨kind, -, rfl⟩ := Option.map_eq_some_iff.mp among
  exact kind.persists_option

/-! ### What a line does

`lineAction` is the doing of one line after given lines. It is the same as what the loop does there,
so the loop can be forgotten. -/

/-- What a line of an argument file does after the lines before it. -/
def lineAction (context : Context) (includeFile : String → Action Unit) (origin : String)
    (before : List String) (line : String) : Action Unit :=
  match LineForm.ofText line with
  | .blank => pure ()
  | .named name value => discard (performNamed context includeFile name value)
  | .letter option value => option.perform context includeFile value
  | .source path => Action.addSource path .normal
  | .data =>
    match kindAfter? before with
    | some kind => deliver context kind.option origin line
    | none => throw (.usage (.strayLine line))
  | .unknown failure => throw failure

section

variable {context : Context} {includeFile : String → Action Unit} {included : String → Trace}

/-- A line that gives an option by name succeeds exactly if the option does. -/
theorem lineAction_named_iff {line name value : String}
    (form : LineForm.ofText line = .named name value) {origin : String} {before : List String}
    {session left : Session} :
    lineAction context includeFile origin before line session = .ok () left ↔
      ∃ option, NamedOption.find? name = some option ∧
        option.alone context value session = .ok () left := by
  have does : lineAction context includeFile origin before line session =
      ((fun _ => PUnit.unit) <$> performNamed context includeFile name value : Action Unit)
        session := by
    unfold lineAction
    rw [form]
    rfl
  rw [does, map_apply]
  constructor
  · intro run
    cases done : performNamed context includeFile name value session with
    | error failure between =>
      rw [done] at run
      cases run
    | ok consumed between =>
      rw [done] at run
      cases run
      obtain ⟨option, found, -, alone⟩ := performNamed_eq_ok done
      exact ⟨option, found, alone⟩
  · rintro ⟨option, found, alone⟩
    rw [performNamed_eq found, map_apply, alone]

/-- A line is acted on as the nearest directive before it demands, and answers with the option in
force after it. -/
theorem interpretLine_optionAfter? (origin : String) (before : List String) (line : String)
    (session : Session) :
    interpretLine context includeFile origin (optionAfter? before) line session =
      match lineAction context includeFile origin before line session with
      | .ok _ after => .ok (optionAfter? (before ++ [line])) after
      | .error failure after => .error failure after := by
  rw [interpretLine_eq]
  unfold lineAction
  have next := LineForm.pendingAfter_optionAfter? before line
  cases form : LineForm.ofText line with
  | unknown failure => rfl
  | blank | source =>
    rw [← next (by simp [form]), form]
    rfl
  | named name value =>
    rw [← next (by simp [form]), form]
    simp only [bind_apply]
    cases discard (performNamed context includeFile name value) session <;> rfl
  | letter option value =>
    rw [← next (by simp [form]), form]
    simp only [bind_apply]
    cases option.perform context includeFile value session <;> rfl
  | data =>
    rw [← next (by simp [form]), form]
    unfold optionAfter?
    cases kindAfter? before with
    | none => rfl
    | some kind =>
      simp only [Option.map_some, bind_apply]
      cases deliver context kind.option origin line session <;> rfl

/-! ### The course of a reading

A reading goes on from line to line, and each line meets the session that the one before it left.
The inductive `Course` keeps the lines read so far, and induction along it replaces induction over
the loop. -/

/-- How many lines of the file at a path are read at most. -/
def Session.room (session : Session) (path : String) : Nat :=
  match session.disk.openReader path with
  | .ok reader => lineAllowance ((session.disk.file? reader.place).getD [])
  | .error _ => 0

theorem Session.room_of_opens {session : Session} {path : String} {reader : LineReader}
    (opens : session.disk.openReader path = .ok reader) :
    session.room path = lineAllowance ((session.disk.file? reader.place).getD []) := by
  simp only [room, opens]

/-- A file has fewer lines than are read of it at most. -/
theorem Session.lines_lt_room {session : Session} {path : String} {reader : LineReader}
    {bytes : List UInt8} (opens : session.disk.openReader path = .ok reader)
    (held : session.disk.node? reader.place = some (.file bytes)) :
    (Lines.ofBytes bytes).lines.length < session.room path := by
  have file : session.disk.file? reader.place = some bytes := by
    unfold Disk.file?
    rw [held]
  have allowed : bytes.length < lineAllowance bytes := Nat.lt_add_of_pos_right (Nat.two_pow_pos 63)
  rw [room_of_opens opens, file]
  exact Nat.lt_of_le_of_lt (Lines.length_ofBytes_le bytes) allowed

/-- The course of reading a file: the lines read so far, the reader that the next one comes from,
and the session met. -/
inductive Course (context : Context) (includeFile : String → Action Unit) (path : String)
    (session : Session) : List String → LineReader → Session → Prop where
  | opened {reader : LineReader} (opens : session.disk.openReader path = .ok reader) :
    Course context includeFile path session [] reader session
  | line {before : List String} {reader later : LineReader} {met after : Session} {line : String}
      (course : Course context includeFile path session before reader met)
      (room : before.length < session.room path)
      (next : reader.next met.disk = .ok (some (line, later)))
      (does : lineAction context includeFile path before line met = .ok () after) :
    Course context includeFile path session (before ++ [line]) later after

namespace Course

variable {path : String} {session : Session}

variable {before : List String} {reader : LineReader} {met : Session}

/-- A course starts with a reader of the file at the path, and never leaves that file. -/
theorem opens (course : Course context includeFile path session before reader met) :
    ∃ first, session.disk.openReader path = .ok first ∧ reader.path = first.path ∧
      reader.place = first.place := by
  induction course with
  | opened opens => exact ⟨_, opens, rfl, rfl⟩
  | line _ _ next _ ih =>
    obtain ⟨first, opens, samePath, samePlace⟩ := ih
    exact ⟨first, opens, (LineReader.next_path next).trans samePath,
      (LineReader.next_place next).trans samePlace⟩

/-- The reader of a course belongs to the file at the path. -/
theorem reader_eq (course : Course context includeFile path session before reader met) :
    reader.path = path ∧ session.disk.canonical path = .ok reader.place := by
  obtain ⟨first, opens, samePath, samePlace⟩ := course.opens
  obtain ⟨found, named⟩ := Disk.openReader_eq_ok opens
  exact ⟨samePath.trans named, by rw [samePlace, found]⟩

/-- The reading of a file goes on from any point of its course. -/
theorem interpretFile_eq (course : Course context includeFile path session before reader met) :
    interpretFile context includeFile path session =
      interpretLines context includeFile (session.room path - before.length) reader
        (optionAfter? before) met := by
  induction course with
  | opened opens =>
    rw [interpretFile_apply, opens, Session.room_of_opens opens, List.length_nil, Nat.sub_zero,
      optionAfter?_nil]
  | @line before reader later met after line course room next does ih =>
    have left : session.room path - before.length =
        session.room path - (before ++ [line]).length + 1 := by
      rw [List.length_append, List.length_singleton]
      omega
    rw [ih, left, interpretLines_apply, next]
    simp only [bind_apply]
    rw [course.reader_eq.1, interpretLine_optionAfter?, does]

/-- The options given in a file after a point of its course are among those given in all of it. -/
theorem givenInFile_eq (included : String → Trace)
    (course : Course context includeFile path session before reader met) :
    ∃ earlier, givenInFile context includeFile included path session =
      earlier ++ givenInLines context includeFile included (session.room path - before.length)
        reader (optionAfter? before) met := by
  induction course with
  | opened opens =>
    refine ⟨[], ?_⟩
    rw [Session.room_of_opens opens, List.length_nil, Nat.sub_zero, optionAfter?_nil, List.nil_append]
    simp only [givenInFile, opens]
  | @line before reader later met after line course room next does ih =>
    obtain ⟨earlier, given⟩ := ih
    have left : session.room path - before.length =
        session.room path - (before ++ [line]).length + 1 := by
      rw [List.length_append, List.length_singleton]
      omega
    refine ⟨earlier ++ givenInLine context included line met, ?_⟩
    rw [given, left, givenInLines_apply, next]
    simp only [Trace.andThen]
    rw [course.reader_eq.1, interpretLine_optionAfter?, does, List.append_assoc]

end Course

/-- The reading of a file comes to a line, after other lines and at some session. -/
def ComesTo (context : Context) (includeFile : String → Action Unit) (path : String)
    (session : Session) (before : List String) (line : String) (met : Session) : Prop :=
  ∃ reader later, Course context includeFile path session before reader met ∧
    before.length < session.room path ∧ reader.next met.disk = .ok (some (line, later))

section Points

variable {path : String} {session : Session} {before lines : List String} {reader : LineReader}
  {met left : Session} {line : String}

/-- Every line that was read was come to, and did what it does. -/
theorem Course.split (course : Course context includeFile path session lines reader left)
    {later : List String} (parts : lines = before ++ line :: later) :
    ∃ met next after, ComesTo context includeFile path session before line met ∧
      lineAction context includeFile path before line met = .ok () after ∧
      Course context includeFile path session (before ++ [line]) next after := by
  induction course generalizing later with
  | opened => simp at parts
  | @line earlier reader next met after last course room read does ih =>
    rcases List.eq_nil_or_concat later with rfl | ⟨rest, final, rfl⟩
    · obtain ⟨rfl, same⟩ := List.append_inj' parts rfl
      cases same
      exact ⟨met, next, after, ⟨reader, next, course, room, read⟩, does,
        .line course room read does⟩
    · have shifted : earlier ++ [last] = (before ++ line :: rest) ++ [final] := by
        simpa using parts
      exact ih (List.append_inj' shifted rfl).1

/-- The end of the file ends the reading. -/
theorem Course.interpretFile_of_done
    (course : Course context includeFile path session lines reader left)
    (done : reader.next left.disk = .ok none) (room : lines.length < session.room path) :
    interpretFile context includeFile path session = .ok () left := by
  obtain ⟨more, enough⟩ := Nat.exists_eq_add_of_lt room
  have allowance : session.room path - lines.length = more + 1 := by omega
  rw [course.interpretFile_eq, allowance, interpretLines_apply, done]

/-- A line that fails ends the reading. -/
theorem ComesTo.interpretFile_of_error {failure : Failure}
    (comes : ComesTo context includeFile path session before line met)
    (fails : lineAction context includeFile path before line met = .error failure left) :
    interpretFile context includeFile path session = .error failure left := by
  obtain ⟨reader, later, course, room, next⟩ := comes
  obtain ⟨more, left⟩ := Nat.exists_eq_add_of_lt room
  have allowance : session.room path - before.length = more + 1 := by omega
  rw [course.interpretFile_eq, allowance, interpretLines_apply, next]
  simp only [bind_apply]
  rw [course.reader_eq.1, interpretLine_optionAfter?, fails]

/-- The options that a line gives are among those given in its file. -/
theorem ComesTo.given_subset (comes : ComesTo context includeFile path session before line met) :
    givenInLine context included line met ⊆
      givenInFile context includeFile included path session := by
  obtain ⟨reader, later, course, room, next⟩ := comes
  obtain ⟨more, left⟩ := Nat.exists_eq_add_of_lt room
  have allowance : session.room path - before.length = more + 1 := by omega
  obtain ⟨earlier, given⟩ := course.givenInFile_eq included
  rw [given, allowance, givenInLines_apply, next]
  intro one among
  exact List.mem_append_right _ (List.mem_append_left _ among)

/-- An option that is given in a file is given by a line that the reading comes to. -/
theorem exists_comesTo_of_mem {one : Given}
    (among : one ∈ givenInFile context includeFile included path session) :
    ∃ before line met, ComesTo context includeFile path session before line met ∧
      one ∈ givenInLine context included line met := by
  have onward : ∀ allowance before reader met,
      Course context includeFile path session before reader met →
      session.room path - before.length = allowance →
      one ∈ givenInLines context includeFile included allowance reader (optionAfter? before) met →
      ∃ before line met, ComesTo context includeFile path session before line met ∧
        one ∈ givenInLine context included line met := by
    intro allowance
    induction allowance with
    | zero =>
      intro before reader met course left among
      cases among
    | succ allowance ih =>
      intro before reader met course left among
      rw [givenInLines_apply] at among
      cases next : reader.next met.disk with
      | error cause => simp [next] at among
      | ok answer =>
        cases answer with
        | none => simp [next] at among
        | some answer =>
          obtain ⟨line, later⟩ := answer
          have room : before.length < session.room path := by omega
          rw [next] at among
          rcases List.mem_append.mp among with here | below
          · exact ⟨before, line, met, ⟨reader, later, course, room, next⟩, here⟩
          · rw [course.reader_eq.1, interpretLine_optionAfter?] at below
            cases does : lineAction context includeFile path before line met with
            | error failure left => simp [does] at below
            | ok answer after =>
              rw [does] at below
              refine ih (before ++ [line]) later after (.line course room next does) ?_ below
              rw [List.length_append, List.length_singleton]
              omega
  cases opens : session.disk.openReader path with
  | error cause => simp [givenInFile, opens] at among
  | ok reader =>
    simp only [givenInFile, opens] at among
    refine onward _ [] reader session (.opened opens) rfl ?_
    rw [Session.room_of_opens opens, List.length_nil, Nat.sub_zero, optionAfter?_nil]
    exact among

/-! ### How a reading ends

Every end of a reading is one of a few, and each is at a point of the course. The theorem is by
induction over the allowance of lines, which a file never uses up. -/

/-- How the reading of a file may end: there is no such file, it was read to the end, it cannot be
read on, a line of it failed, or it has too many lines. -/
inductive Course.Ends (context : Context) (includeFile : String → Action Unit) (path : String)
    (session : Session) : EStateM.Result Failure Session Unit → Prop where
  | unopened {cause : IoError} (fails : session.disk.openReader path = .error cause) :
    Course.Ends context includeFile path session (.error (.resource path .reading cause) session)
  | finished {lines : List String} {reader : LineReader} {left : Session}
      (course : Course context includeFile path session lines reader left)
      (done : reader.next left.disk = .ok none) (room : lines.length < session.room path) :
    Course.Ends context includeFile path session (.ok () left)
  | unreadable {before : List String} {reader : LineReader} {met : Session} {cause : IoError}
      (course : Course context includeFile path session before reader met)
      (fails : reader.next met.disk = .error cause) :
    Course.Ends context includeFile path session (.error (.resource path .reading cause) met)
  | failed {before : List String} {line : String} {met left : Session} {failure : Failure}
      (comes : ComesTo context includeFile path session before line met)
      (fails : lineAction context includeFile path before line met = .error failure left) :
    Course.Ends context includeFile path session (.error failure left)
  | exhausted {lines : List String} {reader : LineReader} {met : Session}
      (course : Course context includeFile path session lines reader met) :
    Course.Ends context includeFile path session (.error (.resource path .reading .outOfMemory) met)

/-- The reading of a file goes its course until it ends. -/
theorem interpretFile_ends (context : Context) (includeFile : String → Action Unit)
    (path : String) (session : Session) :
    Course.Ends context includeFile path session
      (interpretFile context includeFile path session) := by
  have onward : ∀ allowance before reader met,
      Course context includeFile path session before reader met →
      session.room path - before.length = allowance →
      Course.Ends context includeFile path session
        (interpretLines context includeFile allowance reader (optionAfter? before) met) := by
    intro allowance
    induction allowance with
    | zero =>
      intro before reader met course left
      unfold interpretLines
      rw [throw_apply, course.reader_eq.1]
      exact .exhausted course
    | succ allowance ih =>
      intro before reader met course left
      rw [interpretLines_apply]
      cases next : reader.next met.disk with
      | error cause =>
        rw [course.reader_eq.1]
        exact .unreadable course next
      | ok answer =>
        cases answer with
        | none => exact .finished course next (by omega)
        | some answer =>
          obtain ⟨line, later⟩ := answer
          have room : before.length < session.room path := by omega
          simp only [bind_apply]
          rw [course.reader_eq.1, interpretLine_optionAfter?]
          cases does : lineAction context includeFile path before line met with
          | error failure left => exact .failed ⟨reader, later, course, room, next⟩ does
          | ok answer after =>
            refine ih (before ++ [line]) later after (.line course room next does) ?_
            rw [List.length_append, List.length_singleton]
            omega
  cases opens : session.disk.openReader path with
  | error cause =>
    rw [interpretFile_apply, opens]
    exact .unopened opens
  | ok reader =>
    have course : Course context includeFile path session [] reader session := .opened opens
    rw [course.interpretFile_eq]
    exact onward _ [] reader session course rfl

/-! ### A file that stays as it is

If nothing writes to the file while it is read, the lines of the course are the lines of the file,
and a reading that ends well has gone through all of them. -/

/-- While the file stays as it is, the reading goes through its lines. -/
theorem Course.lines_of_kept {bytes : List UInt8}
    (kept : ∀ before reader met, Course context includeFile path session before reader met →
      met.disk.node? reader.place = some (.file bytes))
    (course : Course context includeFile path session before reader met) :
    ∃ rest failure, Lines.ofBytes bytes = ⟨before ++ rest, failure⟩ ∧
      reader.Supplies met.disk ⟨rest, failure⟩ := by
  induction course with
  | @opened reader opens =>
    refine ⟨(Lines.ofBytes bytes).lines, (Lines.ofBytes bytes).failure, rfl, ?_⟩
    have holds := kept [] reader session (.opened opens)
    rw [Disk.reader_of_openReader opens]
    exact LineReader.supplies_opened holds
  | @line before reader later met after line course room next does ih =>
    obtain ⟨rest, failure, whole, supplies⟩ := ih
    cases rest with
    | nil =>
      rw [supplies.next_nil] at next
      cases failure <;> cases next
    | cons first rest =>
      obtain ⟨follower, read, samePath, samePlace, left⟩ := supplies.next_cons
      rw [read] at next
      cases next
      have holds := kept before reader met course
      have still := kept _ _ _ (.line course room read does)
      refine ⟨rest, failure, by rw [whole, List.append_assoc]; rfl, left.congr ?_⟩
      rw [still, samePlace, holds]

/-- A line that the reading comes to is a line of the file, if that stays as it is. -/
theorem ComesTo.mem_lines {bytes : List UInt8}
    (kept : ∀ before reader met, Course context includeFile path session before reader met →
      met.disk.node? reader.place = some (.file bytes))
    (comes : ComesTo context includeFile path session before line met) :
    line ∈ (Lines.ofBytes bytes).lines := by
  obtain ⟨reader, later, course, room, next⟩ := comes
  obtain ⟨rest, failure, whole, supplies⟩ := course.lines_of_kept kept
  cases rest with
  | nil =>
    rw [supplies.next_nil] at next
    cases failure <;> cases next
  | cons first rest =>
    obtain ⟨follower, read, -⟩ := supplies.next_cons
    rw [read] at next
    cases next
    rw [whole]
    simp

/-- What lines are read from is a file. -/
theorem ComesTo.exists_file (comes : ComesTo context includeFile path session before line met) :
    ∃ place bytes, session.disk.canonical path = .ok place ∧
      session.disk.node? place = some (.file bytes) := by
  have first : ∀ before reader met, Course context includeFile path session before reader met →
      ∀ line later, reader.next met.disk = .ok (some (line, later)) →
      ∃ bytes, session.disk.node? reader.place = some (.file bytes) := by
    intro before reader met course
    induction course with
    | @opened reader opens =>
      intro line later next
      rw [Disk.reader_of_openReader opens] at next
      exact LineReader.exists_file_of_next next
    | line _ _ next _ ih =>
      intro _ _ _
      rw [LineReader.next_place next]
      exact ih _ _ next
  obtain ⟨reader, later, course, -, next⟩ := comes
  obtain ⟨bytes, holds⟩ := first _ _ _ course _ _ next
  exact ⟨reader.place, bytes, course.reader_eq.2, holds⟩

/-- A file that stays as it is while it is read has been read whole when its reading ends well. -/
theorem Course.lines_of_done {bytes : List UInt8}
    (kept : ∀ before reader met, Course context includeFile path session before reader met →
      met.disk.node? reader.place = some (.file bytes))
    (course : Course context includeFile path session lines reader left)
    (done : reader.next left.disk = .ok none) : Lines.ofBytes bytes = ⟨lines, none⟩ := by
  obtain ⟨rest, failure, whole, supplies⟩ := course.lines_of_kept kept
  cases rest with
  | nil =>
    rw [supplies.next_nil] at done
    cases failure with
    | none => rwa [List.append_nil] at whole
    | some cause => cases done
  | cons first rest =>
    obtain ⟨follower, read, -⟩ := supplies.next_cons
    rw [read] at done
    cases done

end Points

end

end ExtractOptions

/-
Module: ExtractOptions.Proofs.Transcript.Agreement
Purpose: a command line and its transcript agree. Whatever a command line does with success, an
  argument file with its options and sources, one on each line, does as well, if one more argument
  file may be open and the run leaves that file alone.
Main exports: readArgumentFile_transcript, not_agreeing_of_logged
-/
import ExtractOptions.Proofs.Inclusion.Expansion
import ExtractOptions.Proofs.Transcript.Alongside
import ExtractOptions.Proofs.Transcript.Entry

namespace ExtractOptions

open Text ExtractOptions.Action

section

variable {context : Context}

/-! ### Lines outside any file

The tokens of a command line are acted on with no argument file around them, and the lines of the
transcript with one. The levels that are left differ by one, and nothing else does. -/

/-- An option that names an argument file has it read with the levels that are left. -/
theorem lineAction_readArgumentFile (origin : String) (before : List String) (line : String)
    (session : Session) :
    lineAction context (readArgumentFile context) origin before line session =
      lineAction context
        (readNested context (context.maxIncludeDepth - session.including.length)) origin before line
        session := by
  unfold lineAction
  cases form : LineForm.ofText line with
  | letter option value =>
    simp only
    rcases option.reads_or_alone context value with ⟨rfl, named⟩ | alone
    · have same : session.lettered.including = session.including := rfl
      rw [LetterOption.perform_argumentFile named, LetterOption.perform_argumentFile named,
        readArgumentFile_apply, same]
    · rw [alone, alone]
  | named name value =>
    simp only
    cases found : NamedOption.find? name with
    | none =>
      unfold performNamed
      simp only [found]
    | some option => rw [performNamed_eq found, performNamed_eq found]
  | blank | source | data | unknown => rfl

/-- The options that such a line gives are listed with the levels that are left. -/
theorem givenInLine_reading (line : String) (session : Session) :
    givenInLine context (givenReading context) line session =
      givenInLine context (givenNested context (context.maxIncludeDepth - session.including.length))
        line session := by
  unfold givenInLine
  cases form : LineForm.ofText line with
  | letter option value =>
    simp only [LetterOption.given, givenReading]
    rw [option.alone_keepsStack value session]
  | blank | named | source | data | unknown => rfl

/-! ### The course of the transcript

The invariant of the induction over entries: what the command line has left, and what the file has
left, are tokens and lines of the same entries. -/

/-- What does the same as an option that is apart from a place is apart from it too. -/
theorem Given.Agrees.apart {one other : Given} {place : Location}
    (agrees : one.Agrees context other) (apart : other.Apart context place) :
    one.Apart context place where
  untouched := by
    have untouched := apart.untouched
    rw [Given.after, agrees.alone, agrees.session] at untouched
    exact untouched
  unread := by
    have unread := apart.unread
    rw [agrees.file?, agrees.session] at unread
    exact unread

/-- The first session has some tokens of a command line left. The second one has the lines of their
transcript left in the additional file, which it is reading, and stands beside the first. -/
structure KeepsUp (context wider : Context) (levels : Nat) (addition : Addition) (path : String)
    (start : Session) (tokens : List String) (first : Session) (before : List String)
    (second : Session) : Prop where
  values : ∀ entry ∈ entries tokens, entry.IsApart
  apart : ∀ one ∈ givenResolving context tokens first, one.Apart context addition.place
  remaining : levels = context.maxIncludeDepth - first.including.length
  unspoiled : first.disk.node? addition.place = none ∨
    first.disk.node? addition.place = some (.file addition.bytes)
  beside : Session.Beside addition first second
  reading : ∃ reader, Course wider (readNested wider levels) path start before reader second ∧
    reader.place = addition.place ∧ reader.Supplies second.disk ⟨transcript tokens, none⟩

/-- The transcript of a command line begins with the line of its first entry. -/
theorem Entry.Begins.transcript_eq {tokens rest : List String} {session left between : Session}
    {entry : Entry} (begins : entry.Begins context tokens session left rest between) :
    transcript tokens = entry.line :: transcript rest := by
  unfold transcript
  rw [begins.entries_eq, List.map_cons]

namespace KeepsUp

variable {depth levels : Nat} {addition : Addition} {path : String} {start : Session}
  {tokens rest before : List String} {first second left between : Session} {entry : Entry}

/-- The second session acts on the line of the entry that the first one begins with. -/
theorem step
    (keeps : KeepsUp context { context with maxIncludeDepth := depth } levels addition path start
      tokens first before second)
    (begins : entry.Begins context tokens first left rest between)
    (room : before.length < start.room path) :
    ∃ further, KeepsUp context { context with maxIncludeDepth := depth } levels addition path start
      rest between (before ++ [entry.line]) further := by
  obtain ⟨reader, course, place, supplies⟩ := keeps.reading
  rw [begins.transcript_eq] at supplies
  obtain ⟨later, next, -, samePlace, left⟩ := supplies.next_cons
  -- Every option of the line is one of the command line, or does what one of that does.
  have apart : ∀ one ∈ givenInLine context (givenReading context) entry.line first,
      one.Apart context addition.place := by
    intro one among
    obtain ⟨other, listed, agrees⟩ := begins.given one among
    exact agrees.apart (keeps.apart other listed)
  have does := begins.does path before
  have chronology :=
    (lineAction_chronicles readArgumentFile_chronicles path before entry.line).of_ok does
  have untouched := chronology.untouched apart
  have stack :=
    (lineAction_keepsStack readArgumentFile_keepsStack path before entry.line).of_ok does
  rw [lineAction_readArgumentFile, ← keeps.remaining] at does
  rw [givenInLine_reading, ← keeps.remaining] at apart
  obtain ⟨further, alike, still⟩ :=
    lineAction_along depth (readNested_along depth levels) keeps.beside apart does
  have unspoiled : between.disk.node? addition.place = none ∨
      between.disk.node? addition.place = some (.file addition.bytes) := by
    rw [untouched]
    exact keeps.unspoiled
  have same : further.disk.node? later.place = second.disk.node? later.place := by
    rw [samePlace, place, still.disk.holds unspoiled, keeps.beside.disk.holds keeps.unspoiled]
  exact
    ⟨further,
      { values := fun one among => keeps.values one (by simp [begins.entries_eq, among])
        apart := fun one among => keeps.apart one (begins.later among)
        remaining := by rw [stack, keeps.remaining]
        unspoiled := unspoiled
        beside := still
        reading := ⟨later, .line course room next alike, samePlace.trans place, left.congr same⟩ }⟩

/-- The second session comes to the end of the file when the first one comes to the end of the
command line. -/
theorem run
    (keeps : KeepsUp context { context with maxIncludeDepth := depth } levels addition path start
      tokens first before second)
    (run : resolve context tokens first = .ok () left)
    (room : before.length + (transcript tokens).length < start.room path) :
    ∃ after, interpretFile { context with maxIncludeDepth := depth }
        (readNested { context with maxIncludeDepth := depth } levels) path start = .ok () after ∧
      Session.Beside addition left after := by
  generalize listed : entries tokens = list
  induction list generalizing tokens first before second with
  | nil =>
    cases tokens with
    | nil =>
      cases run
      obtain ⟨reader, course, -, supplies⟩ := keeps.reading
      exact ⟨second, course.interpretFile_of_done supplies.next_nil (by omega), keeps.beside⟩
    | cons token later =>
      obtain ⟨entry, rest, between, begins⟩ := beginsWithEntry keeps.values run
      rw [begins.entries_eq] at listed
      cases listed
  | cons own list ih =>
    cases tokens with
    | nil => cases listed
    | cons token later =>
      obtain ⟨entry, rest, between, begins⟩ := beginsWithEntry keeps.values run
      rw [begins.transcript_eq, List.length_cons] at room
      obtain ⟨further, goes⟩ := keeps.step begins (by omega)
      rw [begins.entries_eq] at listed
      cases listed
      exact ih goes begins.goes (by rw [List.length_append, List.length_singleton]; omega) rfl

end KeepsUp

/-- A command line and its transcript agree. -/
theorem readArgumentFile_transcript (context : Context) (session : Session) (tokens : List String)
    (path : String) (place : Location)
    (lines : ∀ token ∈ tokens, IsLine token)
    (values : ∀ entry ∈ entries tokens, entry.IsApart)
    (outside : place ∉ session.including)
    (bounded : session.including.length ≤ context.maxIncludeDepth)
    (log : ∀ target, session.config.log = .file target → target.place ≠ place)
    (unspoiled : session.disk.node? place = none ∨
      session.disk.node? place = some (.file (Lines.written (transcript tokens))))
    (found : (session.disk.put place (.file (Lines.written (transcript tokens)))).find path =
      .ok (place, .file (Lines.written (transcript tokens))))
    (apart : ∀ one ∈ givenResolving context tokens session, one.Apart context place)
    {left : Session} (run : resolve context tokens session = .ok () left) :
    ∃ after,
      readArgumentFile { context with maxIncludeDepth := context.maxIncludeDepth + 1 } path
          { session with
            disk := session.disk.put place (.file (Lines.written (transcript tokens))) } =
        .ok () after ∧
      after.config = left.config ∧ after.registry = left.registry ∧
      after.standardError = left.standardError ∧
      after.counters =
        { left.counters with argumentFiles := left.counters.argumentFiles + 1 } := by
  generalize additional : Lines.written (transcript tokens) = bytes at *
  generalize started : ({ session with disk := session.disk.put place (.file bytes) } : Session) =
    start
  have disk : start.disk = session.disk.put place (.file bytes) := by rw [← started]
  have around : start.including = session.including := by rw [← started]
  have beside : Session.Beside ⟨place, bytes⟩ session (start.entering place) := by
    rw [← started]
    exact .of_put unspoiled log
  have holds : (start.entering place).disk.node? place = some (.file bytes) :=
    beside.disk.holds unspoiled
  have opens : (start.entering place).disk.openReader path = .ok { path, place } := by
    rw [← disk] at found
    exact Disk.openReader_of_find found
  have read : Lines.ofBytes bytes = ⟨transcript tokens, none⟩ := by
    rw [← additional]
    exact Lines.ofBytes_written (isLine_of_mem_transcript lines)
  have keeps : KeepsUp context { context with maxIncludeDepth := context.maxIncludeDepth + 1 }
      (context.maxIncludeDepth - session.including.length) ⟨place, bytes⟩ path
      (start.entering place) tokens session [] (start.entering place) :=
    { values
      apart
      remaining := rfl
      unspoiled
      beside
      reading := ⟨_, .opened opens, rfl, read ▸ LineReader.supplies_opened holds⟩ }
  have room := Session.lines_lt_room opens holds
  rw [read] at room
  obtain ⟨after, inside, still⟩ := keeps.run run (by rwa [List.length_nil, Nat.zero_add])
  refine ⟨after.leaving, ?_, still.config, still.registry, still.standardError, still.counters⟩
  rw [readArgumentFile_apply]
  refine readNested_eq_ok.mpr ⟨_, place, after, ?_, ?_, ?_, inside, rfl⟩
  · rw [around]
    simp only
    omega
  · rw [disk]
    exact Disk.canonical_of_find found
  · rw [around]
    exact outside

end

/-! ### Transcripts at work

A command line with all sorts of tokens and its transcript, and a run that shows that a condition
cannot be left out. -/

/-- A command line with all sorts of tokens. -/
def mixedTokens : List String :=
  ["-Ap", "--maxmoves", "40", "--SplitVariants", "-s", "a.pgn"]

/-- The directory in which it is used. -/
def mixedFiles : Disk :=
  Expansion.folder [("p", ":-t\nWhite \"X\"\n:-A../games/q\n"), ("q", ":--minply 3\n")]

example : transcript mixedTokens =
    [":-Ap", ":--maxmoves 40", ":--SplitVariants", ":-s", ":a.pgn"] := by
  decide +kernel

/-- A command line with all sorts of tokens and its transcript leave the same. -/
theorem mixed_transcript :
    ∃ after,
      readArgumentFile { maxIncludeDepth := 3 } "fresh"
          { disk := mixedFiles.put ["games", "fresh"]
              (.file (Lines.written (transcript mixedTokens))) } =
        .ok () after ∧
      after.config = ((resolve { maxIncludeDepth := 2 } mixedTokens).after
        { disk := mixedFiles }).config := by
  have apart : ∀ one ∈ givenResolving { maxIncludeDepth := 2 } mixedTokens { disk := mixedFiles },
      one.Apart { maxIncludeDepth := 2 } ["games", "fresh"] := by
    decide +kernel
  have succeeds : (resolve { maxIncludeDepth := 2 } mixedTokens).succeeds { disk := mixedFiles } =
      true := by
    decide +kernel
  obtain ⟨_, run⟩ := exists_ok_of_succeeds succeeds
  obtain ⟨after, reads, config, -⟩ :=
    readArgumentFile_transcript { maxIncludeDepth := 2 } { disk := mixedFiles } mixedTokens "fresh"
      ["games", "fresh"] (by decide +kernel) (by decide +kernel) (by decide) (by decide)
      (fun _ writes => nomatch writes) (.inl (by decide +kernel)) (by decide +kernel) apart run
  exact ⟨after, reads, config⟩

/-- A command line with a file that directs diagnostics to another one. -/
def loggedTokens : List String :=
  ["-Aq", "--maxmoves", "10", "--minmoves", "12"]

/-- The directory in which it is used. -/
def loggedFiles : Disk :=
  Expansion.folder [("q", ":-Lfresh\n")]

/-- It is not enough that no token names the transcript and no file includes it. If a file that is
included directs diagnostics to it, a warning becomes a line of it. -/
theorem not_agreeing_of_logged :
    ¬ ∀ (context : Context) (session left : Session) (tokens : List String) (path : String)
        (place : Location),
      (∀ token ∈ tokens, IsLine token) → (∀ entry ∈ entries tokens, entry.IsApart) →
      session.including = [] → session.config = {} → session.disk.node? place = none →
      (session.disk.put place (.file (Lines.written (transcript tokens)))).find path =
        .ok (place, .file (Lines.written (transcript tokens))) →
      (∀ token ∈ tokens, ¬ path.toList <:+: token.toList) →
      (∀ one ∈ givenResolving context tokens session, ∀ file ∈ one.file?,
        one.session.disk.canonical file ≠ .ok place) →
      resolve context tokens session = .ok () left →
      ∃ after,
        readArgumentFile { context with maxIncludeDepth := context.maxIncludeDepth + 1 } path
            { session with
              disk := session.disk.put place (.file (Lines.written (transcript tokens))) } =
          .ok () after ∧
        after.config = left.config ∧ after.registry = left.registry ∧
        after.counters =
          { left.counters with argumentFiles := left.counters.argumentFiles + 1 } := by
  intro agreement
  have succeeds : (resolve {} loggedTokens).succeeds { disk := loggedFiles } = true := by
    decide +kernel
  obtain ⟨_, run⟩ := exists_ok_of_succeeds succeeds
  obtain ⟨after, reads, -⟩ :=
    agreement {} { disk := loggedFiles } _ loggedTokens "fresh" ["games", "fresh"] (by decide +kernel)
      (by decide +kernel) rfl rfl (by decide +kernel) (by decide +kernel) (by decide +kernel)
      (by decide +kernel) run
  have fails : (readArgumentFile { maxIncludeDepth := 17 } "fresh").succeeds
      { disk := loggedFiles.put ["games", "fresh"]
          (.file (Lines.written (transcript loggedTokens))) } = false := by
    decide +kernel
  rw [succeeds_of_ok reads] at fails
  cases fails

end ExtractOptions

/-
Module: ExtractOptions.Proofs.Run.Sources
Purpose: the names of sources. Files of games to compare with and lists of files never record a
  source without a name. An empty token does, and so does a line of an argument file that is a colon
  alone; a run records such a source exactly if it comes to one of them.
Main exports: Session.HasNameless, Action.AddsNameless, LineNamesNothing, NestedNamesNothing,
  Entry.NamesNothing, Call.NamesNothing, Calls.nameless_source_iff
-/
import ExtractOptions.Proofs.CommandLine.Composition
import ExtractOptions.Proofs.Inclusion.Expansion
import ExtractOptions.Proofs.Run.Monotonicity
import ExtractOptions.Proofs.Session.Ledger

namespace ExtractOptions

open Text ExtractOptions.Action

/-- Some source has no name. -/
def Session.HasNameless (session : Session) : Prop :=
  ∃ source ∈ session.registry.sources, source.1 = ""

@[simp]
theorem Session.hasNameless_entering (session : Session) (place : Location) :
    (session.entering place).HasNameless ↔ session.HasNameless :=
  Iff.rfl

@[simp]
theorem Session.hasNameless_leaving (session : Session) :
    session.leaving.HasNameless ↔ session.HasNameless :=
  Iff.rfl

/-- There is a source without a name after the action if there was one before, or if `adds` holds of
the session, and only then. -/
def Action.AddsNameless {α : Type} (action : Action α) (adds : Session → Prop) : Prop :=
  ∀ session, (action.after session).HasNameless ↔ session.HasNameless ∨ adds session

/-! ### Actions

Whether an action adds a source without a name is an equivalence, with a condition on the session
that it meets. Conditions are put together as actions are. -/

/-- What keeps the sources keeps their names. -/
theorem Session.Kept.hasNameless_iff {first second : Session} (kept : first.Kept second) :
    second.HasNameless ↔ first.HasNameless := by
  obtain ⟨added, grown, named⟩ := kept.sources
  unfold HasNameless
  rw [grown]
  constructor
  · rintro ⟨source, among, unnamed⟩
    rcases List.mem_append.mp among with before | new
    · exact ⟨source, before, unnamed⟩
    · exact absurd unnamed (named source new)
  · rintro ⟨source, among, unnamed⟩
    exact ⟨source, List.mem_append_left _ among, unnamed⟩

/-- Sources are only added. -/
theorem Session.Precedes.hasNameless {first second : Session} (precedes : first.Precedes second)
    (nameless : first.HasNameless) : second.HasNameless := by
  obtain ⟨source, among, unnamed⟩ := nameless
  exact ⟨source, precedes.registry.sources.subset among, unnamed⟩

namespace Action.AddsNameless

variable {α β : Type} {context : Context}

/-- An action that always keeps the sources adds none without a name. -/
theorem of_kept {action : Action α}
    (kept : ∀ session : Session, session.Kept (action.after session)) :
    AddsNameless action fun _ => False :=
  fun session => by rw [(kept session).hasNameless_iff, or_false]

protected theorem throw (failure : Failure) :
    AddsNameless (throw failure : Action α) fun _ => False :=
  of_kept Session.Kept.refl

protected theorem pure (answer : α) : AddsNameless (pure answer : Action α) fun _ => False :=
  of_kept Session.Kept.refl

/-- A source is recorded under its path, so it has no name exactly if the path is empty. -/
theorem addSource (path : String) (kind : SourceKind) :
    AddsNameless (addSource path kind) fun _ => path = "" := by
  intro session
  by_cases unnamed : path = ""
  · refine iff_of_true ⟨(path, kind), ?_, unnamed⟩ (.inr unnamed)
    exact List.mem_append_right _ (List.mem_singleton_self _)
  · rw [(addSource_kept session unnamed kind).hasNameless_iff, or_iff_left unnamed]

/-- A data line records no source. -/
theorem deliver (kind : DataKind) (origin line : String) :
    AddsNameless (deliver context kind.option origin line) fun _ => False :=
  of_kept fun session => deliver_kept session kind origin line

protected theorem map {action : Action α} {adds : Session → Prop} (head : AddsNameless action adds)
    (f : α → β) : AddsNameless (f <$> action) adds := by
  intro session
  rw [after_map]
  exact head session

protected theorem discard {action : Action α} {adds : Session → Prop}
    (head : AddsNameless action adds) : AddsNameless (discard action) adds :=
  head.map _

/-- What adds none whatever it goes on with after counting, adds none. -/
theorem of_assembled {action : Action Unit} {hands records : Prop}
    (assembled : ∀ session, ∃ (rest : Action Unit) (letters names : Nat),
      Assembled context hands records rest ∧ action session = rest (session.recounted letters names)) :
    AddsNameless action fun _ => False := by
  intro session
  obtain ⟨rest, letters, names, assembled, same⟩ := assembled session
  rw [after_congr same, (assembled.kept _).hasNameless_iff, or_false]
  rfl

end Action.AddsNameless

/-! ### One thing after another

A loop adds such a source if one of its turns does. Which turns come is a matter of the turns
before, since the loop stops at the first failure. -/

/-- The turn of an item comes when the session met is reached. -/
def Action.ComesUp {α : Type} (visit : α → Action Unit) (items : List α) (session : Session)
    (item : α) (met : Session) : Prop :=
  ∃ front back, items = front ++ item :: back ∧ front.forM visit session = .ok () met

section ComesUp

variable {α : Type} {visit : α → Action Unit} {first item : α} {later : List α}
  {session met : Session}

/-- No item of an empty list has a turn. -/
theorem not_comesUp_nil : ¬ ComesUp visit [] session item met := by
  rintro ⟨front, back, parts, -⟩
  simp at parts

/-- The first item has its turn at once, and the others after it succeeded. -/
theorem comesUp_cons_iff :
    ComesUp visit (first :: later) session item met ↔
      item = first ∧ met = session ∨
        ∃ between, visit first session = .ok () between ∧
          ComesUp visit later between item met := by
  constructor
  · rintro ⟨front, back, parts, reached⟩
    cases front with
    | nil =>
      cases parts
      cases reached
      exact .inl ⟨rfl, rfl⟩
    | cons other front =>
      cases parts
      obtain ⟨_, between, run, rest⟩ := bind_ok reached
      exact .inr ⟨between, run, front, back, rfl, rest⟩
  · rintro (⟨rfl, rfl⟩ | ⟨between, run, front, back, rfl, rest⟩)
    · exact ⟨[], later, rfl, rfl⟩
    · refine ⟨first :: front, back, rfl, ?_⟩
      change (visit first >>= fun _ => front.forM visit) session = .ok () met
      rw [bind_apply, run]
      exact rest

/-- A source without a name is added by something whose turn comes. -/
theorem Action.AddsNameless.forM {adds : α → Session → Prop}
    (each : ∀ item, AddsNameless (visit item) (adds item)) (items : List α) :
    AddsNameless (items.forM visit) fun session =>
      ∃ item met, ComesUp visit items session item met ∧ adds item met := by
  induction items with
  | nil =>
    intro session
    exact (or_iff_left fun ⟨_, _, comes, _⟩ => not_comesUp_nil comes).symm
  | cons first later ih =>
    intro session
    have head := each first session
    have turns : (∃ item met, ComesUp visit (first :: later) session item met ∧ adds item met) ↔
        adds first session ∨ ∃ between, visit first session = .ok () between ∧
          ∃ item met, ComesUp visit later between item met ∧ adds item met := by
      simp only [comesUp_cons_iff]
      constructor
      · rintro ⟨item, met, ⟨rfl, rfl⟩ | ⟨between, run, comes⟩, names⟩
        · exact .inl names
        · exact .inr ⟨between, run, item, met, comes, names⟩
      · rintro (names | ⟨between, run, item, met, comes, names⟩)
        · exact ⟨first, session, .inl ⟨rfl, rfl⟩, names⟩
        · exact ⟨item, met, .inr ⟨between, run, comes⟩, names⟩
    simp only [turns]
    change ((visit first >>= fun _ => later.forM visit).after session).HasNameless ↔ _
    cases run : visit first session with
    | ok done between =>
      rw [after_of_ok run] at head
      rw [after_bind_of_ok run, ih between, head, or_assoc]
      simp
    | error failure between =>
      rw [after_of_error run] at head
      rw [after_bind_of_error run, head]
      simp

end ComesUp

/-! ### Argument files

A file adds such a source at the lines that its reading comes to. The condition follows the lines of
the file and the files that they include, level by level. -/

section Files

variable {context : Context} {includeFile : String → Action Unit} {included : String → Trace}
  {inside : String → Session → Prop}

/-- The option names an argument file in which a source without a name is given. -/
def LetterOption.NamesNothing (inside : String → Session → Prop) (option : LetterOption)
    (value : String) (session : Session) : Prop :=
  option = .argumentFile ∧ skipSpaces value ≠ "" ∧ inside (skipSpaces value) session.lettered

/-- The line is a colon alone, or names an argument file in which a source without a name is
given. -/
def LineNamesNothing (inside : String → Session → Prop) (line : String) (session : Session) :
    Prop :=
  line = ":" ∨
    ∃ option value, LineForm.ofText line = .letter option value ∧
      option.NamesNothing inside value session

/-- A source without a name is a colon alone. -/
theorem LineForm.ofText_eq_source_empty {line : String} :
    LineForm.ofText line = .source "" ↔ line = ":" := by
  constructor
  · intro form
    cases directive : directiveLetter? line with
    | some letter =>
      rw [ofText_of_some directive] at form
      split at form
      · simp only at form
        split at form <;> cases form
      · cases form
    | none =>
      rw [ofText_of_none directive] at form
      split at form
      · cases form
      · split at form
        · rename_i path rest
          have empty : path = [] := String.ofList_eq_empty_iff.mp (LineForm.source.inj form)
          subst empty
          have chars : line.toList = [':'] := dropPrefix?_eq_some_iff.mp rest
          rw [← String.ofList_toList (s := line), chars]
        · cases form
  · rintro rfl
    rfl

/-- An option adds a source without a name only in the file that it includes. -/
theorem LetterOption.perform_addsNameless
    (includes : ∀ file, AddsNameless (includeFile file) (inside file)) (option : LetterOption)
    (value : String) :
    AddsNameless (option.perform context includeFile value) (option.NamesNothing inside value) := by
  intro session
  rcases option.reads_or_unread value with ⟨rfl, named⟩ | unread
  · have same : argumentFile.perform context includeFile value session = _ :=
      perform_argumentFile named session
    rw [after_congr same, includes (skipSpaces value) session.lettered]
    exact or_congr_right (by simp [NamesNothing, named])
  · have none : ¬ option.NamesNothing inside value session := fun names =>
      names.2.1 (unread names.1)
    rw [perform_eq_alone unread, or_iff_left none]
    have adds := AddsNameless.of_assembled (option.alone_assembled context value) session
    rwa [or_false] at adds

/-- No option that is given by name adds a source without a name. -/
theorem performNamed_addsNameless (name value : String) :
    AddsNameless (performNamed context includeFile name value) fun _ => False := by
  cases found : NamedOption.find? name with
  | none =>
    rw [performNamed_of_unknown found]
    exact .throw _
  | some option =>
    rw [performNamed_eq found]
    exact (AddsNameless.of_assembled (option.alone_assembled context value)).map _

/-- A line does if it is a colon alone, or includes a file in which one is given. -/
theorem lineAction_addsNameless (context : Context)
    (includes : ∀ file, AddsNameless (includeFile file) (inside file)) (origin : String)
    (before : List String) (line : String) :
    AddsNameless (lineAction context includeFile origin before line)
      (LineNamesNothing inside line) := by
  unfold lineAction LineNamesNothing
  simp only [← LineForm.ofText_eq_source_empty]
  cases LineForm.ofText line with
  | blank => simpa using AddsNameless.pure ()
  | named name value => simpa using (performNamed_addsNameless name value).discard
  | letter option value => simpa using option.perform_addsNameless includes value
  | source path => simpa using AddsNameless.addSource path .normal
  | data =>
    cases kindAfter? before with
    | none => simpa using AddsNameless.throw _
    | some kind => simpa using AddsNameless.deliver kind origin line
  | unknown failure => simpa using AddsNameless.throw failure

/-- What a line leaves is kept by the rest of its file. -/
theorem ComesTo.precedes
    (chronicles : ∀ file, Chronicles context (includeFile file) (included file))
    {path line : String} {session met : Session} {before : List String}
    (comes : ComesTo context includeFile path session before line met) :
    ((lineAction context includeFile path before line).after met).Precedes
      ((interpretFile context includeFile path).after session) := by
  cases does : lineAction context includeFile path before line met with
  | error failure left =>
    rw [after_of_error does, after_of_error (comes.interpretFile_of_error does)]
    exact .refl left
  | ok done after =>
    obtain ⟨reader, later, course, room, next⟩ := comes
    have onward := Course.line course room next does
    have rest : interpretFile context includeFile path session = _ := onward.interpretFile_eq
    rw [after_of_ok does, after_congr rest]
    have goesOn := interpretLines_chronicles chronicles
      (session.room path - (before ++ [line]).length) later
      (persisting_optionAfter? (before ++ [line]))
    exact (goesOn.chronology after).steps.precedes

/-- A reading comes to a source without a name, or to an argument file in which one is given. -/
def FileNamesNothing (context : Context) (includeFile : String → Action Unit)
    (inside : String → Session → Prop) (path : String) (session : Session) : Prop :=
  ∃ before line met, ComesTo context includeFile path session before line met ∧
    LineNamesNothing inside line met

/-- Up to any point of its course, a reading has added a source without a name only if it came to
one. -/
theorem Course.hasNameless (includes : ∀ file, AddsNameless (includeFile file) (inside file))
    {path : String} {session met : Session} {before : List String} {reader : LineReader}
    (course : Course context includeFile path session before reader met)
    (nameless : met.HasNameless) :
    session.HasNameless ∨ FileNamesNothing context includeFile inside path session := by
  induction course with
  | opened => exact .inl nameless
  | @line before reader later met after line course room next does ih =>
    have adds := lineAction_addsNameless context includes path before line met
    rw [after_of_ok does] at adds
    rcases adds.mp nameless with before | names
    · exact ih before
    · exact .inr ⟨_, line, met, ⟨reader, later, course, room, next⟩, names⟩

/-- A file does if its reading comes to such a line. -/
theorem interpretFile_addsNameless
    (includes : ∀ file, AddsNameless (includeFile file) (inside file))
    (chronicles : ∀ file, Chronicles context (includeFile file) (included file)) (path : String) :
    AddsNameless (interpretFile context includeFile path)
      (FileNamesNothing context includeFile inside path) := by
  intro session
  constructor
  · intro nameless
    have ends := interpretFile_ends context includeFile path session
    generalize run : interpretFile context includeFile path session = outcome at ends
    cases ends with
    | unopened =>
      rw [after_of_error run] at nameless
      exact .inl nameless
    | finished course =>
      rw [after_of_ok run] at nameless
      exact course.hasNameless includes nameless
    | unreadable course | exhausted course =>
      rw [after_of_error run] at nameless
      exact course.hasNameless includes nameless
    | @failed before line met left failure comes fails =>
      rw [after_of_error run] at nameless
      have adds := lineAction_addsNameless context includes path before line met
      rw [after_of_error fails] at adds
      rcases adds.mp nameless with earlier | names
      · obtain ⟨_, _, course, -⟩ := comes
        exact course.hasNameless includes earlier
      · exact .inr ⟨before, line, met, comes, names⟩
  · rintro (nameless | ⟨before, line, met, comes, names⟩)
    · have chronology := (interpretFile_chronicles chronicles path).chronology session
      exact chronology.steps.precedes.hasNameless nameless
    · have adds := lineAction_addsNameless context includes path before line met
      exact (comes.precedes chronicles).hasNameless (adds.mpr (.inr names))

/-- A source without a name is given in the argument file, or in one that it names, when `levels`
more of them may be open. -/
def NestedNamesNothing (context : Context) : (levels : Nat) → String → Session → Prop
  | 0, _, _ => False
  | inner + 1, path, session =>
    ∃ place, session.disk.canonical path = .ok place ∧ place ∉ session.including ∧
      FileNamesNothing context (readNested context inner) (NestedNamesNothing context inner) path
        (session.entering place)

/-- So does a file within files. -/
theorem readNested_addsNameless (levels : Nat) (path : String) :
    AddsNameless (readNested context levels path) (NestedNamesNothing context levels path) := by
  induction levels generalizing path with
  | zero =>
    intro session
    have ends := readNested_ends context 0 path session
    generalize run : readNested context 0 path session = outcome at ends
    cases ends <;>
    · rw [after_of_error run]
      exact (or_iff_left id).symm
  | succ inner ih =>
    intro session
    have inside := fun place =>
      interpretFile_addsNameless ih (readNested_chronicles inner) path (session.entering place)
    have ends := readNested_ends context (inner + 1) path session
    generalize run : readNested context (inner + 1) path session = outcome at ends
    cases ends with
    | missing lost =>
      rw [after_of_error run]
      simp [NestedNamesNothing, lost]
    | again found reading =>
      rw [after_of_error run]
      simp [NestedNamesNothing, found, reading]
    | @finished _ place between found fresh reads =>
      have inside := inside place
      rw [after_of_ok reads] at inside
      rw [after_of_ok run]
      simpa [NestedNamesNothing, found, fresh] using inside
    | @failed _ place between failure found fresh reads =>
      have inside := inside place
      rw [after_of_error reads] at inside
      rw [after_of_error run]
      simpa [NestedNamesNothing, found, fresh] using inside

/-- A source without a name is given in the argument file, or in one that it names. -/
def ReadingNamesNothing (context : Context) (path : String) (session : Session) : Prop :=
  NestedNamesNothing context (context.maxIncludeDepth - session.including.length) path session

/-- An argument file adds a source without a name exactly if its reading comes to one. -/
theorem readArgumentFile_addsNameless (path : String) :
    AddsNameless (readArgumentFile context path) (ReadingNamesNothing context path) :=
  fun session => readNested_addsNameless _ path session

end Files

/-! ### Command lines and calls

A command line is taken entry by entry. The condition on calls is computed from the session that
each entry meets. -/

section Calls

variable (context : Context)

/-- The token is empty, or names an argument file in which a source without a name is given. -/
def Entry.NamesNothing (entry : Entry) (session : Session) : Prop :=
  entry.token = "" ∨
    ∃ c value option, Token.ofText entry.token = .letter c value ∧
      LetterOption.ofLetter? c = some option ∧
      option.NamesNothing (ReadingNamesNothing context) value session

/-- A source without a name is an empty token. -/
theorem Token.ofText_eq_source_empty {token : String} :
    Token.ofText token = .source "" ↔ token = "" := by
  unfold ofText
  constructor
  · intro means
    split at means <;> cases means
    rfl
  · rintro rfl
    rfl

/-- An entry does if its token is empty, or names such a file. -/
theorem Entry.perform_addsNameless (entry : Entry) :
    AddsNameless (entry.perform context) (entry.NamesNothing context) := by
  unfold perform NamesNothing
  simp only [← Token.ofText_eq_source_empty]
  cases Token.ofText entry.token with
  | named name => simpa using (performNamed_addsNameless name _).discard
  | bareDash => simpa using AddsNameless.throw _
  | source path => simpa using AddsNameless.addSource path .normal
  | letter c value =>
    simp only [performLetter]
    cases found : LetterOption.ofLetter? c with
    | none => simpa [found] using AddsNameless.throw _
    | some option =>
      simpa [found] using option.perform_addsNameless readArgumentFile_addsNameless value

/-- The call comes to a source without a name. -/
def Call.NamesNothing (call : Call) (session : Session) : Prop :=
  match call with
  | commandLine tokens =>
    ∃ entry met, ComesUp (Entry.perform context) (entries tokens) session entry met ∧
      entry.NamesNothing context met
  | letter option value => option.NamesNothing (ReadingNamesNothing context) value session
  | named _ _ => False
  | argumentFile path => ReadingNamesNothing context path session

/-- A call adds a source without a name exactly if it comes to one. -/
theorem Call.run_addsNameless (call : Call) :
    AddsNameless (call.run context) (call.NamesNothing context) := by
  cases call with
  | commandLine tokens =>
    change AddsNameless (resolve context tokens) _
    rw [resolve_eq_entries]
    exact .forM (Entry.perform_addsNameless context) (entries tokens)
  | letter option value => exact option.perform_addsNameless readArgumentFile_addsNameless value
  | named name value => exact (performNamed_addsNameless name value).discard
  | argumentFile path => exact readArgumentFile_addsNameless path

/-- Some source has no name after a run exactly if one had none before, or one of the calls came to
a token that is empty or to a line that is a colon alone, in an argument file at any depth. -/
theorem Calls.nameless_source_iff (calls : List Call) (session : Session) :
    (Calls.after context calls session).HasNameless ↔
      session.HasNameless ∨
        ∃ front call back, calls = front ++ call :: back ∧
          call.NamesNothing context (Calls.after context front session) := by
  induction calls generalizing session with
  | nil =>
    refine (or_iff_left ?_).symm
    rintro ⟨front, call, back, parts, -⟩
    simp at parts
  | cons call later ih =>
    rw [Calls.after, ih, call.run_addsNameless context session, or_assoc]
    refine or_congr_right ?_
    constructor
    · rintro (names | ⟨front, other, back, rfl, names⟩)
      · exact ⟨[], call, later, rfl, names⟩
      · exact ⟨call :: front, other, back, rfl, names⟩
    · rintro ⟨front, other, back, parts, names⟩
      cases front with
      | nil =>
        cases parts
        exact .inl names
      | cons first front =>
        cases parts
        exact .inr ⟨front, other, back, rfl, names⟩

/-- A colon alone two files deep is a source without a name, and so it is recorded. -/
example : ((resolve {} ["-Aouter", "a.pgn"]).after
    { disk := Expansion.folder [("outer", ":-Ainner\n"), ("inner", ":\n")] }).registry.sources =
      [("", .normal), ("a.pgn", .normal)] := by
  decide +kernel

/-- Not every source has a name. An empty token is recorded as one. -/
theorem empty_token_recorded :
    ¬ ∀ (context : Context) (tokens : List String) (disk : Disk),
      ∀ source ∈ ((resolve context tokens).after { disk }).registry.sources, source.1 ≠ "" := by
  intro named
  exact named {} [""] ⟨[], []⟩ ("", .normal) (by decide) rfl

end Calls

end ExtractOptions

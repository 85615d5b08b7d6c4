/-
Module: ExtractOptions.Proofs.Run.Tally
Purpose: the number of options that a run reports. The options of a command line that succeeds are its
  tokens that give an option, and the directives of every argument file that is read, as often as it
  is read. The report has each of them once, and those that are another name for a letter once more.
Main exports: Chronology.options, Entry.isOption, isDirective, FileRead, Accounted,
  resolve_counts_options
-/
import Mathlib.Data.List.Forall2
import ExtractOptions.Proofs.CommandLine.Composition
import ExtractOptions.Proofs.Inclusion.Expansion
import ExtractOptions.Proofs.Inclusion.Stack
import ExtractOptions.Proofs.Run.Chronology
import ExtractOptions.Proofs.Session.Tally

namespace ExtractOptions

open Text ExtractOptions.Action

/-! ### What is reported

The report adds two counters, one for letters and one for names. A name that stands for a letter
raises both. -/

/-- The option is given by name, and the name stands for a letter. -/
def AnyOption.isAlias : AnyOption → Bool
  | letter _ => false
  | named option => option.isAlias

/-- Another name for a letter is reported twice. -/
theorem Given.options_after (context : Context) (given : Given) :
    (given.after context).counters.options =
      given.session.counters.options + 1 + given.option.isAlias.toNat := by
  obtain ⟨option, value, session⟩ := given
  cases option with
  | letter option => exact option.options_alone context value session
  | named option => exact option.options_alone context value session

/-- The report grows by the options given, and by those of them that are aliases. -/
theorem Chronology.options {context : Context} {clean : Prop} {first last : Session}
    {given : List Given} (chronology : Chronology context clean first given last) :
    last.counters.options =
      first.counters.options + given.length + given.countP fun one => one.option.isAlias := by
  induction chronology with
  | done session => rfl
  | @interlude first second _ _ interlude _ ih =>
    have same : first.Uncounted second := .of_asides interlude.asides
    rw [ih, same]
  | @option later last one listed success rest ih =>
    rw [ih, one.options_after, List.countP_cons, List.length_cons]
    cases one.option.isAlias <;> simp <;> omega

/-! ### What is written

How many options a command line or a file holds can be told from its text, without running it. -/

/-- The token of the entry gives an option. -/
def Entry.isOption (entry : Entry) : Bool :=
  match Token.ofText entry.token with
  | .named _ | .letter .. => true
  | .bareDash | .source _ => false

/-- The line of an argument file gives an option. -/
def isDirective (line : String) : Bool :=
  (directiveLetter? line).isSome

/-- The line gives an option that is known, so far as its letter goes. -/
def LineForm.isOption : LineForm → Bool
  | named .. | letter .. => true
  | blank | source _ | data | unknown _ => false

/-- Among lines with a known letter, the directives are those that give an option. -/
theorem LineForm.isDirective_eq {line : String} (known : ∀ failure, ofText line ≠ unknown failure) :
    isDirective line = (ofText line).isOption := by
  unfold isDirective
  cases directive : directiveLetter? line with
  | none =>
    rw [ofText_of_none directive]
    split
    · rfl
    · split <;> rfl
  | some letter =>
    rw [ofText_of_some directive] at known ⊢
    cases found : LetterOption.ofLetter? letter with
    | none => exact absurd (by simp [found]) (known (.usage (.unknownDirective line)))
    | some option => by_cases named : option = .named <;> simp [named, isOption]

/-! ### Options and the files that they name

From what is written in one place to all that is given: the options there, and those of the files
that options name, each as often as it is read. -/

section

variable {context : Context}

/-- The file has been read from the session on, through the lines and to its end. -/
def FileRead (context : Context) (file : String) (session : Session) (lines : List String) :
    Prop :=
  ∃ place reader left, session.disk.canonical file = .ok place ∧
    Course context
      (readNested context
        (context.maxIncludeDepth - (session.entering place).including.length))
      file (session.entering place) lines reader left ∧
    reader.next left.disk = .ok none

/-- The file that the option names has been read, through the lines. -/
def Given.HasRead (context : Context) (given : Given) (lines : List String) : Prop :=
  ∃ file, given.file? = some file ∧ FileRead context file (given.after context) lines

/-- There are as many options as are written in one place, and as there are directives in the files
that options among them name, each of them as often as it is named. -/
def Accounted (context : Context) (own : Nat) (given : List Given) : Prop :=
  ∃ readings, List.Forall₂ (Given.HasRead context) (given.filter fun one => one.file?.isSome)
      readings ∧
    given.length = own + readings.flatten.countP isDirective

namespace Accounted

variable {own others : Nat} {given later : List Given} {one : Given}

/-- No options are accounted for where none are written. -/
theorem none : Accounted context 0 [] :=
  ⟨[], .nil, rfl⟩

/-- What is accounted for in two places is accounted for together. -/
theorem append (head : Accounted context own given) (tail : Accounted context others later) :
    Accounted context (own + others) (given ++ later) := by
  obtain ⟨readings, read, counted⟩ := head
  obtain ⟨further, readLater, countedLater⟩ := tail
  refine ⟨readings ++ further, ?_, ?_⟩
  · rw [List.filter_append]
    exact List.rel_append read readLater
  · rw [List.length_append, List.flatten_append, List.countP_append, counted, countedLater]
    omega

/-- An option that names no file. -/
theorem single (unnamed : one.file? = .none) : Accounted context 1 [one] :=
  ⟨[], by simp [unnamed], rfl⟩

/-- An option that names a file, with those in the file. -/
theorem reading {file : String} {lines : List String} (names : one.file? = some file)
    (read : FileRead context file (one.after context) lines)
    (inside : Accounted context (lines.countP isDirective) later) :
    Accounted context 1 (one :: later) := by
  obtain ⟨readings, readLater, counted⟩ := inside
  refine ⟨lines :: readings, ?_, ?_⟩
  · rw [List.filter_cons_of_pos (by simp [names])]
    exact .cons ⟨file, names, read⟩ readLater
  · rw [List.length_cons, List.flatten_cons, List.countP_append, counted]
    omega

end Accounted

/-! ### Lines of a file

Along the course of a reading, the directives among the lines so far are the options given in the
file itself. -/

/-- Where `depth` files are being read, a file that is read is read to its end, and the options of
its lines are accounted for. -/
def Accounts (context : Context) (depth : Nat) (includeFile : String → Action Unit)
    (included : String → Trace) : Prop :=
  ∀ file session left, session.including.length = depth →
    includeFile file session = .ok () left →
    ∃ lines, FileRead context file session lines ∧
      Accounted context (lines.countP isDirective) (included file session)

section Lines

variable {includeFile : String → Action Unit} {included : String → Trace} {session left : Session}

/-- A name that succeeds is one option. -/
theorem givenByName_accounted {name value : String} {consumed : Consumed}
    (does : performNamed context includeFile name value session = .ok consumed left) :
    Accounted context 1 (givenByName name value session) := by
  obtain ⟨option, found, -⟩ := performNamed_eq_ok does
  simp only [givenByName, found]
  exact .single rfl

/-- A letter that succeeds is one option, with those of the file that it includes. -/
theorem LetterOption.accounted
    (includes : Accounts context session.including.length includeFile included)
    {option : LetterOption} {value : String}
    (does : option.perform context includeFile value session = .ok () left) :
    Accounted context 1 (option.given context included value session) := by
  rcases option.reads_or_unread value with ⟨rfl, named⟩ | unread
  · rw [perform_argumentFile named session] at does
    obtain ⟨lines, read, inside⟩ := includes _ session.lettered left rfl does
    have names : (Given.mk (.letter .argumentFile) value session).file? =
        some (skipSpaces value) := by
      simp [Given.file?, named]
    rw [given_argumentFile named]
    refine .reading names ?_ inside
    rw [Given.after_of_file? names]
    exact read
  · rw [given_alone unread]
    apply Accounted.single
    unfold Given.file?
    split
    · rename_i same
      exact if_pos (unread (AnyOption.letter.inj same))
    · rfl

/-- A line that succeeds gives an option if it is a directive, and none otherwise. -/
theorem lineAction_accounted
    (includes : Accounts context session.including.length includeFile included) {origin : String}
    {before : List String} {line : String}
    (does : lineAction context includeFile origin before line session = .ok () left) :
    Accounted context (isDirective line).toNat (givenInLine context included line session) := by
  have known : ∀ failure, LineForm.ofText line ≠ .unknown failure := by
    intro failure form
    simp only [lineAction, form] at does
    cases does
  rw [LineForm.isDirective_eq known]
  unfold givenInLine
  unfold lineAction at does
  cases form : LineForm.ofText line with
  | blank | source | data => exact .none
  | unknown failure => exact absurd form (known failure)
  | letter option value =>
    rw [form] at does
    exact LetterOption.accounted includes does
  | named name value =>
    rw [form] at does
    obtain ⟨_, _, done, -⟩ := bind_ok does
    exact givenByName_accounted done

/-- From the options of a line on, those of the lines after it are given. -/
theorem Course.givenInLines_next {path : String} {before : List String} {reader later : LineReader}
    {met after : Session} {line : String}
    (course : Course context includeFile path session before reader met)
    (room : before.length < session.room path)
    (next : reader.next met.disk = .ok (some (line, later)))
    (does : lineAction context includeFile path before line met = .ok () after) :
    givenInLines context includeFile included (session.room path - before.length) reader
        (optionAfter? before) met =
      givenInLine context included line met ++
        givenInLines context includeFile included (session.room path - (before ++ [line]).length)
          later (optionAfter? (before ++ [line])) after := by
  have allowance : session.room path - before.length =
      session.room path - (before ++ [line]).length + 1 := by
    rw [List.length_append, List.length_singleton]
    omega
  rw [allowance, givenInLines_apply, next]
  simp only [Trace.andThen]
  rw [course.reader_eq.1, interpretLine_optionAfter?, does]

/-- At every point of its course, a reading has given the options of the lines before. -/
theorem Course.accounted
    (includes : Accounts context session.including.length includeFile included)
    (keeps : ∀ file, KeepsStack (includeFile file)) {path : String} {before : List String}
    {reader : LineReader} {met : Session}
    (course : Course context includeFile path session before reader met) :
    ∃ earlier, Accounted context (before.countP isDirective) earlier ∧
      givenInFile context includeFile included path session =
        earlier ++ givenInLines context includeFile included
          (session.room path - before.length) reader (optionAfter? before) met := by
  induction course with
  | opened opens =>
    refine ⟨[], .none, ?_⟩
    rw [Session.room_of_opens opens, List.length_nil, Nat.sub_zero, optionAfter?_nil, List.nil_append]
    simp only [givenInFile, opens]
  | @line before reader later met after line course room next does ih =>
    obtain ⟨earlier, accounted, given⟩ := ih
    have inside : Accounts context met.including.length includeFile included := by
      rw [course.including_eq keeps]
      exact includes
    refine ⟨earlier ++ givenInLine context included line met, ?_, ?_⟩
    · rw [List.countP_append, List.countP_singleton]
      have own := lineAction_accounted inside does
      cases directive : isDirective line <;>
        simpa [directive] using accounted.append own
    · rw [given, course.givenInLines_next room next does, List.append_assoc]

/-- A file that is read to its end has given the options of its lines. -/
theorem interpretFile_accounted
    (includes : Accounts context session.including.length includeFile included)
    (keeps : ∀ file, KeepsStack (includeFile file)) {path : String}
    (does : interpretFile context includeFile path session = .ok () left) :
    ∃ lines reader, Course context includeFile path session lines reader left ∧
      reader.next left.disk = .ok .none ∧
      Accounted context (lines.countP isDirective)
        (givenInFile context includeFile included path session) := by
  have ends := interpretFile_ends context includeFile path session
  rw [does] at ends
  cases ends with
  | @finished lines reader _ course done room =>
    obtain ⟨earlier, accounted, given⟩ := course.accounted includes keeps
    refine ⟨lines, reader, course, done, ?_⟩
    obtain ⟨more, enough⟩ := Nat.exists_eq_add_of_lt room
    have allowance : session.room path - lines.length = more + 1 := by omega
    rw [allowance, givenInLines_apply, done, List.append_nil] at given
    rwa [given]

end Lines

/-! ### Files within files

By induction over the levels, a file that is read to its end accounts for its own directives and for
those of the files within it. -/

/-- With `levels` more files that may be open, reading accounts for the options that it gives. -/
theorem readNested_accounts (levels depth : Nat) (room : context.maxIncludeDepth - depth = levels) :
    Accounts context depth (readNested context levels) (givenNested context levels) := by
  induction levels generalizing depth with
  | zero =>
    intro file session left _ does
    obtain ⟨_, _, _, impossible, -⟩ := readNested_eq_ok.mp does
    cases impossible
  | succ inner ih =>
    intro file session left opened does
    obtain ⟨_, place, between, same, found, fresh, inside, -⟩ := readNested_eq_ok.mp does
    cases same
    have deeper : (session.entering place).including.length = depth + 1 := by
      rw [← opened]
      rfl
    have less : context.maxIncludeDepth - (depth + 1) = inner := by omega
    have includes := ih (depth + 1) less
    rw [← deeper] at includes less
    obtain ⟨lines, reader, course, done, accounted⟩ :=
      interpretFile_accounted includes (readNested_keepsStack inner) inside
    refine ⟨lines, ⟨place, reader, between, found, ?_, done⟩, ?_⟩
    · rw [less]
      exact course
    · rw [givenNested_apply, found]
      simp only [if_neg fresh]
      exact accounted

/-- Reading an argument file accounts for the options of all files that are read. -/
theorem readArgumentFile_accounts (depth : Nat) :
    Accounts context depth (readArgumentFile context) (givenReading context) := by
  intro file session left opened does
  have reads : Accounts context depth
      (readNested context (context.maxIncludeDepth - session.including.length)) _ :=
    readNested_accounts _ depth (by rw [opened])
  exact reads file session left opened does

/-! ### Command lines

The tokens in option position are the options of the command line itself. The rest is given in
argument files. -/

/-- The options of a command line that is walked through are accounted for. -/
theorem Walk.accounted {session left : Session} {tokens : List String} {entries : List Entry}
    (walk : Walk context session tokens entries left) :
    Accounted context (entries.countP Entry.isOption)
      (givenResolving context tokens session) := by
  induction walk with
  | done => exact .none
  | @named _ _ _ token name later rest means does _ ih =>
    have option : Entry.isOption ⟨token, none⟩ = true := by simp [Entry.isOption, means]
    rw [givenResolving_named means does, List.countP_cons_of_pos option, Nat.add_comm]
    exact (givenByName_accounted does).append ih
  | @namedWithValue session between _ token name value later rest means does _ ih =>
    have option : Entry.isOption ⟨token, some value⟩ = true := by simp [Entry.isOption, means]
    have done : performNamed context (readArgumentFile context) name
        ((value :: later).head?.getD "") session = .ok .nameAndValue between := does
    rw [givenResolving_named means done, List.countP_cons_of_pos option, Nat.add_comm]
    exact (givenByName_accounted does).append ih
  | @letter _ _ _ token value c later rest means does _ ih =>
    have option : Entry.isOption ⟨token, none⟩ = true := by simp [Entry.isOption, means]
    cases known : LetterOption.ofLetter? c with
    | none =>
      simp only [performLetter, known] at does
      cases does
    | some letter =>
      rw [givenResolving_letter means known, Trace.andThen_of_ok does,
        List.countP_cons_of_pos option, Nat.add_comm]
      simp only [performLetter, known] at does
      exact (LetterOption.accounted (readArgumentFile_accounts _) does).append ih
  | @source _ _ _ token path later rest means does _ ih =>
    have other : ¬ Entry.isOption ⟨token, none⟩ = true := by simp [Entry.isOption, means]
    rw [givenResolving_source means, Trace.andThen_of_ok does, List.countP_cons_of_neg other]
    exact ih

/-- A command line that succeeds gives an option for every token in option position, and for every
directive of every argument file, each reading of the file counted. The report has as many more
options as are given, plus one for each of them that is another name for a letter; it is right
exactly if there is none of these. -/
theorem resolve_counts_options {tokens : List String} {session left : Session}
    (run : resolve context tokens session = .ok () left) :
    Chronology context True session (givenResolving context tokens session) left ∧
      (∃ readings, List.Forall₂ (Given.HasRead context)
          ((givenResolving context tokens session).filter fun one => one.file?.isSome) readings ∧
        (givenResolving context tokens session).length =
          (entries tokens).countP Entry.isOption + readings.flatten.countP isDirective) ∧
      left.counters.options =
        session.counters.options + (givenResolving context tokens session).length +
          ((givenResolving context tokens session).countP fun one => one.option.isAlias) ∧
      (left.counters.options =
          session.counters.options + (givenResolving context tokens session).length ↔
        ∀ one ∈ givenResolving context tokens session, one.option.isAlias = false) := by
  have chronology := (resolve_chronicles tokens).of_ok run
  have reported := chronology.options
  refine ⟨chronology, (walk_of_ok run).accounted, reported, ?_⟩
  rw [reported, Nat.add_eq_left, List.countP_eq_zero]
  simp

/-- A file that is named twice, by a file with an option of its own. -/
def talliedFiles : Disk :=
  Expansion.folder [("outer", ":-Ainner\n:-Ainner\n:-s\n"), ("inner", ":--seven\n\n:a.pgn\n")]

/-- Seven options are given: two by tokens, three by the outer file and one by each reading of the
inner one. Three of them are other names for a letter, so ten are reported. -/
theorem resolve_counts_aliases :
    ∃ left, resolve {} ["-Aouter", "--output", "o.pgn"] { disk := talliedFiles } = .ok () left ∧
      (givenResolving {} ["-Aouter", "--output", "o.pgn"] { disk := talliedFiles }).length = 7 ∧
      left.counters.options = 7 + 3 := by
  have succeeds : (resolve {} ["-Aouter", "--output", "o.pgn"]).succeeds
      { disk := talliedFiles } = true := by
    decide +kernel
  have given : (givenResolving {} ["-Aouter", "--output", "o.pgn"]
      { disk := talliedFiles }).length = 7 := by
    decide +kernel
  have aliases : ((givenResolving {} ["-Aouter", "--output", "o.pgn"]
      { disk := talliedFiles }).countP fun one => one.option.isAlias) = 3 := by
    decide +kernel
  obtain ⟨_, run⟩ := exists_ok_of_succeeds succeeds
  obtain ⟨-, -, reported, -⟩ := resolve_counts_options run
  rw [given, aliases] at reported
  exact ⟨_, run, given, reported⟩

/-- The report does not count every option once. `--seven` stands for `-7` and is reported as two
options. -/
theorem alias_counted_twice :
    ¬ ∀ (context : Context) (tokens : List String) (session left : Session)
        (readings : List (List String)),
      resolve context tokens session = .ok () left →
      List.Forall₂ (Given.HasRead context)
        ((givenResolving context tokens session).filter fun one => one.file?.isSome) readings →
      left.counters.options =
        session.counters.options + (entries tokens).countP Entry.isOption +
          readings.flatten.countP isDirective := by
  intro counted
  have succeeds : (resolve {} ["--seven"]).succeeds { disk := ⟨[], []⟩ } = true := by
    decide +kernel
  have unread : ((givenResolving {} ["--seven"] { disk := ⟨[], []⟩ }).filter
      fun one => one.file?.isSome).length = 0 := by
    decide +kernel
  obtain ⟨_, run⟩ := exists_ok_of_succeeds succeeds
  have report := counted {} ["--seven"] { disk := ⟨[], []⟩ } _ [] run
    (by rw [List.length_eq_zero_iff.mp unread]; exact .nil)
  revert report
  decide +kernel

end

end ExtractOptions

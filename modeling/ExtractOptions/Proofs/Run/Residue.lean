/-
Module: ExtractOptions.Proofs.Run.Residue
Purpose: what an option leaves behind when it fails. Most options leave nothing but their own count.
  One that reads a file of lines keeps what the lines before the failing one gave, in the one list
  that it fills; the others that fail midway keep one or two settings.
Main exports: LetterOption.Leaves, LetterOption.effect_leaves, Call.failed_leaves
-/
import ExtractOptions.Proofs.Run.Given
import ExtractOptions.Proofs.Session.Atomic
import ExtractOptions.Proofs.Session.DataFile

namespace ExtractOptions

open Text ExtractOptions.Action

/-! ### What an option leaves

The inductive lists what may be left by an option that fails, letter by letter. Everything that it
does not mention is as it was before the option. -/

/-- The kind of source files that an option takes from a list. -/
def LetterOption.listKind? : LetterOption → Option SourceKind
  | checkFile => some .check
  | sourceList => some .normal
  | _ => none

/-- What the options with a letter leave when they fail with the given value. Counters apart, the
session is as it was but for what the constructor says. -/
inductive LetterOption.Leaves (context : Context) (value : String) (session : Session)
    (failure : Failure) : LetterOption → Session → Prop
  | untouched {option : LetterOption} {counters : Counters} :
    Leaves context value session failure option { session with counters }
  | nonMatching {counters : Counters} :
    Leaves context value session failure .nonMatchingFile
      { session with counters, config := { session.config with nonMatching := none } }
  | eco {counters : Counters} {ecoFile : String} :
    Leaves context value session failure .ecoFile
      { session with counters, config := { session.config.set .addEco true with ecoFile } }
  | sources {option : LetterOption} {kind : SourceKind} {before : List String} {left : Session}
      (reads : option.listKind? = some kind)
      (stops : session.disk.StopsAfter (skipSpaces value) (fun _ _ _ => False) before failure)
      (listed : session.HasListed kind before left) :
    Leaves context value session failure option left
  | lines {option : LetterOption} {kind : DataKind} {before : List String} {left : Session}
      (reads : option.dataKind? = some kind)
      (stops : session.disk.StopsAfter (skipSpaces value)
        (session.registry.Refuses context kind (skipSpaces value)) before failure)
      (taken : session.HasTaken kind (skipSpaces value) before left) :
    Leaves context value session failure option left

section

variable {context : Context} {includeFile : String → Action Unit} {value : String}
  {session left : Session} {failure : Failure}

namespace LetterOption

/-- What fails before it changes anything leaves the session untouched. -/
theorem Leaves.of_atomic {option : LetterOption} {action : Action Unit} (whole : Atomic action)
    (fails : action session = .error failure left) :
    option.Leaves context value session failure left := by
  rw [whole _ _ _ fails]
  exact .untouched

/-- The file for games that match nothing is given up before the next one is opened. -/
theorem leaves_nonMatchingFile
    (fails : selectNonMatching (skipSpaces value) session = .error failure left) :
    nonMatchingFile.Leaves context value session failure left := by
  unfold selectNonMatching at fails
  rw [bind_apply] at fails
  cases required : requireFile .nonMatchingFile (skipSpaces value) session with
  | error other between =>
    rw [required] at fails
    cases fails
    exact .of_atomic (.of_looks (.requireFile _ _)) required
  | ok _ between =>
    obtain rfl := requireFile_eq_ok required
    rw [required] at fails
    simp only [bind_apply, modifyConfig_apply] at fails
    split at fails
    · cases fails
    · have kept := Atomic.choose _ _ _ _ _ _ fails
      rw [kept]
      exact .nonMatching

/-- Games are to be classified before the file for it is looked at. -/
theorem leaves_ecoFile (fails : useEcoFile context (skipSpaces value) session = .error failure left) :
    ecoFile.Leaves context value session failure left := by
  unfold useEcoFile at fails
  simp only [bind_apply, modifyConfig_apply, get_apply] at fails
  rw [Atomic.request _ _ _ _ _ _ fails]
  exact .eco

/-- A file of data lines leaves the requests of the lines before the one that failed. -/
theorem leaves_deliverNamedFile {option : LetterOption} {kind : DataKind}
    (reads : option.dataKind? = some kind)
    (fails : deliverNamedFile context option (skipSpaces value) session = .error failure left) :
    option.Leaves context value session failure left := by
  obtain rfl := dataKind?_eq_some_iff.mp reads
  unfold deliverNamedFile at fails
  split at fails
  · cases fails
  · obtain ⟨before, taken, stops⟩ := deliverFile_eq_error fails
    exact .lines reads stops taken

/-- A list of source files leaves the sources of the lines before the one that failed. -/
theorem leaves_readSourceList {option : LetterOption} {kind : SourceKind}
    (reads : option.listKind? = some kind)
    (fails : readSourceList (skipSpaces value) kind session = .error failure left) :
    option.Leaves context value session failure left := by
  obtain ⟨before, listed, stops⟩ := readSourceList_eq_error fails
  exact .sources reads stops listed

/-- What needs a file leaves the session untouched without one. -/
theorem leaves_requireFile {option : LetterOption} {go : Action Unit}
    (goes : go session = .error failure left → option.Leaves context value session failure left)
    (fails : (do requireFile option (skipSpaces value); go) session = .error failure left) :
    option.Leaves context value session failure left := by
  rw [bind_apply] at fails
  cases required : requireFile option (skipSpaces value) session with
  | error other between =>
    rw [required] at fails
    cases fails
    exact .of_atomic (.of_looks (.requireFile _ _)) required
  | ok _ between =>
    obtain rfl := requireFile_eq_ok required
    rw [required] at fails
    exact goes fails

/-- What an option leaves when it fails. -/
theorem effect_leaves {option : LetterOption} (other : option ≠ .argumentFile)
    (fails : option.effect context includeFile value session = .error failure left) :
    option.Leaves context value session failure left := by
  cases midway : option.failsMidway with
  | false => exact .of_atomic (effect_atomic midway other value) fails
  | true =>
    cases option with
    | checkFile =>
      apply leaves_requireFile _ fails
      intro goes
      split at goes
      · cases goes
      · exact leaves_readSourceList rfl goes
    | sourceList => exact leaves_requireFile (leaves_readSourceList rfl) fails
    | nonMatchingFile => exact leaves_nonMatchingFile fails
    | ecoFile => exact leaves_ecoFile fails
    | tagRoster | tagCriteria | textualVariations | positionalVariations | colouredEndings
    | endings => exact leaves_deliverNamedFile rfl fails
    | _ => cases midway

/-- What happened before is of no account. -/
theorem Leaves.of_counted {option : LetterOption} {counters : Counters}
    (leaves : option.Leaves context value { session with counters } failure left) :
    option.Leaves context value session failure left := by
  cases leaves with
  | untouched => exact .untouched
  | nonMatching => exact .nonMatching
  | eco => exact .eco
  | sources reads stops listed => exact .sources reads stops listed
  | lines reads stops taken => exact .lines reads stops taken

/-- Counting the option makes no difference. -/
theorem perform_leaves {option : LetterOption} (other : option ≠ .argumentFile)
    (fails : option.perform context includeFile value session = .error failure left) :
    option.Leaves context value session failure left := by
  have effect : option.effect context includeFile value session.lettered = .error failure left :=
    fails
  exact (effect_leaves other effect).of_counted

/-- A failed option leaves the disk, what was written, and the argument files being read. -/
theorem Leaves.frame {option : LetterOption}
    (leaves : option.Leaves context value session failure left) :
    left = { session with
      config := left.config, registry := left.registry, counters := left.counters } := by
  cases leaves with
  | untouched | nonMatching | eco => rfl
  | sources reads stops listed =>
    obtain ⟨_, rfl⟩ := listed
    rfl
  | lines reads stops taken =>
    obtain ⟨_, _, -, rfl⟩ := taken
    rfl

/-- An option that takes a list may fail in the middle of it. -/
theorem failsMidway_of_listKind? {option : LetterOption} {kind : SourceKind}
    (reads : option.listKind? = some kind) : option.failsMidway = true := by
  cases option <;> cases reads <;> rfl

/-- An option that takes data lines may fail in the middle of a file of them. -/
theorem failsMidway_of_dataKind? {option : LetterOption} {kind : DataKind}
    (reads : option.dataKind? = some kind) : option.failsMidway = true := by
  cases option <;> cases reads <;> rfl

/-- An option that cannot fail midway leaves the session untouched. -/
theorem Leaves.untouched_of_whole {option : LetterOption}
    (leaves : option.Leaves context value session failure left)
    (whole : option.failsMidway = false) : left = { session with counters := left.counters } := by
  cases leaves with
  | untouched => rfl
  | nonMatching | eco => cases whole
  | sources reads _ _ =>
    rw [failsMidway_of_listKind? reads] at whole
    cases whole
  | lines reads _ _ =>
    rw [failsMidway_of_dataKind? reads] at whole
    cases whole

end LetterOption

end

/-! ### Calls

A call that applies one option leaves what its letter leaves. A name that stands for no letter fails
before it changes anything. -/

/-- The call applies a single option, and not the one that reads an argument file. -/
def Call.isOption : Call → Bool
  | letter option _ => option != .argumentFile
  | named .. => true
  | commandLine _ | argumentFile _ => false

/-- The letter of the option that the call applies, own or stood for, with its value. -/
def Call.asLetter? : Call → Option (LetterOption × String)
  | letter option value => some (option, value)
  | named name value =>
    (NamedOption.find? name).bind fun option => (AnyOption.named option).asLetter? value
  | commandLine _ | argumentFile _ => none

/-- An option that fails leaves what its letter leaves, or else nothing. -/
theorem Call.leaves_or_untouched {context : Context} {call : Call} {session left : Session}
    {failure : Failure} (single : call.isOption = true)
    (fails : call.run context session = .error failure left) :
    (∃ option value, call.asLetter? = some (option, value) ∧
      option.Leaves context value session failure left) ∨
    call.asLetter? = none ∧ left = { session with counters := left.counters } := by
  cases call with
  | commandLine | argumentFile => cases single
  | letter option value =>
    have other : option ≠ .argumentFile := by simpa [isOption] using single
    exact .inl ⟨option, value, rfl, LetterOption.perform_leaves other fails⟩
  | named name value =>
    cases found : NamedOption.find? name with
    | none =>
      simp only [run, performNamed_of_unknown found] at fails
      cases fails
      exact .inr ⟨by simp [asLetter?, found], rfl⟩
    | some option =>
      have does : option.alone context value session = .error failure left := by
        rwa [← discard_performNamed found]
      by_cases stands : ∃ letter, option.action = .letter letter
      · obtain ⟨letter, makes⟩ := stands
        have other := NamedOption.ne_argumentFile (List.mem_of_find?_eq_some found) makes
        rw [NamedOption.alone_of_letter makes] at does
        exact .inl ⟨letter, _, by simp [asLetter?, found, AnyOption.asLetter?, makes],
          (LetterOption.perform_leaves other does).of_counted⟩
      · have own : ∀ letter, option.action ≠ .letter letter :=
          fun letter makes => stands ⟨letter, makes⟩
        have kept := NamedOption.effect_atomic own value session.named left failure does
        refine .inr ⟨?_, by rw [kept]; rfl⟩
        cases makes : option.action with
        | letter letter => exact absurd makes (own letter)
        | _ => simp [asLetter?, found, AnyOption.asLetter?, makes]

/-- An option that fails leaves the disk, what was written and the argument files being read as they
were, and so the configuration and the registry, unless it is one of the letters that can fail
midway. What those may leave is spelled out for each of them. -/
theorem Call.failed_leaves {context : Context} {call : Call} {session left : Session}
    {failure : Failure} (single : call.isOption = true)
    (fails : call.run context session = .error failure left) :
    left = { session with
        config := left.config, registry := left.registry, counters := left.counters } ∧
      ((∀ option value, call.asLetter? = some (option, value) → option.failsMidway = false) →
        left = { session with counters := left.counters }) ∧
      ∀ option value, call.asLetter? = some (option, value) →
        option.Leaves context value session failure left := by
  rcases call.leaves_or_untouched single fails with ⟨letter, own, stands, leaves⟩ | ⟨none, kept⟩
  · refine ⟨leaves.frame, fun whole => leaves.untouched_of_whole (whole letter own stands), ?_⟩
    intro option value same
    rw [stands] at same
    cases same
    exact leaves
  · refine ⟨by rw [kept], fun _ => kept, ?_⟩
    intro option value stands
    rw [none] at stands
    cases stands

/-- Surroundings in which one move is refused. -/
def strictContext : Context where
  gate := Gate.ofRules [⟨.positionalVariation, "e9", "no such square"⟩]

/-- A file of moves, the second of which is refused. -/
def strictSession : Session where
  disk := ⟨[(["moves"], .file (Utf8.encode "e4\ne9\nd4\n"))], []⟩

/-- The move before the one that is refused is recorded, and positional variations are asked for. -/
theorem Call.failed_leaves_moves :
    ∃ failure left,
      (Call.letter .positionalVariations "moves").run strictContext strictSession =
          .error failure left ∧
        LetterOption.Leaves strictContext "moves" strictSession failure .positionalVariations left ∧
        left.registry.positionalVariations = ["e4"] ∧
        left.config.on .positionalVariations = true := by
  have refused : ((Call.letter .positionalVariations "moves").run strictContext).succeeds
      strictSession = false := by
    decide +kernel
  cases fails : (Call.letter .positionalVariations "moves").run strictContext strictSession with
  | ok _ left =>
    rw [succeeds_of_ok fails] at refused
    cases refused
  | error failure left =>
    have left_eq := after_of_error fails
    refine ⟨failure, left, rfl, (Call.failed_leaves (by decide) fails).2.2 _ _ rfl, ?_⟩
    rw [← left_eq]
    decide +kernel

end ExtractOptions

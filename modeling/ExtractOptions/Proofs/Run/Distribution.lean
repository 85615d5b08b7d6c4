/-
Module: ExtractOptions.Proofs.Run.Distribution
Purpose: how the games that are written are distributed over files: all into one, by ECO code, or by
  number. Each option for one of these looks at the settings of the others, so that a run should ask
  for one of them only. But the number of games is its own mark: a number of zero leaves none, and
  what is asked for after it is accepted.
Main exports: Distribution, Distribution.options, Distribution.Mixed, Given.gamesPerFile?,
  lastGamesPerFile?, Calls.distributions_mixed_iff
-/
import ExtractOptions.Proofs.Run.Exclusion
import ExtractOptions.Proofs.Run.Monotonicity
import ExtractOptions.Proofs.Run.Surface

namespace ExtractOptions

open Text ExtractOptions.Action

/-- A way to distribute games over files. -/
inductive Distribution where
  | oneFile
  | byEcoCode
  | byNumber
deriving DecidableEq, Repr

namespace Distribution

/-- The options that ask for a distribution. -/
def options : Distribution → List OptionName
  | oneFile => [.letter .writeOutput, .letter .appendOutput, .named "output", .named "append"]
  | byEcoCode => [.letter .ecoLevel]
  | byNumber => [.letter .gamesPerFile]

/-- Options that ask for two distributions are among those given. -/
def Mixed (given : List Given) : Prop :=
  ∃ one ∈ given, ∃ other ∈ given, ∃ first second : Distribution, first ≠ second ∧
    one.option.name ∈ first.options ∧ other.option.name ∈ second.options

/-- No option asks for two distributions. -/
theorem eq_of_mem_options {first second : Distribution} {name : OptionName}
    (one : name ∈ first.options) (other : name ∈ second.options) : first = second := by
  have every : ∀ first second : Distribution, ∀ name ∈ first.options, name ∈ second.options →
      first = second := by
    intro first second
    cases first <;> cases second <;> decide
  exact every first second name one other

end Distribution

/-- The number of games in a file that an option asks for, if it does. -/
def Given.gamesPerFile? (given : Given) : Option Nat :=
  if given.option = .letter .gamesPerFile then
    match readGamesPerFile {} given.value with
    | .ok config => some config.gamesPerFile
    | .error _ => none
  else none

/-- The number of games in a file that was asked for last, if any was. -/
def lastGamesPerFile? (given : List Given) : Option Nat :=
  (given.filterMap Given.gamesPerFile?).getLast?

/-- The option at the end decides, if it asks for a number. -/
theorem lastGamesPerFile?_append_singleton (before : List Given) (one : Given) :
    lastGamesPerFile? (before ++ [one]) = one.gamesPerFile?.or (lastGamesPerFile? before) := by
  cases asks : one.gamesPerFile? <;>
    simp [lastGamesPerFile?, List.filterMap_append, asks, List.getLast?_append]

/-- A number that was asked for last was asked for by some option. -/
theorem exists_of_lastGamesPerFile? {before : List Given} {games : Nat}
    (last : lastGamesPerFile? before = some games) :
    ∃ one ∈ before, one.option.name ∈ Distribution.byNumber.options := by
  obtain ⟨one, among, asks⟩ := List.mem_filterMap.mp (List.mem_of_getLast? last)
  refine ⟨one, among, ?_⟩
  unfold Given.gamesPerFile? at asks
  split at asks
  · rename_i same
    rw [same]
    exact List.mem_singleton_self _
  · cases asks

/-! ### What the options look at

Each option is accepted only while the fields of the others are unset. A number of zero games is
stored like any other, and then looks as if nothing was asked for. -/

section Inversion

variable {name : OptionName} {value : String} {config changed : Config}

/-- The number that is read does not depend on the settings in force. -/
theorem readGamesPerFile_alike (read : readGamesPerFile config value = .ok changed) :
    ∃ own, readGamesPerFile {} value = .ok own ∧ own.gamesPerFile = changed.gamesPerFile := by
  unfold readGamesPerFile at read ⊢
  cases parts : cut? ',' value.toList with
  | some pieces =>
    obtain ⟨games, first⟩ := pieces
    simp only [parts] at read ⊢
    split at read
    · cases read
      exact ⟨_, rfl, rfl⟩
    · cases read
  | none =>
    simp only [parts] at read ⊢
    obtain ⟨games, plain, rfl⟩ := bind_pure_eq_ok.mp read
    exact ⟨{ gamesPerFile := games }, bind_pure_eq_ok.mpr ⟨games, plain, rfl⟩, rfl⟩

/-- A number of games is accepted while no level is in force and no file was chosen, and is the
number that the value spells. -/
theorem Adjustment.gamesPerFile_eq_ok
    (made : Adjustment.gamesPerFile.apply name value config = .ok changed) :
    config.ecoLevel = 0 ∧ config.output = none ∧
      ∃ own, readGamesPerFile {} value = .ok own ∧ own.gamesPerFile = changed.gamesPerFile := by
  obtain ⟨_, noLevel, rest⟩ := bind_eq_ok.mp made
  obtain ⟨_, noOutput, read⟩ := bind_eq_ok.mp rest
  exact ⟨checkNoEcoLevel_eq_ok.mp noLevel, checkNoOutput_eq_ok.mp noOutput,
    readGamesPerFile_alike read⟩

/-- A level is accepted while no file was chosen and no number of games is in force. It is not zero. -/
theorem Adjustment.ecoLevel_eq_ok
    (made : Adjustment.ecoLevel.apply name value config = .ok changed) :
    config.output = none ∧ config.gamesPerFile = 0 ∧ changed.ecoLevel ≠ 0 := by
  obtain ⟨_, noOutput, rest⟩ := bind_eq_ok.mp made
  obtain ⟨_, whole, read⟩ := bind_eq_ok.mp rest
  obtain ⟨level, inRange, rfl⟩ := readEcoLevel_eq_ok read
  exact ⟨checkNoOutput_eq_ok.mp noOutput, checkNoGamesPerFile_eq_ok.mp whole,
    Nat.pos_iff_ne_zero.mp inRange.1⟩

/-- A file for all games is accepted while nothing else is in force and none was chosen, and is
chosen then. -/
theorem selectOutput_eq_ok {option : LetterOption} {file : String} {mode : OpenMode}
    {session left : Session} {done : Unit}
    (run : selectOutput option file mode session = .ok done left) :
    session.config.ecoLevel = 0 ∧ session.config.gamesPerFile = 0 ∧
      session.config.output = none ∧ left.config.output ≠ none := by
  obtain ⟨_, between, checked, rest⟩ := bind_ok run
  obtain ⟨rfl, passed⟩ := check_eq_ok checked
  obtain ⟨_, later, required, opening⟩ := bind_ok rest
  obtain rfl := requireFile_eq_ok required
  obtain ⟨target, opened, _, chosen⟩ := bind_ok opening
  cases chosen
  obtain ⟨_, noLevel, passed⟩ := bind_eq_ok.mp passed
  obtain ⟨_, whole, unset⟩ := bind_eq_ok.mp passed
  exact ⟨checkNoEcoLevel_eq_ok.mp noLevel, checkNoGamesPerFile_eq_ok.mp whole,
    checkNoOutput_eq_ok.mp unset, by simp⟩

end Inversion

/-! ### Options that succeed

From adjustments to options: the name and the letter of an option are accepted under the same
conditions, since they make the same adjustment. -/

namespace Given

variable {context : Context} {given : Given}

/-- Every option that asks for one file is the letter for it, in one mode or the other, or a name of
that letter. -/
theorem asLetter?_of_oneFile (listed : given.option.isListed)
    (asks : given.option.name ∈ Distribution.oneFile.options) :
    ∃ letter own, given.option.asLetter? given.value = some (letter, own) ∧
      (letter = .writeOutput ∨ letter = .appendOutput) := by
  obtain ⟨option, value, session⟩ := given
  cases option with
  | letter option =>
    have every : ∀ option ∈ LetterOption.all, .letter option ∈ Distribution.oneFile.options →
        option = .writeOutput ∨ option = .appendOutput := by decide
    exact ⟨option, value, rfl, every option option.mem_all asks⟩
  | named option =>
    have every : ∀ option ∈ NamedOption.all, .named option.name ∈ Distribution.oneFile.options →
        option.action = .letter .writeOutput ∨ option.action = .letter .appendOutput := by
      decide +kernel
    rcases every option listed asks with stands | stands
    · exact ⟨_, _, by simp only [AnyOption.asLetter?, stands]; rfl, .inl rfl⟩
    · exact ⟨_, _, by simp only [AnyOption.asLetter?, stands]; rfl, .inr rfl⟩

/-- A file for all games is opened while nothing else is settled about files. -/
theorem oneFile_of_succeeds (listed : given.option.isListed)
    (asks : given.option.name ∈ Distribution.oneFile.options)
    (success : (given.alone context).succeeds given.session = true) :
    given.session.config.ecoLevel = 0 ∧ given.session.config.gamesPerFile = 0 ∧
      given.session.config.output = none ∧ (given.after context).config.output ≠ none := by
  obtain ⟨letter, own, stands, which⟩ := asLetter?_of_oneFile listed asks
  obtain ⟨met, sameConfig, -, run⟩ := given.alone_of_asLetter? stands
  rw [succeeds_congr run] at success
  rw [Given.after, after_congr run, ← sameConfig]
  obtain ⟨_, chosen⟩ := exists_ok_of_succeeds success
  obtain ⟨_, between, counted, selected⟩ := bind_ok chosen
  cases counted
  have free : ∀ {option mode}, selectOutput option (skipSpaces own) mode met.lettered =
      .ok () ((letter.alone context own).after met) → _ := fun run => selectOutput_eq_ok run
  rcases which with rfl | rfl <;> exact free selected

/-- Output is split by ECO code while no file was chosen and no number of games is in force. -/
theorem byEcoCode_of_succeeds (asks : given.option.name ∈ Distribution.byEcoCode.options)
    (success : (given.alone context).succeeds given.session = true) :
    given.session.config.output = none ∧ given.session.config.gamesPerFile = 0 ∧
      (given.after context).config.ecoLevel ≠ 0 := by
  obtain ⟨option, value, session⟩ := given
  cases option with
  | letter option =>
    cases List.mem_singleton.mp asks
    exact Adjustment.ecoLevel_eq_ok (LetterOption.apply_of_succeeds rfl success)
  | named option => cases List.mem_singleton.mp asks

/-- The number of games in a file is settled while no file was chosen and output is not split by ECO
code. -/
theorem byNumber_of_succeeds (asks : given.option.name ∈ Distribution.byNumber.options)
    (success : (given.alone context).succeeds given.session = true) :
    given.session.config.ecoLevel = 0 ∧ given.session.config.output = none ∧
      given.gamesPerFile? = some (given.after context).config.gamesPerFile := by
  obtain ⟨option, value, session⟩ := given
  cases option with
  | letter option =>
    cases List.mem_singleton.mp asks
    obtain ⟨noLevel, noOutput, own, read, same⟩ :=
      Adjustment.gamesPerFile_eq_ok (LetterOption.apply_of_succeeds rfl success)
    refine ⟨noLevel, noOutput, ?_⟩
    simp only [gamesPerFile?, read, if_true]
    exact congrArg some same
  | named option => cases List.mem_singleton.mp asks

/-- The number of games in a file is the one that the option asks for, if it does, and the one
before otherwise. -/
theorem gamesPerFile_of_succeeds (listed : given.option.isListed)
    (success : (given.alone context).succeeds given.session = true) :
    (given.after context).config.gamesPerFile =
      given.gamesPerFile?.getD given.session.config.gamesPerFile := by
  by_cases numbers : given.option = .letter .gamesPerFile
  · have asks : given.option.name ∈ Distribution.byNumber.options := by
      rw [numbers]
      exact List.mem_singleton_self _
    rw [(byNumber_of_succeeds asks success).2.2]
    rfl
  · rw [gamesPerFile_after listed numbers, gamesPerFile?, if_neg numbers]
    rfl

end Given

/-! ### Runs that succeed

The invariant of a run says which fields show what was asked for. It is strong enough for the exact
condition under which two distributions go together: a number of zero games came between. -/

/-- The configuration shows which distributions were asked for, but for a number of zero games. -/
structure Distribution.Noted (before : List Given) (config : Config) : Prop where
  oneFile : ∀ one ∈ before, one.option.name ∈ Distribution.oneFile.options → config.output ≠ none
  byEcoCode : ∀ one ∈ before, one.option.name ∈ Distribution.byEcoCode.options →
    config.ecoLevel ≠ 0
  byNumber : ∀ one ∈ before, one.option.name ∈ Distribution.byNumber.options →
    lastGamesPerFile? before ≠ none
  gamesPerFile : config.gamesPerFile = (lastGamesPerFile? before).getD 0

namespace Distribution.Noted

variable {context : Context} {before : List Given}

theorem start : Noted [] {} where
  oneFile _ among := nomatch among
  byEcoCode _ among := nomatch among
  byNumber _ among := nomatch among
  gamesPerFile := rfl

/-- What happens between options settles nothing about files. -/
theorem interlude {clean : Prop} {first second : Session} (noted : Noted before first.config)
    (interlude : Interlude context clean first second) : Noted before second.config := by
  have steps : Session.Steps context (fun _ => False) first second := interlude.steps
  have ratchets := steps.precedes.ratchets
  exact
    { noted with
      oneFile := fun one among asks => by
        have chosen := noted.oneFile one among asks
        rwa [ratchets.output chosen]
      byEcoCode := fun one among asks => ratchets.ecoLevel (noted.byEcoCode one among asks)
      gamesPerFile := interlude.inward.gamesPerFile.trans noted.gamesPerFile }

/-- An option that succeeds leaves a configuration that shows it. -/
theorem option {given : Given} (noted : Noted before given.session.config)
    (listed : given.option.isListed)
    (success : (given.alone context).succeeds given.session = true) :
    Noted (before ++ [given]) (given.after context).config := by
  have ratchets := (given.alone_steps context listed).precedes.ratchets
  refine ⟨?_, ?_, ?_, ?_⟩
  · intro one among asks
    rcases List.mem_append.mp among with earlier | now
    · have chosen := noted.oneFile one earlier asks
      rwa [ratchets.output chosen]
    · cases List.mem_singleton.mp now
      exact (Given.oneFile_of_succeeds listed asks success).2.2.2
  · intro one among asks
    rcases List.mem_append.mp among with earlier | now
    · exact ratchets.ecoLevel (noted.byEcoCode one earlier asks)
    · cases List.mem_singleton.mp now
      exact (Given.byEcoCode_of_succeeds asks success).2.2
  · intro one among asks
    rw [lastGamesPerFile?_append_singleton]
    rcases List.mem_append.mp among with earlier | now
    · have settled := noted.byNumber one earlier asks
      cases given.gamesPerFile? with
      | none => exact settled
      | some games => simp
    · cases List.mem_singleton.mp now
      rw [(Given.byNumber_of_succeeds asks success).2.2]
      simp
  · rw [Given.gamesPerFile_of_succeeds listed success, lastGamesPerFile?_append_singleton,
      noted.gamesPerFile]
    cases given.gamesPerFile? <;> rfl

/-- The only distribution that an option can be accepted after, other than its own, is a split into
zero games a file. -/
theorem mixed {given earlier : Given} {own other : Distribution}
    (noted : Noted before given.session.config) (listed : given.option.isListed)
    (success : (given.alone context).succeeds given.session = true) (among : earlier ∈ before)
    (apart : own ≠ other) (asks : given.option.name ∈ own.options)
    (asked : earlier.option.name ∈ other.options) :
    own ≠ .byNumber ∧ lastGamesPerFile? before = some 0 := by
  have unsplit : other = .byNumber → given.session.config.gamesPerFile = 0 →
      lastGamesPerFile? before = some 0 := by
    rintro rfl whole
    obtain ⟨games, last⟩ := Option.ne_none_iff_exists'.mp (noted.byNumber earlier among asked)
    rw [noted.gamesPerFile, last] at whole
    rw [last]
    exact congrArg some whole
  cases own with
  | oneFile =>
    obtain ⟨noLevel, whole, -, -⟩ := Given.oneFile_of_succeeds listed asks success
    cases other with
    | oneFile => exact absurd rfl apart
    | byEcoCode => exact absurd noLevel (noted.byEcoCode earlier among asked)
    | byNumber => exact ⟨nofun, unsplit rfl whole⟩
  | byEcoCode =>
    obtain ⟨noOutput, whole, -⟩ := Given.byEcoCode_of_succeeds asks success
    cases other with
    | oneFile => exact absurd noOutput (noted.oneFile earlier among asked)
    | byEcoCode => exact absurd rfl apart
    | byNumber => exact ⟨nofun, unsplit rfl whole⟩
  | byNumber =>
    obtain ⟨noLevel, noOutput, -⟩ := Given.byNumber_of_succeeds asks success
    cases other with
    | oneFile => exact absurd noOutput (noted.oneFile earlier among asked)
    | byEcoCode => exact absurd noLevel (noted.byEcoCode earlier among asked)
    | byNumber => exact absurd rfl apart

end Distribution.Noted

section Runs

variable {context : Context} {first last : Session} {given : List Given}

/-- Every option of a run that succeeds meets a configuration that shows what was asked for before
it. -/
theorem Chronology.noted {clean : Prop} (chronology : Chronology context clean first given last)
    (succeeds : clean) {before : List Given} (begins : Distribution.Noted before first.config)
    {earlier later : List Given} {one : Given} (place : given = earlier ++ one :: later) :
    one.option.isListed ∧ (one.alone context).succeeds one.session = true ∧
      Distribution.Noted (before ++ earlier) one.session.config := by
  induction chronology generalizing before earlier with
  | done session => simp at place
  | interlude interlude _ ih => exact ih (begins.interlude interlude) place
  | option other listed success _ ih =>
    cases earlier with
    | nil =>
      obtain ⟨rfl, -⟩ := List.cons.inj place
      exact ⟨listed, success succeeds, by rwa [List.append_nil]⟩
    | cons head earlier =>
      obtain ⟨rfl, rest⟩ := List.cons.inj place
      have met := ih (begins.option listed (success succeeds)) rest
      rwa [List.append_assoc, List.singleton_append] at met

/-- In calls that all succeed, options for two ways to distribute games over files are given exactly
if a file for all games or a split by ECO code is asked for when the number of games in a file that
was asked for last is zero. -/
theorem Calls.distributions_mixed_iff {context : Context} {disk : Disk} {calls : List Call}
    (succeed : Calls.succeed context calls { disk } = true) :
    Distribution.Mixed (Calls.given context calls { disk }) ↔
      ∃ before one after, Calls.given context calls { disk } = before ++ one :: after ∧
        (one.option.name ∈ Distribution.oneFile.options ∨
          one.option.name ∈ Distribution.byEcoCode.options) ∧
        lastGamesPerFile? before = some 0 := by
  have chronology : Chronology context _ { disk } _ _ := Calls.chronology calls { disk }
  constructor
  · rintro ⟨one, here, other, there, first, second, apart, asks, asked⟩
    have different : one ≠ other := by
      rintro rfl
      exact apart (Distribution.eq_of_mem_options asks asked)
    have kinds : ∀ {own : Distribution} {name : OptionName}, own ≠ .byNumber →
        name ∈ own.options →
        name ∈ Distribution.oneFile.options ∨ name ∈ Distribution.byEcoCode.options := by
      intro own name other asks
      cases own with
      | oneFile => exact .inl asks
      | byEcoCode => exact .inr asks
      | byNumber => exact absurd rfl other
    obtain ⟨before, member, after, place, order⟩ := exists_before_of_mem here there different
    obtain ⟨listed, success, noted⟩ := chronology.noted succeed .start place
    rcases order with ⟨rfl, earlier⟩ | ⟨rfl, earlier⟩
    · obtain ⟨notNumber, zero⟩ := noted.mixed listed success earlier apart asks asked
      exact ⟨before, member, after, place, kinds notNumber asks, zero⟩
    · obtain ⟨notNumber, zero⟩ := noted.mixed listed success earlier apart.symm asked asks
      exact ⟨before, member, after, place, kinds notNumber asked, zero⟩
  · rintro ⟨before, one, after, place, kinds, zero⟩
    obtain ⟨earlier, among, numbers⟩ := exists_of_lastGamesPerFile? zero
    rw [place]
    refine ⟨one, by simp, earlier, by simp [among], ?_⟩
    rcases kinds with asks | asks
    · exact ⟨.oneFile, .byNumber, nofun, asks, numbers⟩
    · exact ⟨.byEcoCode, .byNumber, nofun, asks, numbers⟩

/-- A split that is given up by a number of zero makes room for a split by ECO code. -/
theorem Calls.split_given_up :
    Calls.succeed {} [.commandLine ["-#5", "-#0", "-E3"]] { disk := ⟨[], []⟩ } = true ∧
      (Distribution.Mixed
          (Calls.given {} [.commandLine ["-#5", "-#0", "-E3"]] { disk := ⟨[], []⟩ }) ↔
        ∃ before one after,
          Calls.given {} [.commandLine ["-#5", "-#0", "-E3"]] { disk := ⟨[], []⟩ } =
            before ++ one :: after ∧
          (one.option.name ∈ Distribution.oneFile.options ∨
            one.option.name ∈ Distribution.byEcoCode.options) ∧
          lastGamesPerFile? before = some 0) :=
  ⟨by decide +kernel, Calls.distributions_mixed_iff (by decide +kernel)⟩

/-- Zero games a file and then one file for all games are both accepted. -/
theorem one_file_after_zero_games :
    ¬ ∀ (context : Context) (disk : Disk) (calls : List Call),
      Calls.succeed context calls { disk } = true →
        ∀ one ∈ Calls.given context calls { disk }, ∀ other ∈ Calls.given context calls { disk },
          ∀ first second : Distribution, one.option.name ∈ first.options →
            other.option.name ∈ second.options → first = second := by
  intro law
  have excludes := law {} ⟨[], []⟩ [.commandLine ["-#0", "-oout.pgn"]] (by decide +kernel)
  have names : (Calls.given {} [.commandLine ["-#0", "-oout.pgn"]] { disk := ⟨[], []⟩ }).map
      (fun one => one.option.name) = [.letter .gamesPerFile, .letter .writeOutput] := by
    decide +kernel
  have given : ∀ name ∈ [OptionName.letter .gamesPerFile, .letter .writeOutput],
      ∃ one ∈ Calls.given {} [.commandLine ["-#0", "-oout.pgn"]] { disk := ⟨[], []⟩ },
        one.option.name = name := by
    intro name among
    rw [← names] at among
    exact List.mem_map.mp among
  obtain ⟨one, here, number⟩ := given (.letter .gamesPerFile) (by decide)
  obtain ⟨other, there, output⟩ := given (.letter .writeOutput) (by decide)
  have same := excludes one here other there .byNumber .oneFile (by rw [number]; decide)
    (by rw [output]; decide)
  cases same

end Runs

end ExtractOptions

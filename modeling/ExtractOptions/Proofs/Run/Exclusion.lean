/-
Module: ExtractOptions.Proofs.Run.Exclusion
Purpose: options that exclude each other. Such an option takes a stance, which it can take only while
  no rival stance is taken, and a stance once taken is never given up. So no run that succeeds gives
  options of rival stances, wherever they stand and whatever is given between them.
Main exports: Stance, Stance.options, Stance.rivals, Stance.isTaken, Calls.rival_options_apart
-/
import ExtractOptions.Proofs.Run.Chronology
import ExtractOptions.Proofs.Session.Latch

namespace ExtractOptions

open ExtractOptions.Action

/-- What an option commits a run to. -/
inductive Stance where
  | ending (which : Ending)
  | winner (which : Winner)
  | fiftyMoves
  | seventyFiveMoves
  | threefold
  | fivefold
  | whiteToMove
  | blackToMove
  | setupExcluded
  | setupRequired
  | sevenTags
  | wantedTags
  | noTags
  | duplicatesFile
  | noDuplicates
  | noVariations
  | splitVariants
  | noComments
  | onlyCommented
deriving DecidableEq, Repr

namespace Stance

/-- Every stance. -/
def all : List Stance :=
  [ending .checkmate, ending .stalemate, ending .insufficientMaterial, winner .higherRated,
    winner .lowerRated, fiftyMoves, seventyFiveMoves, threefold, fivefold, whiteToMove, blackToMove,
    setupExcluded, setupRequired, sevenTags, wantedTags, noTags, duplicatesFile, noDuplicates,
    noVariations, splitVariants, noComments, onlyCommented]

/-- The options that take a stance. -/
def options : Stance → List OptionName
  | ending .checkmate => [.letter .checkmate, .named "checkmate"]
  | ending .stalemate => [.named "stalemate"]
  | ending .insufficientMaterial => [.named "insufficient"]
  | winner .higherRated => [.named "higherratedwinner"]
  | winner .lowerRated => [.named "lowerratedwinner"]
  | fiftyMoves => [.named "fifty", .named "50"]
  | seventyFiveMoves => [.named "seventyfive", .named "75"]
  | threefold => [.named "repetition"]
  | fivefold => [.named "repetition5"]
  | whiteToMove => [.named "wtm"]
  | blackToMove => [.named "btm"]
  | setupExcluded => [.named "nosetuptags"]
  | setupRequired => [.named "onlysetuptags"]
  | sevenTags => [.letter .sevenTagRoster, .named "seven"]
  | wantedTags => [.named "xroster"]
  | noTags => [.named "notags"]
  | duplicatesFile => [.letter .duplicatesFile, .named "duplicates"]
  | noDuplicates => [.letter .dropDuplicates, .named "noduplicates"]
  | noVariations => [.letter .dropVariations, .named "novars"]
  | splitVariants => [.named "splitvariants"]
  | noComments => [.letter .dropComments, .named "nocomments"]
  | onlyCommented => [.named "commented"]

/-- The stances that a stance excludes. -/
def rivals : Stance → List Stance
  | ending which => which.rivals.map ending
  | winner which => [winner which.rival]
  | fiftyMoves => [seventyFiveMoves]
  | seventyFiveMoves => [fiftyMoves]
  | threefold => [fivefold]
  | fivefold => [threefold]
  | whiteToMove => [blackToMove]
  | blackToMove => [whiteToMove]
  | setupExcluded => [setupRequired]
  | setupRequired => [setupExcluded]
  | sevenTags => [wantedTags, noTags]
  | wantedTags => [sevenTags]
  | noTags => [sevenTags]
  | duplicatesFile => [noDuplicates]
  | noDuplicates => [duplicatesFile]
  | noVariations => [splitVariants]
  | splitVariants => [noVariations]
  | noComments => [onlyCommented]
  | onlyCommented => [noComments]

/-- The mark that a stance leaves in the configuration. -/
def isTaken (config : Config) : Stance → Prop
  | ending which => config.on (.onlyEnding which) = true
  | winner which => config.on (.onlyWinner which) = true
  | fiftyMoves => 50 ∈ config.moveRule
  | seventyFiveMoves => 75 ∈ config.moveRule
  | threefold => 3 ∈ config.repetition
  | fivefold => 5 ∈ config.repetition
  | whiteToMove => config.sideToMove = .white
  | blackToMove => config.sideToMove = .black
  | setupExcluded => config.setupTags = .excluded
  | setupRequired => config.setupTags = .required
  | sevenTags => config.tagOutput = .sevenTagRoster
  | wantedTags => config.on .onlyWantedTags = true
  | noTags => config.tagOutput = .noTags
  | duplicatesFile => config.duplicates ≠ none
  | noDuplicates => config.on .suppressDuplicates = true
  | noVariations => config.on .keepVariations = false
  | splitVariants => config.on .splitVariants = true
  | noComments => config.on .keepComments = false
  | onlyCommented => config.on .onlyCommented = true

/-- The adjustment that takes a stance. One of them opens a file instead. -/
def adjustment? : Stance → Option Adjustment
  | ending which => some (.ending which)
  | winner which => some (.winner which)
  | fiftyMoves => some (.moveRule 50)
  | seventyFiveMoves => some (.moveRule 75)
  | threefold => some (.repetition 3)
  | fivefold => some (.repetition 5)
  | whiteToMove => some (.sideToMove .white)
  | blackToMove => some (.sideToMove .black)
  | setupExcluded => some (.setupTags .excluded)
  | setupRequired => some (.setupTags .required)
  | sevenTags => some .sevenTagRoster
  | wantedTags => some .onlyWantedTags
  | noTags => some .noTags
  | duplicatesFile => none
  | noDuplicates => some .dropDuplicates
  | noVariations => some .dropVariations
  | splitVariants => some .splitVariants
  | noComments => some .dropComments
  | onlyCommented => some .onlyCommented

theorem mem_all (stance : Stance) : stance ∈ all := by
  cases stance with
  | ending which => cases which <;> decide
  | winner which => cases which <;> decide
  | _ => decide

/-- Rivalry is mutual. -/
theorem rivals_symm {stance rival : Stance} (rivals : rival ∈ stance.rivals) :
    stance ∈ rival.rivals := by
  have every : ∀ stance ∈ all, ∀ rival ∈ stance.rivals, stance ∈ rival.rivals := by decide
  exact every stance stance.mem_all rival rivals

/-- No option takes rival stances. -/
theorem options_apart {stance rival : Stance} (rivals : rival ∈ stance.rivals) {name : OptionName}
    (takes : name ∈ stance.options) : name ∉ rival.options := by
  have every : ∀ stance ∈ all, ∀ rival ∈ stance.rivals, ∀ name ∈ stance.options,
      name ∉ rival.options := by decide
  exact every stance stance.mem_all rival rivals name takes

/-- A stance once taken stays taken. -/
theorem isTaken_of_latches {config changed : Config} (latches : config.Latches changed)
    {stance : Stance} (taken : stance.isTaken config) : stance.isTaken changed := by
  cases stance with
  | ending | winner | wantedTags | noDuplicates | noVariations | splitVariants | noComments
  | onlyCommented => exact latches.switches _ (by simp) taken
  | fiftyMoves | seventyFiveMoves => exact latches.moveRule _ taken
  | threefold | fivefold => exact latches.repetition _ taken
  | whiteToMove | blackToMove => exact (latches.sideToMove (by rw [taken]; decide)).trans taken
  | setupExcluded | setupRequired => exact (latches.setupTags (by rw [taken]; decide)).trans taken
  | sevenTags | noTags => exact (latches.tagOutput (by rw [taken]; decide)).trans taken
  | duplicatesFile => exact latches.duplicates taken

section Inversion

variable {name : OptionName} {value : String} {config changed : Config}

/-- A rule on moves that is accepted is the only one. -/
theorem moveRule_eq_ok {moves : Nat}
    (made : (Adjustment.moveRule moves).apply name value config = .ok changed) :
    moves ∈ changed.moveRule ∧ ∀ other ∈ config.moveRule, other = moves := by
  rcases confirm_eq_ok made with ⟨unset, rfl⟩ | ⟨chosen, rfl⟩
  · exact ⟨rfl, by simp [unset]⟩
  · exact ⟨chosen, by simp [chosen]⟩

/-- A count of repetitions that is accepted is the only one. -/
theorem repetition_eq_ok {count : Nat}
    (made : (Adjustment.repetition count).apply name value config = .ok changed) :
    count ∈ changed.repetition ∧ ∀ other ∈ config.repetition, other = count := by
  rcases confirm_eq_ok made with ⟨unset, rfl⟩ | ⟨chosen, rfl⟩
  · exact ⟨rfl, by simp [unset]⟩
  · exact ⟨chosen, by simp [chosen]⟩

/-- A side that is accepted is in force, and no other one was. -/
theorem sideToMove_eq_ok {side : SideToMove}
    (made : (Adjustment.sideToMove side).apply name value config = .ok changed) :
    changed.sideToMove = side ∧ (config.sideToMove = .either ∨ config.sideToMove = side) := by
  obtain ⟨agrees, rfl⟩ := clashIf_bind_eq_ok.mp made
  exact ⟨rfl, Decidable.or_iff_not_not_and_not.mpr agrees⟩

/-- A policy that is accepted is in force, and no other one was. -/
theorem setupTags_eq_ok {policy : SetupTags}
    (made : (Adjustment.setupTags policy).apply name value config = .ok changed) :
    changed.setupTags = policy ∧ (config.setupTags = .allowed ∨ config.setupTags = policy) := by
  cases clash : config.otherSetupTags? policy with
  | none =>
    simp only [Adjustment.apply, clash] at made
    cases made
    exact ⟨rfl, otherSetupTags?_eq_none clash⟩
  | some other =>
    simp only [Adjustment.apply, clash] at made
    cases made

end Inversion

/-- A stance with one rival is free if that one is not taken. -/
theorem free_of_only {stance only : Stance} {config : Config} (alone : stance.rivals = [only])
    (free : ¬ only.isTaken config) : ∀ rival ∈ stance.rivals, ¬ rival.isTaken config := by
  intro rival among
  rw [alone] at among
  rw [List.mem_singleton.mp among]
  exact free

/-- An adjustment takes its stance only while no rival stance is taken. -/
theorem isTaken_of_apply {stance : Stance} {adjustment : Adjustment} {name : OptionName}
    {value : String} {config changed : Config} (makes : stance.adjustment? = some adjustment)
    (made : adjustment.apply name value config = .ok changed) :
    stance.isTaken changed ∧ ∀ rival ∈ stance.rivals, ¬ rival.isTaken config := by
  cases stance with
  | ending which =>
    cases makes
    obtain ⟨_, checked, same⟩ := bind_eq_ok.mp made
    cases same
    have free := checkEnding_eq_ok.mp checked
    refine ⟨by simp [isTaken], fun rival rivals taken => ?_⟩
    obtain ⟨other, among, rfl⟩ := List.mem_map.mp rivals
    exact absurd taken (by simp [isTaken, free other among])
  | winner which =>
    cases makes
    obtain ⟨free, rfl⟩ := clashIf_bind_eq_ok.mp made
    exact ⟨by simp [isTaken], free_of_only rfl free⟩
  | fiftyMoves | seventyFiveMoves =>
    cases makes
    obtain ⟨chosen, only⟩ := moveRule_eq_ok made
    exact ⟨chosen, free_of_only rfl fun taken => by cases only _ taken⟩
  | threefold | fivefold =>
    cases makes
    obtain ⟨chosen, only⟩ := repetition_eq_ok made
    exact ⟨chosen, free_of_only rfl fun taken => by cases only _ taken⟩
  | whiteToMove | blackToMove =>
    cases makes
    obtain ⟨chosen, only⟩ := sideToMove_eq_ok made
    refine ⟨chosen, free_of_only rfl fun taken => ?_⟩
    rw [show config.sideToMove = _ from taken] at only
    rcases only with other | other <;> cases other
  | setupExcluded | setupRequired =>
    cases makes
    obtain ⟨chosen, only⟩ := setupTags_eq_ok made
    refine ⟨chosen, free_of_only rfl fun taken => ?_⟩
    rw [show config.setupTags = _ from taken] at only
    rcases only with other | other <;> cases other
  | sevenTags =>
    cases makes
    obtain ⟨free, rfl⟩ := clashIf_bind_eq_ok.mp made
    refine ⟨rfl, fun rival rivals taken => ?_⟩
    cases rivals with
    | head => exact free (.inr taken)
    | tail _ rivals =>
      cases List.mem_singleton.mp rivals
      exact free (.inl taken)
  | wantedTags | noVariations | noComments =>
    cases makes
    obtain ⟨free, rfl⟩ := clashIf_bind_eq_ok.mp made
    exact ⟨by simp [isTaken], free_of_only rfl free⟩
  | noTags =>
    cases makes
    obtain ⟨free, rfl⟩ := clashIf_bind_eq_ok.mp made
    exact ⟨rfl, free_of_only rfl free⟩
  | duplicatesFile => cases makes
  | noDuplicates =>
    cases makes
    obtain ⟨free, rfl⟩ := clashIf_bind_eq_ok.mp made
    exact ⟨by simp [isTaken], free_of_only rfl fun taken => taken (by simpa using free)⟩
  | splitVariants =>
    cases makes
    obtain ⟨_, checked, rest⟩ := bind_eq_ok.mp made
    have free := clashIf_eq_ok.mp checked
    have asked : changed.on .splitVariants = true := by
      split at rest <;> cases rest
      · exact Config.on_set .. |>.trans (if_pos rfl)
      · exact Config.on_set .. |>.trans (if_pos rfl)
    exact ⟨asked, free_of_only rfl fun taken => free (Bool.eq_false_iff.mp taken)⟩
  | onlyCommented =>
    cases makes
    obtain ⟨free, rfl⟩ := clashIf_bind_eq_ok.mp made
    exact ⟨by simp [isTaken], free_of_only rfl fun taken => free (Bool.eq_false_iff.mp taken)⟩

end Stance

/-! ### Options that take a stance

The table of stances against the tables of options: every option for a stance takes it by the one
adjustment of the stance, or opens a file for duplicates. -/

/-- The adjustment that an option comes down to, if it changes the configuration alone. -/
def AnyOption.adjustment? : AnyOption → Option Adjustment
  | letter option => option.adjustment?
  | named option =>
    match option.action with
    | .adjust adjustment => some adjustment
    | .letter own => own.adjustment?
    | _ => none

namespace Stance

/-- Every option that takes a stance does so by the adjustment of the stance, or opens the file for
duplicates. -/
theorem takes_of_mem {option : AnyOption} (listed : option.isListed) {stance : Stance}
    (takes : option.name ∈ stance.options) :
    (∃ adjustment, stance.adjustment? = some adjustment ∧
        option.adjustment? = some adjustment) ∨
      stance = .duplicatesFile ∧
        ∀ value, ∃ own, option.asLetter? value = some (.duplicatesFile, own) := by
  cases option with
  | letter option =>
    have every : ∀ option ∈ LetterOption.all, ∀ stance ∈ all,
        .letter option ∈ stance.options →
          stance.adjustment?.isSome ∧ option.adjustment? = stance.adjustment? ∨
            stance = .duplicatesFile ∧ option = .duplicatesFile := by decide
    rcases every option option.mem_all stance stance.mem_all takes with ⟨some, same⟩ | ⟨rfl, rfl⟩
    · obtain ⟨adjustment, makes⟩ := Option.isSome_iff_exists.mp some
      exact .inl ⟨adjustment, makes, same.trans makes⟩
    · exact .inr ⟨rfl, fun value => ⟨value, rfl⟩⟩
  | named option =>
    have every : ∀ option ∈ NamedOption.all, ∀ stance ∈ all,
        .named option.name ∈ stance.options →
          stance.adjustment?.isSome ∧
              (AnyOption.named option).adjustment? = stance.adjustment? ∨
            stance = .duplicatesFile ∧ option.action = .letter .duplicatesFile := by
      decide +kernel
    rcases every option listed stance stance.mem_all takes with ⟨some, same⟩ | ⟨rfl, stands⟩
    · obtain ⟨adjustment, makes⟩ := Option.isSome_iff_exists.mp some
      exact .inl ⟨adjustment, makes, same.trans makes⟩
    · exact .inr ⟨rfl, fun value =>
        ⟨option.letterValue value, by simp [AnyOption.asLetter?, stands]⟩⟩

end Stance

/-! ### Options that succeed

An option that succeeds has passed its checks, so no rival stance was taken, and has left its mark,
so its own is taken now. -/

section Success

variable {context : Context}

/-- What comes down to an adjustment succeeds only if that can be made. -/
theorem apply_of_adjusts {action : Action Unit} {session counted : Session}
    {outcome : Except Failure Config}
    (run : action session =
      match outcome with
      | .ok config => .ok () { counted with config }
      | .error failure => .error failure counted)
    (success : action.succeeds session = true) :
    outcome = .ok (action.after session).config := by
  cases outcome with
  | ok config => rw [after_of_ok run]
  | error failure =>
    rw [succeeds_of_error run] at success
    cases success

/-- A letter that makes an adjustment succeeds only if the adjustment does. -/
theorem LetterOption.apply_of_succeeds {option : LetterOption} {adjustment : Adjustment}
    {value : String} {session : Session} (makes : option.adjustment? = some adjustment)
    (success : (option.alone context value).succeeds session = true) :
    adjustment.apply (.letter option) value session.config =
      .ok ((option.alone context value).after session).config :=
  apply_of_adjusts (alone_of_adjustment? makes value session) success

/-- A name that makes an adjustment succeeds only if the adjustment does. -/
theorem NamedOption.apply_of_succeeds {option : NamedOption} {adjustment : Adjustment}
    {value : String} {session : Session} (makes : option.action = .adjust adjustment)
    (success : (option.alone context value).succeeds session = true) :
    adjustment.apply (.named option.name) value session.config =
      .ok ((option.alone context value).after session).config :=
  apply_of_adjusts (alone_of_adjust makes value session) success

/-- An option that succeeds has made its adjustment. -/
theorem Given.apply_of_succeeds {given : Given} {adjustment : Adjustment}
    (makes : given.option.adjustment? = some adjustment)
    (success : (given.alone context).succeeds given.session = true) :
    ∃ name value, adjustment.apply name value given.session.config =
      .ok (given.after context).config := by
  obtain ⟨option, value, session⟩ := given
  cases option with
  | letter option => exact ⟨_, _, LetterOption.apply_of_succeeds makes success⟩
  | named option =>
    cases stands : option.action with
    | adjust own =>
      have same : own = adjustment := by simpa [AnyOption.adjustment?, stands] using makes
      rw [same] at stands
      exact ⟨_, _, NamedOption.apply_of_succeeds stands success⟩
    | letter letter =>
      have own : letter.adjustment? = some adjustment := by
        simpa [AnyOption.adjustment?, stands] using makes
      have run : option.alone context value session = _ :=
        NamedOption.alone_of_letter stands value session
      have succeeded : (letter.alone context (option.letterValue value)).succeeds session.named =
          true := (succeeds_congr run).symm.trans success
      have left : Given.after context ⟨.named option, value, session⟩ = _ := after_congr run
      rw [left]
      exact ⟨_, _, LetterOption.apply_of_succeeds own succeeded⟩
    | fenComments | bound | suppressTag | fenPattern | material | version =>
      simp [AnyOption.adjustment?, stands] at makes

/-- A file for duplicates is opened only while duplicates are not suppressed. -/
theorem selectDuplicates_eq_ok {file : String} {session left : Session} {done : Unit}
    (run : selectDuplicates file session = .ok done left) :
    left.config.duplicates ≠ none ∧ session.config.on .suppressDuplicates = false := by
  obtain ⟨_, between, required, checking⟩ := bind_ok run
  obtain rfl := requireFile_eq_ok required
  obtain ⟨_, later, checked, opening⟩ := bind_ok checking
  obtain ⟨rfl, passed⟩ := check_eq_ok checked
  obtain ⟨target, opened, _, chosen⟩ := bind_ok opening
  cases chosen
  exact ⟨by simp, by simpa using clashIf_eq_ok.mp passed⟩

/-- A file for duplicates is opened only while duplicates are not suppressed. -/
theorem LetterOption.duplicates_of_succeeds {value : String} {session : Session}
    (success : (duplicatesFile.alone context value).succeeds session = true) :
    ((duplicatesFile.alone context value).after session).config.duplicates ≠ none ∧
      session.config.on .suppressDuplicates = false := by
  obtain ⟨_, run⟩ := exists_ok_of_succeeds success
  obtain ⟨_, between, counted, selected⟩ := bind_ok run
  cases counted
  have opened : selectDuplicates (Text.skipSpaces value) session.lettered = _ := selected
  have chosen := selectDuplicates_eq_ok opened
  exact chosen

/-- An option that succeeds has taken its stance, and no rival stance was taken before. -/
theorem Given.isTaken_of_succeeds {given : Given} (listed : given.option.isListed)
    {stance : Stance} (takes : given.option.name ∈ stance.options)
    (success : (given.alone context).succeeds given.session = true) :
    stance.isTaken (given.after context).config ∧
      ∀ rival ∈ stance.rivals, ¬ rival.isTaken given.session.config := by
  rcases Stance.takes_of_mem listed takes with ⟨adjustment, own, makes⟩ | ⟨rfl, opens⟩
  · obtain ⟨name, value, made⟩ := given.apply_of_succeeds makes success
    exact Stance.isTaken_of_apply own made
  · have opened : (given.after context).config.duplicates ≠ none ∧
        given.session.config.on .suppressDuplicates = false := by
      obtain ⟨own, stands⟩ := opens given.value
      obtain ⟨met, sameConfig, -, run⟩ := given.alone_of_asLetter? stands
      rw [succeeds_congr run] at success
      rw [Given.after, after_congr run, ← sameConfig]
      exact LetterOption.duplicates_of_succeeds success
    refine ⟨opened.1, fun rival rivals taken => ?_⟩
    cases List.mem_singleton.mp rivals
    exact Bool.false_ne_true (opened.2.symm.trans taken)

end Success

/-! ### Runs that succeed

A stance once taken stays taken. So of two rival options in one run the later one must have failed. -/

section Runs

variable {context : Context} {first last : Session} {given : List Given}

/-- While a stance is taken, no rival option succeeds. -/
theorem Chronology.rivals_absent {clean : Prop}
    (chronology : Chronology context clean first given last) (succeeds : clean) {stance : Stance}
    (taken : stance.isTaken first.config) {rival : Stance} (rivals : rival ∈ stance.rivals) :
    ∀ one ∈ given, one.option.name ∉ rival.options := by
  induction chronology with
  | done session => simp
  | interlude interlude _ ih =>
    have steps : Session.Steps context (fun _ => False) _ _ := interlude.steps
    exact ih (Stance.isTaken_of_latches steps.latches taken)
  | option one listed success rest ih =>
    intro other among
    rcases List.mem_cons.mp among with rfl | among
    · intro takes
      exact (other.isTaken_of_succeeds listed takes (success succeeds)).2 stance
        (Stance.rivals_symm rivals) taken
    · exact ih (Stance.isTaken_of_latches (one.alone_steps context listed).latches taken) other
        among

/-- A run in which every option succeeds never gives options of two rival stances. -/
theorem Chronology.rivals_apart {clean : Prop}
    (chronology : Chronology context clean first given last) (succeeds : clean)
    {stance rival : Stance} (rivals : rival ∈ stance.rivals) :
    ∀ one ∈ given, ∀ other ∈ given, one.option.name ∈ stance.options →
      other.option.name ∉ rival.options := by
  induction chronology with
  | done session => simp
  | interlude interlude _ ih => exact ih
  | option one listed success rest ih =>
    intro taker takerGiven other otherGiven takes opposes
    rcases List.mem_cons.mp takerGiven with takerNow | takerLater
    · subst takerNow
      have taken := (taker.isTaken_of_succeeds listed takes (success succeeds)).1
      rcases List.mem_cons.mp otherGiven with rfl | otherLater
      · exact Stance.options_apart rivals takes opposes
      · exact rest.rivals_absent succeeds taken rivals other otherLater opposes
    · rcases List.mem_cons.mp otherGiven with otherNow | otherLater
      · subst otherNow
        have taken := (other.isTaken_of_succeeds listed opposes (success succeeds)).1
        exact rest.rivals_absent succeeds taken (Stance.rivals_symm rivals) taker takerLater takes
      · exact ih taker takerLater other otherLater takes opposes

/-- Calls that all succeed never give options of two rival stances, on the command line or in any
argument file. -/
theorem Calls.rival_options_apart {context : Context} {disk : Disk} {calls : List Call}
    (succeed : Calls.succeed context calls { disk } = true) {stance rival : Stance}
    (rivals : rival ∈ stance.rivals) :
    ∀ one ∈ Calls.given context calls { disk }, ∀ other ∈ Calls.given context calls { disk },
      one.option.name ∈ stance.options → other.option.name ∉ rival.options :=
  (Calls.chronology calls { disk }).rivals_apart succeed rivals

/-- A run may ask for games that end in checkmate, with white to move, and for nothing against
it. -/
theorem Calls.checkmate_apart_from_stalemate :
    Calls.succeed {} [.commandLine ["-M", "--wtm"]] { disk := ⟨[], []⟩ } = true ∧
      ∀ one ∈ Calls.given {} [.commandLine ["-M", "--wtm"]] { disk := ⟨[], []⟩ },
        ∀ other ∈ Calls.given {} [.commandLine ["-M", "--wtm"]] { disk := ⟨[], []⟩ },
          one.option.name ∈ (Stance.ending .checkmate).options →
            other.option.name ∉ (Stance.ending .stalemate).options :=
  ⟨by decide +kernel, Calls.rival_options_apart (by decide +kernel) (by decide)⟩

end Runs

end ExtractOptions

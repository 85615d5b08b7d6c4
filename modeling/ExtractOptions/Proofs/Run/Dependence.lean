/-
Module: ExtractOptions.Proofs.Run.Dependence
Purpose: settings that are of no use without another one: variations cannot be split off unless they
  are kept, and games cannot be chosen by their comments unless comments are kept. Every option
  looks at this but one. The output format without anything but moves turns off what is needed, and
  a run breaks a dependence exactly if it asks for that format after asking for the dependent
  setting.
Main exports: Dependence, Dependence.isBroken, Given.asksForMovesOnly, Calls.dependence_isBroken_iff
-/
import ExtractOptions.Proofs.Run.Chronology
import ExtractOptions.Proofs.Session.Latch

namespace ExtractOptions

/-- A setting that is of no use without another one. -/
inductive Dependence where
  | splitVariants
  | onlyCommented
deriving DecidableEq, Repr

namespace Dependence

/-- The setting that needs the other one. -/
def dependent : Dependence → Switch
  | splitVariants => .splitVariants
  | onlyCommented => .onlyCommented

/-- The setting that is needed. -/
def needed : Dependence → Switch
  | splitVariants => .keepVariations
  | onlyCommented => .keepComments

/-- The one setting is on and the other, which it needs, is off. -/
def isBroken (dependence : Dependence) (config : Config) : Prop :=
  config.on dependence.dependent = true ∧ config.on dependence.needed = false

variable {dependence : Dependence} {config changed : Config}

/-- A broken dependence stays broken, since the switches never go back. -/
theorem isBroken_of_latches (latches : config.Latches changed)
    (broken : dependence.isBroken config) : dependence.isBroken changed := by
  cases dependence <;>
    exact ⟨latches.switches _ (by decide) broken.1, latches.switches _ (by decide) broken.2⟩

/-- Turning any other switch does not matter. -/
theorem isBroken_set {switch : Switch} {position : Bool}
    (other : switch ≠ dependence.dependent ∧ switch ≠ dependence.needed) :
    dependence.isBroken (config.set switch position) ↔ dependence.isBroken config := by
  unfold isBroken
  rw [Config.on_set, Config.on_set, if_neg (Ne.symm other.1), if_neg (Ne.symm other.2)]

/-- No change breaks a dependence. -/
theorem isBroken_of_change (change : config.Change changed)
    (broken : dependence.isBroken changed) : dependence.isBroken config := by
  cases change with
  | turn switch bare =>
    refine (isBroken_set ?_).mp broken
    cases dependence <;> constructor <;> rintro rfl <;> cases bare
  | onlyCommented kept =>
    cases dependence with
    | splitVariants => exact (isBroken_set (by decide)).mp broken
    | onlyCommented =>
      have dropped : (config.set .onlyCommented true).on .keepComments = false := broken.2
      simp [kept] at dropped
  | dropComments unneeded =>
    cases dependence with
    | splitVariants => exact (isBroken_set (by decide)).mp broken
    | onlyCommented =>
      have asked : (config.set .keepComments false).on .onlyCommented = true := broken.1
      simp [unneeded] at asked
  | splitVariants kept depth =>
    cases dependence with
    | splitVariants =>
      have dropped : (config.set .splitVariants true).on .keepVariations = false := broken.2
      simp [kept] at dropped
    | onlyCommented =>
      have split : onlyCommented.isBroken (config.set .splitVariants true) := broken
      exact (isBroken_set (by decide)).mp split
  | dropVariations unneeded =>
    cases dependence with
    | splitVariants =>
      have asked : (config.set .keepVariations false).on .splitVariants = true := broken.1
      simp [unneeded] at asked
    | onlyCommented => exact (isBroken_set (by decide)).mp broken
  | ending which =>
    refine (isBroken_set ?_).mp broken
    cases dependence <;> constructor <;> intro same <;> cases same
  | winner which =>
    refine (isBroken_set ?_).mp broken
    cases dependence <;> constructor <;> intro same <;> cases same
  | dropDuplicates | onlyWantedTags | matchComment | fuzzyDepth | addEco | positional | fenPattern
  | finalFen =>
    exact (isBroken_set (by cases dependence <;> decide)).mp broken
  | fenComments =>
    have first : dependence.isBroken (config.set .fenComments true) :=
      (isBroken_set (by cases dependence <;> decide)).mp broken
    exact (isBroken_set (by cases dependence <;> decide)).mp first
  | verbosity | sideToMove | setupTags | moveRule | repetition | sevenTagRoster | noTags
  | dropComment | dropPly | lineMarker | firstGame | gameLimit | searchDepth
  | pieceCount | plyLimit | quietPly | startPly | maximumMatches | selectOnly | skipMatching
  | plyBounds | ecoLevel | gamesPerFile | outputFormat | noNonMatching | nonMatchingOutput
  | noLog => exact broken

/-- A change neither breaks nor mends a dependence. -/
theorem isBroken_iff_of_change (change : config.Change changed) :
    dependence.isBroken changed ↔ dependence.isBroken config :=
  ⟨isBroken_of_change change, isBroken_of_latches (.of_change change)⟩

end Dependence

/-! ### Runs

Only one deed turns off what another setting needs. Steps without that deed leave a dependence
alone, so a run is judged by the options that do it and by what they meet. -/

section Runs

variable {context : Context} {dependence : Dependence}

/-- Unless the output is stripped, a step neither breaks nor mends a dependence. -/
theorem Session.Step.isBroken_iff {may : Deed → Prop} {first second : Session}
    (whole : ¬ may .stripping) (step : Session.Step context may first second) :
    dependence.isBroken second.config ↔ dependence.isBroken first.config := by
  cases step with
  | configure change => exact Dependence.isBroken_iff_of_change change
  | strip allowed => exact absurd allowed whole
  | choose opened allowed choice => cases choice <;> exact Iff.rfl
  | setLineLength width => exact Iff.rfl
  | warn message =>
    obtain ⟨log, same⟩ := first.diagnose_config message
    have told : dependence.isBroken (first.diagnose message).config ↔
        dependence.isBroken first.config := by
      rw [same]
      exact Iff.rfl
    exact told
  | countLetter | countName | countFile | countDataLine | enter | leave | record | addSource
  | suppressTag | addHash => exact Iff.rfl

/-- Nor does any number of steps that leave the output whole. -/
theorem Session.Steps.isBroken_iff {may : Deed → Prop} {first last : Session}
    (whole : ¬ may .stripping) (steps : Session.Steps context may first last) :
    dependence.isBroken last.config ↔ dependence.isBroken first.config := by
  induction steps with
  | refl => exact Iff.rfl
  | tail _ step ih => exact (step.isBroken_iff whole).trans ih

/-- The option asks for the output format in which there is nothing but moves. -/
def Given.asksForMovesOnly (given : Given) : Prop :=
  given.option = .letter .outputFormat ∧ OutputFormat.parse? given.value = some .uci

/-- No other option strips the output. -/
theorem Given.asksForMovesOnly_of_may {given : Given} (listed : given.option.isListed)
    (strips : given.may .stripping) : given.asksForMovesOnly := by
  obtain ⟨option, value, session⟩ := given
  cases option with
  | letter option =>
    obtain ⟨rfl, uci⟩ := strips
    exact ⟨rfl, uci⟩
  | named option =>
    have every : ∀ option ∈ NamedOption.all, option.action ≠ .letter .outputFormat := by decide
    have other := every option listed
    cases makes : option.action with
    | letter letter =>
      simp only [Given.may, AnyOption.asLetter?, makes] at strips
      exact absurd (by rw [makes, strips.1]) other
    | adjust | fenComments | bound | suppressTag | fenPattern | material | version =>
      simp [Given.may, AnyOption.asLetter?, makes] at strips

/-- The format without anything but moves turns off all that is needed, asked for or not. -/
theorem Given.on_after {given : Given} (asks : given.asksForMovesOnly) (switch : Switch) :
    (given.after context).config.on switch = given.session.config.stripped.on switch := by
  obtain ⟨option, value, session⟩ := given
  obtain ⟨rfl, uci⟩ := asks
  have run : LetterOption.outputFormat.alone context value session =
      .ok ()
        { session with
          config :=
            { session.config.stripped with
              lineLength := uciLineLength, outputFormat := .uci }
          registry := { session.registry with lineLength := some uciLineLength }
          counters := { session.counters with letters := session.counters.letters + 1 } } := by
    simp [LetterOption.alone, LetterOption.perform, LetterOption.effect, selectFormat, uci,
      Config.stripped]
  have left : Given.after context ⟨.letter .outputFormat, value, session⟩ =
      (LetterOption.outputFormat.alone context value).after session := rfl
  rw [left, Action.after_of_ok run]
  rfl

/-- By itself an option breaks a dependence exactly if it strips the output while the dependent
setting is on. -/
theorem Given.isBroken_iff {given : Given} (listed : given.option.isListed) :
    dependence.isBroken (given.after context).config ↔
      dependence.isBroken given.session.config ∨
        given.asksForMovesOnly ∧ given.session.config.on dependence.dependent = true := by
  by_cases asks : given.asksForMovesOnly
  · have kept : (given.after context).config.on dependence.dependent =
        given.session.config.on dependence.dependent := by
      rw [Given.on_after asks, Config.stripped, Config.on_clear]
      cases dependence <;> simp [Dependence.dependent]
    have dropped : (given.after context).config.on dependence.needed = false := by
      rw [Given.on_after asks, Config.stripped, Config.on_clear]
      cases dependence <;> simp [Dependence.needed]
    constructor
    · intro broken
      exact .inr ⟨asks, kept ▸ broken.1⟩
    · rintro (broken | ⟨-, asked⟩)
      · exact ⟨kept.trans broken.1, dropped⟩
      · exact ⟨kept.trans asked, dropped⟩
  · have whole : ¬ given.may .stripping := fun strips =>
      asks (given.asksForMovesOnly_of_may listed strips)
    rw [(given.alone_steps context listed).isBroken_iff whole]
    simp [asks]

/-- A run breaks a dependence exactly by stripping the output while the dependent setting is on. -/
theorem Chronology.isBroken_iff {clean : Prop} {first last : Session} {given : List Given}
    (chronology : Chronology context clean first given last) :
    dependence.isBroken last.config ↔
      dependence.isBroken first.config ∨
        ∃ one ∈ given, one.asksForMovesOnly ∧
          one.session.config.on dependence.dependent = true := by
  induction chronology with
  | done session => simp
  | interlude interlude _ ih =>
    have steps : Session.Steps context (fun _ => False) _ _ := interlude.steps
    rw [ih, steps.isBroken_iff (fun impossible => impossible)]
  | option one listed success _ ih =>
    rw [ih, Given.isBroken_iff listed, or_assoc]
    simp

/-- A dependence is broken after a run exactly if the run asked for nothing but moves after it had
asked for the dependent setting. -/
theorem Calls.dependence_isBroken_iff (context : Context) (disk : Disk) (calls : List Call)
    (dependence : Dependence) :
    dependence.isBroken (Calls.after context calls { disk }).config ↔
      ∃ one ∈ Calls.given context calls { disk }, one.asksForMovesOnly ∧
        one.session.config.on dependence.dependent = true := by
  rw [(Calls.chronology calls { disk }).isBroken_iff]
  have fresh : ¬ dependence.isBroken {} := by
    rintro ⟨on, -⟩
    cases dependence <;> cases on
  simp [fresh]

/-- Splitting variations off and then asking for nothing but moves leaves nothing to split. -/
theorem split_variants_without_variations :
    ¬ ∀ (context : Context) (disk : Disk) (calls : List Call),
      ((Calls.after context calls { disk }).config.on .splitVariants = true →
        (Calls.after context calls { disk }).config.on .keepVariations = true) ∧
      ((Calls.after context calls { disk }).config.on .onlyCommented = true →
        (Calls.after context calls { disk }).config.on .keepComments = true) := by
  intro law
  have kept := (law {} ⟨[], []⟩ [.commandLine ["--splitvariants", "-Wuci"]]).1 (by decide +kernel)
  exact absurd kept (by decide +kernel)

end Runs

end ExtractOptions

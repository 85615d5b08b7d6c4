/-
Module: ExtractOptions.Proofs.Run.Numeric
Purpose: numbers given to options in the course of a run. Whatever was called before, an option
  whose value is a number takes exactly the texts that spell one in its domain, and stores the whole
  number; any other text makes it fail, and nothing but its counter changes.
Main exports: OptionName.call, Session.counting, Action.Settles, NumericOption.stored,
  numbers_are_read_whole
-/
import ExtractOptions.Proofs.Config.Numeric
import ExtractOptions.Proofs.Run.Chronology

namespace ExtractOptions

open Text ExtractOptions.Action

/-! ### Options that come down to an adjustment

A call for such an option counts it and makes the adjustment. By name and by letter only the
counters differ. -/

namespace OptionName

/-- The call that gives the option with the name. -/
def call (value : String) : OptionName → Call
  | letter option => .letter option value
  | named name => .named name value

/-- The adjustment that the option with the name comes down to. -/
def adjustment? : OptionName → Option Adjustment
  | letter option => option.adjustment?
  | named name =>
    (NamedOption.find? name).bind fun option =>
      match option.action with
      | .adjust adjustment => some adjustment
      | _ => none

end OptionName

/-- The session with the option of the name counted. -/
def Session.counting (session : Session) : OptionName → Session
  | .letter _ => session.lettered
  | .named _ => session.named

/-- A call for an adjustment counts the option and makes the adjustment. -/
theorem OptionName.run_call {name : OptionName} {adjustment : Adjustment}
    (makes : name.adjustment? = some adjustment) (context : Context) (value : String)
    (session : Session) :
    ∃ origin, (name.call value).run context session =
      match adjustment.apply origin value session.config with
      | .ok config => .ok () { session.counting name with config }
      | .error failure => .error failure (session.counting name) := by
  cases name with
  | letter option =>
    have unread : option = .argumentFile → skipSpaces value = "" := by
      rintro rfl
      cases makes
    refine ⟨.letter option, ?_⟩
    have alone : ((letter option).call value).run context = option.alone context value :=
      LetterOption.perform_eq_alone unread
    rw [alone]
    exact LetterOption.alone_of_adjustment? makes value session
  | named name =>
    obtain ⟨option, found, makes⟩ := Option.bind_eq_some_iff.mp makes
    cases does : option.action with
    | adjust other =>
      rw [does] at makes
      cases makes
      refine ⟨.named option.name, ?_⟩
      have alone : ((named name).call value).run context = option.alone context value :=
        discard_performNamed found value
      rw [alone]
      exact NamedOption.alone_of_adjust does value session
    | _ =>
      rw [does] at makes
      cases makes

/-! ### Values that are accepted exactly

A value may be a spelling of something or of nothing, and an option is settled if these two cases
say all that it does. The statement is shared by all options for numbers. -/

/-- The action accepts a value for whatever it may be taken for, and does with it what is said;
where it can be taken for nothing the action fails, and leaves the other session. -/
structure Action.Settles {α : Type} (action : Action Unit) (session : Session)
    (takes : α → Prop) (stored : α → Session) (left : Session) : Prop where
  taken : ∀ answer, takes answer → action session = .ok () (stored answer)
  refused : (∀ answer, ¬ takes answer) → ∃ failure, action session = .error failure left

/-- An adjustment is settled by what it accepts. -/
theorem OptionName.settles_of_apply {α : Type} {name : OptionName} {adjustment : Adjustment}
    (makes : name.adjustment? = some adjustment) {context : Context} {value : String}
    {session : Session} {takes : α → Prop} {store : α → Config}
    (accepts : ∀ origin changed, adjustment.apply origin value session.config = .ok changed ↔
      ∃ answer, takes answer ∧ store answer = changed) :
    Settles ((name.call value).run context) session takes
      (fun answer => { session.counting name with config := store answer })
      (session.counting name) where
  taken answer takes := by
    obtain ⟨origin, run⟩ := run_call makes context value session
    rw [run, (accepts origin _).mpr ⟨answer, takes, rfl⟩]
  refused none := by
    obtain ⟨origin, run⟩ := run_call makes context value session
    rw [run]
    cases made : adjustment.apply origin value session.config with
    | ok changed =>
      obtain ⟨answer, takes, -⟩ := (accepts origin changed).mp made
      exact absurd takes (none answer)
    | error failure => exact ⟨failure, rfl⟩

/-! ### Games are counted from one

Zero is below the least number of the first game, so the program refuses it. The lower end of the
window is therefore positive in every session of a run, which the options for the window rely on. -/

/-- No change lets games be counted from zero. -/
theorem Config.Change.firstGame_pos {config changed : Config} (change : config.Change changed)
    (positive : 1 ≤ config.firstGame) : 1 ≤ changed.firstGame := by
  cases change with
  | firstGame first least fits => exact least
  | _ => exact positive

theorem Session.Step.firstGame_pos {context : Context} {may : Deed → Prop} {first second : Session}
    (positive : 1 ≤ first.config.firstGame) (step : Session.Step context may first second) :
    1 ≤ second.config.firstGame := by
  cases step with
  | configure change => exact change.firstGame_pos positive
  | strip allowed =>
    rw [Config.stripped, Config.clear_eq]
    exact positive
  | choose opened allowed choice => cases choice <;> exact positive
  | warn message =>
    obtain ⟨log, same⟩ := first.diagnose_config message
    rw [same]
    exact positive
  | setLineLength | countLetter | countName | countFile | countDataLine | enter | leave | record
  | addSource | suppressTag | addHash => exact positive

theorem Session.Steps.firstGame_pos {context : Context} {may : Deed → Prop} {first last : Session}
    (positive : 1 ≤ first.config.firstGame) (steps : Session.Steps context may first last) :
    1 ≤ last.config.firstGame := by
  induction steps with
  | refl => exact positive
  | tail _ step ih => exact step.firstGame_pos ih

/-! ### Numbers

Twelve options and the number of games are settled one like the other. The table of `NumericOption`
has their differences. -/

namespace NumericOption

/-- How the option is called. -/
def name : NumericOption → OptionName
  | pieceCount => .named "piececount"
  | plyLimit => .named "plylimit"
  | quietPly => .named "quiescent"
  | startPly => .named "startply"
  | stopAfter => .named "stopafter"
  | searchDepth => .named "matchplylimit"
  | firstGame => .named "firstgame"
  | gameLimit => .named "gamelimit"
  | fuzzyDepth => .named "fuzzydepth"
  | dropPly => .named "dropply"
  | ecoLevel => .letter .ecoLevel
  | lineWidth => .letter .lineWidth

/-- The option for a number makes the adjustment of the table. -/
theorem adjustment?_name (option : NumericOption) :
    option.name.adjustment? = option.adjustment? := by
  cases option <;> decide +kernel

/-- The session with the option counted and the number stored. Only the width of a line is stored
in two places. -/
def stored (option : NumericOption) (session : Session) (n : Int) : Session :=
  { session.counting option.name with
    config := option.store n session.config
    registry :=
      if option = .lineWidth then { session.registry with lineLength := some n.toNat }
      else session.registry }

/-- A number other than the width of a line is stored in the configuration alone. -/
theorem stored_of_ne {option : NumericOption} (other : option ≠ lineWidth) (session : Session) :
    option.stored session =
      fun n => { session.counting option.name with config := option.store n session.config } := by
  funext n
  cases option with
  | lineWidth => exact absurd rfl other
  | _ => rfl

/-- The width of a line is no adjustment, but it is settled alike. -/
theorem settles_lineWidth (context : Context) (session : Session) (value : String) :
    Settles ((lineWidth.name.call value).run context) session (lineWidth.Takes session.config value)
      (stored lineWidth session) (session.counting lineWidth.name) where
  taken n takes := by
    obtain ⟨m, rfl⟩ := takes.exists_nat (by decide)
    have read : Value.plain .lineWidth value = .ok m :=
      Value.plain_eq_ok_iff.mpr ⟨takes.spelled, Int.ofNat_le.mp takes.within⟩
    simp [name, OptionName.call, Call.run, LetterOption.perform, LetterOption.effect, read, stored,
      store, Session.counting, Session.lettered]
  refused none := by
    cases read : Value.plain .lineWidth value with
    | ok m =>
      obtain ⟨spelled, within⟩ := Value.plain_eq_ok_iff.mp read
      exact absurd ⟨spelled, Int.natCast_nonneg m, Int.ofNat_le.mpr within, trivial⟩ (none m)
    | error failure =>
      refine ⟨failure, ?_⟩
      simp [name, OptionName.call, Call.run, LetterOption.perform, LetterOption.effect, read,
        Session.counting, Session.lettered]

/-- Every option for a number is settled by what it takes. -/
theorem settles (option : NumericOption) (context : Context) {session : Session}
    (positive : 1 ≤ session.config.firstGame) (value : String) :
    Settles ((option.name.call value).run context) session (option.Takes session.config value)
      (stored option session) (session.counting option.name) := by
  cases makes : option.adjustment? with
  | none =>
    cases option with
    | lineWidth => exact settles_lineWidth context session value
    | _ => cases makes
  | some adjustment =>
    have other : option ≠ lineWidth := by
      rintro rfl
      cases makes
    rw [stored_of_ne other]
    have makes' := option.adjustment?_name.trans makes
    refine OptionName.settles_of_apply makes' fun origin changed => ?_
    constructor
    · exact takes_of_apply makes positive
    · rintro ⟨n, takes, rfl⟩
      exact apply_of_takes makes takes

end NumericOption

/-- A number of games for each file is settled as well, together with the number of the first file
or without it. -/
theorem settles_gamesPerFile (context : Context) (session : Session) (value : String) :
    Settles (((OptionName.letter .gamesPerFile).call value).run context) session
      (fun counts : Nat × Option Nat =>
        SpellsGames value.toList counts.1 counts.2 ∧
          session.config.ecoLevel = 0 ∧ session.config.output = none)
      (fun counts =>
        { session.lettered with
          config :=
            { session.config with
              gamesPerFile := counts.1
              nextFileNumber := counts.2.getD session.config.nextFileNumber } })
      session.lettered := by
  have makes : (OptionName.letter .gamesPerFile).adjustment? = some .gamesPerFile := rfl
  refine OptionName.settles_of_apply makes fun origin changed => ?_
  constructor
  · intro made
    obtain ⟨_, noLevel, rest⟩ := bind_eq_ok.mp made
    obtain ⟨_, noOutput, read⟩ := bind_eq_ok.mp rest
    obtain ⟨games, first?, spelled, rfl⟩ := readGamesPerFile_eq_ok_iff.mp read
    exact ⟨(games, first?),
      ⟨spelled, checkNoEcoLevel_eq_ok.mp noLevel, checkNoOutput_eq_ok.mp noOutput⟩, rfl⟩
  · rintro ⟨⟨games, first?⟩, ⟨spelled, noLevel, noOutput⟩, rfl⟩
    exact bind_eq_ok.mpr ⟨(), checkNoEcoLevel_eq_ok.mpr noLevel, bind_eq_ok.mpr
      ⟨(), checkNoOutput_eq_ok.mpr noOutput,
        readGamesPerFile_eq_ok_iff.mpr ⟨games, first?, spelled, rfl⟩⟩⟩

/-- After any calls, every option whose value is a number takes exactly the texts that spell a
number in its domain which contradicts nothing, and stores that number; and the number of games for
each file is taken exactly for one or two numbers, which are stored together. What is not taken
fails and stores nothing. -/
theorem numbers_are_read_whole (context : Context) (calls : List Call) {first : Session}
    (positive : 1 ≤ first.config.firstGame) (value : String) :
    let session := Calls.after context calls first
    (∀ option : NumericOption,
      Settles ((option.name.call value).run context) session (option.Takes session.config value)
        (option.stored session) (session.counting option.name)) ∧
    Settles (((OptionName.letter .gamesPerFile).call value).run context) session
      (fun counts : Nat × Option Nat =>
        SpellsGames value.toList counts.1 counts.2 ∧
          session.config.ecoLevel = 0 ∧ session.config.output = none)
      (fun counts =>
        { session.lettered with
          config :=
            { session.config with
              gamesPerFile := counts.1
              nextFileNumber := counts.2.getD session.config.nextFileNumber } })
      session.lettered := by
  have positive : 1 ≤ (Calls.after context calls first).config.firstGame :=
    (Calls.chronology calls first).steps.firstGame_pos positive
  exact ⟨fun option => option.settles context positive value,
    settles_gamesPerFile context _ value⟩

/-- A run that starts afresh takes a number with a sign, leading zeros and white space around it. -/
theorem numbers_are_read_whole_padded :
    let fresh : Session := { disk := { nodes := [], workingDirectory := [] } }
    1 ≤ fresh.config.firstGame ∧
      (Call.named "plylimit" " +007").run {} fresh =
        .ok () { fresh.named with config := { fresh.config with plyLimit := some 7 } } := by
  have digits : Numeral.Denotes ['0', '0', '7'] 7 :=
    ⟨by decide, List.all_eq_true.mp rfl, by decide⟩
  have spelled : Numeral.Spells NumericOption.plyLimit.signs " +007".toList 7 :=
    ⟨[' '], ['+', '0', '0', '7'], [], List.all_eq_true.mp rfl, List.forall_mem_nil _,
      ⟨.plus, by decide, ['0', '0', '7'], 7, digits, rfl, rfl⟩, rfl⟩
  let fresh : Session := { disk := { nodes := [], workingDirectory := [] } }
  have positive : 1 ≤ fresh.config.firstGame := by decide
  exact ⟨positive, ((numbers_are_read_whole {} [] positive " +007").1 .plyLimit).taken 7
    ⟨spelled, by decide, by decide, trivial⟩⟩

end ExtractOptions

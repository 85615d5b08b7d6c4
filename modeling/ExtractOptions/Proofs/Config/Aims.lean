/-
Module: ExtractOptions.Proofs.Config.Aims
Purpose: two aims of a run for which the registry holds what is aimed at: positions to look for, and
  tables to classify games by. No adjustment has anything to do with them, nor with where diagnostics
  go.
Main exports: Yields, Config.SameAims, Adjustment.Spares, Adjustment.yields_spares
-/
import ExtractOptions.Proofs.Config.Change

namespace ExtractOptions

/-! ### What comes of steps that may fail

Checks and readings only decide whether a step goes on. What is shown of the answer of a step is
therefore shown without them. -/

/-- Whatever the step gives, unless it fails, satisfies the predicate. -/
def Yields {α : Type} (outcome : Except Failure α) (holds : α → Prop) : Prop :=
  ∀ answer, outcome = .ok answer → holds answer

namespace Yields

variable {α β : Type} {holds : α → Prop}

theorem ok {answer : α} (fits : holds answer) : Yields (.ok answer) holds := by
  rintro _ ⟨⟩
  exact fits

/-- A step that fails gives nothing that could be wrong. -/
theorem error (failure : Failure) : Yields (.error failure) holds := by
  rintro _ ⟨⟩

/-- Checking or reading something first makes no difference. -/
theorem after {first : Except Failure β} {next : β → Except Failure α}
    (later : ∀ value, Yields (next value) holds) : Yields (first >>= next) holds := by
  intro answer made
  obtain ⟨value, -, does⟩ := bind_eq_ok.mp made
  exact later value answer does

end Yields

/-! ### Aims

The aims of a configuration are three fields, and they are compared as a whole. The options that look
for positions or classify games change them, and have effects of their own; the adjustments never do. -/

/-- Both configurations ask for positions or neither, and so for ECO codes, which they take from the
same file. -/
structure Config.SameAims (config changed : Config) : Prop where
  positional : changed.on .positionalVariations = config.on .positionalVariations
  addEco : changed.on .addEco = config.on .addEco
  ecoFile : changed.ecoFile = config.ecoFile

namespace Config.SameAims

variable {config changed : Config}

theorem refl (config : Config) : config.SameAims config :=
  ⟨rfl, rfl, rfl⟩

theorem trans {last : Config} (first : config.SameAims changed)
    (second : changed.SameAims last) : config.SameAims last where
  positional := second.positional.trans first.positional
  addEco := second.addEco.trans first.addEco
  ecoFile := second.ecoFile.trans first.ecoFile

/-- Any other switch may be turned. -/
theorem set {switch : Switch} {position : Bool} (notPositional : switch ≠ .positionalVariations)
    (notEco : switch ≠ .addEco) : config.SameAims (config.set switch position) where
  positional := by rw [on_set, if_neg notPositional.symm]
  addEco := by rw [on_set, if_neg notEco.symm]
  ecoFile := rfl

/-- Keeping nothing but moves in the output is not about what to look for. -/
theorem stripped (config : Config) : config.SameAims config.stripped where
  positional := by simp [Config.stripped, on_clear]
  addEco := by simp [Config.stripped, on_clear]
  ecoFile := by rw [Config.stripped, clear_eq]

end Config.SameAims

/-! ### What adjustments leave alone

No option that adjusts the configuration says where diagnostics go. Two more things are left alone
by all but a few adjustments: the aims of a run, which only an adjustment that no option makes could
turn, and how many games go into a file, which one adjustment is about. One case analysis shows all
three. -/

/-- What an adjustment leaves alone in a configuration. -/
structure Adjustment.Spares (adjustment : Adjustment) (config changed : Config) : Prop where
  log : changed.log = config.log
  gamesPerFile : adjustment ≠ .gamesPerFile → changed.gamesPerFile = config.gamesPerFile
  aims : adjustment.isOffered = true → config.SameAims changed

namespace Adjustment

variable {config changed : Config} {option : OptionName} {value : String}

/-- The level at which output is split says nothing of the rest. -/
theorem yields_spares_ecoLevel :
    Yields (ecoLevel.apply option value config) (ecoLevel.Spares config) := by
  refine .after fun _ => .after fun _ changed read => ?_
  obtain ⟨level, -, rfl⟩ := readEcoLevel_eq_ok read
  exact ⟨rfl, fun _ => rfl, fun _ => ⟨rfl, rfl, rfl⟩⟩

/-- How many games go into a file is all that is said of output. -/
theorem yields_spares_gamesPerFile :
    Yields (gamesPerFile.apply option value config) (gamesPerFile.Spares config) := by
  refine .after fun _ => .after fun _ changed read => ?_
  obtain ⟨games, first, rfl⟩ := readGamesPerFile_eq_ok read
  exact ⟨rfl, fun other => absurd rfl other, fun _ => ⟨rfl, rfl, rfl⟩⟩

/-- An adjustment leaves alone what it is not about. -/
theorem yields_spares {adjustment : Adjustment} :
    Yields (adjustment.apply option value config) (adjustment.Spares config) := by
  cases adjustment with
  | turn switch position =>
    refine .ok ⟨rfl, fun _ => rfl, fun offered => .set ?_ ?_⟩
    · rintro rfl
      cases offered
    · rintro rfl
      cases offered
  | verbosity level => exact .ok ⟨rfl, fun _ => rfl, fun _ => ⟨rfl, rfl, rfl⟩⟩
  | ending | winner | onlyCommented | dropComments | dropVariations | dropDuplicates
  | onlyWantedTags =>
    exact .after fun _ => .ok ⟨rfl, fun _ => rfl, fun _ => .set (by simp) (by simp)⟩
  | markMatches =>
    have marked : config.SameAims (config.set .markMatches true) := .set (by simp) (by simp)
    exact .after fun _ => .ok ⟨rfl, fun _ => rfl, fun _ => { marked with }⟩
  | sideToMove | sevenTagRoster | noTags | dropBefore | dropPly | lineMarker | pieceCount
  | plyLimit | quietPly | startPly | stopAfter | selectOnly | skipMatching =>
    exact .after fun _ => .ok ⟨rfl, fun _ => rfl, fun _ => ⟨rfl, rfl, rfl⟩⟩
  | gameLimit | searchDepth =>
    exact .after fun _ => .after fun _ => .ok ⟨rfl, fun _ => rfl, fun _ => ⟨rfl, rfl, rfl⟩⟩
  | setupTags policy =>
    simp only [apply]
    split
    · exact .error _
    · exact .ok ⟨rfl, fun _ => rfl, fun _ => ⟨rfl, rfl, rfl⟩⟩
  | moveRule | repetition =>
    simp only [apply]
    split
    · split
      · exact .ok ⟨rfl, fun _ => rfl, fun _ => ⟨rfl, rfl, rfl⟩⟩
      · exact .error _
    · exact .ok ⟨rfl, fun _ => rfl, fun _ => ⟨rfl, rfl, rfl⟩⟩
  | splitVariants =>
    have parted : config.SameAims (config.set .splitVariants true) := .set (by simp) (by simp)
    apply Yields.after
    intro _
    split
    · exact .ok ⟨rfl, fun _ => rfl, fun _ => { parted with }⟩
    · exact .ok ⟨rfl, fun _ => rfl, fun _ => parted⟩
  | firstGame =>
    apply Yields.after
    intro first
    split
    · exact .after fun _ => .after fun _ => .ok ⟨rfl, fun _ => rfl, fun _ => ⟨rfl, rfl, rfl⟩⟩
    · exact .after fun _ => .ok ⟨rfl, fun _ => rfl, fun _ => ⟨rfl, rfl, rfl⟩⟩
  | fuzzyDepth =>
    have fuzzy : config.SameAims (config.set .fuzzyDuplicates true) := .set (by simp) (by simp)
    simp only [apply]
    split
    · exact .error _
    · exact .ok ⟨rfl, fun _ => rfl, fun _ => { fuzzy with }⟩
  | bound unit =>
    apply Yields.after
    intro spec
    split
    · exact .ok ⟨rfl, fun _ => rfl, fun _ => ⟨rfl, rfl, rfl⟩⟩
    · exact .error _
  | ecoLevel => exact yields_spares_ecoLevel
  | gamesPerFile => exact yields_spares_gamesPerFile

end Adjustment

end ExtractOptions

/-
Module: ExtractOptions.Proofs.Session.Latch
Purpose: choices that cannot be taken back. A switch that was moved never returns to where it
  started, the one for the last FEN comment apart, and a value that was chosen among several is
  never exchanged for another. This holds of every change, so it holds through every run.
Main exports: Config.Latches, Session.Steps.latches
-/
import ExtractOptions.Proofs.Session.Step

namespace ExtractOptions

namespace Config

/-- Whatever was chosen in the first configuration is still chosen in the second. -/
structure Latches (config changed : Config) : Prop where
  switches : ∀ switch : Switch, switch ≠ .finalFen → config.on switch = !switch.initially →
    changed.on switch = !switch.initially
  moveRule : ∀ moves ∈ config.moveRule, moves ∈ changed.moveRule
  repetition : ∀ count ∈ config.repetition, count ∈ changed.repetition
  sideToMove : config.sideToMove ≠ .either → changed.sideToMove = config.sideToMove
  setupTags : config.setupTags ≠ .allowed → changed.setupTags = config.setupTags
  tagOutput : config.tagOutput ≠ .allTags → changed.tagOutput = config.tagOutput
  duplicates : config.duplicates ≠ none → changed.duplicates ≠ none

namespace Latches

variable {config changed : Config}

theorem refl (config : Config) : config.Latches config where
  switches _ _ moved := moved
  moveRule _ chosen := chosen
  repetition _ chosen := chosen
  sideToMove _ := rfl
  setupTags _ := rfl
  tagOutput _ := rfl
  duplicates chosen := chosen

/-- What is still chosen after one change and after another is still chosen after both. -/
theorem trans {last : Config} (first : config.Latches changed) (second : changed.Latches last) :
    config.Latches last where
  switches switch other moved := second.switches switch other (first.switches switch other moved)
  moveRule moves chosen := second.moveRule moves (first.moveRule moves chosen)
  repetition count chosen := second.repetition count (first.repetition count chosen)
  sideToMove chosen := by
    have same := first.sideToMove chosen
    rw [second.sideToMove (by rwa [same]), same]
  setupTags chosen := by
    have same := first.setupTags chosen
    rw [second.setupTags (by rwa [same]), same]
  tagOutput chosen := by
    have same := first.tagOutput chosen
    rw [second.tagOutput (by rwa [same]), same]
  duplicates chosen := second.duplicates (first.duplicates chosen)

/-- A switch may move away from where it started. -/
theorem set (config : Config) {switch : Switch} {position : Bool}
    (away : switch ≠ .finalFen → position = !switch.initially) :
    config.Latches (config.set switch position) :=
  { refl config with
    switches := by
      intro other latched moved
      rw [on_set]
      split
      · rename_i same
        subst same
        exact away latched
      · exact moved }

/-- Stripping the output moves switches away from where they started. -/
theorem stripped (config : Config) : config.Latches config.stripped := by
  unfold Config.stripped clear
  simp only [List.foldl_cons, List.foldl_nil]
  exact ((((set _ fun _ => rfl).trans (set _ fun _ => rfl)).trans (set _ fun _ => rfl)).trans
    (set _ fun _ => rfl)).trans (set _ fun _ => rfl)

/-- Every change keeps what was chosen. -/
theorem of_change (change : config.Change changed) : config.Latches changed := by
  cases change with
  | turn switch bare => exact set config fun _ => rfl
  | ending which alone => exact set config fun _ => rfl
  | winner which alone => exact set config fun _ => rfl
  | sideToMove side agrees =>
    exact { refl config with sideToMove := fun chosen => (agrees.resolve_left chosen).symm }
  | setupTags policy agrees =>
    exact { refl config with setupTags := fun chosen => (agrees.resolve_left chosen).symm }
  | moveRule moves known unset =>
    exact { refl config with moveRule := fun _ chosen => by rw [unset] at chosen; cases chosen }
  | repetition count known unset =>
    exact { refl config with repetition := fun _ chosen => by rw [unset] at chosen; cases chosen }
  | onlyCommented kept => exact set config fun _ => rfl
  | dropComments unneeded => exact set config fun _ => rfl
  | splitVariants kept depth =>
    have moved : config.Latches (config.set .splitVariants true) := set config fun _ => rfl
    exact { moved with }
  | dropVariations unneeded => exact set config fun _ => rfl
  | dropDuplicates unset => exact set config fun _ => rfl
  | sevenTagRoster written unordered =>
    refine { refl config with tagOutput := fun chosen => ?_ }
    cases tags : config.tagOutput with
    | allTags => exact absurd tags chosen
    | sevenTagRoster => rfl
    | noTags => exact absurd tags written
  | noTags free =>
    refine { refl config with tagOutput := fun chosen => ?_ }
    cases tags : config.tagOutput with
    | allTags => exact absurd tags chosen
    | sevenTagRoster => exact absurd tags free
    | noTags => rfl
  | onlyWantedTags free => exact set config fun _ => rfl
  | matchComment comment =>
    have moved : config.Latches (config.set .markMatches true) := set config fun _ => rfl
    exact { moved with }
  | fuzzyDepth depth =>
    have moved : config.Latches (config.set .fuzzyDuplicates true) := set config fun _ => rfl
    exact { moved with }
  | addEco file =>
    have moved : config.Latches (config.set .addEco true) := set config fun _ => rfl
    exact { moved with }
  | positional => exact set config fun _ => rfl
  | fenPattern pattern free =>
    have moved : config.Latches (config.set .finalFen true) := set config (absurd rfl)
    exact { moved with }
  | finalFen => exact set config (absurd rfl)
  | fenComments free => exact (set config fun _ => rfl).trans (set _ (absurd rfl))
  | verbosity | dropComment | dropPly | lineMarker | firstGame | gameLimit | searchDepth
  | pieceCount | plyLimit | quietPly | startPly | maximumMatches | selectOnly | skipMatching
  | plyBounds | ecoLevel | gamesPerFile | outputFormat | noNonMatching | nonMatchingOutput
  | noLog => exact { refl config with }

theorem of_chooses {target : Target} (chooses : config.Chooses target changed) :
    config.Latches changed := by
  cases chooses with
  | duplicates kept => exact { refl config with duplicates := fun _ => by simp }
  | output | nonMatching | log => exact { refl config with }

end Latches

end Config

/-! ### Sessions

From changes of the configuration to steps of a session, and from one step to many. -/

variable {context : Context} {may : Deed → Prop}

/-- One step keeps what was chosen. -/
theorem Session.Step.latches {first second : Session}
    (step : Session.Step context may first second) : first.config.Latches second.config := by
  cases step with
  | configure change => exact .of_change change
  | strip allowed => exact .stripped _
  | choose opened allowed choice => exact .of_chooses choice
  | setLineLength width => exact { Config.Latches.refl first.config with }
  | warn message =>
    obtain ⟨log, same⟩ := first.diagnose_config message
    have quiet : first.config.Latches { first.config with log } :=
      { Config.Latches.refl first.config with }
    rw [← same] at quiet
    exact quiet
  | countLetter | countName | countFile | countDataLine | enter | leave | record | addSource
  | suppressTag | addHash => exact .refl _

theorem Session.Steps.latches {first last : Session}
    (steps : Session.Steps context may first last) : first.config.Latches last.config := by
  induction steps with
  | refl => exact .refl _
  | tail _ step ih => exact ih.trans step.latches

end ExtractOptions

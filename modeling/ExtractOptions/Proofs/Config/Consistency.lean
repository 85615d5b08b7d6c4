/-
Module: ExtractOptions.Proofs.Config.Consistency
Purpose: when a configuration is consistent: choices that exclude each other are never made together,
  choices that need each other are made together, and numbers stay in their ranges. Every change
  that an option makes, and every choice of a file, keeps a configuration consistent.
Main exports: Config.Consistent, Config.Consistent.initially, Config.Consistent.change,
  Config.Consistent.chooses
-/
import ExtractOptions.Proofs.Config.Change

namespace ExtractOptions

/-- The switches that consistency is about. -/
def Switch.isWatched : Switch → Bool
  | onlyEnding _ | onlyWinner _ | suppressDuplicates | onlyWantedTags | finalFen | fenComments =>
    true
  | _ => false

/-- Turning the switch contradicts nothing in the configuration. -/
def Switch.Turns (config : Config) (position : Bool) : Switch → Prop
  | onlyEnding which =>
    position = true → ∀ other, other ≠ which → config.on (.onlyEnding other) = false
  | onlyWinner which =>
    position = true → ∀ other, other ≠ which → config.on (.onlyWinner other) = false
  | suppressDuplicates => config.duplicates = none
  | onlyWantedTags => config.tagOutput ≠ .sevenTagRoster
  | fenComments =>
    position = true → config.fenPattern = none ∧ config.on .finalFen = false
  | finalFen =>
    (position = true → config.on .fenComments = false) ∧
      (config.fenPattern ≠ none → position = true)
  | _ => True

namespace Config

/-- The choices in a configuration go together, and its numbers are in their ranges. -/
structure Consistent (config : Config) : Prop where
  oneEnding : ∀ one other, config.on (.onlyEnding one) = true →
    config.on (.onlyEnding other) = true → one = other
  oneWinner : ∀ one other, config.on (.onlyWinner one) = true →
    config.on (.onlyWinner other) = true → one = other
  duplicatesKept : config.on .suppressDuplicates = true → config.duplicates = none
  rosterAlone : config.tagOutput = .sevenTagRoster → config.on .onlyWantedTags = false
  outputOrLevel : config.output = none ∨ config.ecoLevel = 0
  outputOrCount : config.output = none ∨ config.gamesPerFile = 0
  levelOrCount : config.ecoLevel = 0 ∨ config.gamesPerFile = 0
  commentsWithoutPattern : config.on .fenComments = true → config.fenPattern = none
  commentsWithoutFinal : config.on .fenComments = true → config.on .finalFen = false
  patternWithFinal : config.fenPattern ≠ none → config.on .finalFen = true
  boundsOrdered : config.plyBounds.lower ≤ config.plyBounds.upper
  firstGamePositive : 1 ≤ config.firstGame
  windowOrdered : config.firstGame ≤ config.gameLimit
  ecoLevelBounded : config.ecoLevel ≤ 10
  startPlyPositive : 1 ≤ config.startPly
  pieceCountLeast : ∀ count ∈ config.pieceCount, 2 ≤ count
  matchesLeast : ∀ count ∈ config.maximumMatches, 1 ≤ count
  moveRuleKnown : ∀ moves ∈ config.moveRule, moves = 50 ∨ moves = 75
  repetitionKnown : ∀ count ∈ config.repetition, count = 3 ∨ count = 5

namespace Consistent

variable {config : Config}

/-- The configuration that a run starts with is consistent. -/
theorem initially : Consistent {} where
  oneEnding one _ on := by cases one <;> cases on
  oneWinner one _ on := by cases one <;> cases on
  duplicatesKept _ := rfl
  rosterAlone _ := rfl
  outputOrLevel := .inl rfl
  outputOrCount := .inl rfl
  levelOrCount := .inl rfl
  commentsWithoutPattern _ := rfl
  commentsWithoutFinal _ := rfl
  patternWithFinal absent := absurd rfl absent
  boundsOrdered := by decide
  firstGamePositive := by decide
  windowOrdered := by decide
  ecoLevelBounded := by decide
  startPlyPositive := by decide
  pieceCountLeast _ chosen := by cases chosen
  matchesLeast _ chosen := by cases chosen
  moveRuleKnown _ chosen := by cases chosen
  repetitionKnown _ chosen := by cases chosen

/-! ### Turning switches

Most of what consistency asks is about switches. Turning one of them off never hurts, except for a
switch that another one needs; turning one on takes a check that nothing it excludes is on. -/

/-- Only some switches matter. -/
theorem of_switches {switches : Switches} (consistent : config.Consistent)
    (same : ∀ switch : Switch, switch.isWatched = true →
      Config.on { config with switches } switch = config.on switch) :
    Consistent { config with switches } :=
  { consistent with
    oneEnding := by simpa only [same (.onlyEnding _) rfl] using consistent.oneEnding
    oneWinner := by simpa only [same (.onlyWinner _) rfl] using consistent.oneWinner
    duplicatesKept := by
      simpa only [same .suppressDuplicates rfl] using consistent.duplicatesKept
    rosterAlone := by simpa only [same .onlyWantedTags rfl] using consistent.rosterAlone
    commentsWithoutPattern := by
      simpa only [same .fenComments rfl] using consistent.commentsWithoutPattern
    commentsWithoutFinal := by
      simpa only [same .fenComments rfl, same .finalFen rfl] using consistent.commentsWithoutFinal
    patternWithFinal := by simpa only [same .finalFen rfl] using consistent.patternWithFinal }

/-- Of a family of switches at most one stays on if one of them is turned on only while no other
one is. -/
theorem unique_set {α : Type} {family : α → Switch} {switch : Switch} {position : Bool}
    (injective : ∀ one other, family one = family other → one = other)
    (unique : ∀ one other, config.on (family one) = true → config.on (family other) = true →
      one = other)
    (alone : ∀ which, switch = family which → position = true → ∀ other, other ≠ which →
      config.on (family other) = false) (one other : α)
    (first : (config.set switch position).on (family one) = true)
    (second : (config.set switch position).on (family other) = true) : one = other := by
  rw [on_set] at first second
  split at first <;> split at second
  · rename_i this that
    exact injective one other (this.trans that.symm)
  · rename_i this that
    have apart : other ≠ one := fun same => that (by rw [same, this])
    exact absurd second (by simp [alone one this.symm first other apart])
  · rename_i that this
    have apart : one ≠ other := fun same => that (by rw [same, this])
    exact absurd first (by simp [alone other this.symm second one apart])
  · exact unique one other first second

/-- A switch is turned consistently if whatever it excludes was not chosen. -/
protected theorem set {switch : Switch} {position : Bool} (consistent : config.Consistent)
    (turns : switch.Turns config position) : (config.set switch position).Consistent :=
  { consistent with
    oneEnding := unique_set (fun _ _ => Switch.onlyEnding.inj) consistent.oneEnding
      fun _ same => by subst same; exact turns
    oneWinner := unique_set (fun _ _ => Switch.onlyWinner.inj) consistent.oneWinner
      fun _ same => by subst same; exact turns
    duplicatesKept := by
      intro on
      rw [on_set] at on
      split at on
      · rename_i this
        subst this
        exact turns
      · exact consistent.duplicatesKept on
    rosterAlone := by
      intro roster
      rw [on_set]
      split
      · rename_i this
        subst this
        exact absurd roster turns
      · exact consistent.rosterAlone roster
    commentsWithoutPattern := by
      intro on
      rw [on_set] at on
      split at on
      · rename_i this
        subst this
        exact (turns on).1
      · exact consistent.commentsWithoutPattern on
    commentsWithoutFinal := by
      intro on
      rw [on_set] at on ⊢
      split at on
      · rename_i this
        subst this
        exact (turns on).2
      · split
        · rename_i this
          subst this
          exact Bool.eq_false_iff.mpr fun final => by simp [turns.1 final] at on
        · exact consistent.commentsWithoutFinal on
    patternWithFinal := by
      intro pattern
      rw [on_set]
      split
      · rename_i this
        subst this
        exact turns.2 pattern
      · exact consistent.patternWithFinal pattern }

/-- Turning switches off takes away choices that others exclude, so what is left goes together. -/
protected theorem stripped (consistent : config.Consistent) : config.stripped.Consistent := by
  unfold Config.stripped
  rw [clear_eq]
  refine consistent.of_switches fun other watched => ?_
  have absent : [Switch.keepNags, .keepComments, .keepMoveNumbers, .keepChecks,
      .keepVariations].contains other = false := by
    cases other <;> first | rfl | cases watched
  have kept := on_clear config
    [.keepNags, .keepComments, .keepMoveNumbers, .keepChecks, .keepVariations] other
  rw [absent, Bool.not_false, Bool.and_true] at kept
  exact kept

/-- Comments after every move take the place of the one at the end. -/
theorem fenComments (consistent : config.Consistent) (free : config.fenPattern = none) :
    ((config.set .fenComments true).set .finalFen false).Consistent := by
  have quiet : (config.set .finalFen false).Consistent :=
    consistent.set ⟨(nomatch ·), fun pattern => absurd free pattern⟩
  have commented : ((config.set .finalFen false).set .fenComments true).Consistent :=
    quiet.set fun _ => ⟨free, by simp⟩
  refine commented.of_switches fun switch _ => ?_
  have either : ((config.set .fenComments true).set .finalFen false).on switch =
      ((config.set .finalFen false).set .fenComments true).on switch := by
    cases switch <;> simp
  exact either

/-! ### Every change

One case for each change. The checks that come with a change are just what its case needs. -/

/-- Bounds that fit are in order, whatever they were before. -/
theorem ordered_of_apply {bounds changed : PlyBounds} {unit : BoundUnit} {side : BoundSide}
    {number : Nat} (made : bounds.apply unit side number = .ok changed) :
    changed.lower ≤ changed.upper := by
  have span : (unit.span number).1 ≤ (unit.span number).2 := by
    cases unit with
    | moves => exact Nat.sub_le _ _
    | ply => exact Nat.le_refl _
  unfold PlyBounds.apply at made
  cases side with
  | exact =>
    cases made
    exact span
  | lower =>
    simp only at made
    split at made <;> cases made
    simp only
    omega
  | upper =>
    simp only at made
    split at made <;> cases made
    simp only
    omega

/-- Every change that an option makes keeps a configuration consistent. -/
theorem change {changed : Config} (consistent : config.Consistent)
    (change : config.Change changed) : changed.Consistent := by
  cases change with
  | turn switch bare =>
    refine consistent.set ?_
    cases switch <;> trivial
  | verbosity level => exact { consistent with }
  | ending which alone =>
    refine consistent.set fun _ other different => alone other ?_
    cases which <;> cases other <;> first | exact absurd rfl different | decide
  | winner which alone =>
    refine consistent.set fun _ other different => ?_
    have rival : other = which.rival := by
      cases which <;> cases other <;> first | rfl | exact absurd rfl different
    rw [rival]
    exact alone
  | sideToMove side agrees => exact { consistent with }
  | setupTags policy agrees => exact { consistent with }
  | moveRule moves known unset =>
    exact { consistent with moveRuleKnown := fun _ chosen => by cases chosen; exact known }
  | repetition count known unset =>
    exact { consistent with repetitionKnown := fun _ chosen => by cases chosen; exact known }
  | onlyCommented kept => exact consistent.set trivial
  | dropComments unneeded => exact consistent.set trivial
  | splitVariants kept depth =>
    have turned : (config.set .splitVariants true).Consistent := consistent.set trivial
    exact { turned with }
  | dropVariations unneeded => exact consistent.set trivial
  | dropDuplicates unset => exact consistent.set unset
  | sevenTagRoster written unordered =>
    exact { consistent with rosterAlone := fun _ => unordered }
  | noTags free =>
    exact { consistent with rosterAlone := fun roster => by cases roster }
  | onlyWantedTags free => exact consistent.set free
  | dropComment comment => exact { consistent with }
  | dropPly ply => exact { consistent with }
  | lineMarker marker => exact { consistent with }
  | matchComment comment =>
    have turned : (config.set .markMatches true).Consistent := consistent.set trivial
    exact { turned with }
  | firstGame first positive fits =>
    exact { consistent with firstGamePositive := positive, windowOrdered := fits }
  | gameLimit limit fits => exact { consistent with windowOrdered := fits }
  | fuzzyDepth depth =>
    have turned : (config.set .fuzzyDuplicates true).Consistent := consistent.set trivial
    exact { turned with }
  | searchDepth depth deeper => exact { consistent with }
  | pieceCount count least =>
    exact { consistent with pieceCountLeast := fun _ chosen => by cases chosen; exact least }
  | plyLimit limit => exact { consistent with }
  | quietPly ply => exact { consistent with }
  | startPly ply least => exact { consistent with startPlyPositive := least }
  | maximumMatches count least =>
    exact { consistent with matchesLeast := fun _ chosen => by cases chosen; exact least }
  | selectOnly ranges => exact { consistent with }
  | skipMatching ranges => exact { consistent with }
  | plyBounds fits => exact { consistent with boundsOrdered := ordered_of_apply fits }
  | ecoLevel level inRange noOutput whole =>
    exact
      { consistent with
        outputOrLevel := .inl noOutput
        levelOrCount := .inr whole
        ecoLevelBounded := inRange.2 }
  | gamesPerFile games first noLevel noOutput =>
    exact { consistent with outputOrCount := .inl noOutput, levelOrCount := .inl noLevel }
  | outputFormat format => exact { consistent with }
  | addEco file =>
    have turned : (config.set .addEco true).Consistent := consistent.set trivial
    exact { turned with }
  | positional => exact consistent.set trivial
  | fenPattern pattern free =>
    have final : (config.set .finalFen true).Consistent :=
      consistent.set ⟨fun _ => free, fun _ => rfl⟩
    have flagged : (config.set .finalFen true).on .finalFen = true := by simp
    have uncommented : (config.set .finalFen true).on .fenComments = false := by simpa using free
    exact
      { final with
        commentsWithoutPattern := fun on => nomatch uncommented.symm.trans on
        patternWithFinal := fun _ => flagged }
  | finalFen =>
    refine consistent.set ⟨fun off => by simpa using off, fun pattern => ?_⟩
    cases commented : config.on .fenComments with
    | true => exact absurd (consistent.commentsWithoutPattern commented) pattern
    | false => rfl
  | fenComments free => exact consistent.fenComments free
  | noNonMatching => exact { consistent with }
  | nonMatchingOutput => exact { consistent with }
  | noLog => exact { consistent with }

/-- A file is put to use consistently. -/
theorem chooses {chosen : Config} {target : Target} (consistent : config.Consistent)
    (chooses : config.Chooses target chosen) : chosen.Consistent := by
  cases chooses with
  | output noLevel whole unset =>
    exact { consistent with outputOrLevel := .inr noLevel, outputOrCount := .inr whole }
  | duplicates kept =>
    exact { consistent with duplicatesKept := fun on => nomatch kept.symm.trans on }
  | nonMatching => exact { consistent with }
  | log => exact { consistent with }

end Consistent

end Config

end ExtractOptions

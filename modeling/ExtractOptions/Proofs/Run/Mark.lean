/-
Module: ExtractOptions.Proofs.Run.Mark
Purpose: the marks that options without a value leave in the configuration. A configuration refuses
  a mark if it bears one that opposes it. A mark that is not refused adds itself to those borne and
  takes none away, so marks that do not oppose each other may be left in either order.
Main exports: Mark, Config.marked, Config.bears, Mark.Opposes, Config.Refuses, Config.IsPlain,
  Config.bears_marked, Config.refuses_marked, Config.marked_comm, Stance.refuses_iff
-/
import ExtractOptions.Proofs.Run.Exclusion

namespace ExtractOptions

/-- What an option leaves in the configuration that reads no value. -/
inductive Mark where
  /-- A switch turned from where it starts. -/
  | turned (switch : Switch)
  | moveRule (moves : Nat)
  | repetition (count : Nat)
  | sideToMove (side : SideToMove)
  | setupTags (policy : SetupTags)
  | tagOutput (tags : TagOutput)
  | quiet
deriving DecidableEq, Repr

namespace Config

/-- The configuration with a mark left in it. -/
def marked (config : Config) : Mark → Config
  | .turned switch => config.set switch !switch.initially
  | .moveRule moves => { config with moveRule := some moves }
  | .repetition count => { config with repetition := some count }
  | .sideToMove side => { config with sideToMove := side }
  | .setupTags policy => { config with setupTags := policy }
  | .tagOutput tags => { config with tagOutput := tags }
  | .quiet => { config with verbosity := 0 }

/-- The mark is there. -/
def bears (config : Config) : Mark → Prop
  | .turned switch => config.on switch = !switch.initially
  | .moveRule moves => moves ∈ config.moveRule
  | .repetition count => count ∈ config.repetition
  | .sideToMove side => config.sideToMove = side
  | .setupTags policy => config.setupTags = policy
  | .tagOutput tags => config.tagOutput = tags
  | .quiet => config.verbosity = 0

end Config

namespace Mark

/-- An option without a value may leave the mark. -/
def IsFlag : Mark → Prop
  | turned switch => switch ≠ .finalFen
  | moveRule moves => moves = 50 ∨ moves = 75
  | repetition count => count = 3 ∨ count = 5
  | sideToMove side => side = .white ∨ side = .black
  | setupTags policy => policy = .excluded ∨ policy = .required
  | tagOutput tags => tags = .sevenTagRoster ∨ tags = .noTags
  | quiet => True

/-- The marks are in different places, so that neither writes over the other. -/
def Apart : Mark → Mark → Prop
  | turned switch, turned other => switch ≠ other
  | moveRule _, moveRule _ | repetition _, repetition _ | sideToMove _, sideToMove _
  | setupTags _, setupTags _ | tagOutput _, tagOutput _ | quiet, quiet => False
  | _, _ => True

end Mark

/-- The mark of a stance. The file for duplicates is not left by a flag. -/
def Stance.mark? : Stance → Option Mark
  | ending which => some (.turned (.onlyEnding which))
  | winner which => some (.turned (.onlyWinner which))
  | fiftyMoves => some (.moveRule 50)
  | seventyFiveMoves => some (.moveRule 75)
  | threefold => some (.repetition 3)
  | fivefold => some (.repetition 5)
  | whiteToMove => some (.sideToMove .white)
  | blackToMove => some (.sideToMove .black)
  | setupExcluded => some (.setupTags .excluded)
  | setupRequired => some (.setupTags .required)
  | sevenTags => some (.tagOutput .sevenTagRoster)
  | wantedTags => some (.turned .onlyWantedTags)
  | noTags => some (.tagOutput .noTags)
  | duplicatesFile => none
  | noDuplicates => some (.turned .suppressDuplicates)
  | noVariations => some (.turned .keepVariations)
  | splitVariants => some (.turned .splitVariants)
  | noComments => some (.turned .keepComments)
  | onlyCommented => some (.turned .onlyCommented)

/-- The marks belong to rival stances. -/
def Mark.Opposes (mark other : Mark) : Prop :=
  ∃ stance rival : Stance, stance.mark? = some mark ∧ rival.mark? = some other ∧
    rival ∈ stance.rivals

/-- The configuration bears a mark that opposes the given one. -/
def Config.Refuses (config : Config) (mark : Mark) : Prop :=
  ∃ other, mark.Opposes other ∧ config.bears other

/-! ### Marks of stances

Stances and marks correspond, but for the file for duplicates. So what excludes what can be said of
marks, and it is symmetric since rivalry is. -/

namespace Stance

/-- A stance is taken if its mark is there. -/
theorem isTaken_iff_bears {stance : Stance} {mark : Mark} (marks : stance.mark? = some mark)
    (config : Config) : stance.isTaken config ↔ config.bears mark := by
  cases stance <;> cases marks <;> exact Iff.rfl

/-- No two stances have one mark. -/
theorem eq_of_mark? {stance other : Stance} {mark : Mark} (marks : stance.mark? = some mark)
    (same : other.mark? = some mark) : other = stance := by
  have every : ∀ stance ∈ all, ∀ other ∈ all, stance.mark?.isSome → other.mark? = stance.mark? →
      other = stance := by decide +kernel
  exact every stance stance.mem_all other other.mem_all (by simp [marks]) (same.trans marks.symm)

/-- The marks of stances are of the kind that flags leave. -/
theorem isFlag_of_mark? {stance : Stance} {mark : Mark} (marks : stance.mark? = some mark) :
    mark.IsFlag := by
  cases stance <;> cases marks <;> simp [Mark.IsFlag]

/-- A switch that options turn without looking is the mark of no stance. -/
theorem mark?_ne_of_isBare {switch : Switch} (bare : switch.isBare = true) (stance : Stance) :
    stance.mark? ≠ some (.turned switch) := by
  intro marks
  cases stance <;> cases marks <;> cases bare

end Stance

namespace Mark

/-- Opposition is mutual, as rivalry is. -/
theorem Opposes.symm {mark other : Mark} (opposes : mark.Opposes other) : other.Opposes mark := by
  obtain ⟨stance, rival, marks, opposed, rivals⟩ := opposes
  exact ⟨rival, stance, opposed, marks, Stance.rivals_symm rivals⟩

theorem Opposes.isFlag {mark other : Mark} (opposes : mark.Opposes other) : other.IsFlag := by
  obtain ⟨stance, rival, marks, opposed, rivals⟩ := opposes
  exact Stance.isFlag_of_mark? opposed

/-- Marks of a place that takes one of two are the same or oppose each other. -/
theorem eq_or_opposes_of_pair {first last mark other : Mark} (opposes : first.Opposes last)
    (one : mark = first ∨ mark = last) (second : other = first ∨ other = last) :
    other = mark ∨ mark.Opposes other := by
  rcases one with rfl | rfl <;> rcases second with rfl | rfl
  · exact .inl rfl
  · exact .inr opposes
  · exact .inr opposes.symm
  · exact .inl rfl

/-- Flags that leave their marks in one place leave the same mark or oppose each other. -/
theorem eq_or_opposes {mark other : Mark} (flag : mark.IsFlag) (second : other.IsFlag)
    (together : ¬ mark.Apart other) : other = mark ∨ mark.Opposes other := by
  cases mark with
  | turned switch =>
    cases other with
    | turned switch' =>
      have same : switch = switch' := Decidable.not_not.mp together
      exact .inl (by rw [same])
    | _ => exact absurd trivial together
  | moveRule moves =>
    cases other with
    | moveRule moves' =>
      exact eq_or_opposes_of_pair ⟨.fiftyMoves, .seventyFiveMoves, rfl, rfl, by decide⟩
        (flag.imp (congrArg moveRule) (congrArg moveRule))
        (second.imp (congrArg moveRule) (congrArg moveRule))
    | _ => exact absurd trivial together
  | repetition count =>
    cases other with
    | repetition count' =>
      exact eq_or_opposes_of_pair ⟨.threefold, .fivefold, rfl, rfl, by decide⟩
        (flag.imp (congrArg repetition) (congrArg repetition))
        (second.imp (congrArg repetition) (congrArg repetition))
    | _ => exact absurd trivial together
  | sideToMove side =>
    cases other with
    | sideToMove side' =>
      exact eq_or_opposes_of_pair ⟨.whiteToMove, .blackToMove, rfl, rfl, by decide⟩
        (flag.imp (congrArg sideToMove) (congrArg sideToMove))
        (second.imp (congrArg sideToMove) (congrArg sideToMove))
    | _ => exact absurd trivial together
  | setupTags policy =>
    cases other with
    | setupTags policy' =>
      exact eq_or_opposes_of_pair ⟨.setupExcluded, .setupRequired, rfl, rfl, by decide⟩
        (flag.imp (congrArg setupTags) (congrArg setupTags))
        (second.imp (congrArg setupTags) (congrArg setupTags))
    | _ => exact absurd trivial together
  | tagOutput tags =>
    cases other with
    | tagOutput tags' =>
      exact eq_or_opposes_of_pair ⟨.sevenTags, .noTags, rfl, rfl, by decide⟩
        (flag.imp (congrArg tagOutput) (congrArg tagOutput))
        (second.imp (congrArg tagOutput) (congrArg tagOutput))
    | _ => exact absurd trivial together
  | quiet =>
    cases other with
    | quiet => exact .inl rfl
    | _ => exact absurd trivial together

end Mark

/-! ### Marks left one after the other

A mark is written to one place of the configuration. Marks in different places do not see each
other; two in the same place are the same or oppose each other. -/

namespace Config

variable {config : Config} {mark other : Mark}

/-- What is borne once a mark is left: that mark, and whatever was borne in another place. -/
theorem bears_marked_iff :
    (config.marked mark).bears other ↔ other = mark ∨ mark.Apart other ∧ config.bears other := by
  cases mark with
  | turned switch =>
    cases other with
    | turned switch' =>
      by_cases same : switch' = switch
      · subst same
        simp [marked, bears, Mark.Apart]
      · simp [marked, bears, Mark.Apart, same, Ne.symm same]
    | _ => simp [marked, bears, Mark.Apart, set]
  | _ => cases other <;> simp [marked, bears, Mark.Apart, on, eq_comm]

/-- Marks in different places may be left in either order. -/
theorem marked_comm_of_apart (apart : mark.Apart other) :
    (config.marked mark).marked other = (config.marked other).marked mark := by
  cases mark with
  | turned switch =>
    cases other with
    | turned switch' => exact set_comm config apart _ _
    | _ => rfl
  | _ => cases other <;> first | rfl | exact absurd apart id

/-- A mark that is there already is not left twice. -/
theorem marked_of_bears (bears : config.bears mark) : config.marked mark = config := by
  cases mark with
  | turned switch => exact set_of_on bears
  | _ =>
    cases config
    cases bears
    rfl

/-- A mark that is not refused is borne, and so is all that was borne before. -/
theorem bears_marked (flag : mark.IsFlag) (second : other.IsFlag)
    (accepted : ¬ config.Refuses mark) :
    (config.marked mark).bears other ↔ other = mark ∨ config.bears other := by
  rw [bears_marked_iff]
  constructor
  · rintro (same | ⟨-, borne⟩)
    · exact .inl same
    · exact .inr borne
  · rintro (same | borne)
    · exact .inl same
    · by_cases apart : mark.Apart other
      · exact .inr ⟨apart, borne⟩
      -- What is borne in the place of the mark is the mark, or else it would have been refused.
      · rcases Mark.eq_or_opposes flag second apart with same | opposes
        · exact .inl same
        · exact absurd ⟨other, opposes, borne⟩ accepted

/-- Once a mark is left, what opposes it is refused, and whatever was refused before. -/
theorem refuses_marked (flag : mark.IsFlag) (accepted : ¬ config.Refuses mark) :
    (config.marked mark).Refuses other ↔ config.Refuses other ∨ mark.Opposes other := by
  constructor
  · rintro ⟨third, opposes, borne⟩
    rcases (bears_marked flag opposes.isFlag accepted).mp borne with rfl | before
    · exact .inr opposes.symm
    · exact .inl ⟨third, opposes, before⟩
  · rintro (⟨third, opposes, before⟩ | opposes)
    · exact ⟨third, opposes, (bears_marked flag opposes.isFlag accepted).mpr (.inr before)⟩
    · exact ⟨mark, opposes.symm, (bears_marked flag flag accepted).mpr (.inl rfl)⟩

/-- Marks that do not oppose each other may be left in either order. -/
theorem marked_comm (flag : mark.IsFlag) (second : other.IsFlag) (agree : ¬ mark.Opposes other) :
    (config.marked mark).marked other = (config.marked other).marked mark := by
  by_cases apart : mark.Apart other
  · exact marked_comm_of_apart apart
  · rcases Mark.eq_or_opposes flag second apart with rfl | opposes
    · rfl
    · exact absurd opposes agree

end Config

/-! ### Configurations that flags lead to

Values other than marks could stand in the way of a flag too. A plain configuration has none of
them, and flags alone never lead out of it. -/

/-- Nothing but marks stands in the way of a flag: the rules in force are those that flags ask for,
duplicates have no file, and FEN comments are written where no pattern is looked for. -/
structure Config.IsPlain (config : Config) : Prop where
  moveRule : ∀ moves ∈ config.moveRule, moves = 50 ∨ moves = 75
  repetition : ∀ count ∈ config.repetition, count = 3 ∨ count = 5
  duplicates : config.duplicates = none
  fenPattern : config.fenPattern = none
  finalFen : config.on .finalFen = false

namespace Config.IsPlain

variable {config : Config}

/-- A run starts with a plain configuration. -/
theorem initially : IsPlain {} where
  moveRule := by simp
  repetition := by simp
  duplicates := rfl
  fenPattern := rfl
  finalFen := rfl

/-- A mark of a flag keeps a configuration plain. -/
theorem marked (plain : config.IsPlain) {mark : Mark} (flag : mark.IsFlag) :
    (config.marked mark).IsPlain := by
  cases mark with
  | turned switch =>
    have kept : (config.set switch !switch.initially).on .finalFen = false := by
      rw [Config.on_set, if_neg (Ne.symm flag)]
      exact plain.finalFen
    exact { plain with finalFen := kept }
  | moveRule moves =>
    have known : ∀ other ∈ some moves, other = 50 ∨ other = 75 := by
      rintro _ ⟨⟩
      exact flag
    exact { plain with moveRule := known }
  | repetition count =>
    have known : ∀ other ∈ some count, other = 3 ∨ other = 5 := by
      rintro _ ⟨⟩
      exact flag
    exact { plain with repetition := known }
  | sideToMove | setupTags | tagOutput | quiet => exact { plain with }

end Config.IsPlain

/-- In a plain configuration, a mark is refused if a rival of its stance is taken. -/
theorem Stance.refuses_iff {stance : Stance} {mark : Mark} (marks : stance.mark? = some mark)
    {config : Config} (plain : config.IsPlain) :
    config.Refuses mark ↔ ∃ rival ∈ stance.rivals, rival.isTaken config := by
  constructor
  · rintro ⟨other, ⟨taker, rival, own, opposed, rivals⟩, borne⟩
    rw [eq_of_mark? marks own] at rivals
    exact ⟨rival, rivals, (isTaken_iff_bears opposed config).mpr borne⟩
  · rintro ⟨rival, rivals, taken⟩
    cases opposed : rival.mark? with
    | some other =>
      exact ⟨other, ⟨stance, rival, marks, opposed, rivals⟩,
        (isTaken_iff_bears opposed config).mp taken⟩
    | none =>
      -- Only the file for duplicates is no mark, and there is none.
      cases rival <;> cases opposed
      exact absurd plain.duplicates taken

end ExtractOptions

/-
Module: ExtractOptions.Proofs.Run.Monotonicity
Purpose: runs only go forward. What was asked for stays asked for, limits are replaced but never
  lifted, and the lists of the registry are only extended. Every step does so, and with the steps
  every call, failed ones included; so each switch moves at most once in a whole run, away from where
  it started.
Main exports: Config.Ratchets, Registry.Extends, Session.Precedes, Session.Steps.precedes,
  Calls.sessions, MovesOnce, Calls.sessions_monotone
-/
import ExtractOptions.Proofs.Run.Chronology
import ExtractOptions.Proofs.Session.Latch

namespace ExtractOptions

/-! ### Configurations

Options that take a value may be given again and replace it. For the settings that `Ratchets` lists
there is no way back to none: what was given may change, but something stays given. -/

/-- What was given in the first configuration is given in the second, where not always the same. -/
structure Config.Ratchets (config changed : Config) : Prop where
  active : config.plyBounds.active = true → changed.plyBounds.active = true
  output : config.output ≠ none → changed.output = config.output
  searchDepth : config.searchDepth ≤ changed.searchDepth
  selectOnly : config.selectOnly ≠ none → changed.selectOnly ≠ none
  skipMatching : config.skipMatching ≠ none → changed.skipMatching ≠ none
  fenPattern : config.fenPattern ≠ none → changed.fenPattern ≠ none
  pieceCount : config.pieceCount ≠ none → changed.pieceCount ≠ none
  maximumMatches : config.maximumMatches ≠ none → changed.maximumMatches ≠ none
  ecoLevel : config.ecoLevel ≠ 0 → changed.ecoLevel ≠ 0

/-- Whichever bound is given, bounds are in force afterwards. -/
theorem PlyBounds.active_of_apply {bounds changed : PlyBounds} {unit : BoundUnit} {side : BoundSide}
    {number : Nat} (fits : bounds.apply unit side number = .ok changed) : changed.active = true := by
  cases side with
  | exact =>
    cases fits
    rfl
  | lower | upper =>
    simp only [PlyBounds.apply] at fits
    split at fits <;> cases fits
    rfl

namespace Config.Ratchets

variable {config changed : Config}

theorem refl (config : Config) : config.Ratchets config where
  active given := given
  output _ := rfl
  searchDepth := Nat.le_refl _
  selectOnly given := given
  skipMatching given := given
  fenPattern given := given
  pieceCount given := given
  maximumMatches given := given
  ecoLevel given := given

theorem trans {last : Config} (first : config.Ratchets changed) (second : changed.Ratchets last) :
    config.Ratchets last where
  active given := second.active (first.active given)
  output given := by
    have same := first.output given
    rw [second.output (by rwa [same]), same]
  searchDepth := Nat.le_trans first.searchDepth second.searchDepth
  selectOnly given := second.selectOnly (first.selectOnly given)
  skipMatching given := second.skipMatching (first.skipMatching given)
  fenPattern given := second.fenPattern (first.fenPattern given)
  pieceCount given := second.pieceCount (first.pieceCount given)
  maximumMatches given := second.maximumMatches (first.maximumMatches given)
  ecoLevel given := second.ecoLevel (first.ecoLevel given)

/-- Switches are of no account. -/
theorem stripped (config : Config) : config.Ratchets config.stripped := by
  rw [Config.stripped, clear_eq]
  exact { refl config with }

/-- A change keeps what was given, though maybe with another value. -/
theorem of_change (change : config.Change changed) : config.Ratchets changed := by
  cases change with
  | searchDepth depth deeper => exact { refl config with searchDepth := deeper }
  | pieceCount count least => exact { refl config with pieceCount := fun _ => by simp }
  | maximumMatches count least => exact { refl config with maximumMatches := fun _ => by simp }
  | selectOnly ranges => exact { refl config with selectOnly := fun _ => by simp }
  | skipMatching ranges => exact { refl config with skipMatching := fun _ => by simp }
  | plyBounds fits =>
    exact { refl config with active := fun _ => PlyBounds.active_of_apply fits }
  | ecoLevel level inRange noOutput whole =>
    exact { refl config with ecoLevel := fun _ => Nat.pos_iff_ne_zero.mp inRange.1 }
  | fenPattern pattern free => exact { refl config with fenPattern := fun _ => by simp }
  | turn | verbosity | ending | winner | sideToMove | setupTags | moveRule | repetition
  | onlyCommented | dropComments | splitVariants | dropVariations | dropDuplicates | sevenTagRoster
  | noTags | onlyWantedTags | dropComment | dropPly | lineMarker | matchComment | firstGame
  | gameLimit | fuzzyDepth | plyLimit | quietPly | startPly | gamesPerFile | outputFormat | addEco
  | positional | finalFen | fenComments | noNonMatching | nonMatchingOutput | noLog =>
    exact { refl config with }

/-- Output goes to the first file that was chosen for it. -/
theorem of_chooses {target : Target} (chooses : config.Chooses target changed) :
    config.Ratchets changed := by
  cases chooses with
  | output noLevel whole unset =>
    exact { refl config with output := fun given => absurd unset given }
  | duplicates | nonMatching | log => exact { refl config with }

end Config.Ratchets

/-! ### Registries

Requests are recorded at the end of their list, and nothing takes them away. -/

/-- Every list of the second registry starts with that of the first. -/
structure Registry.Extends (first second : Registry) : Prop where
  sources : first.sources <+: second.sources
  textualVariations : first.textualVariations <+: second.textualVariations
  positionalVariations : first.positionalVariations <+: second.positionalVariations
  tagCriteria : first.tagCriteria <+: second.tagCriteria
  roster : first.roster <+: second.roster
  suppressedTags : first.suppressedTags <+: second.suppressedTags
  materials : first.materials <+: second.materials
  fenPatterns : first.fenPatterns <+: second.fenPatterns
  ecoTables : first.ecoTables <+: second.ecoTables
  positionHashes : first.positionHashes <+: second.positionHashes

namespace Registry.Extends

theorem refl (registry : Registry) : registry.Extends registry where
  sources := List.prefix_rfl
  textualVariations := List.prefix_rfl
  positionalVariations := List.prefix_rfl
  tagCriteria := List.prefix_rfl
  roster := List.prefix_rfl
  suppressedTags := List.prefix_rfl
  materials := List.prefix_rfl
  fenPatterns := List.prefix_rfl
  ecoTables := List.prefix_rfl
  positionHashes := List.prefix_rfl

theorem trans {first second third : Registry} (one : first.Extends second)
    (other : second.Extends third) : first.Extends third where
  sources := one.sources.trans other.sources
  textualVariations := one.textualVariations.trans other.textualVariations
  positionalVariations := one.positionalVariations.trans other.positionalVariations
  tagCriteria := one.tagCriteria.trans other.tagCriteria
  roster := one.roster.trans other.roster
  suppressedTags := one.suppressedTags.trans other.suppressedTags
  materials := one.materials.trans other.materials
  fenPatterns := one.fenPatterns.trans other.fenPatterns
  ecoTables := one.ecoTables.trans other.ecoTables
  positionHashes := one.positionHashes.trans other.positionHashes

/-- A request is recorded behind those before it. -/
theorem record (registry : Registry) (request : Request) :
    registry.Extends (registry.record request) := by
  cases request with
  | textualVariation =>
    exact { refl registry with textualVariations := List.prefix_append _ _ }
  | positionalVariation =>
    exact { refl registry with positionalVariations := List.prefix_append _ _ }
  | tagCriterion => exact { refl registry with tagCriteria := List.prefix_append _ _ }
  | rosterLine => exact { refl registry with roster := List.prefix_append _ _ }
  | material => exact { refl registry with materials := List.prefix_append _ _ }
  | fenPattern => exact { refl registry with fenPatterns := List.prefix_append _ _ }
  | ecoTable => exact { refl registry with ecoTables := List.prefix_append _ _ }

end Registry.Extends

/-! ### Sessions

The three relations for switches, settings and lists together, shown for one step and then for any
number of steps. -/

/-- The second session may come later in a run than the first. -/
structure Session.Precedes (first second : Session) : Prop where
  latches : first.config.Latches second.config
  ratchets : first.config.Ratchets second.config
  registry : first.registry.Extends second.registry

namespace Session

variable {context : Context} {may : Deed → Prop} {first second : Session}

theorem Precedes.refl (session : Session) : session.Precedes session :=
  ⟨.refl _, .refl _, .refl _⟩

theorem Precedes.trans {third : Session} (one : first.Precedes second)
    (other : second.Precedes third) : first.Precedes third where
  latches := one.latches.trans other.latches
  ratchets := one.ratchets.trans other.ratchets
  registry := one.registry.trans other.registry

/-- One step keeps what was given. -/
theorem Step.ratchets (step : Session.Step context may first second) :
    first.config.Ratchets second.config := by
  cases step with
  | configure change => exact .of_change change
  | strip allowed => exact .stripped _
  | choose opened allowed choice => exact .of_chooses choice
  | setLineLength width => exact { Config.Ratchets.refl first.config with }
  | warn message =>
    obtain ⟨log, same⟩ := first.diagnose_config message
    have quiet : first.config.Ratchets { first.config with log } :=
      { Config.Ratchets.refl first.config with }
    rw [← same] at quiet
    exact quiet
  | countLetter | countName | countFile | countDataLine | enter | leave | record | addSource
  | suppressTag | addHash => exact .refl _

/-- One step extends the lists of the registry. -/
theorem Step.extends (step : Session.Step context may first second) :
    first.registry.Extends second.registry := by
  cases step with
  | record request passes => exact .record _ request
  | addSource path kind =>
    exact { Registry.Extends.refl first.registry with sources := List.prefix_append _ _ }
  | suppressTag tag =>
    exact { Registry.Extends.refl first.registry with suppressedTags := List.prefix_append _ _ }
  | addHash hash =>
    exact { Registry.Extends.refl first.registry with positionHashes := List.prefix_append _ _ }
  | setLineLength width => exact { Registry.Extends.refl first.registry with }
  | warn message =>
    have quiet : first.registry.Extends (first.diagnose message).registry := by
      rw [diagnose_registry]
      exact .refl _
    exact quiet
  | configure | strip | choose | countLetter | countName | countFile | countDataLine | enter
  | leave => exact .refl _

/-- One step goes forward, -/
theorem Step.precedes (step : Session.Step context may first second) : first.Precedes second :=
  ⟨step.latches, step.ratchets, step.extends⟩

/-- and so does any number of them. -/
theorem Steps.precedes (steps : Session.Steps context may first second) :
    first.Precedes second := by
  induction steps with
  | refl => exact .refl _
  | tail _ step ih => exact ih.trans step.precedes

end Session

/-! ### Calls

A failed call has taken steps too. So the order of sessions holds between any two of a run, whatever
failed between them. -/

/-- A call goes forward, whatever comes of it. -/
theorem Call.precedes (context : Context) (call : Call) (session : Session) :
    session.Precedes ((call.run context).after session) := by
  have chronology : Chronology context _ session _ _ := call.chronicles.chronology session
  exact chronology.steps.precedes

/-- The sessions before, between and after some calls, those that failed included. -/
def Calls.sessions (context : Context) : List Call → Session → List Session
  | [], session => [session]
  | call :: later, session =>
    session :: sessions context later ((call.run context).after session)

/-- No session in a run comes before the first one. -/
theorem Calls.precedes_of_mem {context : Context} {calls : List Call} {session later : Session}
    (among : later ∈ sessions context calls session) : session.Precedes later := by
  induction calls generalizing session with
  | nil =>
    rw [sessions, List.mem_singleton] at among
    rw [among]
    exact .refl session
  | cons call calls ih =>
    rcases List.mem_cons.mp among with rfl | among
    · exact .refl later
    · exact (call.precedes context session).trans (ih among)

/-- Every session of a run precedes all those after it. -/
theorem Calls.pairwise_precedes (context : Context) (calls : List Call) (session : Session) :
    (sessions context calls session).Pairwise Session.Precedes := by
  induction calls generalizing session with
  | nil => exact List.pairwise_singleton _ _
  | cons call calls ih =>
    apply List.Pairwise.cons
    · intro later among
      exact (call.precedes context session).trans (precedes_of_mem among)
    · exact ih _

/-! ### Switches in the course of a run

Since every session precedes those after it, the positions of a switch form a sequence that leaves
its start at most once. -/

/-- Something starts in a position and moves from it at most once, and then for good. -/
def MovesOnce (start : Bool) (positions : List Bool) : Prop :=
  ∃ before after,
    positions = List.replicate (before + 1) start ++ List.replicate after !start

/-- What stays away from its start once it left moves at most once. -/
theorem movesOnce_of_latched {start : Bool} {later : List Bool}
    (latched : (start :: later).Pairwise fun first second => (first = !start) → second = !start) :
    MovesOnce start (start :: later) := by
  obtain ⟨before, after, same⟩ := replicate_of_latched (List.pairwise_cons.mp latched).2
  exact ⟨before, after, by rw [same]; rfl⟩

/-- What starts in a position in a session and is latched by all that come after it moves once. -/
theorem Calls.movesOnce {context : Context} {calls : List Call} {session : Session}
    (view : Session → Bool)
    (latched : ∀ first second : Session, first.Precedes second →
      (view first = !view session) → view second = !view session) :
    MovesOnce (view session) ((sessions context calls session).map view) := by
  have ordered : ((sessions context calls session).map view).Pairwise fun first second =>
      (first = !view session) → second = !view session :=
    List.pairwise_map.mpr ((pairwise_precedes context calls session).imp fun {first second} =>
      latched first second)
  cases calls with
  | nil => exact movesOnce_of_latched ordered
  | cons call calls => exact movesOnce_of_latched ordered

/-- Runs are monotone. Whatever calls are made from the start, failed ones included, every session
precedes those after it: what was chosen stays chosen, limits are not lifted and lists are only
extended. Each switch but the one for the last FEN comment moves at most once, away from where it
started, and so do the bounds on the length of games. -/
theorem Calls.sessions_monotone (context : Context) (disk : Disk) (calls : List Call) :
    (Calls.sessions context calls { disk }).Pairwise Session.Precedes ∧
      (∀ switch : Switch, switch ≠ .finalFen →
        MovesOnce switch.initially
          ((Calls.sessions context calls { disk }).map fun session => session.config.on switch)) ∧
      MovesOnce false
        ((Calls.sessions context calls { disk }).map fun session =>
          session.config.plyBounds.active) := by
  refine ⟨pairwise_precedes context calls _, ?_, ?_⟩
  · intro switch other
    exact movesOnce (fun session => session.config.on switch) fun first second precedes moved =>
      precedes.latches.switches switch other moved
  · exact movesOnce (fun session => session.config.plyBounds.active)
      fun first second precedes active => precedes.ratchets.active active

end ExtractOptions

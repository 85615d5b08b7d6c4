/-
Module: ExtractOptions.Proofs.Session.Accord
Purpose: two facts that the configuration and the registry both hold: whether positions are looked
  for, and whether games are classified by ECO codes. They are written one after the other, and the
  rest of the tool may refuse in between. Most actions touch neither; an action that does writes both
  if it succeeds, and one that fails never leaves positions in the registry that go unannounced.
Main exports: Session.IsPrepared, Session.Settled, Session.SameAims, Action.Accords,
  LetterOption.alone_accords, NamedOption.alone_accords
-/
import ExtractOptions.Proofs.Config.Aims
import ExtractOptions.Proofs.Session.Atomic
import ExtractOptions.Proofs.Session.DataFile

namespace ExtractOptions

open Text ExtractOptions.Action

/-! ### What both records say

Being prepared is the half of the agreement that survives failures. Being settled is the whole of
it, which a failure in the middle of an option can break. -/

/-- The registry holds something to match positions against. -/
def Registry.MatchesPositions (registry : Registry) : Prop :=
  registry.positionHashes ≠ [] ∨ registry.fenPatterns ≠ [] ∨ registry.positionalVariations ≠ []

/-- Positions are looked for if there is something to match them against. -/
def Session.IsPrepared (session : Session) : Prop :=
  session.registry.MatchesPositions → session.config.on .positionalVariations = true

/-- What is announced is what the registry holds: positions to match, and tables of ECO codes, the last
of them from the file in force. -/
structure Session.Settled (session : Session) : Prop where
  positions :
    session.config.on .positionalVariations = true ↔ session.registry.MatchesPositions
  eco : session.config.on .addEco = true ↔ session.registry.ecoTables ≠ []
  ecoFile : session.registry.ecoTables ≠ [] →
    session.registry.ecoTables.getLast? = some session.config.ecoFile

/-- At first nothing is announced, and the registry is empty. -/
theorem Session.settled_start (disk : Disk) : ({ disk } : Session).Settled where
  positions := by simp [Registry.MatchesPositions, Config.on, Switches.initially, Switch.initially]
  eco := by simp [Config.on, Switches.initially, Switch.initially]
  ecoFile filled := absurd rfl filled

/-! ### What most actions leave alone

Most actions touch none of the fields that the two records share. They need no case of their own
below. -/

/-- Both registries hold the same positions to match and the same tables of ECO codes. -/
structure Registry.SameAims (registry changed : Registry) : Prop where
  positionHashes : changed.positionHashes = registry.positionHashes
  fenPatterns : changed.fenPatterns = registry.fenPatterns
  positionalVariations : changed.positionalVariations = registry.positionalVariations
  ecoTables : changed.ecoTables = registry.ecoTables

/-- Neither the configuration nor the registry changed in what a run aims at. -/
structure Session.SameAims (first second : Session) : Prop where
  config : first.config.SameAims second.config
  registry : first.registry.SameAims second.registry

namespace Session.SameAims

variable {first second : Session}

theorem refl (session : Session) : session.SameAims session :=
  ⟨.refl _, ⟨rfl, rfl, rfl, rfl⟩⟩

/-- Sessions with the same aims have positions to match, or neither has. -/
theorem matchesPositions_iff (same : first.SameAims second) :
    second.registry.MatchesPositions ↔ first.registry.MatchesPositions := by
  unfold Registry.MatchesPositions
  rw [same.registry.positionHashes, same.registry.fenPatterns,
    same.registry.positionalVariations]

theorem prepared (same : first.SameAims second) (prepared : first.IsPrepared) :
    second.IsPrepared := by
  intro positions
  rw [same.config.positional]
  exact prepared (same.matchesPositions_iff.mp positions)

theorem settled (same : first.SameAims second) (settled : first.Settled) : second.Settled where
  positions := by
    rw [same.config.positional, same.matchesPositions_iff]
    exact settled.positions
  eco := by
    rw [same.config.addEco, same.registry.ecoTables]
    exact settled.eco
  ecoFile := by
    rw [same.config.ecoFile, same.registry.ecoTables]
    exact settled.ecoFile

end Session.SameAims

/-- Positions are looked for in the second session, and there is something to match them against. -/
structure Session.Seeks (first second : Session) : Prop where
  positional : second.config.on .positionalVariations = true
  positions : second.registry.MatchesPositions
  addEco : second.config.on .addEco = first.config.on .addEco
  ecoFile : second.config.ecoFile = first.config.ecoFile
  ecoTables : second.registry.ecoTables = first.registry.ecoTables

theorem Session.Seeks.settled {first second : Session} (seeks : first.Seeks second)
    (settled : first.Settled) : second.Settled where
  positions := iff_of_true seeks.positional seeks.positions
  eco := by
    rw [seeks.addEco, seeks.ecoTables]
    exact settled.eco
  ecoFile := by
    rw [seeks.ecoFile, seeks.ecoTables]
    exact settled.ecoFile

/-! ### Actions

Accord is closed under the ways in which actions are put together. A failure needs to leave a
session prepared only, and the first part of a sequence succeeds whenever the whole does. -/

/-- The action leaves a prepared session prepared, and a settled one settled if it succeeds. -/
structure Action.Accords {α : Type} (action : Action α) : Prop where
  prepared : ∀ session : Session, session.IsPrepared → (action.after session).IsPrepared
  settled : ∀ {session left : Session} {answer : α}, action session = .ok answer left →
    session.Settled → left.Settled

namespace Action.Accords

variable {α β : Type} {context : Context}

/-- What never touches the aims of a run is in accord. -/
theorem of_sameAims {action : Action α}
    (same : ∀ session : Session, session.SameAims (action.after session)) : Accords action where
  prepared session := (same session).prepared
  settled {session} _ _ run settled := by
    have kept := same session
    rw [after_of_ok run] at kept
    exact kept.settled settled

/-- What changes nothing is in accord. -/
theorem of_looks {action : Action α} (looks : Looks action) : Accords action :=
  of_sameAims fun session => by rw [looks session]; exact .refl session

protected theorem pure (answer : α) : Accords (pure answer) :=
  of_looks (.pure answer)

protected theorem throw (failure : Failure) : Accords (throw failure : Action α) :=
  of_looks (.throw failure)

protected theorem get : Accords get :=
  of_looks .get

/-- Two actions in accord are so together: the first one succeeds where both do. -/
protected theorem bind {action : Action α} {next : α → Action β} (head : Accords action)
    (tail : ∀ answer, Accords (next answer)) : Accords (action >>= next) where
  prepared session prepared := by
    have first := head.prepared session prepared
    cases run : action session with
    | ok answer between =>
      rw [after_of_ok run] at first
      rw [after_bind_of_ok run]
      exact (tail answer).prepared between first
    | error failure between =>
      rw [after_of_error run] at first
      rw [after_bind_of_error run]
      exact first
  settled run settled := by
    obtain ⟨answer, between, first, last⟩ := bind_ok run
    exact (tail answer).settled last (head.settled first settled)

protected theorem forM {items : List α} {visit : α → Action Unit}
    (each : ∀ item, Accords (visit item)) : Accords (items.forM visit) := by
  induction items with
  | nil => exact .pure ()
  | cons item items ih => exact (each item).bind fun _ => ih

theorem modifyConfig {change : Config → Config}
    (same : ∀ config : Config, config.SameAims (change config)) :
    Accords (modifyConfig change) :=
  of_sameAims fun session => ⟨same session.config, ⟨rfl, rfl, rfl, rfl⟩⟩

theorem check (test : Config → Except Failure Unit) : Accords (check test) :=
  of_looks (.check test)

theorem requireFile (option : LetterOption) (file : String) :
    Accords (requireFile option file) :=
  of_looks (.requireFile option file)

theorem count (change : Counters → Counters) : Accords (count change) :=
  of_sameAims fun _ => ⟨.refl _, ⟨rfl, rfl, rfl, rfl⟩⟩

theorem setLineLength (width : Nat) : Accords (setLineLength width) :=
  of_sameAims fun _ => ⟨⟨rfl, rfl, rfl⟩, ⟨rfl, rfl, rfl, rfl⟩⟩

theorem addSource (path : String) (kind : SourceKind) : Accords (addSource path kind) :=
  of_sameAims fun _ => ⟨.refl _, ⟨rfl, rfl, rfl, rfl⟩⟩

theorem warn (message : String) : Accords (warn message) := by
  apply of_sameAims
  intro session
  obtain ⟨log, same⟩ := session.diagnose_config message
  have config : session.config.SameAims (session.diagnose message).config := by
    rw [same]
    exact ⟨rfl, rfl, rfl⟩
  have registry : session.registry.SameAims (session.diagnose message).registry := by
    rw [session.diagnose_registry]
    exact ⟨rfl, rfl, rfl, rfl⟩
  exact ⟨config, registry⟩

/-- No adjustment that an option makes has to do with aims. -/
theorem adjust {adjustment : Adjustment} (offered : adjustment.isOffered = true)
    (option : OptionName) (value : String) :
    Accords (adjust (adjustment.apply option value)) := by
  apply of_sameAims
  intro session
  cases made : adjustment.apply option value session.config with
  | error failure =>
    rw [after_of_error (by rw [adjust_apply, made])]
    exact .refl session
  | ok config =>
    rw [after_of_ok (by rw [adjust_apply, made])]
    exact ⟨(adjustment.yields_spares _ made).aims offered, ⟨rfl, rfl, rfl, rfl⟩⟩

/-- A request for something else than positions or ECO codes. -/
theorem request {request : Request}
    (other : ∀ registry : Registry, registry.SameAims (registry.record request))
    (origin : String) : Accords (Action.request context origin request) := by
  apply of_sameAims
  intro session
  cases verdict : context.gate session.registry request with
  | some reason =>
    rw [after_of_error (by rw [request_apply, verdict])]
    exact .refl session
  | none =>
    rw [after_of_ok (by rw [request_apply, verdict])]
    exact ⟨.refl _, other _⟩

/-- To open a file has nothing to do with aims. -/
theorem tryOpen (path : String) (mode : OpenMode) : Accords (tryOpen path mode) := by
  apply of_sameAims
  intro session
  cases made : session.disk.openTarget path mode with
  | error cause =>
    rw [after_of_ok (by rw [tryOpen_apply, made])]
    exact .refl session
  | ok answer =>
    obtain ⟨target, disk⟩ := answer
    rw [after_of_ok (by rw [tryOpen_apply, made])]
    exact ⟨.refl _, ⟨rfl, rfl, rfl, rfl⟩⟩

theorem choose (path : String) (mode : OpenMode) {use : Target → Config → Config}
    (same : ∀ target, ∀ config : Config, config.SameAims (use target config)) :
    Accords (do let target ← openTarget path mode; Action.modifyConfig (use target)) := by
  apply Accords.bind
  · apply (tryOpen path mode).bind
    intro opened
    cases opened with
    | ok target => exact .pure target
    | error cause => exact .throw _
  · intro target
    exact modifyConfig (same target)

theorem readLines (path : String) : Accords (readLines path) := by
  apply of_looks
  intro session
  cases reads : session.disk.readLines path with
  | ok lines => rw [after_of_ok (by rw [readLines_apply, reads])]
  | error cause => rw [after_of_error (by rw [readLines_apply, reads])]

theorem forLines {path : String} {visit : String → Action Unit}
    (each : ∀ line, Accords (visit line)) : Accords (forLines path visit) := by
  apply (readLines path).bind
  intro lines
  apply (Accords.forM each).bind
  intro _
  split
  · exact .throw _
  · exact .pure ()

/-! ### What reaches both records

The few actions that write to both records. The order in which they write decides what a refusal in
between leaves. -/

/-- An action that adds something to match positions against, if it succeeds. -/
theorem of_seeks {action : Action Unit}
    (fails : ∀ {session left : Session} {failure : Failure},
      action session = .error failure left → session.IsPrepared → left.IsPrepared)
    (seeks : ∀ {session left : Session}, action session = .ok () left → session.Seeks left) :
    Accords action where
  prepared session prepared := by
    cases run : action session with
    | ok _ left =>
      rw [after_of_ok run]
      exact fun _ => (seeks run).positional
    | error failure left =>
      rw [after_of_error run]
      exact fails run prepared
  settled run settled := (seeks run).settled settled

/-- A hash is recorded and announced together. -/
theorem matchHash (value : String) : Accords (matchHash value) := by
  apply of_seeks
  · intro session left failure fails prepared
    rwa [Atomic.matchHash value _ _ _ fails]
  · intro session left run
    unfold ExtractOptions.matchHash at run
    cases read : Value.hash? value with
    | none =>
      rw [read] at run
      cases run
    | some hash =>
      rw [read] at run
      cases run
      exact ⟨by simp, .inl (by simp), by simp, rfl, rfl⟩

/-- A pattern is recorded before positions are asked for, so a refusal announces nothing. -/
theorem fenPattern (origin pattern : String) (eitherColour : Bool) :
    Accords (do
      Action.request context origin (.fenPattern pattern eitherColour)
      Action.modifyConfig fun config => config.set .positionalVariations true) := by
  have whole := (Atomic.request context origin (.fenPattern pattern eitherColour)).before_total
    fun _ => .modifyConfig fun config => config.set .positionalVariations true
  apply of_seeks
  · intro session left failure fails prepared
    rwa [whole _ _ _ fails]
  · intro session left run
    rw [bind_apply, request_apply] at run
    cases verdict : context.gate session.registry (.fenPattern pattern eitherColour) with
    | some reason =>
      rw [verdict] at run
      cases run
    | none =>
      rw [verdict] at run
      cases run
      exact ⟨by simp, .inr (.inl (by simp [Registry.record])), by simp, rfl, rfl⟩

/-- A data line announces itself before it is recorded. -/
theorem deliver (kind : DataKind) (origin line : String) :
    Accords (deliver context kind.option origin line) := by
  by_cases positional : kind = .positionalVariations
  · subst positional
    apply of_seeks
    · intro session left failure fails _ _
      rw [deliver_apply] at fails
      cases verdict : context.gate session.registry _ with
      | none =>
        rw [verdict] at fails
        cases fails
      | some reason =>
        rw [verdict] at fails
        cases fails
        simp [Session.delivering]
    · intro session left run
      rw [deliver_apply] at run
      cases verdict : context.gate session.registry _ with
      | some reason =>
        rw [verdict] at run
        cases run
      | none =>
        rw [verdict] at run
        cases run
        refine ⟨by simp [Session.delivering], .inr (.inr ?_), by simp [Session.delivering], rfl, rfl⟩
        simp [DataKind.request, Registry.record]
  · have other : ∀ registry : Registry,
        registry.SameAims (registry.record (kind.request origin line)) := by
      intro registry
      cases kind with
      | positionalVariations => exact absurd rfl positional
      | tagCriteria | tagRoster | textualVariations | colouredEndings | endings =>
        exact ⟨rfl, rfl, rfl, rfl⟩
    rw [deliver_option]
    simp only [positional, if_false]
    exact (count _).bind fun _ => request other _

/-- Classifying games by ECO codes is announced before the table is asked for. -/
theorem useEcoFile (file : String) : Accords (useEcoFile context file) where
  prepared session prepared := by
    unfold ExtractOptions.useEcoFile
    simp only [after, bind_apply, modifyConfig_apply, get_apply, request_apply]
    cases context.gate session.registry _ with
    | some reason =>
      intro positions
      have asked := prepared positions
      simpa [Config.on, Config.set] using asked
    | none =>
      intro positions
      have asked := prepared positions
      simpa [Config.on, Config.set] using asked
  settled {session left _} run settled := by
    unfold ExtractOptions.useEcoFile at run
    simp only [bind_apply, modifyConfig_apply, get_apply, request_apply] at run
    cases verdict : context.gate session.registry _ with
    | some reason =>
      rw [verdict] at run
      cases run
    | none =>
      rw [verdict] at run
      cases run
      have positions := settled.positions
      constructor
      · simpa [Config.on, Config.set, Registry.record, Registry.MatchesPositions] using positions
      · simp [Config.on, Config.set, Registry.record]
      · simp [Registry.record]

/-! ### Effects of options

The effects of the options, put together from the actions above. None of them looks at the aims but
those that set them. -/

theorem selectOutput (option : LetterOption) (file : String) (mode : OpenMode) :
    Accords (selectOutput option file mode) := by
  apply (check _).bind
  intro _
  apply (requireFile option file).bind
  intro _
  exact choose file mode fun target config => ⟨rfl, rfl, rfl⟩

theorem selectDuplicates (file : String) : Accords (selectDuplicates file) := by
  apply (requireFile _ file).bind
  intro _
  apply (check _).bind
  intro _
  exact choose file .write fun target config => ⟨rfl, rfl, rfl⟩

theorem selectLog (file : String) (mode : OpenMode) : Accords (selectLog file mode) := by
  apply Accords.bind
  · exact modifyConfig fun config => ⟨rfl, rfl, rfl⟩
  · intro _
    apply (tryOpen file mode).bind
    intro opened
    cases opened with
    | ok target => exact modifyConfig fun config => ⟨rfl, rfl, rfl⟩
    | error cause => exact warn _

theorem selectNonMatching (file : String) : Accords (selectNonMatching file) := by
  apply (requireFile _ file).bind
  intro _
  apply Accords.bind
  · exact modifyConfig fun config => ⟨rfl, rfl, rfl⟩
  · intro _
    split
    · exact modifyConfig fun config => ⟨rfl, rfl, rfl⟩
    · exact choose file .write fun target config => ⟨rfl, rfl, rfl⟩

theorem readSourceList (path : String) (kind : SourceKind) : Accords (readSourceList path kind) := by
  apply forLines
  intro line
  split
  · exact .pure ()
  · exact addSource _ kind

theorem addCheckFile (file : String) : Accords (addCheckFile file) := by
  apply (requireFile _ file).bind
  intro _
  split
  · exact addSource file .check
  · exact readSourceList file .check

/-- The lines of a data file are in accord one by one. -/
theorem deliverNamedFile {option : LetterOption} (takes : option.persists = true)
    (file : String) : Accords (deliverNamedFile context option file) := by
  obtain ⟨kind, rfl⟩ := LetterOption.persists_iff.mp takes
  unfold ExtractOptions.deliverNamedFile
  split
  · exact .pure ()
  · apply forLines
    intro line
    split
    · exact .pure ()
    · exact deliver kind file line

theorem selectFormat (value : String) : Accords (selectFormat value) := by
  unfold ExtractOptions.selectFormat
  split
  · exact .throw _
  · split
    · apply (modifyConfig Config.SameAims.stripped).bind
      intro _
      apply (setLineLength uciLineLength).bind
      intro _
      exact modifyConfig fun config => ⟨rfl, rfl, rfl⟩
    · exact modifyConfig fun config => ⟨rfl, rfl, rfl⟩

theorem writeFen (value : String) : Accords (writeFen value) := by
  have finished : Accords (Action.modifyConfig fun config =>
      config.set .finalFen (!config.on .fenComments)) :=
    modifyConfig fun config => .set (by simp) (by simp)
  unfold ExtractOptions.writeFen
  split
  · apply Accords.get.bind
    intro session
    split
    · exact (warn _).bind fun _ => finished
    · apply Accords.bind
      · exact modifyConfig fun config => ⟨rfl, rfl, rfl⟩
      · exact fun _ => finished
  · exact finished

theorem commentWithFen (name : String) : Accords (commentWithFen name) := by
  apply Accords.get.bind
  intro session
  split
  · exact warn _
  · exact modifyConfig fun config =>
      Config.SameAims.trans (.set (by simp) (by simp)) (.set (by simp) (by simp))

theorem softBound (name : String) (unit : BoundUnit) (side : BoundSide) (value : String) :
    Accords (softBound name unit side value) := by
  unfold ExtractOptions.softBound
  split
  · exact .throw _
  · apply Accords.get.bind
    intro session
    split
    · exact modifyConfig fun config => ⟨rfl, rfl, rfl⟩
    · exact warn _

theorem withValue {go : Action Unit} (goes : Accords go) (name what value : String) :
    Accords (withValue name what value go) := by
  unfold ExtractOptions.withValue
  split
  · exact goes
  · exact .throw _

end Action.Accords

/-! ### Options

Every option that there is, letter by letter and name by name. -/

section

variable {context : Context}

/-- Every option with a letter is in accord. -/
theorem LetterOption.alone_accords (option : LetterOption) (value : String) :
    Accords (option.alone context value) := by
  apply (Accords.count _).bind
  intro _
  cases makes : option.adjustment? with
  | some adjustment =>
    rw [effect_of_adjustment? makes]
    exact .adjust (isOffered_of_adjustment? makes) _ _
  | none =>
    cases option with
    | appendOutput => exact .selectOutput _ _ _
    | writeOutput => exact .selectOutput _ _ _
    | duplicatesFile => exact .selectDuplicates _
    | writeLog => exact .selectLog _ _
    | appendLog => exact .selectLog _ _
    | nonMatchingFile => exact .selectNonMatching _
    | argumentFile => exact (Accords.requireFile _ _).bind fun _ => .pure ()
    | checkFile => exact .addCheckFile _
    | ecoFile => exact .useEcoFile _
    | fenComment => exact .writeFen value
    | sourceList => exact (Accords.requireFile _ _).bind fun _ => .readSourceList _ _
    | positionHash => exact .matchHash value
    | outputFormat => exact .selectFormat value
    | lineWidth =>
      simp only [effect]
      split
      · exact .setLineLength _
      · exact .throw _
    | tagCriterion => exact .request (fun registry => ⟨rfl, rfl, rfl, rfl⟩) _
    | tagRoster | tagCriteria | textualVariations | positionalVariations | colouredEndings
    | endings => exact .deliverNamedFile rfl _
    | help | helpAgain | named => exact .throw _
    | sevenTagRoster | gamesPerFile | moveBounds | dropComments | dropDuplicates | ecoLevel
    | checkmate | dropNags | plyBounds | exactOrder | checkOnly | soundex | silent
    | dropFirstCopies | dropVariations | virtualHashTable => cases makes

/-- Every option with a name is in accord. -/
theorem NamedOption.alone_accords {option : NamedOption} (listed : option ∈ NamedOption.all)
    (value : String) : Accords (option.alone context value) := by
  apply (Accords.count _).bind
  intro _
  unfold NamedOption.effect
  cases makes : option.action with
  | adjust adjustment => exact .adjust (isOffered_of_mem listed makes) _ _
  | letter letter => exact letter.alone_accords (option.letterValue value)
  | fenComments => exact .commentWithFen _
  | bound unit side => exact .softBound _ unit side value
  | suppressTag =>
    exact .withValue (.of_sameAims fun _ => ⟨.refl _, ⟨rfl, rfl, rfl, rfl⟩⟩) _ _ _
  | fenPattern eitherColour => exact .withValue (.fenPattern _ value eitherColour) _ _ _
  | material bothColours =>
    exact .withValue (.request (fun registry => ⟨rfl, rfl, rfl, rfl⟩) _) _ _ _
  | version => exact .throw _

end

end ExtractOptions

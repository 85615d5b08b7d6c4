/-
Module: ExtractOptions.Proofs.Session.Parts
Purpose: what options are put together from. Whatever an option does is a sequence of a few basic
  actions, so what holds of these and of sequences holds of every option. Only three options hand on
  their own value as a line of data; the others are made without that.
Main exports: Failure.isLineRefusal, Registry.lineCount, Action.Assembled,
  LetterOption.effect_assembled, NamedOption.effect_assembled, Session.recounted,
  LetterOption.alone_assembled, NamedOption.alone_assembled
-/
import ExtractOptions.Proofs.Config.Refusal
import ExtractOptions.Proofs.Session.DataFile
import ExtractOptions.Proofs.Session.Effect
import ExtractOptions.Proofs.Text.Pieces

namespace ExtractOptions

open Text

/-! ### Lines of data

Two things are told apart here that look alike: a line that comes from a file, and a value that an
option hands on as if it were one. -/

/-- The text says that a value comes from a line of data. -/
def isLineContext (context : String) : Bool :=
  [DataKind.tagCriteria, .tagRoster, .textualVariations, .positionalVariations, .colouredEndings,
    .endings].any fun kind => (kind.option.text ++ " line ").toList.isPrefixOf context.toList

/-- The rest of the tool refused a line of data. -/
def Failure.isLineRefusal : Failure → Bool
  | .refused context _ => isLineContext context
  | _ => false

/-- The failure of a data line that is refused is reported as one. -/
theorem DataKind.isLineRefusal_refusal (kind : DataKind) (origin line reason : String) :
    (kind.refusal origin line reason).isLineRefusal = true := by
  simp only [refusal, Failure.isLineRefusal, isLineContext, String.toList_append]
  cases kind <;> rfl

/-- What is wrong with an option is no refusal of a line. -/
theorem Failure.isLineRefusal_of_isObjection {failure : Failure}
    (objection : failure.isObjection = true) : failure.isLineRefusal = false := by
  cases failure with
  | usage | conflict => rfl
  | _ => cases objection

/-- The request hands on a line of data, or a value of the same sort. -/
def Request.isLine : Request → Bool
  | .textualVariation _ | .positionalVariation _ | .tagCriterion _ | .rosterLine _
  | .material .. => true
  | .fenPattern .. | .ecoTable _ => false

theorem DataKind.isLine_request (kind : DataKind) (origin line : String) :
    (kind.request origin line).isLine = true := by
  cases kind <;> rfl

namespace Registry

/-- How many lines of data are recorded. -/
def lineCount (registry : Registry) : Nat :=
  registry.textualVariations.length + registry.positionalVariations.length +
    registry.roster.length + registry.tagCriteria.length + registry.materials.length

/-- A line of data that is recorded is one more. -/
theorem lineCount_record (registry : Registry) (request : Request) :
    (registry.record request).lineCount = registry.lineCount + request.isLine.toNat := by
  cases request <;> simp only [record, lineCount, Request.isLine, List.length_append] <;>
    simp <;> omega

/-- No request records a source. -/
theorem sources_record (registry : Registry) (request : Request) :
    (registry.record request).sources = registry.sources := by
  cases request <;> rfl

end Registry

/-! ### Parts

The constructors are the basic actions of the program, and sequences of them. An induction over an
assembled action is one case for each, and it holds for every option at once. -/

/-- The action is put together from what options are made of. It hands on the lines of a data file
only if `hands` holds, and a line of data that is in no file only if `records` does. -/
inductive Action.Assembled (context : Context) (hands records : Prop) :
    {α : Type} → Action α → Prop where
  | protected pure {α : Type} (answer : α) : Assembled context hands records (pure answer : Action α)
  | protected throw {α : Type} {failure : Failure} (own : failure.isLineRefusal = false) :
    Assembled context hands records (throw failure : Action α)
  | protected bind {α β : Type} {action : Action α} {next : α → Action β}
      (first : Assembled context hands records action)
      (later : ∀ answer, Assembled context hands records (next answer)) :
    Assembled context hands records (action >>= next)
  | protected get : Assembled context hands records (get : Action Session)
  | protected modifyConfig (change : Config → Config) :
    Assembled context hands records (modifyConfig change)
  | protected modifyRegistry {change : Registry → Registry}
      (lines : ∀ registry, (change registry).lineCount = registry.lineCount)
      (sources : ∀ registry, (change registry).sources = registry.sources) :
    Assembled context hands records (modifyRegistry change)
  | protected tryOpen (path : String) (mode : OpenMode) :
    Assembled context hands records (tryOpen path mode)
  | protected addSource {path : String} (named : path ≠ "") (kind : SourceKind) :
    Assembled context hands records (addSource path kind)
  | protected deliver (kind : DataKind) (origin line : String) (allowed : hands) :
    Assembled context hands records (deliver context kind.option origin line)
  | protected request {origin : String} {request : Request} (other : request.isLine = false)
      (elsewhere : isLineContext origin = false) :
    Assembled context hands records (Action.request context origin request)
  | protected record (origin : String) (request : Request) (allowed : records) :
    Assembled context hands records (Action.request context origin request)
  | protected warn (message : String) :
    Assembled context hands records (warn message)

namespace Action.Assembled

variable {context : Context} {hands records : Prop}

protected theorem forM {α : Type} {items : List α} {visit : α → Action Unit}
    (each : ∀ item, Assembled context hands records (visit item)) :
    Assembled context hands records (items.forM visit) := by
  induction items with
  | nil => exact .pure ()
  | cons item items ih => exact (each item).bind fun _ => ih

/-- To object to an option is one of the parts. -/
protected theorem refuse {α : Type} {failure : Failure} (objection : failure.isObjection = true) :
    Assembled context hands records (throw failure : Action α) :=
  .throw (Failure.isLineRefusal_of_isObjection objection)

protected theorem setLineLength (width : Nat) :
    Assembled context hands records (setLineLength width) :=
  (Assembled.modifyConfig _).bind fun _ => .modifyRegistry (fun _ => rfl) fun _ => rfl

/-- An adjustment looks at the configuration, and is made or objected to. -/
protected theorem adjust (adjustment : Adjustment) (option : OptionName) (value : String) :
    Assembled context hands records (Action.adjust (adjustment.apply option value)) := by
  refine Assembled.get.bind fun session => ?_
  split
  · exact .modifyConfig _
  · rename_i failure refused
    exact .refuse (adjustment.refusal_apply option value session.config failure refused)

protected theorem check {test : Config → Except Failure Unit}
    (refusal : ∀ config, Refusal (test config)) :
    Assembled context hands records (check test) := by
  refine Assembled.get.bind fun session => ?_
  split
  · exact .pure ()
  · rename_i failure refused
    exact .refuse (refusal session.config failure refused)

protected theorem requireFile (option : LetterOption) (file : String) :
    Assembled context hands records (requireFile option file) := by
  unfold ExtractOptions.requireFile
  split
  · exact .throw rfl
  · exact .pure ()

protected theorem openTarget (path : String) (mode : OpenMode) :
    Assembled context hands records (openTarget path mode) := by
  refine (Assembled.tryOpen path mode).bind fun opened => ?_
  cases opened with
  | error cause => exact .throw rfl
  | ok target => exact .pure target

protected theorem readLines (path : String) :
    Assembled context hands records (readLines path) := by
  refine Assembled.get.bind fun session => ?_
  split
  · exact .pure _
  · exact .throw rfl

/-- What is done for every line of a file is assembled if each line is. -/
protected theorem forLines {path : String} {visit : String → Action Unit}
    (each : ∀ line, Assembled context hands records (visit line)) :
    Assembled context hands records (forLines path visit) := by
  refine (Assembled.readLines path).bind fun lines => (Assembled.forM each).bind fun _ => ?_
  split
  · exact .throw rfl
  · exact .pure ()

/-! ### What options do

Each effect is written out as an assembly. Later modules use the result for options and never look
at an effect again. -/

/-- A line that is not blank names a file. -/
protected theorem readSourceList (path : String) (kind : SourceKind) :
    Assembled context hands records (readSourceList path kind) := by
  refine Assembled.forLines fun line => ?_
  split
  · exact .pure ()
  · rename_i full
    exact .addSource (fun unnamed => full (isBlankText_of_trim_eq_empty unnamed)) kind

/-- A file of data lines is handed on by an option that may do so. -/
protected theorem deliverNamedFile {option : LetterOption} (takes : option.persists = true)
    (allowed : hands) (file : String) :
    Assembled context hands records (deliverNamedFile context option file) := by
  obtain ⟨kind, rfl⟩ := LetterOption.persists_iff.mp takes
  unfold ExtractOptions.deliverNamedFile
  split
  · exact .pure ()
  · refine Assembled.forLines fun line => ?_
    split
    · exact .pure ()
    · exact .deliver kind file line allowed

protected theorem addCheckFile (file : String) :
    Assembled context hands records (addCheckFile file) := by
  refine (Assembled.requireFile _ file).bind fun _ => ?_
  split
  · rename_i games
    refine .addSource ?_ .check
    rintro rfl
    revert games
    decide
  · exact .readSourceList file .check

protected theorem selectOutput (option : LetterOption) (file : String) (mode : OpenMode) :
    Assembled context hands records (selectOutput option file mode) := by
  refine (Assembled.check fun config => ?_).bind fun _ => ?_
  · refine (Refusal.checkNoEcoLevel config _).bind fun _ => ?_
    exact (Refusal.checkNoGamesPerFile config _).bind fun _ => .checkNoOutput config _
  · refine (Assembled.requireFile option file).bind fun _ => ?_
    exact (Assembled.openTarget file mode).bind fun _ => .modifyConfig _

protected theorem selectDuplicates (file : String) :
    Assembled context hands records (selectDuplicates file) := by
  refine (Assembled.requireFile _ file).bind fun _ => ?_
  refine (Assembled.check fun config => .clashIf _ _).bind fun _ => ?_
  exact (Assembled.openTarget file .write).bind fun _ => .modifyConfig _

protected theorem selectNonMatching (file : String) :
    Assembled context hands records (selectNonMatching file) := by
  refine (Assembled.requireFile _ file).bind fun _ => (Assembled.modifyConfig _).bind fun _ => ?_
  split
  · exact .modifyConfig _
  · exact (Assembled.openTarget file .write).bind fun _ => .modifyConfig _

protected theorem selectLog (file : String) (mode : OpenMode) :
    Assembled context hands records (selectLog file mode) := by
  refine (Assembled.modifyConfig _).bind fun _ =>
    (Assembled.tryOpen file mode).bind fun opened => ?_
  cases opened with
  | ok target => exact .modifyConfig _
  | error cause => exact .warn _

protected theorem useEcoFile (file : String) :
    Assembled context hands records (useEcoFile context file) := by
  refine (Assembled.modifyConfig _).bind fun _ => Assembled.get.bind fun session => .request rfl ?_
  simp only [isLineContext, String.toList_append]
  rfl

protected theorem selectFormat (value : String) :
    Assembled context hands records (selectFormat value) := by
  unfold ExtractOptions.selectFormat
  split
  · exact .throw rfl
  · split
    · refine (Assembled.modifyConfig _).bind fun _ => ?_
      exact (Assembled.setLineLength _).bind fun _ => .modifyConfig _
    · exact .modifyConfig _

protected theorem matchHash (value : String) :
    Assembled context hands records (matchHash value) := by
  unfold ExtractOptions.matchHash
  split
  · exact .throw rfl
  · refine Assembled.bind (.modifyRegistry ?_ ?_) fun _ => .modifyConfig _
    · exact fun _ => rfl
    · exact fun _ => rfl

protected theorem writeFen (value : String) :
    Assembled context hands records (writeFen value) := by
  unfold ExtractOptions.writeFen
  split
  · refine Assembled.get.bind fun session => ?_
    split
    · exact (Assembled.warn _).bind fun _ => .modifyConfig _
    · exact (Assembled.modifyConfig _).bind fun _ => .modifyConfig _
  · exact .modifyConfig _

protected theorem commentWithFen (name : String) :
    Assembled context hands records (commentWithFen name) := by
  refine Assembled.get.bind fun session => ?_
  split
  · exact .warn _
  · exact .modifyConfig _

protected theorem softBound (name : String) (unit : BoundUnit) (side : BoundSide)
    (value : String) :
    Assembled context hands records (softBound name unit side value) := by
  unfold ExtractOptions.softBound
  split
  · rename_i failure refused
    exact .refuse (Refusal.unsigned _ _ _ failure refused)
  · refine Assembled.get.bind fun session => ?_
    split
    · exact .modifyConfig _
    · exact .warn _

protected theorem withValue {go : Action Unit} (goes : Assembled context hands records go)
    (name what value : String) :
    Assembled context hands records (withValue name what value go) := by
  unfold ExtractOptions.withValue
  split
  · exact goes
  · rename_i failure refused
    exact .refuse (Refusal.required _ value what failure refused)

end Action.Assembled

/-! ### Options

The two tables of options, with what each may hand on. -/

/-- The option hands on its own value as a line of data. -/
def LetterOption.recordsValue : LetterOption → Bool
  | tagCriterion => true
  | _ => false

@[inherit_doc LetterOption.recordsValue]
def NamedOption.recordsValue (option : NamedOption) : Bool :=
  match option.action with
  | .letter letter => letter.recordsValue
  | .material _ => true
  | .adjust _ | .fenComments | .bound .. | .suppressTag | .fenPattern _ | .version => false

/-- The option is another name for one that takes data lines. -/
def NamedOption.persists (option : NamedOption) : Bool :=
  match option.action with
  | .letter letter => letter.persists
  | .adjust _ | .fenComments | .bound .. | .suppressTag | .fenPattern _ | .material _ | .version =>
    false

/-- The session with other numbers of options counted. -/
def Session.recounted (session : Session) (letters names : Nat) : Session :=
  { session with counters := { session.counters with letters, names } }

section Options

variable (context : Context)

open ExtractOptions.Action

/-- What a letter does is assembled from parts, and which of the two special parts it may use is
told by the letter. -/
theorem LetterOption.effect_assembled (option : LetterOption) (value : String) :
    Assembled context (option.persists = true) (option.recordsValue = true)
      (option.effect context (fun _ => pure ()) value) := by
  cases makes : option.adjustment? with
  | some adjustment =>
    rw [effect_of_adjustment? makes]
    exact .adjust _ _ _
  | none =>
    cases option with
    | appendOutput | writeOutput => exact .selectOutput _ _ _
    | duplicatesFile => exact .selectDuplicates _
    | nonMatchingFile => exact .selectNonMatching _
    | writeLog | appendLog => exact .selectLog _ _
    | argumentFile => exact (Assembled.requireFile _ _).bind fun _ => .pure ()
    | checkFile => exact .addCheckFile _
    | ecoFile => exact .useEcoFile _
    | sourceList => exact (Assembled.requireFile _ _).bind fun _ => .readSourceList _ _
    | fenComment => exact .writeFen value
    | positionHash => exact .matchHash value
    | outputFormat => exact .selectFormat value
    | lineWidth =>
      simp only [effect]
      split
      · exact .setLineLength _
      · rename_i failure refused
        exact .refuse (Refusal.plain value .lineWidth failure refused)
    | tagCriterion => exact .record _ _ rfl
    | tagRoster | tagCriteria | textualVariations | positionalVariations | colouredEndings
    | endings => exact .deliverNamedFile rfl rfl _
    | help | helpAgain | named => exact .throw rfl
    | sevenTagRoster | gamesPerFile | moveBounds | dropComments | dropDuplicates | ecoLevel
    | checkmate | dropNags | plyBounds | exactOrder | checkOnly | soundex | silent
    | dropFirstCopies | dropVariations | virtualHashTable => cases makes

/-- A letter that the option stands for is left out. -/
theorem NamedOption.effect_assembled {option : NamedOption}
    (own : ∀ letter, option.action ≠ .letter letter) (value : String) :
    Assembled context (option.persists = true) (option.recordsValue = true)
      (option.effect context (fun _ => pure ()) value) := by
  unfold effect recordsValue
  cases makes : option.action with
  | letter letter => exact absurd makes (own letter)
  | adjust adjustment => exact .adjust _ _ _
  | fenComments => exact .commentWithFen _
  | bound unit side => exact .softBound _ unit side value
  | suppressTag =>
    refine .withValue (.modifyRegistry ?_ ?_) _ _ _
    · exact fun _ => rfl
    · exact fun _ => rfl
  | fenPattern eitherColour =>
    refine .withValue ((Assembled.request rfl ?_).bind fun _ => .modifyConfig _) _ _ _
    simp only [isLineContext, String.toList_append]
    rfl
  | material bothColours => exact .withValue (.record _ _ rfl) _ _ _
  | version => exact .throw rfl

/-- An option by letter is counted, and the rest is put together. -/
theorem LetterOption.alone_assembled (option : LetterOption) (value : String) (session : Session) :
    ∃ (rest : Action Unit) (letters names : Nat),
      Assembled context (option.persists = true) (option.recordsValue = true) rest ∧
        option.alone context value session = rest (session.recounted letters names) :=
  ⟨_, session.counters.letters + 1, session.counters.names, option.effect_assembled context value,
    rfl⟩

/-- An option by name is counted, together with a letter that it may stand for, and the rest is put
together. -/
theorem NamedOption.alone_assembled (option : NamedOption) (value : String) (session : Session) :
    ∃ (rest : Action Unit) (letters names : Nat),
      Assembled context (option.persists = true) (option.recordsValue = true) rest ∧
        option.alone context value session = rest (session.recounted letters names) := by
  cases makes : option.action with
  | letter letter =>
    obtain ⟨rest, letters, names, assembled, same⟩ :=
      letter.alone_assembled context (option.letterValue value) session.named
    refine ⟨rest, letters, names, ?_, (alone_of_letter makes value session).trans same⟩
    simpa only [persists, recordsValue, makes] using assembled
  | adjust | fenComments | bound | suppressTag | fenPattern | material | version =>
    refine ⟨_, session.counters.letters, session.counters.names + 1,
      option.effect_assembled context (fun letter => ?_) value, rfl⟩
    simp [makes]

end Options

end ExtractOptions

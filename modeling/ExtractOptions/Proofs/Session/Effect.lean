/-
Module: ExtractOptions.Proofs.Session.Effect
Purpose: what an option does by itself, an argument file that it names left unread. Whatever the
  option, the session goes by steps, and only the option's own deeds are done on the way.
Main exports: LetterOption.target?, LetterOption.may, LetterOption.alone, NamedOption.may,
  NamedOption.alone, LetterOption.alone_steps, NamedOption.alone_steps
-/
import ExtractOptions.Named.Effect
import ExtractOptions.Proofs.Session.Step

namespace ExtractOptions

open Text ExtractOptions.Action

/-! ### The deeds of an option

What an option may do beyond the ordinary is computed from its value and the disk that it meets.
Reading an argument file is left out here, since that is a run of its own. -/

/-- The path that an option opens for output when it has the given value. -/
def LetterOption.target? (option : LetterOption) (value : String) : Option String :=
  match option with
  | appendOutput | duplicatesFile | writeLog | appendLog | writeOutput => some (skipSpaces value)
  | nonMatchingFile =>
    if skipSpaces value = "stdout" then none else some (skipSpaces value)
  | _ => none

/-- The deeds of an option with the given value on the given disk. -/
def LetterOption.may (option : LetterOption) (value : String) (disk : Disk) : Deed → Prop
  | .opening place =>
    ∃ path, option.target? value = some path ∧ disk.placeForOutput path = .ok place
  | .stripping => option = .outputFormat ∧ OutputFormat.parse? value = some .uci

/-- What an option does, an argument file that it names left unread. -/
def LetterOption.alone (context : Context) (option : LetterOption) (value : String) :
    Action Unit :=
  option.perform context (fun _ => pure ()) value

/-- The value that the letter of a named option gets. -/
def NamedOption.letterValue (option : NamedOption) (value : String) : String :=
  if option.takesValue then value else ""

/-- The deeds of a named option with the given value on the given disk. -/
def NamedOption.may (option : NamedOption) (value : String) (disk : Disk) (deed : Deed) : Prop :=
  match option.action with
  | .letter letter => letter.may (option.letterValue value) disk deed
  | _ => False

/-- What a named option does, an argument file that it names left unread. -/
def NamedOption.alone (context : Context) (option : NamedOption) (value : String) :
    Action Unit := do
  Action.count fun counters => { counters with names := counters.names + 1 }
  option.effect context (fun _ => pure ()) value

/-- The session with one more option counted that was given by name. -/
def Session.named (session : Session) : Session :=
  { session with counters := { session.counters with names := session.counters.names + 1 } }

/-- The session with one more option counted that was given by letter. -/
def Session.lettered (session : Session) : Session :=
  { session with counters := { session.counters with letters := session.counters.letters + 1 } }

/-- Only one option needs to know how an argument file is read, and only if it names one. -/
theorem LetterOption.perform_eq_alone {context : Context} {includeFile : String → Action Unit}
    {option : LetterOption} {value : String}
    (unread : option = .argumentFile → skipSpaces value = "") :
    option.perform context includeFile value = option.alone context value := by
  cases option with
  | argumentFile =>
    funext session
    simp [alone, perform, effect, requireFile, unread rfl]
  | _ => rfl

/-- An option reads an argument file, or it names none. -/
theorem LetterOption.reads_or_unread (option : LetterOption) (value : String) :
    option = .argumentFile ∧ skipSpaces value ≠ "" ∨
      (option = .argumentFile → skipSpaces value = "") := by
  by_cases reads : option = .argumentFile ∧ skipSpaces value ≠ ""
  · exact .inl reads
  · exact .inr fun same => Decidable.byContradiction fun named => reads ⟨same, named⟩

/-- An option reads an argument file, or it does not need to know how one is read. -/
theorem LetterOption.reads_or_alone (context : Context) (option : LetterOption) (value : String) :
    option = .argumentFile ∧ skipSpaces value ≠ "" ∨
      ∀ includeFile, option.perform context includeFile value = option.alone context value :=
  (option.reads_or_unread value).imp_right fun unread _ => perform_eq_alone unread

/-- Naming an argument file reads it, once the option is counted. -/
theorem LetterOption.perform_argumentFile {context : Context} {includeFile : String → Action Unit}
    {value : String} (named : skipSpaces value ≠ "") (session : Session) :
    argumentFile.perform context includeFile value session =
      includeFile (skipSpaces value) session.lettered := by
  simp [perform, effect, requireFile, named, Session.lettered]

/-- Naming an argument file only counts, where the file is left unread. -/
theorem LetterOption.alone_argumentFile {context : Context} {value : String}
    (named : skipSpaces value ≠ "") (session : Session) :
    argumentFile.alone context value session = .ok () session.lettered :=
  perform_argumentFile named session

/-- The adjustment that an option comes down to, if it changes the configuration alone. -/
def LetterOption.adjustment? : LetterOption → Option Adjustment
  | sevenTagRoster => some .sevenTagRoster
  | gamesPerFile => some .gamesPerFile
  | moveBounds => some (.bound .moves)
  | dropComments => some .dropComments
  | dropDuplicates => some .dropDuplicates
  | ecoLevel => some .ecoLevel
  | checkmate => some (.ending .checkmate)
  | dropNags => some (.turn .keepNags false)
  | plyBounds => some (.bound .ply)
  | exactOrder => some (.turn .anyMoveOrder false)
  | checkOnly => some (.turn .checkOnly true)
  | soundex => some (.turn .soundex true)
  | silent => some (.verbosity 1)
  | dropFirstCopies => some (.turn .suppressFirstCopies true)
  | dropVariations => some .dropVariations
  | virtualHashTable => some (.turn .virtualHashTable true)
  | _ => none

/-- An option that comes down to an adjustment makes it. -/
theorem LetterOption.effect_of_adjustment? {context : Context}
    {includeFile : String → Action Unit} {option : LetterOption} {adjustment : Adjustment}
    (makes : option.adjustment? = some adjustment) (value : String) :
    option.effect context includeFile value =
      Action.adjust (adjustment.apply (.letter option) value) := by
  cases option <;> cases makes <;> rfl

/-- Every adjustment of a letter is one that options make. -/
theorem LetterOption.isOffered_of_adjustment? {option : LetterOption} {adjustment : Adjustment}
    (makes : option.adjustment? = some adjustment) : adjustment.isOffered = true := by
  cases option <;> cases makes <;> rfl

/-- No name stands for the option that reads an argument file. -/
theorem NamedOption.ne_argumentFile {option : NamedOption} {letter : LetterOption}
    (listed : option ∈ NamedOption.all) (stands : option.action = .letter letter) :
    letter ≠ .argumentFile := by
  have every : ∀ option ∈ NamedOption.all, option.action ≠ .letter .argumentFile := by decide
  rintro rfl
  exact every option listed stands

/-- Named options do not need to know how an argument file is read. -/
theorem NamedOption.effect_eq {context : Context} {includeFile : String → Action Unit}
    {option : NamedOption} (listed : option ∈ NamedOption.all) (value : String) :
    option.effect context includeFile value =
      option.effect context (fun _ => pure ()) value := by
  unfold NamedOption.effect
  cases makes : option.action with
  | letter letter =>
    exact LetterOption.perform_eq_alone fun same => absurd same (ne_argumentFile listed makes)
  | adjust | fenComments | bound | suppressTag | fenPattern | material | version => rfl

/-- Another name for a letter does what the letter does. -/
theorem NamedOption.alone_of_letter {context : Context} {option : NamedOption}
    {letter : LetterOption} (stands : option.action = .letter letter) (value : String)
    (session : Session) :
    option.alone context value session =
      letter.alone context (option.letterValue value) session.named := by
  simp [alone, effect, stands, LetterOption.alone, letterValue, Session.named]

/-- A letter that comes down to an adjustment counts itself and makes it. -/
theorem LetterOption.alone_of_adjustment? {context : Context} {option : LetterOption}
    {adjustment : Adjustment} (makes : option.adjustment? = some adjustment) (value : String)
    (session : Session) :
    option.alone context value session =
      match adjustment.apply (.letter option) value session.config with
      | .ok config => .ok () { session.lettered with config }
      | .error failure => .error failure session.lettered := by
  cases made : adjustment.apply (.letter option) value session.config <;>
    simp [alone, perform, effect_of_adjustment? makes, adjust_apply, made, Session.lettered]

/-- A name that makes an adjustment counts itself and makes it. -/
theorem NamedOption.alone_of_adjust {context : Context} {option : NamedOption}
    {adjustment : Adjustment} (makes : option.action = .adjust adjustment) (value : String)
    (session : Session) :
    option.alone context value session =
      match adjustment.apply (.named option.name) value session.config with
      | .ok config => .ok () { session.named with config }
      | .error failure => .error failure session.named := by
  cases made : adjustment.apply (.named option.name) value session.config <;>
    simp [alone, effect, makes, adjust_apply, made, Session.named]

/-- A name does what its option does, and answers what was used. -/
theorem performNamed_eq {context : Context} {includeFile : String → Action Unit} {name : String}
    {option : NamedOption} (found : NamedOption.find? name = some option) (value : String) :
    performNamed context includeFile name value =
      (fun _ => option.consumed value) <$> option.alone context value := by
  have listed : option ∈ NamedOption.all := List.mem_of_find?_eq_some found
  funext session
  have same : option.effect context includeFile value = _ := NamedOption.effect_eq listed value
  simp only [performNamed, found, NamedOption.alone, bind_apply, map_apply, count_apply, same]
  rfl

/-- What a name does, whatever was used. -/
theorem discard_performNamed {context : Context} {includeFile : String → Action Unit} {name : String}
    {option : NamedOption} (found : NamedOption.find? name = some option) (value : String) :
    discard (performNamed context includeFile name value) = option.alone context value := by
  have same : discard (performNamed context includeFile name value) =
      (fun _ => ()) <$> performNamed context includeFile name value := rfl
  rw [same, performNamed_eq found]
  funext session
  rw [map_apply, map_apply]
  cases option.alone context value session <;> rfl

/-- An unknown name fails, whatever comes after it. -/
theorem performNamed_of_unknown {context : Context} {includeFile : String → Action Unit}
    {name : String} (unknown : NamedOption.find? name = none) (value : String) :
    performNamed context includeFile name value = throw (.usage (.unknownName name)) := by
  unfold performNamed
  rw [unknown]

/-- What it takes for an option that is given by name to succeed. -/
theorem performNamed_eq_ok {context : Context} {includeFile : String → Action Unit}
    {name value : String}
    {session left : Session} {consumed : Consumed}
    (run : performNamed context includeFile name value session = .ok consumed left) :
    ∃ option, NamedOption.find? name = some option ∧ option.consumed value = consumed ∧
      option.alone context value session = .ok () left := by
  cases found : NamedOption.find? name with
  | none =>
    unfold performNamed at run
    rw [found] at run
    cases run
  | some option =>
    rw [performNamed_eq found, map_apply] at run
    cases does : option.alone context value session with
    | error failure between =>
      rw [does] at run
      cases run
    | ok done between =>
      rw [does] at run
      cases run
      exact ⟨option, rfl, rfl, does⟩

/-! ### Opening a file

Opening a file is the one deed that depends on the disk. The lemmas ask for leave to open at the
place where the path leads, and nowhere else. -/

/-- A file that could be opened is open at the place of its path. -/
theorem openTarget_eq_ok {disk opened : Disk} {path : String} {mode : OpenMode} {target : Target}
    (made : disk.openTarget path mode = .ok (target, opened)) :
    disk.placeForOutput path = .ok target.place ∧ opened = disk.opened target.place mode := by
  unfold Disk.openTarget at made
  cases found : disk.placeForOutput path with
  | error cause => simp [found, bind, Except.bind] at made
  | ok place =>
    simp only [found, bind, Except.bind, pure, Except.pure, Except.ok.injEq, Prod.mk.injEq] at made
    obtain ⟨rfl, rfl⟩ := made
    exact ⟨rfl, rfl⟩

/-- What a file is opened as, if it can be opened. -/
theorem tryOpen_eq_ok {path : String} {mode : OpenMode} {session left : Session} {target : Target}
    (run : tryOpen path mode session = .ok (.ok target) left) :
    ∃ disk, session.disk.openTarget path mode = .ok (target, disk) := by
  rw [tryOpen_apply] at run
  cases made : session.disk.openTarget path mode with
  | error cause =>
    rw [made] at run
    cases run
  | ok answer =>
    rw [made] at run
    cases run
    exact ⟨_, rfl⟩

section Opening

variable {context : Context} {may : Deed → Prop} {path : String} {session : Session}

/-- Opening a file and putting it to use is one step. -/
theorem choose_steps {mode : OpenMode} {use : Target → Config → Config}
    (allowed : ∀ place, session.disk.placeForOutput path = .ok place → may (.opening place))
    (chooses : ∀ target, session.config.Chooses target (use target session.config)) :
    Session.Steps context may session
      ((do let target ← openTarget path mode; modifyConfig (use target)).after session) := by
  cases made : session.disk.openTarget path mode with
  | error cause => rw [after_of_error (by rw [bind_apply, openTarget_apply, made])]
  | ok answer =>
    obtain ⟨target, disk⟩ := answer
    rw [after_of_ok (by rw [bind_apply, openTarget_apply, made]; rfl)]
    exact .single (.choose made (allowed _ (openTarget_eq_ok made).1) (chooses target))

theorem requireFile_goesBy (option : LetterOption) (file : String) :
    GoesBy (Session.Step context may) (requireFile option file) := by
  unfold requireFile
  split
  · exact .throw _
  · exact .pure ()

/-- A check that passes leaves the session alone. -/
theorem check_eq_ok {test : Config → Except Failure Unit} {left : Session} {done : Unit}
    (run : check test session = .ok done left) :
    left = session ∧ test session.config = .ok () := by
  rw [check_apply] at run
  cases outcome : test session.config with
  | ok => rw [outcome] at run; cases run; exact ⟨rfl, rfl⟩
  | error failure => rw [outcome] at run; cases run

/-- Where a file name was asked for and given, nothing has changed. -/
theorem requireFile_eq_ok {option : LetterOption} {file : String} {left : Session} {done : Unit}
    (run : requireFile option file session = .ok done left) : left = session := by
  unfold requireFile at run
  split at run <;> cases run
  rfl

/-- Choosing a file for output takes the one deed of opening it. -/
theorem selectOutput_steps (option : LetterOption) (mode : OpenMode)
    (allowed : ∀ place, session.disk.placeForOutput path = .ok place → may (.opening place)) :
    Session.Steps context may session ((selectOutput option path mode).after session) := by
  refine reaches_bind (check_goesBy _ session) fun _ between checked => ?_
  obtain ⟨rfl, passed⟩ := check_eq_ok checked
  refine reaches_bind (requireFile_goesBy option path between) fun _ later required => ?_
  obtain rfl := requireFile_eq_ok required
  obtain ⟨_, noLevel, passed⟩ := bind_eq_ok.mp passed
  obtain ⟨_, whole, unset⟩ := bind_eq_ok.mp passed
  exact choose_steps allowed fun _ => .output (checkNoEcoLevel_eq_ok.mp noLevel)
    (checkNoGamesPerFile_eq_ok.mp whole) (checkNoOutput_eq_ok.mp unset)

theorem selectDuplicates_steps
    (allowed : ∀ place, session.disk.placeForOutput path = .ok place → may (.opening place)) :
    Session.Steps context may session ((selectDuplicates path).after session) := by
  refine reaches_bind (requireFile_goesBy _ path session) fun _ between required => ?_
  obtain rfl := requireFile_eq_ok required
  refine reaches_bind (check_goesBy _ between) fun _ later checked => ?_
  obtain ⟨rfl, passed⟩ := check_eq_ok checked
  exact choose_steps allowed fun _ => .duplicates (by simpa using clashIf_eq_ok.mp passed)

/-- Directing diagnostics to a file takes the one deed of opening it. -/
theorem selectLog_steps (mode : OpenMode)
    (allowed : ∀ place, session.disk.placeForOutput path = .ok place → may (.opening place)) :
    Session.Steps context may session ((selectLog path mode).after session) := by
  refine reaches_bind (.single (.configure .noLog)) fun _ between given => ?_
  cases given
  cases made : session.disk.openTarget path mode with
  | error cause =>
    rw [after_bind_of_ok (by rw [tryOpen_apply, made])]
    exact warn_goesBy _ _
  | ok answer =>
    obtain ⟨target, disk⟩ := answer
    rw [after_bind_of_ok (by rw [tryOpen_apply, made])]
    exact .single (.choose made (allowed _ (openTarget_eq_ok made).1) .log)

/-- Standard output is no file, and any other name takes the deed of opening it. -/
theorem selectNonMatching_steps
    (allowed : path ≠ "stdout" →
      ∀ place, session.disk.placeForOutput path = .ok place → may (.opening place)) :
    Session.Steps context may session ((selectNonMatching path).after session) := by
  refine reaches_bind (requireFile_goesBy _ path session) fun _ between required => ?_
  obtain rfl := requireFile_eq_ok required
  refine reaches_bind (.single (.configure .noNonMatching)) fun _ later given => ?_
  cases given
  split
  · exact .single (.configure .nonMatchingOutput)
  · rename_i named
    exact choose_steps (allowed named) fun _ => .nonMatching

end Opening

/-! ### Every other effect

The remaining effects take no leave, or the one for stripping the output. -/

section Effects

variable {context : Context} {may : Deed → Prop}

/-- A file of data lines goes by steps, line after line. -/
theorem deliverFile_goesBy (option : LetterOption) (path : String) :
    GoesBy (Session.Step context may) (deliverFile context option path) := by
  refine forLines_goesBy fun line => ?_
  split
  · exact .pure ()
  · exact Aside.goesBy (deliver_asides option path line)

theorem readSourceList_goesBy (path : String) (kind : SourceKind) :
    GoesBy (Session.Step context may) (readSourceList path kind) := by
  refine forLines_goesBy fun line => ?_
  split
  · exact .pure ()
  · exact Aside.goesBy (addSource_asides _ kind)

theorem deliverNamedFile_goesBy (option : LetterOption) (file : String) :
    GoesBy (Session.Step context may) (deliverNamedFile context option file) := by
  unfold deliverNamedFile
  split
  · exact .pure ()
  · exact deliverFile_goesBy option file

theorem addCheckFile_goesBy (file : String) :
    GoesBy (Session.Step context may) (addCheckFile file) := by
  refine (requireFile_goesBy _ file).bind fun _ => ?_
  split
  · exact Aside.goesBy (addSource_asides file .check)
  · exact readSourceList_goesBy file .check

theorem useEcoFile_goesBy (file : String) :
    GoesBy (Session.Step context may) (useEcoFile context file) := by
  refine (modifyConfig_goesBy fun _ => .addEco _).bind fun _ => ?_
  exact GoesBy.bind (fun _ => .refl) fun _ => Aside.goesBy (request_asides _ _)

theorem matchHash_goesBy (value : String) :
    GoesBy (Session.Step context may) (matchHash value) := by
  unfold matchHash
  split
  · exact .throw _
  · exact GoesBy.bind (fun _ => .single (.addHash _)) fun _ =>
      modifyConfig_goesBy fun _ => .positional

/-- The notation that needs nothing but moves strips the output; the others leave it alone. -/
theorem selectFormat_goesBy (value : String)
    (allowed : OutputFormat.parse? value = some .uci → may .stripping) :
    GoesBy (Session.Step context may) (selectFormat value) := by
  unfold selectFormat
  split
  · exact .throw _
  · rename_i format parsed
    have chosen : GoesBy (Session.Step context may)
        (modifyConfig fun config => { config with outputFormat := format }) :=
      modifyConfig_goesBy fun _ => .outputFormat format
    split
    · rename_i same
      subst same
      exact GoesBy.bind (fun _ => .single (.strip (allowed parsed))) fun _ =>
        (setLineLength_goesBy uciLineLength).bind fun _ => chosen
    · exact chosen

/-- A pattern and the flag that goes with it change together, so that neither is ever without the
other. -/
theorem writeFen_goesBy (value : String) :
    GoesBy (Session.Step context may) (writeFen value) := by
  have finished : GoesBy (Session.Step context may)
      (modifyConfig fun config => config.set .finalFen (!config.on .fenComments)) :=
    modifyConfig_goesBy fun _ => .finalFen
  unfold writeFen
  split
  · intro session
    rw [after_bind_of_ok (get_apply session)]
    cases commented : session.config.on .fenComments with
    | true => exact (warn_goesBy _).bind (fun _ => finished) session
    | false =>
      have changes : session.config.Change
          { session.config.set .finalFen true with fenPattern := some value } :=
        .fenPattern value commented
      have flag : (!session.config.on .fenComments) = true := by rw [commented]; rfl
      rw [← flag] at changes
      exact .single (.configure changes)
  · exact finished

/-- Comments after every move and the flag that they rule out change together as well. -/
theorem commentWithFen_goesBy (name : String) :
    GoesBy (Session.Step context may) (commentWithFen name) := by
  intro session
  unfold commentWithFen
  rw [after_bind_of_ok (get_apply session)]
  cases chosen : session.config.fenPattern with
  | some pattern =>
    rw [if_pos (by simp)]
    exact warn_goesBy _ session
  | none =>
    rw [if_neg (by simp)]
    exact .single (.configure (.fenComments chosen))

theorem softBound_goesBy (name : String) (unit : BoundUnit) (side : BoundSide) (value : String) :
    GoesBy (Session.Step context may) (softBound name unit side value) := by
  unfold softBound
  split
  · exact .throw _
  · rename_i n _
    intro session
    rw [after_bind_of_ok (get_apply session)]
    split
    · rename_i bounds fits
      exact .single (.configure (.plyBounds fits))
    · exact warn_goesBy _ session

theorem withValue_goesBy {go : Action Unit} (goes : GoesBy (Session.Step context may) go)
    (name what value : String) :
    GoesBy (Session.Step context may) (withValue name what value go) := by
  unfold withValue
  split
  · exact goes
  · exact .throw _

end Effects

/-! ### Options as a whole

All cases together: whatever option is given, its steps stay within its own deeds. -/

/-- An option named by a letter goes by steps, with no other deeds than its own. -/
theorem LetterOption.alone_steps (context : Context) (option : LetterOption) (value : String)
    (session : Session) :
    Session.Steps context (option.may value session.disk) session
      ((option.alone context value).after session) := by
  have opens : ∀ path, option.target? value = some path →
      ∀ place, session.disk.placeForOutput path = .ok place →
        option.may value session.disk (.opening place) :=
    fun path same place found => ⟨path, same, found⟩
  refine reaches_bind (.single .countLetter) fun _ between counted => ?_
  cases counted
  cases makes : option.adjustment? with
  | some adjustment =>
    rw [effect_of_adjustment? makes]
    exact adjust_goesBy (isOffered_of_adjustment? makes) _ _ _
  | none =>
    cases option with
    | appendOutput => exact selectOutput_steps _ _ (opens _ rfl)
    | writeOutput => exact selectOutput_steps _ _ (opens _ rfl)
    | duplicatesFile => exact selectDuplicates_steps (opens _ rfl)
    | writeLog => exact selectLog_steps _ (opens _ rfl)
    | appendLog => exact selectLog_steps _ (opens _ rfl)
    | nonMatchingFile =>
      exact selectNonMatching_steps fun named => opens _ (by simp [target?, named])
    | argumentFile => exact (requireFile_goesBy _ _).bind (fun _ => .pure ()) _
    | checkFile => exact addCheckFile_goesBy _ _
    | ecoFile => exact useEcoFile_goesBy _ _
    | fenComment => exact writeFen_goesBy value _
    | sourceList =>
      exact (requireFile_goesBy _ _).bind (fun _ => readSourceList_goesBy _ _) _
    | positionHash => exact matchHash_goesBy value _
    | outputFormat => exact selectFormat_goesBy value (fun uci => ⟨rfl, uci⟩) _
    | lineWidth =>
      simp only [effect]
      split
      · exact setLineLength_goesBy _ _
      · exact .refl
    | tagCriterion => exact Aside.goesBy (request_asides _ _) _
    | tagRoster | tagCriteria | textualVariations | positionalVariations | colouredEndings
    | endings => exact deliverNamedFile_goesBy _ _ _
    | help | helpAgain | named => exact .refl
    | sevenTagRoster | gamesPerFile | moveBounds | dropComments | dropDuplicates | ecoLevel
    | checkmate | dropNags | plyBounds | exactOrder | checkOnly | soundex | silent
    | dropFirstCopies | dropVariations | virtualHashTable => cases makes

/-- A named option goes by steps, with no other deeds than its letter's. -/
theorem NamedOption.alone_steps (context : Context) {option : NamedOption}
    (listed : option ∈ NamedOption.all) (value : String) (session : Session) :
    Session.Steps context (option.may value session.disk) session
      ((option.alone context value).after session) := by
  refine reaches_bind (.single .countName) fun _ between counted => ?_
  cases counted
  unfold NamedOption.effect
  cases makes : option.action with
  | adjust adjustment => exact adjust_goesBy (isOffered_of_mem listed makes) _ _ _
  | letter letter =>
    have deeds : option.may value session.disk =
        letter.may (option.letterValue value) session.disk := by
      funext deed
      simp [may, makes]
    rw [deeds]
    exact letter.alone_steps context (option.letterValue value) session.named
  | fenComments => exact commentWithFen_goesBy _ _
  | bound unit side => exact softBound_goesBy _ unit side value _
  | suppressTag => exact withValue_goesBy (fun _ => .single (.suppressTag value)) _ _ _ _
  | fenPattern eitherColour =>
    exact withValue_goesBy ((Aside.goesBy (request_asides _ _)).bind fun _ =>
      modifyConfig_goesBy fun _ => .positional) _ _ _ _
  | material bothColours => exact withValue_goesBy (Aside.goesBy (request_asides _ _)) _ _ _ _
  | version => exact .refl

end ExtractOptions

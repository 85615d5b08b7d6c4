/-
Module: ExtractOptions.Proofs.Inclusion.Trail
Purpose: lines and argument files on mirrored sessions. Whatever the options given in a run are, the
  second session follows the first one through them as long as each of them spares the two files.
  An argument file that both sessions read is read alike, and the second session may have more
  levels of files left.
Main exports: Given.opens?, Given.reads?, Given.Spares, Trails, readNested_trails
-/
import ExtractOptions.Proofs.Disk.Lines
import ExtractOptions.Proofs.Inclusion.Effect
import ExtractOptions.Proofs.Run.Given

namespace ExtractOptions

open Text ExtractOptions.Action

/-! ### Options that spare the two files

From the options given in a run to what the effects of options need. What an option opens and what
it reads are computed from its value and the disk it meets, so the condition can be checked on a
trace. -/

namespace Given

/-- The place that the option opens for output, if there is one. -/
def opens? (given : Given) : Option Location := do
  let (letter, value) ← given.option.asLetter? given.value
  let path ← letter.target? value
  (given.session.disk.placeForOutput path).toOption

/-- The place that the option reads as data or as a list, if there is one. -/
def reads? (given : Given) : Option Location := do
  let (letter, value) ← given.option.asLetter? given.value
  let path ← letter.source? value
  let (place, _) ← (given.session.disk.find path).toOption
  return place

/-- The option neither opens one of the two files for output nor reads the outer one as data. -/
structure Spares (inclusion : Inclusion) (given : Given) : Prop where
  opens : ∀ place, given.opens? = some place → ¬ inclusion.reserves place
  reads : ∀ place, given.reads? = some place → place ≠ inclusion.swap.place

instance (inclusion : Inclusion) (place : Location) : Decidable (inclusion.reserves place) :=
  inferInstanceAs (Decidable (_ ∨ _))

instance (inclusion : Inclusion) (given : Given) : Decidable (given.Spares inclusion) :=
  decidable_of_iff ((∀ place ∈ given.opens?, ¬ inclusion.reserves place) ∧
      ∀ place ∈ given.reads?, place ≠ inclusion.swap.place)
    ⟨fun parts => ⟨parts.1, parts.2⟩, fun spares => ⟨spares.opens, spares.reads⟩⟩

/-- A name that stands for a letter spares the files exactly as the letter does. -/
theorem Spares.letter {inclusion : Inclusion} {given : Given} {letter : LetterOption}
    {value : String} (spares : given.Spares inclusion)
    (stands : given.option.asLetter? given.value = some (letter, value)) :
    letter.Spares inclusion value given.session.disk where
  target := by
    intro path names place chosen
    refine spares.opens place ?_
    simp [opens?, stands, names, chosen, Except.toOption]
  source := by
    intro path names place node found
    refine spares.reads place ?_
    simp [reads?, stands, names, found, Except.toOption]

end Given

/-! ### Following a run

Options that spare the two files are followed whatever they do. The statement is about all options
given in a run, so it is built up along the trace of the run. -/

/-- The second action follows the first one wherever the options given in the first one spare the
two files. -/
def Trails {α : Type} (start finish : Stage) (trace : Trace) (action follower : Action α) : Prop :=
  ∀ session, (∀ given ∈ trace session, given.Spares start.toInclusion) →
    Follows start finish action follower session

section Options

variable {context : Context} {stage : Stage} {includeFile followFile : String → Action Unit}
  {included : String → Trace}

/-- An option with a letter is followed if the reading that it may start is. -/
theorem LetterOption.trails (blind : context.gate.IgnoresOrigins)
    (includes : ∀ file, Trails stage stage (included file) (includeFile file) (followFile file))
    (option : LetterOption) (value : String) :
    Trails stage stage (option.given context included value)
      (option.perform context includeFile value) (option.perform context followFile value) := by
  intro session spares
  rcases option.reads_or_unread value with ⟨rfl, named⟩ | unread
  · simp only [given_argumentFile named, List.mem_cons, forall_eq_or_imp] at spares
    refine (Matches.count fun _ _ => by ac_rfl).follows.bind fun _ between done => ?_
    cases done
    refine (Matches.requireFile _ _).follows.bind fun _ between required => ?_
    obtain rfl := requireFile_eq_ok required
    exact includes (skipSpaces value) _ spares.2
  · rw [perform_eq_alone unread, perform_eq_alone unread]
    simp only [given_alone unread, List.mem_singleton, forall_eq] at spares
    exact (option.alone_matches blind (spares.letter rfl)).follows

theorem performNamed_trails (blind : context.gate.IgnoresOrigins) (name value : String) :
    Trails stage stage (givenByName name value) (performNamed context includeFile name value)
      (performNamed context followFile name value) := by
  intro session spares
  cases found : NamedOption.find? name with
  | none =>
    unfold performNamed
    rw [found]
    exact .throw _ _
  | some option =>
    have listed : option ∈ NamedOption.all := List.mem_of_find?_eq_some found
    simp only [givenByName, found, List.mem_singleton, forall_eq] at spares
    rw [performNamed_eq found, performNamed_eq found]
    refine (NamedOption.alone_matches blind listed fun letter stands => ?_).follows.map
    exact spares.letter (by simp [AnyOption.asLetter?, stands])

/-! ### Lines

A line is a directive, data, or nothing, for both sessions alike. Only data may be told apart, by
its origin, and only when the request shows it. -/

/-- The stage after some tag criteria changed their origin. -/
def Stage.noting (stage : Stage) (lines : List String) : Stage :=
  { stage with moved := stage.moved ++ lines }

@[simp] theorem Stage.noting_nil (stage : Stage) : stage.noting [] = stage := by
  simp [noting]

@[simp] theorem Stage.noting_noting (stage : Stage) (lines more : List String) :
    (stage.noting lines).noting more = stage.noting (lines ++ more) := by
  simp [noting, List.append_assoc]

/-- The origin of a tag criterion is nothing that the gate looks at. -/
theorem requestMoved_follows (blind : context.gate.IgnoresOrigins) (line origin other : String)
    (session : Session) :
    Follows stage (stage.noting [line])
      (Action.request context origin (.tagCriterion ⟨line, stage.inner⟩))
      (Action.request context other (.tagCriterion ⟨line, stage.outer⟩)) session := by
  intro mirrored mirror _ left run
  have alike : context.gate mirrored.registry (.tagCriterion ⟨line, stage.outer⟩) =
      context.gate session.registry (.tagCriterion ⟨line, stage.inner⟩) := by
    rw [mirror.gate_eq blind, blind _ (.tagCriterion ⟨line, stage.outer⟩),
      blind _ (.tagCriterion ⟨line, stage.inner⟩)]
    rfl
  rw [request_apply] at run
  cases verdict : context.gate session.registry (.tagCriterion ⟨line, stage.inner⟩) with
  | some reason =>
    rw [verdict] at run
    cases run
  | none =>
    rw [verdict] at run
    cases run
    refine ⟨_, ?_, mirror.record_moved line⟩
    rw [request_apply, alike, verdict]

/-- The two origins that a line of data has in the two sessions. The lines of the wanted options are
those whose request shows the difference. -/
def Delivers (context : Context) (stage : Stage) (wanted : LetterOption → Bool)
    (origin other : String) : Prop :=
  ∀ (moved : List String) (option : LetterOption) (line : String) (session : Session),
    Follows { stage with moved }
      (({ stage with moved } : Stage).noting (if wanted option then [line] else []))
      (deliver context option origin line) (deliver context option other line) session

/-- Lines of one file have one origin. -/
theorem delivers_same (blind : context.gate.IgnoresOrigins) (origin : String) :
    Delivers context stage (fun _ => false) origin origin := by
  intro moved option line session
  simp only [Bool.false_eq_true, if_false, Stage.noting_nil]
  exact (Matches.deliver blind option origin line).follows

/-- Lines of the inner file are lines of the outer one to the second session, which shows in tag
criteria. -/
theorem delivers_moved (blind : context.gate.IgnoresOrigins) :
    Delivers context stage (· == .tagCriteria) stage.inner stage.outer := by
  intro moved option line session
  obtain ⟨kind, rfl⟩ | takes := option.exists_kind_or
  case inr =>
    -- Such a line fails in the first session, which says nothing about the second one.
    intro mirrored _ _ left run
    rw [deliver_of_not_persists takes] at run
    cases run
  cases kind with
  | tagCriteria =>
    refine (Matches.count fun _ _ => rfl).follows.bind fun _ between _ => ?_
    exact requestMoved_follows blind line _ _ between
  | tagRoster | textualVariations | positionalVariations | colouredEndings | endings =>
    have unmoved : ({ stage with moved } : Stage).noting [] = { stage with moved } :=
      Stage.noting_nil _
    rw [if_neg (by decide), unmoved]
    exact .deliver blind rfl

/-- A line of the first session is followed by the same line in the second one. Only an option in
force for the second session alone sets them apart, and that does nothing. -/
theorem interpretLine_follows (blind : context.gate.IgnoresOrigins) {wanted : LetterOption → Bool}
    {origin other line : String} {pending opposite : Option LetterOption} {session mirrored : Session}
    (includes : ∀ file, Trails stage stage (included file) (includeFile file) (followFile file))
    (delivers : Delivers context stage wanted origin other)
    (related : pending = none ∨ pending = opposite)
    (spares : ∀ given ∈ givenInLine context included line session,
      given.Spares stage.toInclusion)
    (mirror : Mirror stage session mirrored) {answer : Option LetterOption} {left : Session}
    (run : interpretLine context includeFile origin pending line session = .ok answer left) :
    ∃ reply after, interpretLine context followFile other opposite line mirrored =
        .ok reply after ∧
      (answer = none ∨ answer = reply) ∧
      answer = (LineForm.ofText line).pendingAfter pending ∧
      Mirror (stage.noting (dataLine wanted pending line)) left after := by
  rw [interpretLine_eq] at run ⊢
  unfold givenInLine at spares
  unfold dataLine
  cases form : LineForm.ofText line with
  | blank =>
    rw [form] at run
    cases run
    exact ⟨opposite, mirrored, rfl, related, rfl, by simpa using mirror⟩
  | named name value =>
    rw [form] at run spares
    have goes : Follows stage stage
        (discard (performNamed context includeFile name value))
        (discard (performNamed context followFile name value)) session :=
      (performNamed_trails blind name value session spares).map
    obtain ⟨rfl, after, followed, still⟩ := goes.replies mirror run none
    exact ⟨none, after, followed, .inl rfl, rfl, by simpa using still⟩
  | letter option value =>
    rw [form] at run spares
    have goes := option.trails blind includes value session spares
    obtain ⟨rfl, after, followed, still⟩ :=
      goes.replies mirror run (if option.persists then some option else none)
    exact ⟨_, after, followed, .inr rfl, rfl, by simpa using still⟩
  | source path =>
    rw [form] at run
    obtain ⟨rfl, after, followed, still⟩ :=
      (Matches.addSource path .normal).follows.replies mirror run opposite
    exact ⟨opposite, after, followed, related, rfl, by simpa using still⟩
  | data =>
    rw [form] at run
    cases pending with
    | none => cases run
    | some option =>
      obtain impossible | rfl := related
      · cases impossible
      · obtain ⟨rfl, after, followed, still⟩ :=
          (delivers stage.moved option line session).replies mirror run (some option)
        exact ⟨some option, after, followed, .inr rfl, rfl, still⟩
  | unknown failure =>
    rw [form] at run
    cases run

/-- The lines of a file that is neither of the two are the same in both sessions. -/
theorem interpretLines_trails (blind : context.gate.IgnoresOrigins)
    (includes : ∀ file, Trails stage stage (included file) (includeFile file) (followFile file))
    {reader : LineReader} (away : reader.place ≠ stage.swap.place) (allowance : Nat)
    {pending opposite : Option LetterOption} (related : pending = none ∨ pending = opposite) :
    Trails stage stage (givenInLines context includeFile included allowance reader pending)
      (interpretLines context includeFile allowance reader pending)
      (interpretLines context followFile allowance reader opposite) := by
  -- The options in force may drift apart only by the first session having none.
  induction allowance generalizing reader pending opposite with
  | zero => exact fun _ _ => .throw _ _
  | succ allowance ih =>
    intro session spares mirrored mirror _ left run
    rw [interpretLines_apply] at run ⊢
    rw [givenInLines_apply] at spares
    rw [mirror.disk.next_eq away]
    cases read : reader.next session.disk with
    | error cause =>
      rw [read] at run
      cases run
    | ok next =>
      rw [read] at run spares
      cases next with
      | none =>
        cases run
        exact ⟨mirrored, rfl, mirror⟩
      | some next =>
        obtain ⟨line, later⟩ := next
        obtain ⟨answer, between, done, ended⟩ := bind_ok run
        simp only [Trace.andThen_of_ok done, List.mem_append] at spares
        have elsewhere : later.place ≠ stage.swap.place := by
          rw [LineReader.next_place read]
          exact away
        obtain ⟨reply, middle, followed, agree, -, still⟩ :=
          interpretLine_follows blind includes (delivers_same blind reader.path) related
            (fun given among => spares given (.inl among)) mirror done
        rw [dataLine_unwanted, Stage.noting_nil] at still
        obtain ⟨after, finishes, finally_⟩ :=
          ih elsewhere agree between (fun given among => spares given (.inr among)) middle still _ _
            ended
        refine ⟨after, ?_, finally_⟩
        simp only [bind_apply, followed]
        exact finishes

end Options

/-! ### Argument files

Both sessions enter the same file, read it line by line, and leave it. The induction is over the
levels that the first session has left. -/

/-- The stage while one more argument file is being read by both sessions. -/
def Stage.entering (stage : Stage) (place : Location) : Stage :=
  { stage with
    first := place :: stage.first
    second := place :: stage.second
    fewer := List.cons_subset_cons place stage.fewer
    reading := List.mem_cons_of_mem place stage.reading }

namespace Mirror

variable {stage : Stage} {first second : Session} {place : Location}

/-- Entering the same file keeps the sessions mirrored. -/
theorem entering (mirror : Mirror stage first second) :
    Mirror (stage.entering place) (first.entering place) (second.entering place) :=
  { mirror with
    counters := by
      simp only [Session.entering, mirror.counters]
      congr 1
      ac_rfl
    first_including := by rw [Session.entering, mirror.first_including]; rfl
    second_including := by rw [Session.entering, mirror.second_including]; rfl }

theorem leaving (mirror : Mirror (stage.entering place) first second) :
    Mirror stage first.leaving second.leaving :=
  { mirror with
    first_including := by rw [Session.leaving, mirror.first_including]; rfl
    second_including := by rw [Session.leaving, mirror.second_including]; rfl }

end Mirror

/-- A file that the first session may read is none that is being read by the second session. The
outer file itself cannot be read again. -/
theorem interpretFile_trails {context : Context} (blind : context.gate.IgnoresOrigins)
    {stage : Stage} {includeFile followFile : String → Action Unit} {included : String → Trace}
    (includes : ∀ file, Trails stage stage (included file) (includeFile file) (followFile file))
    {path : String} {session : Session} {place : Location}
    (stands : session.disk.canonical path = .ok place) (away : place ≠ stage.swap.place)
    (spares : ∀ given ∈ givenInFile context includeFile included path session,
      given.Spares stage.toInclusion) :
    Follows stage stage (interpretFile context includeFile path)
      (interpretFile context followFile path) session := by
  intro mirrored mirror _ left run
  rw [interpretFile_apply] at run ⊢
  unfold givenInFile at spares
  rw [mirror.disk.openReader_eq]
  cases opened : session.disk.openReader path with
  | error cause =>
    rw [opened] at run
    cases run
  | ok reader =>
    rw [opened] at run spares
    have elsewhere : reader.place ≠ stage.swap.place := by
      obtain ⟨same, -⟩ := Disk.openReader_eq_ok opened
      rw [stands] at same
      cases same
      exact away
    simp only [mirror.disk.file?_eq elsewhere]
    exact interpretLines_trails blind includes elsewhere _ (.inl rfl) session spares mirrored mirror
      _ _ run

/-- A file that both sessions read is followed, with more levels to spare if one likes. -/
theorem readNested_trails {context : Context} (blind : context.gate.IgnoresOrigins)
    {levels more : Nat} (fewer : levels ≤ more) (stage : Stage) (path : String) :
    Trails stage stage (givenNested context levels path) (readNested context levels path)
      (readNested context more path) := by
  induction levels generalizing more stage path with
  | zero =>
    intro session _ mirrored mirror _ left run
    rw [readNested_apply] at run
    cases found : session.disk.canonical path with
    | error cause =>
      rw [found] at run
      cases run
    | ok place =>
      rw [found] at run
      simp only at run
      split at run <;> cases run
  | succ levels ih =>
    intro session spares mirrored mirror _ left run
    obtain ⟨more, rfl⟩ : ∃ rest, more = rest + 1 := ⟨more - 1, by omega⟩
    rw [readNested_apply] at run ⊢
    rw [givenNested_apply] at spares
    rw [mirror.disk.canonical_eq]
    cases found : session.disk.canonical path with
    | error cause =>
      rw [found] at run
      cases run
    | ok place =>
      rw [found] at run spares
      simp only at run spares ⊢
      by_cases again : place ∈ session.including
      · rw [if_pos again] at run
        cases run
      · rw [if_neg again] at run spares
        -- The second session is reading no file that the first one is not, so its guard lets this
        -- file pass as well. The outer file is among those, so this is another one.
        rw [mirror.first_including] at again
        have unread : place ∉ mirrored.including := by
          rw [mirror.second_including]
          exact fun among => again (stage.fewer among)
        have away : place ≠ stage.swap.place := by
          rintro rfl
          exact again (stage.fewer stage.reading)
        rw [if_neg unread]
        cases inside : interpretFile context (readNested context levels) path
            (session.entering place) with
        | error failure between =>
          rw [inside] at run
          cases run
        | ok done between =>
          rw [inside] at run
          cases run
          have deeper : levels ≤ more := by omega
          have goes : Follows (stage.entering place) (stage.entering place)
              (interpretFile context (readNested context levels) path)
              (interpretFile context (readNested context more) path) (session.entering place) :=
            interpretFile_trails blind (ih deeper (stage.entering place)) found away spares
          obtain ⟨after, followed, still⟩ := goes _ mirror.entering _ _ inside
          refine ⟨after.leaving, ?_, still.leaving⟩
          rw [followed]

end ExtractOptions

/-
Module: ExtractOptions.Proofs.Inclusion.Expansion
Purpose: including an argument file is putting its lines where the line that names it stands. A
  reading that succeeds also succeeds on the expanded file, and leaves the same configuration and
  the same registry; the expanded file counts one option and one file less, and the tag criteria
  that the inner file held itself come from the outer one.
Main exports: Expansion, Expansion.Alike, Expansion.IsSparedBy, Expansion.readArgumentFile_expanded
-/
import ExtractOptions.Proofs.Inclusion.Abreast

namespace ExtractOptions

open Text ExtractOptions.Action

/-- An outer file with a line that includes an inner one, and the bytes of an expanded file, which
has the lines of the inner file instead. -/
structure Expansion (disk : Disk) where
  outer : String
  place : Location
  bytes : List UInt8
  before : List String
  line : String
  value : String
  after : List String
  innerPlace : Location
  innerBytes : List UInt8
  expanded : List UInt8
  found : disk.find outer = .ok (place, .file bytes)
  split : (Lines.ofBytes bytes).lines = before ++ line :: after
  names : LineForm.ofText line = .letter .argumentFile value
  innerFound : disk.find (skipSpaces value) = .ok (innerPlace, .file innerBytes)
  joined : Lines.ofBytes expanded =
    ⟨before ++ (Lines.ofBytes innerBytes).lines ++ after, none⟩

namespace Expansion

variable {disk : Disk}

/-- The disk with the expanded file in place of the outer one. -/
def onDisk (expansion : Expansion disk) : Disk :=
  disk.put expansion.place (.file expansion.expanded)

/-- The tag criteria that the inner file holds itself. -/
def criteria (expansion : Expansion disk) : List String :=
  dataLines (· == .tagCriteria) none (Lines.ofBytes expansion.innerBytes).lines

/-- What a reading of the outer file and one of the expanded file leave. -/
structure Alike (expansion : Expansion disk) (first second : Session) : Prop where
  config : second.config = first.config
  registry : second.registry =
    { first.registry with tagCriteria := second.registry.tagCriteria }
  criteria : Relabelled (skipSpaces expansion.value) expansion.outer expansion.criteria
    first.registry.tagCriteria second.registry.tagCriteria
  counters : first.counters =
    { second.counters with
      letters := second.counters.letters + 1
      argumentFiles := second.counters.argumentFiles + 1 }
  standardError : second.standardError = first.standardError
  disk : Disk.Swapped ⟨expansion.place, expansion.bytes, expansion.expanded⟩ first.disk second.disk

/-- The two files of an expansion. -/
def inclusion (expansion : Expansion disk) : Inclusion where
  swap := ⟨expansion.place, expansion.bytes, expansion.expanded⟩
  outer := expansion.outer
  inner := skipSpaces expansion.value
  place := expansion.innerPlace
  bytes := expansion.innerBytes

/-- The stage while both sessions read the outer file. -/
def outside (expansion : Expansion disk) (including : List Location) (extra : Nat)
    (moved : List String) : Stage where
  toInclusion := expansion.inclusion
  extra := extra
  moved := moved
  first := expansion.place :: including
  second := expansion.place :: including
  fewer := List.Subset.refl _
  reading := List.mem_cons_self

/-- The stage while the first session reads the inner file. -/
def inside (expansion : Expansion disk) (including : List Location) : Stage where
  toInclusion := expansion.inclusion
  extra := 1
  moved := []
  first := expansion.innerPlace :: expansion.place :: including
  second := expansion.place :: including
  fewer := List.subset_cons_self _ _
  reading := List.mem_cons_self

section Line

variable {context : Context} {expansion : Expansion disk} {including : List Location}

/-- The first session enters the inner file. -/
theorem enter {first second : Session}
    (mirror : Mirror (expansion.outside including 0 []) first second) :
    Mirror (expansion.inside including) (first.lettered.entering expansion.innerPlace) second :=
  { mirror with
    counters := by
      simp only [Session.entering, Session.lettered, mirror.counters]
      rfl
    first_including := by rw [Session.entering, Session.lettered, mirror.first_including]; rfl
    second_including := mirror.second_including }

/-- The first session leaves the inner file. -/
theorem leave {moved : List String} {first second : Session}
    (mirror : Mirror ((expansion.inside including).noting moved) first second) :
    Mirror (expansion.outside including 1 moved) first.leaving second :=
  { mirror with
    first_including := by rw [Session.leaving, mirror.first_including]; rfl
    second_including := mirror.second_including }

/-- Naming the inner file is reading its lines. -/
theorem line_eq (expansion : Expansion disk) {pending : Option LetterOption} {session : Session}
    (found : session.disk.find (skipSpaces expansion.value) =
      .ok (expansion.innerPlace, .file expansion.innerBytes))
    {levels : Nat} {origin : String} {answer : Option LetterOption} {left : Session}
    (run : interpretLine context (readNested context levels) origin pending expansion.line
      session = .ok answer left) :
    answer = none ∧ ∃ deeper finished allowance, levels = deeper + 1 ∧ left = finished.leaving ∧
      (Reading.opened (skipSpaces expansion.value) expansion.innerPlace session.lettered).run
        context (readNested context deeper) allowance = .ok () finished ∧
      givenInLine context (givenNested context levels) expansion.line session =
        ⟨.letter .argumentFile, expansion.value, session⟩ ::
          (Reading.opened (skipSpaces expansion.value) expansion.innerPlace session.lettered).given
            context (readNested context deeper) (givenNested context deeper) allowance := by
  have named : skipSpaces expansion.value ≠ "" := by
    intro empty
    rw [empty] at found
    cases found
  rw [interpretLine_eq, expansion.names] at run
  obtain ⟨_, between, done, ended⟩ := bind_ok run
  cases ended
  rw [LetterOption.perform_argumentFile named] at done
  have foundHere : session.lettered.disk.find (skipSpaces expansion.value) =
      .ok (expansion.innerPlace, .file expansion.innerBytes) := found
  obtain ⟨unread, deeper, rfl⟩ :=
    Reading.unread_of_readNested (Disk.canonical_of_find foundHere) done
  rw [Reading.readNested_of_find foundHere unread] at done
  cases inner : (Reading.opened (skipSpaces expansion.value) expansion.innerPlace
      session.lettered).run context (readNested context deeper)
        (lineAllowance expansion.innerBytes) with
  | error failure finished =>
    rw [inner] at done
    cases done
  | ok finishes finished =>
    rw [inner] at done
    cases done
    refine ⟨rfl, deeper, finished, _, rfl, rfl, inner, ?_⟩
    unfold givenInLine
    rw [expansion.names]
    simp only [LetterOption.given_argumentFile named]
    rw [Reading.givenNested_of_find foundHere unread]

/-- While the first session includes the inner file, the second one acts on its lines. -/
theorem through (blind : context.gate.IgnoresOrigins) {first second : Reading}
    {failure : Option IoError}
    (abreast : Abreast (expansion.outside including 0 []) first second
      ⟨expansion.line :: expansion.after, failure⟩
      ⟨(Lines.ofBytes expansion.innerBytes).lines ++ expansion.after, none⟩)
    (path : second.reader.path = expansion.outer) {levels allowance : Nat} {left : Session}
    (run : first.run context (readNested context levels) allowance = .ok () left)
    (spares : ∀ given ∈ first.given context (readNested context levels)
      (givenNested context levels) allowance, given.Spares expansion.inclusion) :
    ∃ fewer later further, allowance = fewer + 1 ∧
      first.Advances context (readNested context levels) 1 later ∧
      second.Advances context (readNested context levels)
        (Lines.ofBytes expansion.innerBytes).lines.length further ∧
      Abreast (expansion.outside including 1 expansion.criteria) later further
        ⟨expansion.after, failure⟩ ⟨expansion.after, none⟩ := by
  obtain ⟨later, read, samePath, samePlace, supplies⟩ := abreast.supplies.next_cons
  cases allowance with
  | zero => cases run
  | succ allowance =>
    unfold Reading.run at run
    rw [interpretLines_apply, read] at run
    obtain ⟨answer, between, done, ended⟩ := bind_ok run
    unfold Reading.given at spares
    rw [givenInLines_apply, read] at spares
    simp only [Trace.andThen_of_ok done] at spares
    obtain ⟨rfl, deeper, finished, innerAllowance, rfl, rfl, inner, given⟩ :=
      expansion.line_eq abreast.mirror.found done
    rw [given] at spares
    -- The first session opens the inner file; the second one stays where it is.
    have enters : Abreast (expansion.inside including)
        (Reading.opened (skipSpaces expansion.value) expansion.innerPlace first.session.lettered)
        second
        ⟨(Lines.ofBytes expansion.innerBytes).lines ++ [],
          (Lines.ofBytes expansion.innerBytes).failure⟩
        ⟨(Lines.ofBytes expansion.innerBytes).lines ++ expansion.after, none⟩ :=
      { mirror := enter abreast.mirror
        pending := .inl rfl
        reserved := .inr rfl
        swapped := abreast.swapped
        supplies := by
          rw [List.append_nil]
          exact LineReader.supplies_opened (Disk.node?_of_find abreast.mirror.found)
        opposite := abreast.opposite }
    have delivers : Delivers context (expansion.inside including) (· == .tagCriteria)
        (skipSpaces expansion.value) second.reader.path := by
      rw [path]
      exact delivers_moved blind
    obtain ⟨fewer, last, further, enough, goes, goesToo, ends⟩ :=
      enters.lines blind
        (fun moved file => readNested_trails blind (Nat.le_succ deeper) _ file) delivers inner
        fun given among => spares given (by simp [among])
    rw [enough, goes.run] at inner
    obtain rfl := Reading.eq_of_run_nil ends.supplies inner
    have back : Mirror (expansion.outside including 1 expansion.criteria) last.session.leaving
        further.session := leave ends.mirror
    have step : first.Advances context (readNested context (deeper + 1)) 1
        ⟨later, none, last.session.leaving⟩ := .line read samePath done
    refine ⟨allowance, _, further, rfl, step, goesToo, ?_⟩
    exact
      { mirror := back
        pending := .inl rfl
        reserved := by rw [samePlace]; exact abreast.reserved
        swapped := ends.swapped
        supplies := supplies.congr (by
          rw [samePlace, back.node?_eq abreast.reserved, abreast.mirror.node?_eq abreast.reserved]
          rfl)
        opposite := ends.opposite }

/-- Both readings come to the end of their files. -/
theorem reading (blind : context.gate.IgnoresOrigins) {first second : Reading}
    {failure : Option IoError}
    (abreast : Abreast (expansion.outside including 0 []) first second
      ⟨expansion.before ++ expansion.line :: expansion.after, failure⟩
      ⟨expansion.before ++ (Lines.ofBytes expansion.innerBytes).lines ++ expansion.after, none⟩)
    (path : first.reader.path = expansion.outer) (pathToo : second.reader.path = expansion.outer)
    {levels allowance : Nat} {left : Session}
    (run : first.run context (readNested context levels) allowance = .ok () left)
    (spares : ∀ given ∈ first.given context (readNested context levels)
      (givenNested context levels) allowance, given.Spares expansion.inclusion) :
    ∃ last, Mirror (expansion.outside including 1 expansion.criteria) left last ∧
      ∀ more, second.run context (readNested context levels) (more + 1 +
        (expansion.before ++ (Lines.ofBytes expansion.innerBytes).lines ++
          expansion.after).length) = .ok () last := by
  have includes : ∀ (stage : Stage) (file : String),
      Trails stage stage (givenNested context levels file) (readNested context levels file)
        (readNested context levels file) :=
    fun stage file => readNested_trails blind (Nat.le_refl levels) stage file
  have sameOrigin : ∀ (stage : Stage) {origin other : String}, origin = expansion.outer →
      other = expansion.outer → Delivers context stage (fun _ => false) origin other := by
    rintro stage _ _ rfl rfl
    exact delivers_same blind _
  rw [List.append_assoc] at abreast
  -- The lines before the inclusion.
  obtain ⟨fewer, atLine, atLines, enough, goes, goesToo, met⟩ :=
    abreast.lines blind (fun _ => includes _) (sameOrigin _ path pathToo) run spares
  rw [dataLines_unwanted, Stage.noting_nil] at met
  rw [enough, goes.run] at run
  replace spares := fun given among =>
    spares given (enough ▸ goes.given (givenNested context levels) fewer given among)
  -- The line that names the inner file, and that file's lines.
  obtain ⟨rest, past, pastToo, enough, goesOn, goesOnToo, met⟩ :=
    through blind met (goesToo.path.trans pathToo) run spares
  rw [enough, goesOn.run] at run
  replace spares := fun given among =>
    spares given (enough ▸ goesOn.given (givenNested context levels) rest given among)
  -- The lines after the inclusion.
  rw [← List.append_nil expansion.after] at met
  obtain ⟨last, done, doneToo, enough, goesFar, goesFarToo, met⟩ :=
    met.lines blind (fun _ => includes _)
      (sameOrigin _ (goesOn.path.trans (goes.path.trans path))
        (goesOnToo.path.trans (goesToo.path.trans pathToo))) run spares
  rw [dataLines_unwanted, Stage.noting_nil] at met
  rw [enough, goesFar.run] at run
  obtain rfl := Reading.eq_of_run_nil met.supplies run
  refine ⟨doneToo.session, met.mirror, fun more => ?_⟩
  have total : (expansion.before ++ (Lines.ofBytes expansion.innerBytes).lines ++
      expansion.after).length = expansion.after.length +
        ((Lines.ofBytes expansion.innerBytes).lines.length + expansion.before.length) := by
    simp only [List.length_append]
    omega
  rw [total, ((goesToo.trans goesOnToo).trans goesFarToo).run, Reading.run_nil met.opposite]

end Line

/-- Before anything is read the two sessions differ in the outer file alone. -/
theorem start {session : Session} (expansion : Expansion session.disk)
    (log : ∀ target, session.config.log = .file target →
      target.place ≠ expansion.place ∧ target.place ≠ expansion.innerPlace) :
    Mirror (expansion.outside session.including 0 []) (session.entering expansion.place)
      ({ session with disk := expansion.onDisk }.entering expansion.place) where
  config := rfl
  log := by
    rintro target writes (outer | inner)
    · exact (log target writes).1 outer
    · exact (log target writes).2 inner
  registry := rfl
  criteria := .refl _
  disk := .of_put (Disk.node?_of_find expansion.found) _
  found := expansion.innerFound
  standardError := rfl
  counters := rfl
  first_including := rfl
  second_including := rfl

/-- The option opens neither of the two files for output, and does not read the outer one as data
or as a list. -/
def IsSparedBy (expansion : Expansion disk) (given : Given) : Prop :=
  given.opens? ≠ some expansion.place ∧ given.opens? ≠ some expansion.innerPlace ∧
    given.reads? ≠ some expansion.place

instance (expansion : Expansion disk) (given : Given) : Decidable (expansion.IsSparedBy given) :=
  inferInstanceAs (Decidable (_ ∧ _ ∧ _))

/-- An option that spares the files of the expansion spares them as files of the inclusion. -/
theorem IsSparedBy.spares {expansion : Expansion disk} {given : Given}
    (spared : expansion.IsSparedBy given) : given.Spares expansion.inclusion where
  opens := by
    rintro place opened (rfl | rfl)
    · exact spared.1 opened
    · exact spared.2.1 opened
  reads := by
    rintro place read rfl
    exact spared.2.2 read

/-- Including a file is macro expansion. -/
theorem readArgumentFile_expanded {context : Context} (blind : context.gate.IgnoresOrigins)
    (session : Session) (expansion : Expansion session.disk)
    (log : ∀ target, session.config.log = .file target →
      target.place ≠ expansion.place ∧ target.place ≠ expansion.innerPlace)
    (spared : ∀ given ∈ givenReading context expansion.outer session, expansion.IsSparedBy given)
    {left : Session} (run : readArgumentFile context expansion.outer session = .ok () left) :
    ∃ other, readArgumentFile context expansion.outer { session with disk := expansion.onDisk } =
        .ok () other ∧ expansion.Alike left other := by
  have swapped : Disk.Swapped expansion.inclusion.swap session.disk expansion.onDisk :=
    .of_put (Disk.node?_of_find expansion.found) _
  have foundToo : ({ session with disk := expansion.onDisk } : Session).disk.find
      expansion.outer = .ok (expansion.place, .file expansion.expanded) :=
    swapped.find_swapped expansion.found
  have reads : ∀ met : Session, readArgumentFile context expansion.outer met =
      readNested context (context.maxIncludeDepth - met.including.length) expansion.outer met :=
    fun _ => rfl
  rw [reads] at run ⊢
  obtain ⟨unread, levels, some⟩ :=
    Reading.unread_of_readNested (Disk.canonical_of_find expansion.found) run
  unfold givenReading at spared
  simp only [some] at run spared ⊢
  rw [Reading.readNested_of_find expansion.found unread] at run
  rw [Reading.givenNested_of_find expansion.found unread] at spared
  have unreadToo : expansion.place ∉
      ({ session with disk := expansion.onDisk } : Session).including := unread
  -- Both sessions open the outer file and go through it side by side.
  have abreast : Abreast (expansion.outside session.including 0 [])
      (Reading.opened expansion.outer expansion.place session)
      (Reading.opened expansion.outer expansion.place
        { session with disk := expansion.onDisk })
      ⟨expansion.before ++ expansion.line :: expansion.after,
        (Lines.ofBytes expansion.bytes).failure⟩
      ⟨expansion.before ++ (Lines.ofBytes expansion.innerBytes).lines ++ expansion.after, none⟩ :=
    { mirror := expansion.start log
      pending := .inl rfl
      reserved := .inl rfl
      swapped := rfl
      supplies := by
        rw [← expansion.split]
        exact LineReader.supplies_opened (Disk.node?_of_find expansion.found)
      opposite := by
        rw [← expansion.joined]
        exact LineReader.supplies_opened swapped.new }
  cases finishes : (Reading.opened expansion.outer expansion.place session).run context
      (readNested context levels) (lineAllowance expansion.bytes) with
  | error failure finished =>
    rw [finishes] at run
    cases run
  | ok done finished =>
    rw [finishes] at run
    cases run
    obtain ⟨last, mirror, runs⟩ := reading blind abreast rfl rfl finishes
      fun given among => (spared given among).spares
    obtain ⟨more, enough⟩ := Lines.exists_allowance expansion.expanded
    rw [expansion.joined] at enough
    refine ⟨last.leaving, ?_, ?_⟩
    · rw [Reading.readNested_of_find foundToo unreadToo, enough, runs]
    · exact
        { config := mirror.config
          registry := mirror.registry
          criteria := mirror.criteria
          counters := mirror.counters
          standardError := mirror.standardError
          disk := mirror.disk }

/-! ### The expansion at work

A disk on which the expansion leaves what the two files leave, and one on which it does not, because
the outer file is read as a list as well. -/

/-- A directory that holds some text files, in which a run starts. -/
def folder (files : List (String × String)) : Disk where
  nodes := (["games"], .directory) ::
    files.map fun (name, text) => (["games", name], .file (Utf8.encode text))
  workingDirectory := ["games"]

/-- The inner file asks for a tag criterion of its own, between two options of the outer one. -/
def criteriaFiles : Disk :=
  folder [("outer", ":-t\nElo \"1\"\n:-Ap\n:-s\n"), ("p", ":-t\nWhite \"X\"\n")]

def criteriaExpansion : Expansion criteriaFiles where
  outer := "outer"
  place := ["games", "outer"]
  bytes := Utf8.encode ":-t\nElo \"1\"\n:-Ap\n:-s\n"
  before := [":-t", "Elo \"1\""]
  line := ":-Ap"
  value := "p"
  after := [":-s"]
  innerPlace := ["games", "p"]
  innerBytes := Utf8.encode ":-t\nWhite \"X\"\n"
  expanded := Utf8.encode ":-t\nElo \"1\"\n:-t\nWhite \"X\"\n:-s\n"
  found := by rfl
  split := by decide +kernel
  names := by rfl
  innerFound := by rfl
  joined := by decide +kernel

/-- The expanded file leaves what the two files leave. -/
theorem criteria_expanded :
    ∃ other, readArgumentFile {} "outer" { disk := criteriaExpansion.onDisk } = .ok () other ∧
      criteriaExpansion.Alike ((readArgumentFile {} "outer").after { disk := criteriaFiles }) other := by
  have blind : ({} : Context).gate.IgnoresOrigins := Gate.ignoresOrigins_everything
  have log : ∀ target, ({ disk := criteriaFiles } : Session).config.log = .file target →
      target.place ≠ criteriaExpansion.place ∧ target.place ≠ criteriaExpansion.innerPlace :=
    fun _ writes => nomatch writes
  have spared : ∀ given ∈ givenReading {} criteriaExpansion.outer { disk := criteriaFiles },
      criteriaExpansion.IsSparedBy given := by
    decide +kernel
  have succeeds : (readArgumentFile {} "outer").succeeds { disk := criteriaFiles } = true := by
    decide +kernel
  obtain ⟨_, run⟩ := exists_ok_of_succeeds succeeds
  exact readArgumentFile_expanded blind { disk := criteriaFiles } criteriaExpansion log spared run

/-- The outer file is a list of source files to itself. -/
def listFiles : Disk :=
  folder [("outer.txt", ":-Ap\n:-fouter.txt\n"), ("p", ":-s\n")]

def listExpansion : Expansion listFiles where
  outer := "outer.txt"
  place := ["games", "outer.txt"]
  bytes := Utf8.encode ":-Ap\n:-fouter.txt\n"
  before := []
  line := ":-Ap"
  value := "p"
  after := [":-fouter.txt"]
  innerPlace := ["games", "p"]
  innerBytes := Utf8.encode ":-s\n"
  expanded := Utf8.encode ":-s\n:-fouter.txt\n"
  found := by rfl
  split := by decide +kernel
  names := by rfl
  innerFound := by rfl
  joined := by decide +kernel

/-- It is not enough that nothing is written to the two files. A run that also reads the outer file
as a list finds other source files in the expanded one. -/
theorem not_expanded_of_listed :
    ¬ ∀ (context : Context) (session left : Session) (expansion : Expansion session.disk),
      context.gate.IgnoresOrigins →
      (∀ target, session.config.log = .file target →
        target.place ≠ expansion.place ∧ target.place ≠ expansion.innerPlace) →
      (∀ given ∈ givenReading context expansion.outer session,
        given.opens? ≠ some expansion.place ∧ given.opens? ≠ some expansion.innerPlace) →
      readArgumentFile context expansion.outer session = .ok () left →
      ∃ other, readArgumentFile context expansion.outer
          { session with disk := expansion.onDisk } = .ok () other ∧
        other.registry = { left.registry with tagCriteria := other.registry.tagCriteria } := by
  intro claim
  have blind : ({} : Context).gate.IgnoresOrigins := Gate.ignoresOrigins_everything
  have unwritten : ∀ given ∈ givenReading {} listExpansion.outer { disk := listFiles },
      given.opens? ≠ some listExpansion.place ∧ given.opens? ≠ some listExpansion.innerPlace := by
    decide +kernel
  have succeeds : (readArgumentFile {} listExpansion.outer).succeeds { disk := listFiles } =
      true := by
    decide +kernel
  obtain ⟨_, run⟩ := exists_ok_of_succeeds succeeds
  obtain ⟨other, runToo, same⟩ :=
    claim {} { disk := listFiles } _ listExpansion blind (fun _ writes => nomatch writes) unwritten
      run
  have sources : other.registry.sources = _ := congrArg Registry.sources same
  rw [← after_of_ok runToo] at sources
  revert sources
  decide +kernel

end Expansion

end ExtractOptions

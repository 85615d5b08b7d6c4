/-
Module: ExtractOptions.Proofs.Inclusion.DataBlock
Purpose: data in place and data in a file. A directive that names a file of data lines does what it
  does without the name and with those lines after it: the same requests are made in the same order,
  and the reading goes on alike or ends with the same failure. What shows the difference is where a
  data line is said to come from, in a tag criterion or in the refusal of a line.
Main exports: DataKind.criteria, DataBlock, DataBlock.Alike, DataBlock.Concludes,
  DataBlock.readArgumentFile_inPlace
-/
import ExtractOptions.Proofs.Inclusion.DataLines
import ExtractOptions.Proofs.Inclusion.Expansion
import ExtractOptions.Proofs.Inclusion.Unison

namespace ExtractOptions

open Text ExtractOptions.Action

/-! ### Data lines on mirrored sessions

A data line is recorded by both sessions, with the origin that each of them reads it under. Tag
criteria keep their origin, and so they are where the two registries may differ. -/

/-- The lines that become tag criteria. -/
def DataKind.criteria (kind : DataKind) (lines : List String) : List String :=
  if kind = .tagCriteria then lines else []

@[simp] theorem DataKind.criteria_nil (kind : DataKind) : kind.criteria [] = [] := by
  simp [criteria]

/-- The tag criteria of two blocks of lines are those of both, in order. -/
theorem DataKind.criteria_append (kind : DataKind) (first second : List String) :
    kind.criteria (first ++ second) = kind.criteria first ++ kind.criteria second := by
  unfold criteria
  split <;> rfl

/-- But for the origin a data line makes the same request wherever it stands. -/
theorem DataKind.request_withoutOrigin (kind : DataKind) (origin other line : String) :
    (kind.request other line).withoutOrigin = (kind.request origin line).withoutOrigin := by
  cases kind <;> rfl

namespace Mirror

variable {stage : Stage} {first second : Session}

theorem lettered (mirror : Mirror stage first second) :
    Mirror stage first.lettered second.lettered :=
  @count _ _ _ mirror (fun counters => { counters with letters := counters.letters + 1 })
    fun _ _ => by ac_rfl

/-- Both sessions count a data line, and what the kind turns on they turn on together. -/
theorem delivering (mirror : Mirror stage first second) (kind : DataKind) :
    Mirror stage (first.delivering kind) (second.delivering kind) := by
  have log : ∀ target, (first.delivering kind).config.log = .file target →
      ¬ stage.reserves target.place := by
    intro target writes
    refine mirror.log target ?_
    rw [← writes]
    unfold Session.delivering
    split <;> rfl
  have counted := @count _ _ _ (mirror.configure log)
    (fun counters => { counters with dataLines := counters.dataLines + 1 }) fun _ _ => rfl
  unfold Session.delivering at counted ⊢
  rw [mirror.config]
  exact counted

/-- A data line that both sessions record. -/
theorem record_line (mirror : Mirror stage first second) (kind : DataKind) (line : String) :
    Mirror (stage.noting (kind.criteria [line]))
      { first with registry := first.registry.record (kind.request stage.inner line) }
      { second with registry := second.registry.record (kind.request stage.outer line) } := by
  cases kind with
  | tagCriteria => exact mirror.record_moved line
  | tagRoster | textualVariations | positionalVariations | colouredEndings | endings =>
    have unmoved : stage.noting [] = stage := Stage.noting_nil stage
    exact unmoved.symm ▸ mirror.record _

end Mirror

/-! ### Data in place of a data file

What is compared and how. The block fixes the two argument files and the data file; `Alike` says
what may differ between the two sessions at the end, and `Concludes` how both runs may end. -/

/-- An argument file with a directive that names a file of data lines, and the bytes of the same
argument file with the lines in place: the directive has no name, and the lines come after it. Blank
lines may be left out or added. -/
structure DataBlock (disk : Disk) where
  outer : String
  place : Location
  bytes : List UInt8
  inPlace : List UInt8
  kind : DataKind
  before : List String
  lines : List String
  after : List String
  /-- Why neither version can be read behind these lines, if it cannot. -/
  failure : Option IoError
  file : String
  filePlace : Location
  fileBytes : List UInt8
  /-- The lines of the data file. -/
  held : List String
  found : disk.find outer = .ok (place, .file bytes)
  split : Lines.ofBytes bytes =
    ⟨before ++ Directive.render ⟨kind.option, file⟩ :: after, failure⟩
  joined : Lines.ofBytes inPlace =
    ⟨before ++ Directive.render ⟨kind.option, ""⟩ :: (lines ++ after), failure⟩
  uncoloned : ∀ line ∈ lines, line.toList.head? ≠ some ':'
  named : file ≠ ""
  unspaced : file.toList.head? ≠ some ' '
  fileFound : disk.find file = .ok (filePlace, .file fileBytes)
  holds : Lines.ofBytes fileBytes = ⟨held, none⟩
  same : filled held = filled lines

namespace DataBlock

variable {disk : Disk}

/-- The disk with the data in place. -/
def onDisk (block : DataBlock disk) : Disk :=
  disk.put block.place (.file block.inPlace)

/-- The data lines that are not blank. -/
def values (block : DataBlock disk) : List String :=
  filled block.lines

/-- What the two readings leave when so many of the data lines were handed on. -/
structure Alike (block : DataBlock disk) (front : List String) (first second : Session) : Prop where
  config : second.config = first.config
  registry : second.registry =
    { first.registry with tagCriteria := second.registry.tagCriteria }
  criteria : Relabelled block.file block.outer (block.kind.criteria front)
    first.registry.tagCriteria second.registry.tagCriteria
  counters : second.counters = first.counters
  including : second.including = first.including
  standardError : second.standardError = first.standardError
  disk : Disk.Swapped ⟨block.place, block.bytes, block.inPlace⟩ first.disk second.disk

/-- Both readings succeed, or they fail in the same way, or the same data line is refused to both
for the same reason, which the refusal says to be a line of the one file or of the other. -/
inductive Concludes (block : DataBlock disk) (values : List String)
    (related : List String → Session → Session → Prop) :
    EStateM.Result Failure Session Unit → EStateM.Result Failure Session Unit → Prop where
  | ok {left after : Session} (still : related values left after) :
    Concludes block values related (.ok () left) (.ok () after)
  | error (cause : Failure) {front : List String} (part : front <+: values) {left after : Session}
      (still : related front left after) :
    Concludes block values related (.error cause left) (.error cause after)
  | refused {line : String} (among : line ∈ values) (reason : String) {front : List String}
      (part : front <+: values) {left after : Session} (still : related front left after) :
    Concludes block values related (.error (block.kind.refusal block.file line reason) left)
      (.error (block.kind.refusal block.outer line reason) after)

section Concludes

variable {block : DataBlock disk} {values : List String}
  {related : List String → Session → Session → Prop} {action other : Action Unit}
  {first second : Session}

/-- Whatever comes of the readings, the sessions that they leave are related. -/
theorem Concludes.exists_related
    (concludes : block.Concludes values related (action first) (other second)) :
    ∃ front, related front (action.after first) (other.after second) := by
  unfold Action.after
  generalize action first = one at concludes ⊢
  generalize other second = two at concludes ⊢
  cases concludes with
  | ok still => exact ⟨values, still⟩
  | error _ _ still => exact ⟨_, still⟩
  | refused _ _ _ still => exact ⟨_, still⟩

/-- Both readings succeed, or neither does. -/
theorem Concludes.succeeds_eq
    (concludes : block.Concludes values related (action first) (other second)) :
    action.succeeds first = other.succeeds second := by
  unfold Action.succeeds
  generalize action first = one at concludes ⊢
  generalize other second = two at concludes ⊢
  cases concludes <;> rfl

end Concludes

/-- The argument file and the data file. -/
def inclusion (block : DataBlock disk) : Inclusion where
  swap := ⟨block.place, block.bytes, block.inPlace⟩
  outer := block.outer
  inner := block.file
  place := block.filePlace
  bytes := block.fileBytes

/-- The stage once so many of the data lines were handed on. -/
def stage (block : DataBlock disk) (including : List Location) (front : List String) : Stage where
  toInclusion := block.inclusion
  extra := 0
  moved := block.kind.criteria front
  first := block.place :: including
  second := block.place :: including
  fewer := List.Subset.refl _
  reading := List.mem_cons_self

/-- One more data line that was handed on may be one more tag criterion that differs in its origin. -/
theorem stage_append (block : DataBlock disk) (including : List Location) (front : List String)
    (line : String) :
    block.stage including (front ++ [line]) =
      (block.stage including front).noting (block.kind.criteria [line]) := by
  simp only [stage, Stage.noting, DataKind.criteria_append]

section Lines

variable {context : Context} {block : DataBlock disk} {including : List Location}
  {includeFile : String → Action Unit}

/-! ### The two directives

The directive with a name hands on a whole file at once, and the directive without one only turns
data lines on. The two sessions are therefore out of step while the first one is done with the lines
and the second one still has them to read. -/

/-- The directive that names the data file hands its lines on. -/
theorem interpretLine_named {session : Session}
    (found : session.disk.find block.file = .ok (block.filePlace, .file block.fileBytes))
    (origin : String) (pending : Option LetterOption) :
    interpretLine context includeFile origin pending
        (Directive.render ⟨block.kind.option, block.file⟩) session =
      (do
        block.values.forM (deliver context block.kind.option block.file)
        return some block.kind.option : Action (Option LetterOption)) session.lettered := by
  have delivered : block.kind.option.perform context includeFile block.file session =
      block.values.forM (deliver context block.kind.option block.file) session.lettered := by
    have foundHere : session.lettered.disk.find block.file =
      .ok (block.filePlace, .file block.fileBytes) := found
    rw [DataKind.perform_option, skipSpaces_of_head? block.unspaced]
    unfold deliverNamedFile values
    rw [if_neg block.named, deliverFile_of_find foundHere block.holds, block.same]
  rw [interpretLine_eq, DataKind.ofText_directive]
  simp only [bind_apply, delivered, DataKind.persists_option, if_true]

/-- The directive without a name does nothing but ask for data lines. -/
theorem interpretLine_bare (origin : String) (pending : Option LetterOption) (session : Session) :
    interpretLine context includeFile origin pending (Directive.render ⟨block.kind.option, ""⟩)
      session = .ok (some block.kind.option) session.lettered := by
  have counted : block.kind.option.perform context includeFile "" session =
      .ok () session.lettered := by
    rw [DataKind.perform_option]
    rfl
  rw [interpretLine_eq, DataKind.ofText_directive]
  simp only [bind_apply, counted, DataKind.persists_option, if_true]
  rfl

/-! ### The data lines

Handing on one line is the same request in both sessions but for the origin, so a gate that ignores
origins gives the same answer. By induction the same number of lines pass in both. -/

/-- One data line: it passes in both sessions, or is refused in both for the same reason. -/
theorem deliver_line (blind : context.gate.IgnoresOrigins) {front : List String}
    {first second : Session} (mirror : Mirror (block.stage including front) first second)
    (line : String) :
    (∃ left after, deliver context block.kind.option block.file line first = .ok () left ∧
      deliver context block.kind.option block.outer line second = .ok () after ∧
      Mirror (block.stage including (front ++ [line])) left after) ∨
    ∃ reason left after, deliver context block.kind.option block.file line first =
        .error (block.kind.refusal block.file line reason) left ∧
      deliver context block.kind.option block.outer line second =
        .error (block.kind.refusal block.outer line reason) after ∧
      Mirror (block.stage including front) left after := by
  have alike : context.gate second.registry (block.kind.request block.outer line) =
      context.gate first.registry (block.kind.request block.file line) := by
    rw [mirror.gate_eq blind, blind, block.kind.request_withoutOrigin block.file, ← blind]
  rw [deliver_apply, deliver_apply, alike]
  have told := mirror.delivering block.kind
  cases context.gate first.registry (block.kind.request block.file line) with
  | some reason => exact .inr ⟨reason, _, _, rfl, rfl, told⟩
  | none =>
    refine .inl ⟨_, _, rfl, rfl, ?_⟩
    rw [stage_append]
    exact told.record_line block.kind line

/-- Handing on the lines for the first session and for the second one. -/
theorem deliver_lines (blind : context.gate.IgnoresOrigins) {front values : List String}
    {first second : Session} (mirror : Mirror (block.stage including front) first second) :
    block.Concludes (front ++ values) (fun front => Mirror (block.stage including front))
      (values.forM (deliver context block.kind.option block.file) first)
      (values.forM (deliver context block.kind.option block.outer) second) := by
  induction values generalizing front first second with
  | nil =>
    rw [List.append_nil]
    exact .ok mirror
  | cons line values ih =>
    rw [forM_cons, forM_cons, bind_apply, bind_apply]
    rcases deliver_line blind mirror line with
      ⟨left, after, passes, passesToo, still⟩ | ⟨reason, left, after, fails, failsToo, still⟩
    · rw [passes, passesToo]
      have onward := ih still
      rw [List.append_assoc] at onward
      exact onward
    · rw [fails, failsToo]
      exact .refused (by simp) reason (List.prefix_append ..) still

/-! ### The two readings

Before the directive both sessions read the same lines; behind it they do again. What was handed on
between is put together here with the two common parts. -/

/-- Where the first session hands on the data file, the second one hands on the lines in place. Both
get past them, or they are refused the same line. -/
theorem through (blind : context.gate.IgnoresOrigins) {first second : Reading}
    (even : Even (block.stage including []) first second
      ⟨Directive.render ⟨block.kind.option, block.file⟩ :: block.after, block.failure⟩
      ⟨Directive.render ⟨block.kind.option, ""⟩ :: (block.lines ++ block.after), block.failure⟩)
    (path : first.reader.path = block.outer) :
    (∃ later further, first.Advances context includeFile 1 later ∧
      second.Advances context includeFile (block.lines.length + 1) further ∧
      Even (block.stage including block.values) later further ⟨block.after, block.failure⟩
        ⟨block.after, block.failure⟩) ∨
    ∀ allowance more, block.Concludes block.values
      (fun front => Mirror (block.stage including front))
      (first.run context includeFile (allowance + 1))
      (second.run context includeFile (more + (block.lines.length + 1))) := by
  obtain ⟨later, read, samePath, samePlace, supplies⟩ := even.supplies.next_cons
  obtain ⟨further, readToo, pathToo, placeToo, suppliesToo⟩ := even.opposite.next_cons
  have named : interpretLine context includeFile first.reader.path first.pending
      (Directive.render ⟨block.kind.option, block.file⟩) first.session = _ :=
    interpretLine_named even.mirror.found _ _
  have bare : interpretLine context includeFile second.reader.path second.pending
      (Directive.render ⟨block.kind.option, ""⟩) second.session = _ := interpretLine_bare _ _ _
  have opens : second.Advances context includeFile 1
      ⟨further, some block.kind.option, second.session.lettered⟩ := .line readToo pathToo bare
  have inPlace := @Reading.dataLines context includeFile block.kind.option block.lines
    block.after block.failure block.uncoloned
    ⟨further, some block.kind.option, second.session.lettered⟩ rfl suppliesToo
  have both : block.Concludes block.values (fun front => Mirror (block.stage including front))
      (block.values.forM (deliver context block.kind.option block.file) first.session.lettered)
      (block.values.forM (deliver context block.kind.option block.outer) second.session.lettered) :=
    @deliver_lines _ _ _ _ blind [] block.values _ _ even.mirror.lettered
  have origin : further.path = block.outer := by rw [pathToo, even.path, path]
  simp only [origin] at inPlace
  rw [bind_apply] at named
  generalize delivered : block.values.forM (deliver context block.kind.option block.file)
    first.session.lettered = one at both named
  generalize deliveredToo : block.values.forM (deliver context block.kind.option block.outer)
    second.session.lettered = other at both
  cases both with
  | @ok left after still =>
    obtain ⟨last, goes, ends⟩ := inPlace.1 after deliveredToo
    have step : first.Advances context includeFile 1 ⟨later, some block.kind.option, left⟩ :=
      .line read samePath named
    refine .inl ⟨_, _, step, opens.trans goes, ?_⟩
    exact
      { mirror := still
        path := by rw [samePath, goes.path, origin, path]
        pending := rfl
        place := samePlace.trans even.place
        swapped := (goes.place.trans placeToo).trans even.swapped
        supplies := supplies.congr (by rw [samePlace]; exact (even.kept still rfl).1)
        opposite := ends }
  | error cause part still =>
    refine .inr fun allowance more => ?_
    rw [Reading.run_of_error read named, ← Nat.add_assoc, opens.run,
      inPlace.2 cause _ deliveredToo]
    exact .error cause part still
  | refused among reason part still =>
    refine .inr fun allowance more => ?_
    rw [Reading.run_of_error read named, ← Nat.add_assoc, opens.run,
      inPlace.2 _ _ deliveredToo]
    exact .refused among reason part still

/-- Readings that come to the same end alike. -/
theorem Concludes.of_tallies {one other : EStateM.Result Failure Session Unit}
    (tallies : Tallies (block.stage including block.values) one other) :
    block.Concludes block.values (fun front => Mirror (block.stage including front)) one other := by
  cases tallies with
  | ok _ still => exact .ok still
  | error cause still => exact .error cause (List.prefix_refl _) still

/-- Both readings come to the end of their files, or end before. -/
theorem reading (blind : context.gate.IgnoresOrigins) {first second : Reading}
    (even : Even (block.stage including []) first second (Lines.ofBytes block.bytes)
      (Lines.ofBytes block.inPlace))
    (path : first.reader.path = block.outer) {levels allowance : Nat} (more : Nat)
    (spares : ∀ given ∈ first.given context (readNested context levels)
      (givenNested context levels)
        (allowance + 1 + block.after.length + 1 + block.before.length),
      given.Spares block.inclusion) :
    block.Concludes block.values (fun front => Mirror (block.stage including front))
      (first.run context (readNested context levels)
        (allowance + 1 + block.after.length + 1 + block.before.length))
      (second.run context (readNested context levels)
        (more + 1 + block.after.length + (block.lines.length + 1) + block.before.length)) := by
  have includes : ∀ (front : List String) (file : String),
      Echoes (block.stage including front) (givenNested context levels file)
        (readNested context levels file) :=
    fun front file => readNested_echoes blind levels _ rfl file
  rw [block.split, block.joined] at even
  -- The lines before the block.
  rcases even.lines blind (includes []) spares with
    ⟨atBlock, atBlockToo, goes, goesToo, met⟩ | ⟨cause, left, after, still, fails, failsToo⟩
  · rw [goes.run, goesToo.run]
    replace spares := fun given among => spares given (goes.given _ _ given among)
    -- The block.
    rcases through blind met (goes.path.trans path) with
      ⟨behind, behindToo, passes, passesToo, met⟩ | concludes
    · rw [passes.run, passesToo.run]
      replace spares := fun given among => spares given (passes.given _ _ given among)
      -- The lines after the block.
      rw [← List.append_nil block.after] at met
      rcases met.lines blind (includes block.values) spares with
        ⟨last, lastToo, ends, endsToo, met⟩ | ⟨cause, left, after, still, fails, failsToo⟩
      · rw [ends.run, endsToo.run]
        exact .of_tallies (met.finish allowance more)
      · rw [fails, failsToo]
        exact .error cause (List.prefix_refl _) still
    · exact concludes _ _
  · rw [fails, failsToo]
    exact .error cause List.nil_prefix still

end Lines

/-- Before anything is read the two sessions differ in the argument file alone. -/
theorem start {session : Session} (block : DataBlock session.disk)
    (log : ∀ target, session.config.log = .file target → ¬ block.inclusion.reserves target.place) :
    Mirror (block.stage session.including []) (session.entering block.place)
      ({ session with disk := block.onDisk }.entering block.place) where
  config := rfl
  log := log
  registry := rfl
  criteria := by
    have none : (block.stage session.including []).moved = [] := block.kind.criteria_nil
    rw [none]
    exact .refl _
  disk := .of_put (Disk.node?_of_find block.found) _
  found := block.fileFound
  standardError := rfl
  counters := rfl
  first_including := rfl
  second_including := rfl

/-- Before anything is read, the sessions are alike but for the argument file on their disks. -/
theorem Alike.unread {session : Session} (block : DataBlock session.disk) :
    block.Alike [] session { session with disk := block.onDisk } where
  config := rfl
  registry := rfl
  criteria := by
    rw [DataKind.criteria_nil]
    exact .refl _
  counters := rfl
  including := rfl
  standardError := rfl
  disk := .of_put (Disk.node?_of_find block.found) _

/-- Sessions that mirror each other while the argument file is read are alike once it was left. -/
theorem Alike.of_mirror {block : DataBlock disk} {including : List Location} {front : List String}
    {first second : Session} (mirror : Mirror (block.stage including front) first second) :
    block.Alike front first.leaving second.leaving where
  config := mirror.config
  registry := mirror.registry
  criteria := mirror.criteria
  counters := mirror.counters.symm
  including := by
    unfold Session.leaving
    rw [mirror.first_including, mirror.second_including]
    rfl
  standardError := mirror.standardError
  disk := mirror.disk

/-- Both sessions open the argument file and begin with its first line. -/
theorem opened {session : Session} (block : DataBlock session.disk)
    (log : ∀ target, session.config.log = .file target → ¬ block.inclusion.reserves target.place) :
    Even (block.stage session.including []) (Reading.opened block.outer block.place session)
      (Reading.opened block.outer block.place { session with disk := block.onDisk })
      (Lines.ofBytes block.bytes) (Lines.ofBytes block.inPlace) where
  mirror := block.start log
  path := rfl
  pending := rfl
  place := rfl
  swapped := rfl
  supplies := LineReader.supplies_opened (Disk.node?_of_find block.found)
  opposite := LineReader.supplies_opened (block.start log).disk.new

/-- Both argument files have room for their lines in the allowance. -/
theorem exists_allowances (block : DataBlock disk) :
    (∃ allowance, lineAllowance block.bytes =
      allowance + 1 + block.after.length + 1 + block.before.length) ∧
    ∃ more, lineAllowance block.inPlace =
      more + 1 + block.after.length + (block.lines.length + 1) + block.before.length := by
  obtain ⟨allowance, enough⟩ := Lines.exists_allowance block.bytes
  obtain ⟨more, enoughToo⟩ := Lines.exists_allowance block.inPlace
  rw [block.split] at enough
  rw [block.joined] at enoughToo
  simp only [List.length_append, List.length_cons] at enough enoughToo
  exact ⟨⟨allowance, by omega⟩, more, by omega⟩

/-- Data lines in place do what a file of them does. -/
theorem readArgumentFile_inPlace {context : Context} (blind : context.gate.IgnoresOrigins)
    (session : Session) (block : DataBlock session.disk)
    (log : ∀ target, session.config.log = .file target → ¬ block.inclusion.reserves target.place)
    (spared : ∀ given ∈ givenReading context block.outer session, given.Spares block.inclusion) :
    block.Concludes block.values block.Alike (readArgumentFile context block.outer session)
      (readArgumentFile context block.outer { session with disk := block.onDisk }) := by
  have swapped : Disk.Swapped block.inclusion.swap session.disk block.onDisk :=
    .of_put (Disk.node?_of_find block.found) _
  have foundToo : ({ session with disk := block.onDisk } : Session).disk.find block.outer =
      .ok (block.place, .file block.inPlace) := swapped.find_swapped block.found
  rw [readArgumentFile_apply, readArgumentFile_apply]
  unfold givenReading at spared
  generalize context.maxIncludeDepth - session.including.length = levels at spared ⊢
  by_cases again : block.place ∈ session.including
  · -- The argument file is being read already.
    rw [readNested_apply, readNested_apply, Disk.canonical_of_find block.found,
      Disk.canonical_of_find foundToo]
    simp only [if_pos again]
    exact .error _ List.nil_prefix (.unread block)
  · cases levels with
    | zero =>
      rw [readNested_apply, readNested_apply, Disk.canonical_of_find block.found,
        Disk.canonical_of_find foundToo]
      simp only [if_neg again]
      exact .error _ List.nil_prefix (.unread block)
    | succ levels =>
      have againToo : block.place ∉ ({ session with disk := block.onDisk } : Session).including :=
        again
      obtain ⟨⟨allowance, enough⟩, more, enoughToo⟩ := block.exists_allowances
      rw [Reading.givenNested_of_find block.found again, enough] at spared
      have both := reading blind (block.opened log) rfl more spared
      rw [Reading.readNested_of_find block.found again, Reading.readNested_of_find foundToo againToo,
        enough, enoughToo]
      generalize (Reading.opened block.outer block.place session).run context
        (readNested context levels) _ = one at both ⊢
      generalize (Reading.opened block.outer block.place
        { session with disk := block.onDisk }).run context (readNested context levels) _ =
          other at both ⊢
      cases both with
      | ok still => exact .ok (.of_mirror still)
      | error cause part still => exact .error cause part (.of_mirror still)
      | refused among reason part still => exact .refused among reason part (.of_mirror still)

/-! ### A block at work

A small disk on which the theorem applies, and two on which it does not: one where the argument file
is read as a list as well, and one with a gate that judges origins. Neither hypothesis can be left
out. -/

/-- A file of tag criteria, a blank line among them, and one more criterion behind the directive. -/
def criteriaFiles : Disk :=
  Expansion.folder [("outer", ":-tf\nWhite \"X\"\n:-s\n"), ("f", "Black \"Y\"\n\nElo \"1\"\n")]

def criteriaBlock : DataBlock criteriaFiles where
  outer := "outer"
  place := ["games", "outer"]
  bytes := Utf8.encode ":-tf\nWhite \"X\"\n:-s\n"
  inPlace := Utf8.encode ":-t\nBlack \"Y\"\nElo \"1\"\nWhite \"X\"\n:-s\n"
  kind := .tagCriteria
  before := []
  lines := ["Black \"Y\"", "Elo \"1\""]
  after := ["White \"X\"", ":-s"]
  failure := none
  file := "f"
  filePlace := ["games", "f"]
  fileBytes := Utf8.encode "Black \"Y\"\n\nElo \"1\"\n"
  held := ["Black \"Y\"", "", "Elo \"1\""]
  found := by rfl
  split := by decide +kernel
  joined := by decide +kernel
  uncoloned := by decide
  named := by decide
  unspaced := by decide
  fileFound := by rfl
  holds := by decide +kernel
  same := by decide +kernel

/-- The criteria of the file do in place what they do in their file. -/
theorem criteria_inPlace :
    criteriaBlock.Concludes criteriaBlock.values criteriaBlock.Alike
      (readArgumentFile {} "outer" { disk := criteriaFiles })
      (readArgumentFile {} "outer" { disk := criteriaBlock.onDisk }) := by
  have blind : ({} : Context).gate.IgnoresOrigins := Gate.ignoresOrigins_everything
  have log : ∀ target, ({ disk := criteriaFiles } : Session).config.log = .file target →
      ¬ criteriaBlock.inclusion.reserves target.place :=
    fun _ writes => nomatch writes
  have spared : ∀ given ∈ givenReading {} criteriaBlock.outer { disk := criteriaFiles },
      given.Spares criteriaBlock.inclusion := by
    decide +kernel
  exact readArgumentFile_inPlace blind { disk := criteriaFiles } criteriaBlock log spared

/-- The argument file is a list of source files to itself. -/
def listFiles : Disk :=
  Expansion.folder [("outer.txt", ":-vf\n:-fouter.txt\n"), ("f", "d4\n")]

def listBlock : DataBlock listFiles where
  outer := "outer.txt"
  place := ["games", "outer.txt"]
  bytes := Utf8.encode ":-vf\n:-fouter.txt\n"
  inPlace := Utf8.encode ":-v\nd4\n:-fouter.txt\n"
  kind := .textualVariations
  before := []
  lines := ["d4"]
  after := [":-fouter.txt"]
  failure := none
  file := "f"
  filePlace := ["games", "f"]
  fileBytes := Utf8.encode "d4\n"
  held := ["d4"]
  found := by rfl
  split := by decide +kernel
  joined := by decide +kernel
  uncoloned := by decide
  named := by decide
  unspaced := by decide
  fileFound := by rfl
  holds := by decide +kernel
  same := by rfl

/-- It is not enough that nothing is written. An argument file that is also read as a list names other
source files with the data in place. -/
theorem not_inPlace_of_listed :
    ¬ ∀ (context : Context) (session : Session) (block : DataBlock session.disk),
      context.gate.IgnoresOrigins →
      session.config.log = .standardError →
      (∀ given ∈ givenReading context block.outer session, given.opens? = none) →
      block.Concludes block.values
        (fun _ first second => second.registry =
          { first.registry with tagCriteria := second.registry.tagCriteria })
        (readArgumentFile context block.outer session)
        (readArgumentFile context block.outer { session with disk := block.onDisk }) := by
  intro general
  have blind : ({} : Context).gate.IgnoresOrigins := Gate.ignoresOrigins_everything
  have unwritten : ∀ given ∈ givenReading {} listBlock.outer { disk := listFiles },
      given.opens? = none := by
    decide +kernel
  have concludes := general {} { disk := listFiles } listBlock blind rfl unwritten
  obtain ⟨_, same⟩ := concludes.exists_related
  have sources := congrArg Registry.sources same
  revert sources
  decide +kernel

/-- A gate that lets no tag criterion of one file pass. -/
def originGate : Gate
  | _, .tagCriterion criterion => if criterion.origin = "f" then some "misplaced" else none
  | _, _ => none

/-- A gate that looks at where a tag criterion comes from can tell the two apart: it lets the criteria
pass in place and not in their file. -/
theorem not_inPlace_of_origins :
    ¬ ∀ (context : Context) (session : Session) (block : DataBlock session.disk),
      session.config.log = .standardError →
      (∀ given ∈ givenReading context block.outer session, given.Spares block.inclusion) →
      block.Concludes block.values (fun _ _ _ => True)
        (readArgumentFile context block.outer session)
        (readArgumentFile context block.outer { session with disk := block.onDisk }) := by
  intro general
  have spared : ∀ given ∈ givenReading { gate := originGate } criteriaBlock.outer
      { disk := criteriaFiles }, given.Spares criteriaBlock.inclusion := by
    decide +kernel
  have alike := (general { gate := originGate } { disk := criteriaFiles } criteriaBlock rfl
    spared).succeeds_eq
  revert alike
  decide +kernel

end DataBlock

end ExtractOptions

/-
Module: ExtractOptions.Proofs.Inclusion.Guard
Purpose: the guard against argument files that include each other. It refuses a file exactly when
  it should: if no argument file is written while they are read, a file that includes itself,
  through whatever others, is never read with success, and a file is refused only if there is such a
  circle or a chain of files that is too long.
Main exports: Disk.Includes, Undisturbed, IncludeGuard, includeGuard
-/
import ExtractOptions.Proofs.Disk.Growth
import ExtractOptions.Proofs.Inclusion.Expansion
import ExtractOptions.Proofs.Inclusion.Stack
import ExtractOptions.Proofs.Run.Chronology
import ExtractOptions.Proofs.Run.Soundness
import Mathlib.Data.List.Chain
import Mathlib.Data.List.Nodup

namespace ExtractOptions

open Text ExtractOptions.Action Relation

/-! ### The files of a run

That one file includes another is a matter of the disk: a line of the outer file names the inner
one. The run follows these lines only if no argument file changes while it goes on, which is what
`Undisturbed` says of the options that are given. -/

/-- The outer file has a line that includes the inner one. -/
def Disk.Includes (disk : Disk) (outer inner : Location) : Prop :=
  ∃ bytes value, disk.node? outer = some (.file bytes) ∧
    String.ofList (':' :: '-' :: 'A' :: value) ∈ (Lines.ofBytes bytes).lines ∧
    disk.canonical (skipSpaces (String.ofList value)) = .ok inner

/-- No file that a file includes, directly or through others, includes itself. -/
def Disk.Acyclic (disk : Disk) (place : Location) : Prop :=
  ∀ target, ReflTransGen disk.Includes place target → ¬ TransGen disk.Includes target target

/-- An argument file of a run: the one that is to be read, or one that an option given in the run
names. -/
def IsArgumentFile (context : Context) (path : String) (session : Session) (place : Location) :
    Prop :=
  session.disk.canonical path = .ok place ∨
    ∃ one ∈ givenReading context path session, ∃ file, one.file? = some file ∧
      one.session.disk.canonical file = .ok place

/-- No argument file of the run is written: whenever an option was given, each of them holds what it
held at first. -/
def Undisturbed (context : Context) (path : String) (session : Session) : Prop :=
  ∀ place, IsArgumentFile context path session place →
    ∀ one ∈ givenReading context path session,
      (one.after context).disk.node? place = session.disk.node? place

section

variable {context : Context} {first : Disk} {files : Location → Prop}

/-- The disk has grown from the first one, and some files are as they were. -/
structure Disk.Keeps (first : Disk) (files : Location → Prop) (disk : Disk) : Prop where
  grows : first.Grows disk
  kept : ∀ place, files place → disk.node? place = first.node? place

/-- Options that name no argument files but certain ones, and leave those as they were at first. -/
structure Calm (context : Context) (first : Disk) (files : Location → Prop)
    (given : List Given) : Prop where
  named : ∀ one ∈ given, ∀ file place, one.file? = some file →
    one.session.disk.canonical file = .ok place → files place
  kept : ∀ one ∈ given, ∀ place, files place →
    (one.after context).disk.node? place = first.node? place

/-- Fewer options than calm ones are calm. -/
theorem Calm.subset {given some : List Given} (calm : Calm context first files given)
    (among : some ⊆ given) : Calm context first files some where
  named := fun one listed => calm.named one (among listed)
  kept := fun one listed => calm.kept one (among listed)

/-- Between calm options the disk keeps the files. -/
theorem Chronology.keepsFiles {clean : Prop} {start last : Session} {given : List Given}
    (chronology : Chronology context clean start given last)
    (calm : Calm context first files given) (keeps : first.Keeps files start.disk) :
    first.Keeps files last.disk := by
  refine (chronology.keeps (fun session => first.Keeps files session.disk)
    (fun interlude keeps => interlude.disk ▸ keeps) (fun one among listed _ keeps => ?_) keeps).1
  exact ⟨keeps.grows.trans (one.alone_steps context listed).grows, calm.kept one among⟩

/-- At every point of its course a reading has kept the files. -/
theorem Course.keepsFiles {includeFile : String → Action Unit} {included : String → Trace}
    {path : String} {session met : Session} {before : List String} {reader : LineReader}
    (includes : ∀ file, Chronicles context (includeFile file) (included file))
    (calm : Calm context first files
      (givenInFile context includeFile included path session))
    (keeps : first.Keeps files session.disk)
    (course : Course context includeFile path session before reader met) :
    first.Keeps files met.disk := by
  induction course with
  | opened => exact keeps
  | @line before reader later met after line course room next does ih =>
    have comes : ComesTo context includeFile path session before line met :=
      ⟨reader, later, course, room, next⟩
    have chronology := (lineAction_chronicles includes path before line).of_ok does
    exact chronology.keepsFiles (calm.subset comes.given_subset) ih

/-- A line that fails for no ordinary reason fails in the file that it names. -/
theorem exists_file_of_lineAction {includeFile : String → Action Unit} {origin line : String}
    {before : List String} {met left : Session} {failure : Failure}
    (rare : failure.isOrdinary = false)
    (fails : lineAction context includeFile origin before line met = .error failure left) :
    ∃ value, LineForm.ofText line = .letter .argumentFile value ∧ skipSpaces value ≠ "" ∧
      includeFile (skipSpaces value) met.lettered = .error failure left := by
  have ordinary : ∀ {action : Action Unit}, Unaware action →
      action met ≠ .error failure left := by
    intro action unaware fails
    rw [unaware.ordinary met failure left fails] at rare
    cases rare
  unfold lineAction at fails
  cases form : LineForm.ofText line with
  | blank =>
    rw [form] at fails
    cases fails
  | named name value =>
    rw [form] at fails
    exact absurd fails (ordinary (performNamed_unaware context includeFile name value).map)
  | letter option value =>
    rw [form] at fails
    rcases option.reads_or_alone context value with ⟨rfl, named⟩ | alone
    · refine ⟨value, rfl, named, ?_⟩
      exact (LetterOption.perform_argumentFile named met).symm.trans fails
    · simp only [alone] at fails
      have given := (LineForm.ofText_eq_letter_iff.mp form).1
      exact absurd fails (ordinary (option.alone_unaware context given value))
  | source path =>
    rw [form] at fails
    cases fails
  | data =>
    rw [form] at fails
    cases kind : kindAfter? before with
    | none =>
      rw [kind] at fails
      cases fails
      cases rare
    | some kind' =>
      rw [kind] at fails
      exact absurd fails (ordinary (.deliver context kind'.persists_option origin line))
  | unknown cause =>
    rw [form] at fails
    cases fails
    cases LineForm.failure_of_unknown form
    cases rare

/-! ### One file within another

One level of reading. In a calm run a file holds what it held at first, a line that names another
file is an edge of the graph, and whatever goes wrong for a reason of the guard goes wrong in such a
file. -/

/-- An argument file is read in a run that keeps its argument files. -/
structure CalmReading (context : Context) (first : Disk) (files : Location → Prop) (levels : Nat)
    (path : String) (session : Session) (place : Location) : Prop where
  calm : Calm context first files (givenNested context levels path session)
  keeps : first.Keeps files session.disk
  found : session.disk.canonical path = .ok place
  listed : files place

namespace CalmReading

variable {inner : Nat} {path : String} {session met : Session} {place : Location}
  {before : List String} {line : String}

/-- The options given in a file that may be read are those given in its lines, with the file
entered. -/
theorem given_eq (reading : CalmReading context first files (inner + 1) path session place)
    (fresh : place ∉ session.including) :
    givenNested context (inner + 1) path session =
      givenInFile context (readNested context inner) (givenNested context inner) path
        (session.entering place) := by
  rw [givenNested_apply, reading.found]
  exact if_neg fresh

/-- At every point of its course the reading has kept the argument files. -/
theorem course_keeps (reading : CalmReading context first files (inner + 1) path session place)
    (fresh : place ∉ session.including) {reader : LineReader}
    (course : Course context (readNested context inner) path (session.entering place) before reader
      met) : first.Keeps files met.disk := by
  have calm := reading.calm
  rw [reading.given_eq fresh] at calm
  have keeps : first.Keeps files (session.entering place).disk := reading.keeps
  exact course.keepsFiles (readNested_chronicles inner) calm keeps

/-- While the file is read it holds what it held at first. -/
theorem holds (reading : CalmReading context first files (inner + 1) path session place)
    (fresh : place ∉ session.including) {bytes : List UInt8}
    (held : first.node? place = some (.file bytes)) :
    ∀ before reader met,
      Course context (readNested context inner) path (session.entering place) before reader met →
      met.disk.node? reader.place = some (.file bytes) := by
  intro before reader met course
  have found : session.disk.canonical path = .ok reader.place := course.reader_eq.2
  rw [reading.found] at found
  cases found
  rw [(reading.course_keeps fresh course).kept _ reading.listed, held]

/-- A file that is named by a line is included, and is read in the same run. -/
theorem step (reading : CalmReading context first files (inner + 1) path session place)
    (fresh : place ∉ session.including)
    (comes : ComesTo context (readNested context inner) path (session.entering place) before line
      met)
    {value : String} (form : LineForm.ofText line = .letter .argumentFile value)
    (named : skipSpaces value ≠ "") {target : Location}
    (found : met.disk.canonical (skipSpaces value) = .ok target) :
    first.Includes place target ∧
      CalmReading context first files inner (skipSpaces value) met.lettered target ∧
      met.lettered.including = place :: session.including := by
  have calm := reading.calm
  rw [reading.given_eq fresh] at calm
  have onLine := calm.subset comes.given_subset
  have given : givenInLine context (givenNested context inner) line met =
      ⟨.letter .argumentFile, value, met⟩ ::
        givenNested context inner (skipSpaces value) met.lettered := by
    unfold givenInLine
    rw [form]
    exact LetterOption.given_argumentFile named met
  rw [given] at onLine
  have listed : files target := by
    refine onLine.named _ List.mem_cons_self (skipSpaces value) target ?_ found
    simp [Given.file?, named]
  obtain ⟨reader, later, course, -⟩ := id comes
  have keeps := reading.course_keeps fresh course
  refine ⟨?_, ⟨onLine.subset (List.subset_cons_self _ _), keeps, found, listed⟩, ?_⟩
  · obtain ⟨other, bytes, leads, holds⟩ := comes.exists_file
    have same : session.disk.canonical path = .ok other := leads
    rw [reading.found] at same
    cases same
    have held : first.node? place = some (.file bytes) := by
      rw [← reading.keeps.kept place reading.listed]
      exact holds
    refine ⟨bytes, value.toList, held, ?_, ?_⟩
    · have written := Directive.written_ofList 'A' value.toList
      rw [String.ofList_toList] at written
      have whole : line = String.ofList (Directive.opening ++ 'A' :: value.toList) :=
        (LineForm.ofText_eq_letter_iff.mp form).2.trans written
      exact whole ▸ comes.mem_lines (reading.holds fresh held)
    · rw [String.ofList_toList]
      exact keeps.grows.canonical_before found (keeps.kept target listed)
  · exact comes.including_eq (readNested_keepsStack inner)

/-- A failure that is no ordinary one comes from a file that the file includes. -/
theorem blame (reading : CalmReading context first files (inner + 1) path session place)
    (fresh : place ∉ session.including) {failure : Failure} {left : Session}
    (rare : failure.isOrdinary = false)
    (fails : readNested context (inner + 1) path session = .error failure left) :
    ∃ file met target later, first.Includes place target ∧
      CalmReading context first files inner file met target ∧
      met.including = place :: session.including ∧
      readNested context inner file met = .error failure later := by
  rw [readNested_apply, reading.found] at fails
  simp only [if_neg fresh] at fails
  have ends := interpretFile_ends context (readNested context inner) path (session.entering place)
  cases run : interpretFile context (readNested context inner) path (session.entering place) with
  | ok answer between =>
    rw [run] at fails
    cases fails
  | error cause between =>
    rw [run] at fails ends
    cases fails
    cases ends with
    | unopened | unreadable | exhausted => cases rare
    | @failed before line met _ _ comes does =>
      obtain ⟨value, form, named, fails⟩ := exists_file_of_lineAction rare does
      cases found : met.disk.canonical (skipSpaces value) with
      | error cause =>
        have unread : met.lettered.disk.canonical (skipSpaces value) = .error cause := found
        rw [readNested_apply, unread] at fails
        cases fails
        cases rare
      | ok target =>
        obtain ⟨edge, inside, stack⟩ := reading.step fresh comes form named found
        exact ⟨skipSpaces value, met.lettered, target, between, edge, inside, stack, fails⟩

/-- A file that is read with success has read the files that it includes. -/
theorem follow (reading : CalmReading context first files (inner + 1) path session place)
    (fresh : place ∉ session.including) {left : Session} {target : Location}
    (run : readNested context (inner + 1) path session = .ok () left)
    (edge : first.Includes place target) :
    ∃ file met later, CalmReading context first files inner file met target ∧
      met.including = place :: session.including ∧
      readNested context inner file met = .ok () later := by
  obtain ⟨bytes, value, held, among, leads⟩ := edge
  rw [readNested_apply, reading.found] at run
  simp only [if_neg fresh] at run
  have ends := interpretFile_ends context (readNested context inner) path (session.entering place)
  cases inside : interpretFile context (readNested context inner) path (session.entering place) with
  | error cause between =>
    rw [inside] at run
    cases run
  | ok answer between =>
    rw [inside] at ends
    cases ends with
    | finished course done =>
      have whole := course.lines_of_done (reading.holds fresh held) done
      rw [whole] at among
      obtain ⟨before, after, parts⟩ := List.append_of_mem among
      obtain ⟨met, next, later, comes, does, goes⟩ := course.split parts
      have form : LineForm.ofText (String.ofList (':' :: '-' :: 'A' :: value)) =
          .letter .argumentFile (String.ofList value) :=
        LineForm.ofText_eq_letter_iff.mpr ⟨by decide, (Directive.written_ofList 'A' value).symm⟩
      have named : skipSpaces (String.ofList value) ≠ "" := by
        intro unnamed
        rw [unnamed] at leads
        cases leads
      have keeps : first.Keeps files met.disk := by
        obtain ⟨reader, later, course, -⟩ := id comes
        exact reading.course_keeps fresh course
      obtain ⟨-, nested, stack⟩ := reading.step fresh comes form named (keeps.grows.canonical leads)
      unfold lineAction at does
      rw [form] at does
      exact ⟨_, met.lettered, later, nested, stack,
        (LetterOption.perform_argumentFile named met).symm.trans does⟩

/-! ### Circles and chains

By induction over the levels. A refusal is traced back through the files that lead to it, to a
circle or to a chain that is too long; a success has followed every edge, so there can be neither. -/

/-- A file that is refused because it is being read already lies on a circle, or is one of the files
that were being read. -/
theorem exists_circle {levels : Nat} {again : String} {left : Session}
    (reading : CalmReading context first files levels path session place)
    (fails : readNested context levels path session = .error (.recursiveInclude again) left) :
    ∃ target, ReflTransGen first.Includes place target ∧
      (target ∈ session.including ∨ TransGen first.Includes target target) := by
  induction levels generalizing path session place left with
  | zero =>
    rw [readNested_apply, reading.found] at fails
    simp only at fails
    split at fails
    · rename_i present
      exact ⟨place, .refl, .inl present⟩
    · cases fails
  | succ inner ih =>
    by_cases fresh : place ∈ session.including
    · exact ⟨place, .refl, .inl fresh⟩
    · obtain ⟨file, met, target, later, edge, nested, stack, fails⟩ := reading.blame fresh rfl fails
      obtain ⟨last, leads, closes⟩ := ih nested fails
      rw [stack, List.mem_cons] at closes
      rcases closes with (rfl | outside) | circle
      · exact ⟨last, .refl, .inr (.head' edge leads)⟩
      · exact ⟨last, .head edge leads, .inl outside⟩
      · exact ⟨last, .head edge leads, .inr circle⟩

/-- A file that is refused because too many are being read ends a chain of different files, one more
than could be opened, and none of them was being read before. -/
theorem exists_long_chain {levels limit : Nat} {deep : String} {left : Session}
    (reading : CalmReading context first files levels path session place)
    (fails : readNested context levels path session = .error (.includeTooDeep deep limit) left) :
    ∃ chain, (place :: chain).IsChain first.Includes ∧ (place :: chain).Nodup ∧
      (∀ target ∈ place :: chain, target ∉ session.including) ∧ chain.length = levels := by
  induction levels generalizing path session place left with
  | zero =>
    rw [readNested_apply, reading.found] at fails
    simp only at fails
    split at fails
    · cases fails
    · rename_i fresh
      exact ⟨[], .singleton _, List.nodup_singleton _, by simpa using fresh, rfl⟩
  | succ inner ih =>
    have fresh : place ∉ session.including := by
      intro present
      rw [readNested_apply, reading.found] at fails
      simp only [if_pos present] at fails
      cases fails
    obtain ⟨file, met, target, later, edge, nested, stack, fails⟩ := reading.blame fresh rfl fails
    obtain ⟨chain, linked, distinct, apart, long⟩ := ih nested fails
    rw [stack] at apart
    refine ⟨target :: chain, .cons_cons edge linked, ?_, ?_, by rw [List.length_cons, long]⟩
    · exact List.nodup_cons.mpr ⟨fun present => apart place present List.mem_cons_self, distinct⟩
    · intro one among
      rcases List.mem_cons.mp among with rfl | among
      · exact fresh
      · exact fun outside => apart one among (List.mem_cons_of_mem _ outside)

/-- Below a file that is read with success every chain of inclusions runs through different files,
none of which was being read before, and is no longer than may be. -/
theorem chain_of_ok {levels : Nat} {left : Session}
    (reading : CalmReading context first files levels path session place)
    (run : readNested context levels path session = .ok () left) {chain : List Location}
    (linked : (place :: chain).IsChain first.Includes) :
    (place :: chain).Nodup ∧ (∀ target ∈ place :: chain, target ∉ session.including) ∧
      (place :: chain).length ≤ levels := by
  induction levels generalizing path session place left chain with
  | zero =>
    rw [readNested_apply, reading.found] at run
    simp only at run
    split at run <;> cases run
  | succ inner ih =>
    have fresh : place ∉ session.including := by
      intro present
      rw [readNested_apply, reading.found] at run
      simp only [if_pos present] at run
      cases run
    cases chain with
    | nil => exact ⟨List.nodup_singleton _, by simpa using fresh, by simp⟩
    | cons target rest =>
      obtain ⟨edge, linked⟩ := List.isChain_cons_cons.mp linked
      obtain ⟨file, met, later, nested, stack, run⟩ := reading.follow fresh run edge
      obtain ⟨distinct, apart, short⟩ := ih nested run linked
      rw [stack] at apart
      refine ⟨?_, ?_, Nat.succ_le_succ short⟩
      · exact List.nodup_cons.mpr ⟨fun present => apart place present List.mem_cons_self, distinct⟩
      · intro one among
        rcases List.mem_cons.mp among with rfl | among
        · exact fresh
        · exact fun outside => apart one among (List.mem_cons_of_mem _ outside)

end CalmReading

end

/-! ### The guard

All that the guard promises in one statement: what it refuses, what it lets pass, and that the files
around a session are the same afterwards. -/

/-- An argument file is read in a run that leaves its argument files undisturbed. -/
theorem Undisturbed.calmReading {context : Context} {path : String} {session : Session}
    {place : Location} (undisturbed : Undisturbed context path session)
    (found : session.disk.canonical path = .ok place) :
    CalmReading context session.disk (IsArgumentFile context path session)
      (context.maxIncludeDepth - session.including.length) path session place where
  calm :=
    { named := fun one among file _ names leads => .inr ⟨one, among, file, names, leads⟩
      kept := fun one among _ argument => undisturbed _ argument one among }
  keeps := ⟨.refl _, fun _ _ => rfl⟩
  found := found
  listed := .inl found

/-- What the guard does, whatever the session is. -/
structure IncludeGuard (context : Context) (session : Session) : Prop where
  /-- Every call leaves the files that are being read as it met them, whether it succeeds or
  fails. -/
  restores : ∀ call : Call, ((call.run context).after session).including = session.including
  /-- So does the reading of a file at any depth. -/
  restoresNested : ∀ levels path,
    ((readNested context levels path).after session).including = session.including
  /-- Whenever an option is given in a call, no file is being read twice, and no more files are than
  may be. -/
  guardsOptions : session.including.Nodup → session.including.length ≤ context.maxIncludeDepth →
    ∀ (call : Call), ∀ one ∈ call.given context session,
      one.session.including.Nodup ∧ one.session.including.length ≤ context.maxIncludeDepth
  /-- At every line of a file that is read in a call, that file stands in front of the files around
  it, no file stands there twice, and no more files stand there than may. -/
  guardsLines : session.including.Nodup → session.including.length ≤ context.maxIncludeDepth →
    ∀ (call : Call) path start place, call.Reads context session path start place →
      ∀ before line met,
        ComesTo context
          (readNested context
            (context.maxIncludeDepth - (start.entering place).including.length))
          path (start.entering place) before line met →
        met.including = place :: start.including ∧ met.including.Nodup ∧
          met.including.length ≤ context.maxIncludeDepth
  /-- Files that do not include each other in a circle are not refused for that. -/
  admitsAcyclic : session.including = [] → ∀ path place,
    session.disk.canonical path = .ok place → Undisturbed context path session →
      session.disk.Acyclic place → ∀ again left,
        readArgumentFile context path session ≠ .error (.recursiveInclude again) left
  /-- Files are not refused for being too deep if no chain of different files is longer than may
  be. -/
  admitsShort : session.including = [] → ∀ path place,
    session.disk.canonical path = .ok place → Undisturbed context path session →
      (∀ chain, (place :: chain).IsChain session.disk.Includes → (place :: chain).Nodup →
        (place :: chain).length ≤ context.maxIncludeDepth) → ∀ deep limit left,
        readArgumentFile context path session ≠ .error (.includeTooDeep deep limit) left
  /-- If a file is read with success, every chain of files from there runs through different files
  and is no longer than may be. -/
  bounds : session.including = [] → ∀ path place,
    session.disk.canonical path = .ok place → Undisturbed context path session →
      ∀ left, readArgumentFile context path session = .ok () left →
        ∀ chain, (place :: chain).IsChain session.disk.Includes →
          (place :: chain).Nodup ∧ (place :: chain).length ≤ context.maxIncludeDepth

/-- The guard is sound and complete. -/
theorem includeGuard (context : Context) (session : Session) : IncludeGuard context session where
  restores := fun call => call.keepsStack session
  restoresNested := fun levels path => readNested_keepsStack levels path session
  guardsOptions := by
    intro distinct bounded call one among
    have guarded : session.Guarded context 0 := ⟨distinct, by omega⟩
    have inside := Call.guarded_of_given guarded one among
    exact ⟨inside.distinct, by have bounded := inside.bounded; omega⟩
  guardsLines := by
    intro distinct bounded call path start place reads before line met comes
    have guarded : session.Guarded context 0 := ⟨distinct, by omega⟩
    obtain ⟨stack, inside⟩ := reads.guarded guarded comes
    exact ⟨stack, inside.distinct, by have bounded := inside.bounded; omega⟩
  admitsAcyclic := by
    intro alone path place found undisturbed acyclic again left fails
    obtain ⟨target, leads, outside | circle⟩ :=
      (undisturbed.calmReading found).exists_circle fails
    · rw [alone] at outside
      cases outside
    · exact acyclic target leads circle
  admitsShort := by
    intro alone path place found undisturbed short deep limit left fails
    obtain ⟨chain, linked, distinct, -, long⟩ :=
      (undisturbed.calmReading found).exists_long_chain fails
    have bounded := short chain linked distinct
    rw [List.length_cons, long, alone, List.length_nil] at bounded
    omega
  bounds := by
    intro alone path place found undisturbed left run chain linked
    obtain ⟨distinct, -, short⟩ := (undisturbed.calmReading found).chain_of_ok run linked
    rw [alone, List.length_nil, Nat.sub_zero] at short
    exact ⟨distinct, short⟩

/-- The outer file includes the inner one twice, under two spellings. -/
def twiceFiles : Disk :=
  Expansion.folder [("outer", ":-Ap\n:-A../games/p\n:-s\n"), ("p", ":-s\n")]

/-- Naming a file twice is no circle: it is read twice, under either spelling, and the reading
succeeds. -/
theorem includeGuard_twice :
    ∃ left, readArgumentFile {} "outer" { disk := twiceFiles } = .ok () left ∧
      left.including = [] ∧
      ∀ chain, (["games", "outer"] :: chain).IsChain twiceFiles.Includes →
        (["games", "outer"] :: chain).Nodup ∧ (["games", "outer"] :: chain).length ≤ 16 := by
  have guard := includeGuard {} { disk := twiceFiles }
  have untouched : ∀ one ∈ givenReading {} "outer" { disk := twiceFiles },
      (one.after {}).disk.nodes = twiceFiles.nodes := by
    decide +kernel
  have undisturbed : Undisturbed {} "outer" { disk := twiceFiles } := by
    intro place _ one among
    unfold Disk.node?
    rw [untouched one among]
  have succeeds : (readArgumentFile {} "outer").succeeds { disk := twiceFiles } = true := by
    decide +kernel
  obtain ⟨_, run⟩ := exists_ok_of_succeeds succeeds
  exact ⟨_, run, guard.restores (.argumentFile "outer"),
    guard.bounds rfl "outer" ["games", "outer"] (by decide +kernel) undisturbed _ run⟩

end ExtractOptions

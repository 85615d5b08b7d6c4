/-
Module: ExtractOptions.Proofs.Inclusion.Unison
Purpose: lines and argument files on mirrored sessions that are reading the same files. Wherever the
  options given spare the two files of the inclusion, both sessions come to the same: they succeed
  together, or fail together in the same way.
Main exports: Echoes, interpretLine_echoes, readNested_echoes, Even, Even.lines, Even.finish
-/
import ExtractOptions.Proofs.Inclusion.Abreast

namespace ExtractOptions

open Text ExtractOptions.Action

/-- The action comes to the same on mirrored sessions wherever the options given in the first one
spare the two files. -/
def Echoes {α : Type} (stage : Stage) (trace : Trace) (action : Action α) : Prop :=
  ∀ session, (∀ given ∈ trace session, given.Spares stage.toInclusion) →
    Matches stage action session

section Options

variable {context : Context} {stage : Stage} {includeFile : String → Action Unit}
  {included : String → Trace}

/-- An option with a letter comes to the same if the reading that it may start does. -/
theorem LetterOption.echoes (blind : context.gate.IgnoresOrigins)
    (includes : ∀ file, Echoes stage (included file) (includeFile file))
    (option : LetterOption) (value : String) :
    Echoes stage (option.given context included value)
      (option.perform context includeFile value) := by
  intro session spares
  rcases option.reads_or_unread value with ⟨rfl, named⟩ | unread
  · simp only [given_argumentFile named, List.mem_cons, forall_eq_or_imp] at spares
    refine (Matches.count fun _ _ => by ac_rfl).bind fun _ between done => ?_
    cases done
    refine (Matches.requireFile _ _).bind fun _ between required => ?_
    obtain rfl := requireFile_eq_ok required
    exact includes (skipSpaces value) _ spares.2
  · rw [perform_eq_alone unread]
    simp only [given_alone unread, List.mem_singleton, forall_eq] at spares
    exact option.alone_matches blind (spares.letter rfl)

theorem performNamed_echoes (blind : context.gate.IgnoresOrigins) (name value : String) :
    Echoes stage (givenByName name value) (performNamed context includeFile name value) := by
  intro session spares
  cases found : NamedOption.find? name with
  | none =>
    unfold performNamed
    rw [found]
    exact .throw _
  | some option =>
    have listed : option ∈ NamedOption.all := List.mem_of_find?_eq_some found
    simp only [givenByName, found, List.mem_singleton, forall_eq] at spares
    rw [performNamed_eq found]
    refine (NamedOption.alone_matches blind listed fun letter stands => ?_).map
    exact spares.letter (by simp [AnyOption.asLetter?, stands])

/-! ### Lines

The same line does the same in both sessions. This differs from following in that failures are
compared too. -/

/-- A line does the same in both sessions if the same option is in force. -/
theorem interpretLine_echoes (blind : context.gate.IgnoresOrigins)
    (includes : ∀ file, Echoes stage (included file) (includeFile file))
    (origin : String) (pending : Option LetterOption) (line : String) :
    Echoes stage (givenInLine context included line)
      (interpretLine context includeFile origin pending line) := by
  intro session spares
  rw [interpretLine_eq]
  unfold givenInLine at spares
  cases form : LineForm.ofText line with
  | blank => exact .pure pending
  | named name value =>
    rw [form] at spares
    exact (performNamed_echoes blind name value session spares).map.bind fun _ _ _ => .pure none
  | letter option value =>
    rw [form] at spares
    exact (option.echoes blind includes value session spares).bind fun _ _ _ => .pure _
  | source path => exact (Matches.addSource path .normal).bind fun _ _ _ => .pure pending
  | data =>
    cases pending with
    | none => exact .throw _
    | some option => exact (Matches.deliver blind option origin line).bind fun _ _ _ => .pure _
  | unknown failure => exact .throw failure

/-- The lines of a file that is not the swapped one. -/
theorem interpretLines_echoes (blind : context.gate.IgnoresOrigins)
    (includes : ∀ file, Echoes stage (included file) (includeFile file))
    {reader : LineReader} (away : reader.place ≠ stage.swap.place) (allowance : Nat)
    (pending : Option LetterOption) :
    Echoes stage (givenInLines context includeFile included allowance reader pending)
      (interpretLines context includeFile allowance reader pending) := by
  induction allowance generalizing reader pending with
  | zero => exact fun _ _ => .throw _
  | succ allowance ih =>
    intro session spares mirrored mirror
    rw [interpretLines_apply, interpretLines_apply, mirror.disk.next_eq away]
    rw [givenInLines_apply] at spares
    cases read : reader.next session.disk with
    | error cause => exact .error _ mirror
    | ok next =>
      cases next with
      | none => exact .ok () mirror
      | some next =>
        obtain ⟨line, later⟩ := next
        rw [read] at spares
        have elsewhere : later.place ≠ stage.swap.place := by
          rw [LineReader.next_place read]
          exact away
        have first : Matches stage
            (interpretLine context includeFile reader.path pending line) session :=
          interpretLine_echoes blind includes reader.path pending line session fun given among =>
            spares given (List.mem_append_left _ among)
        refine first.bind (fun answer between done => ?_) mirrored mirror
        simp only [Trace.andThen_of_ok done, List.mem_append] at spares
        exact ih elsewhere answer between fun given among => spares given (.inr among)

end Options

/-! ### Argument files

A file that is not swapped is read alike by both sessions. Files that are being read already are the
same for both, so the guard decides alike. -/

section Files

variable {context : Context} {stage : Stage}

/-- A file other than the swapped one comes to the same on both sessions. -/
theorem interpretFile_echoes (blind : context.gate.IgnoresOrigins)
    {includeFile : String → Action Unit} {included : String → Trace}
    (includes : ∀ file, Echoes stage (included file) (includeFile file))
    {path : String} {session : Session} {place : Location}
    (stands : session.disk.canonical path = .ok place) (away : place ≠ stage.swap.place)
    (spares : ∀ given ∈ givenInFile context includeFile included path session,
      given.Spares stage.toInclusion) :
    Matches stage (interpretFile context includeFile path) session := by
  intro mirrored mirror
  rw [interpretFile_apply, interpretFile_apply, mirror.disk.openReader_eq]
  unfold givenInFile at spares
  cases opened : session.disk.openReader path with
  | error cause => exact .error _ mirror
  | ok reader =>
    rw [opened] at spares
    have elsewhere : reader.place ≠ stage.swap.place := by
      obtain ⟨same, -⟩ := Disk.openReader_eq_ok opened
      rw [stands] at same
      cases same
      exact away
    simp only [mirror.disk.file?_eq elsewhere]
    exact interpretLines_echoes blind includes elsewhere _ none session spares mirrored mirror

/-- An argument file that is named in a line of another one. The swapped file is being read, so both
sessions refuse to read it again; any other file is the same on both disks. -/
theorem readNested_echoes (blind : context.gate.IgnoresOrigins) (levels : Nat) (stage : Stage)
    (level : stage.first = stage.second) (path : String) :
    Echoes stage (givenNested context levels path) (readNested context levels path) := by
  induction levels generalizing stage path with
  | zero =>
    intro session _ mirrored mirror
    rw [readNested_apply, readNested_apply, mirror.disk.canonical_eq, mirror.first_including,
      mirror.second_including, level]
    cases session.disk.canonical path with
    | error cause => exact .error _ mirror
    | ok place =>
      simp only
      split <;> exact .error _ mirror
  | succ levels ih =>
    intro session spares mirrored mirror
    rw [readNested_apply, readNested_apply, mirror.disk.canonical_eq]
    rw [givenNested_apply] at spares
    cases found : session.disk.canonical path with
    | error cause => exact .error _ mirror
    | ok place =>
      rw [found] at spares
      have same : mirrored.including = session.including := by
        rw [mirror.first_including, mirror.second_including, level]
      simp only [same] at spares ⊢
      by_cases again : place ∈ session.including
      · rw [if_pos again, if_pos again]
        exact .error _ mirror
      · rw [if_neg again, if_neg again]
        rw [if_neg again] at spares
        have away : place ≠ stage.swap.place := by
          rintro rfl
          rw [mirror.first_including, level] at again
          exact again stage.reading
        have deeper : (stage.entering place).first = (stage.entering place).second :=
          congrArg (place :: ·) level
        have inside : Matches (stage.entering place)
            (interpretFile context (readNested context levels) path) (session.entering place) :=
          interpretFile_echoes blind (ih (stage.entering place) deeper) found away spares
        have both := inside _ mirror.entering
        generalize interpretFile context (readNested context levels) path
          (session.entering place) = one at both ⊢
        generalize interpretFile context (readNested context levels) path
          (mirrored.entering place) = other at both ⊢
        cases both with
        | ok _ still => exact .ok () still.leaving
        | error failure still => exact .error failure still.leaving

end Files

/-! ### The swapped file

Its lines differ between the two disks, but where they agree both readings act alike, and `Even`
says how far they have come together. -/

/-- Two readings of the swapped file that have come equally far in it. What is left for the one may
be other than what is left for the other. -/
structure Even (stage : Stage) (first second : Reading) (rest other : Lines) : Prop where
  mirror : Mirror stage first.session second.session
  path : second.reader.path = first.reader.path
  pending : second.pending = first.pending
  place : first.reader.place = stage.swap.place
  swapped : second.reader.place = stage.swap.place
  supplies : first.reader.Supplies first.session.disk rest
  opposite : second.reader.Supplies second.session.disk other

namespace Even

variable {context : Context} {stage : Stage} {first second : Reading}
  {includeFile : String → Action Unit} {included : String → Trace}

/-- As long as the sessions are mirrored both files stay as they are. -/
theorem kept {rest other : Lines} (even : Even stage first second rest other) {later : Stage}
    {left after : Session} (still : Mirror later left after) (same : later.swap = stage.swap) :
    left.disk.node? first.reader.place = first.session.disk.node? first.reader.place ∧
      after.disk.node? second.reader.place = second.session.disk.node? second.reader.place := by
  have old := still.disk.old
  have new := still.disk.new
  rw [same] at old new
  rw [even.place, even.swapped, old, new, even.mirror.disk.old, even.mirror.disk.new]
  exact ⟨rfl, rfl⟩

/-- Both readings get past lines that both files have, or both fail at the same one of them. -/
theorem lines (blind : context.gate.IgnoresOrigins)
    (includes : ∀ file, Echoes stage (included file) (includeFile file))
    {lines rest other : List String} {failure opposite : Option IoError}
    (even : Even stage first second ⟨lines ++ rest, failure⟩ ⟨lines ++ other, opposite⟩)
    {allowance : Nat}
    (spares : ∀ given ∈ first.given context includeFile included (allowance + lines.length),
      given.Spares stage.toInclusion) :
    (∃ later further, first.Advances context includeFile lines.length later ∧
      second.Advances context includeFile lines.length further ∧
      Even stage later further ⟨rest, failure⟩ ⟨other, opposite⟩) ∨
    ∃ cause left after, Mirror stage left after ∧
      first.run context includeFile (allowance + lines.length) = .error cause left ∧
      ∀ more, second.run context includeFile (more + lines.length) = .error cause after := by
  induction lines generalizing first second with
  | nil => exact .inl ⟨first, second, .refl first, .refl second, even⟩
  | cons line lines ih =>
    obtain ⟨later, read, path, place, supplies⟩ := even.supplies.next_cons
    obtain ⟨further, readToo, pathToo, placeToo, suppliesToo⟩ := even.opposite.next_cons
    rw [List.length_cons, ← Nat.add_assoc] at spares ⊢
    have begins := spares
    unfold Reading.given at begins
    rw [givenInLines_apply, read] at begins
    have both : Tallies stage
        (interpretLine context includeFile first.reader.path first.pending line first.session)
        (interpretLine context includeFile second.reader.path second.pending line
          second.session) := by
      rw [even.path, even.pending]
      exact interpretLine_echoes blind includes _ _ line first.session
        (fun given among => begins given (List.mem_append_left _ among)) _ even.mirror
    generalize done : interpretLine context includeFile first.reader.path first.pending line
      first.session = one at both
    generalize doneToo : interpretLine context includeFile second.reader.path second.pending line
      second.session = two at both
    cases both with
    | error cause still =>
      refine .inr ⟨cause, _, _, still, Reading.run_of_error read done _, fun more => ?_⟩
      rw [← Nat.add_assoc]
      exact Reading.run_of_error readToo doneToo _
    | @ok answer between middle still =>
      have step : first.Advances context includeFile 1 ⟨later, answer, between⟩ :=
        .line read path done
      have stepToo : second.Advances context includeFile 1 ⟨further, answer, middle⟩ :=
        .line readToo pathToo doneToo
      obtain ⟨kept, keptToo⟩ := even.kept still rfl
      have onward : Even stage ⟨later, answer, between⟩ ⟨further, answer, middle⟩
          ⟨lines ++ rest, failure⟩ ⟨lines ++ other, opposite⟩ :=
        { mirror := still
          path := by rw [path, pathToo, even.path]
          pending := rfl
          place := place.trans even.place
          swapped := placeToo.trans even.swapped
          supplies := supplies.congr (by rw [place]; exact kept)
          opposite := suppliesToo.congr (by rw [placeToo]; exact keptToo) }
      rcases ih onward fun given among => spares given (step.given included _ given among) with
        ⟨last, furthest, goes, goesToo, ends⟩ | ⟨cause, left, after, ends, fails, failsToo⟩
      · exact .inl ⟨last, furthest, step.trans goes, stepToo.trans goesToo, ends⟩
      · refine .inr ⟨cause, left, after, ends, ?_, fun more => ?_⟩
        · rw [step.run, fails]
        · rw [← Nat.add_assoc, stepToo.run, failsToo]

/-- At the end of their files both readings stop, or fail to read further. -/
theorem finish {failure : Option IoError}
    (even : Even stage first second ⟨[], failure⟩ ⟨[], failure⟩) (allowance more : Nat) :
    Tallies stage (first.run context includeFile (allowance + 1))
      (second.run context includeFile (more + 1)) := by
  unfold Reading.run
  rw [interpretLines_apply, interpretLines_apply, even.supplies.next_nil, even.opposite.next_nil,
    even.path]
  cases failure with
  | none => exact .ok () even.mirror
  | some cause => exact .error _ even.mirror

end Even

end ExtractOptions

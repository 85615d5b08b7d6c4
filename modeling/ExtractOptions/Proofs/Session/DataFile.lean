/-
Module: ExtractOptions.Proofs.Session.DataFile
Purpose: files that are taken line by line, the files of data lines and the lists of source files.
  The lines that are not blank go one by one into the one list of the registry that is theirs. Where
  such a file fails, in itself or by a line that is refused, the lines before that have been taken.
Main exports: Registry.withLines, Registry.withSources, Disk.StopsAfter, forLines_eq_error,
  deliver_apply, Registry.Admits, Session.handed, deliverFile_apply, deliverFile_eq_error,
  Session.listing, readSourceList_apply, readSourceList_eq_error
-/
import ExtractOptions.Proofs.Session.Step

namespace ExtractOptions

open Text ExtractOptions.Action

/-! ### What the lines of a file give

A file of lines goes into one list of the registry. Which list that is depends on the kind of the
lines, and blank lines go nowhere. -/

/-- The lines that are not blank. -/
def filled (lines : List String) : List String :=
  lines.filter fun line => !isBlankText line

/-- Blank lines are left out part by part. -/
@[simp] theorem filled_append (first second : List String) :
    filled (first ++ second) = filled first ++ filled second :=
  List.filter_append ..

theorem filled_of_blank {line : String} (blank : isBlankText line = true) : filled [line] = [] := by
  simp [filled, blank]

theorem filled_of_full {line : String} (full : isBlankText line = false) :
    filled [line] = [line] := by
  simp [filled, full]

namespace Registry

/-- The registry with the data lines of a file recorded, each in the list of its kind. -/
def withLines (registry : Registry) (kind : DataKind) (origin : String) (lines : List String) :
    Registry :=
  match kind with
  | .tagCriteria =>
    { registry with
      tagCriteria := registry.tagCriteria ++ (filled lines).map fun line => ⟨line, origin⟩ }
  | .tagRoster => { registry with roster := registry.roster ++ (filled lines).map trim }
  | .textualVariations =>
    { registry with textualVariations := registry.textualVariations ++ filled lines }
  | .positionalVariations =>
    { registry with positionalVariations := registry.positionalVariations ++ filled lines }
  | .colouredEndings =>
    { registry with
      materials := registry.materials ++ (filled lines).map fun line => (line, false) }
  | .endings =>
    { registry with
      materials := registry.materials ++ (filled lines).map fun line => (line, true) }

@[simp] theorem withLines_nil (registry : Registry) (kind : DataKind) (origin : String) :
    registry.withLines kind origin [] = registry := by
  cases kind <;> simp [withLines, filled]

/-- The lines of two blocks are recorded as those of one, in order. -/
theorem withLines_append (registry : Registry) (kind : DataKind) (origin : String)
    (first second : List String) :
    registry.withLines kind origin (first ++ second) =
      (registry.withLines kind origin first).withLines kind origin second := by
  cases kind <;> simp [withLines]

/-- A blank line is not recorded. -/
theorem withLines_of_blank (registry : Registry) (kind : DataKind) (origin : String)
    {line : String} (blank : isBlankText line = true) :
    registry.withLines kind origin [line] = registry := by
  cases kind <;> simp [withLines, filled_of_blank blank]

/-- A data line that passes the gate is recorded as the line of a file. -/
theorem record_request (registry : Registry) (kind : DataKind) (origin : String) {line : String}
    (full : isBlankText line = false) :
    registry.record (kind.request origin line) = registry.withLines kind origin [line] := by
  cases kind <;> simp [withLines, filled_of_full full, DataKind.request, record]

/-- The registry with the source files recorded that the lines of a file name. -/
def withSources (registry : Registry) (kind : SourceKind) (lines : List String) : Registry :=
  { registry with sources := registry.sources ++ (filled lines).map fun line => (trim line, kind) }

@[simp] theorem withSources_nil (registry : Registry) (kind : SourceKind) :
    registry.withSources kind [] = registry := by
  simp [withSources, filled]

/-- The source files of two blocks are recorded as those of one, in order. -/
theorem withSources_append (registry : Registry) (kind : SourceKind)
    (first second : List String) :
    registry.withSources kind (first ++ second) =
      (registry.withSources kind first).withSources kind second := by
  simp [withSources]

theorem withSources_of_blank (registry : Registry) (kind : SourceKind) {line : String}
    (blank : isBlankText line = true) : registry.withSources kind [line] = registry := by
  simp [withSources, filled_of_blank blank]

/-- A line that is not blank is recorded without the white space around it. -/
theorem addSource_trim (registry : Registry) (kind : SourceKind) {line : String}
    (full : isBlankText line = false) :
    registry.addSource (trim line) kind = registry.withSources kind [line] := by
  simp [withSources, filled_of_full full, addSource]

end Registry

/-! ### Files that are not taken to their end

There are three ways for a file to stop: it cannot be opened, it cannot be read on, or a line of it
is refused. In each case the lines before were taken, and an induction over the lines says so once
for all files of lines. -/

/-- Taking a file line by line stops with a failure after the given lines: the file cannot be read
at all, it cannot be read further, or the next line is refused. -/
inductive Disk.StopsAfter (disk : Disk) (path : String)
    (refuses : List String → String → Failure → Prop) : List String → Failure → Prop
  | unread {cause : IoError} (reads : disk.readLines path = .error cause) :
    StopsAfter disk path refuses [] (.resource path .reading cause)
  | broken {before : List String} {cause : IoError}
      (reads : disk.readLines path = .ok ⟨before, some cause⟩) :
    StopsAfter disk path refuses before (.resource path .reading cause)
  | refused {before later : List String} {line : String} {ending : Option IoError}
      {failure : Failure} (reads : disk.readLines path = .ok ⟨before ++ line :: later, ending⟩)
      (refusal : refuses before line failure) :
    StopsAfter disk path refuses before failure

namespace Action

variable {visit : String → Action Unit} {taken : List String → Session → Prop}

/-- What holds after every line of a list holds after the lines before the one that fails. -/
theorem forM_eq_error
    (step : ∀ {before line met next}, taken before met → visit line met = .ok () next →
      taken (before ++ [line]) next)
    {lines before : List String} {session left : Session} {failure : Failure}
    (start : taken before session) (fails : lines.forM visit session = .error failure left) :
    ∃ front line later met, lines = front ++ line :: later ∧ taken (before ++ front) met ∧
      visit line met = .error failure left := by
  -- The lines already taken are left open: what was `before` grows as the list gets shorter.
  induction lines generalizing before session with
  | nil => cases fails
  | cons line lines ih =>
    have unrolled : (visit line >>= fun _ => lines.forM visit) session = .error failure left :=
      fails
    rw [bind_apply] at unrolled
    cases run : visit line session with
    | error other between =>
      rw [run] at unrolled
      cases unrolled
      exact ⟨[], line, lines, session, rfl, by rwa [List.append_nil], run⟩
    | ok _ between =>
      rw [run] at unrolled
      obtain ⟨front, refused, later, met, rfl, holds, stops⟩ := ih (step start run) unrolled
      exact ⟨line :: front, refused, later, met, rfl, by simpa using holds, stops⟩

/-- What holds after every line of a list holds after all of them. -/
theorem forM_eq_ok
    (step : ∀ {before line met next}, taken before met → visit line met = .ok () next →
      taken (before ++ [line]) next)
    {lines before : List String} {session left : Session} (start : taken before session)
    (run : lines.forM visit session = .ok () left) : taken (before ++ lines) left := by
  induction lines generalizing before session with
  | nil =>
    cases run
    rwa [List.append_nil]
  | cons line lines ih =>
    obtain ⟨_, between, first, rest⟩ := bind_ok run
    have holds := ih (step start first) rest
    rwa [List.append_assoc] at holds

/-- A file that is taken line by line fails where it stops, with what the lines before that have
done. -/
theorem forLines_eq_error {path : String} {session left : Session} {failure : Failure}
    (step : ∀ {before line met next}, taken before met → visit line met = .ok () next →
      taken (before ++ [line]) next)
    (start : taken [] session) (fails : forLines path visit session = .error failure left) :
    ∃ before,
      (taken before left ∧ session.disk.StopsAfter path (fun _ _ _ => False) before failure) ∨
      ∃ line later ending met,
        session.disk.readLines path = .ok ⟨before ++ line :: later, ending⟩ ∧
          taken before met ∧ visit line met = .error failure left := by
  unfold forLines at fails
  rw [bind_apply, readLines_apply] at fails
  cases reads : session.disk.readLines path with
  | error cause =>
    rw [reads] at fails
    cases fails
    exact ⟨[], .inl ⟨start, .unread reads⟩⟩
  | ok lines =>
    obtain ⟨all, ending⟩ := lines
    rw [reads] at fails
    simp only [bind_apply] at fails
    cases visited : all.forM visit session with
    | error other between =>
      rw [visited] at fails
      cases fails
      obtain ⟨before, line, later, met, rfl, holds, stops⟩ := forM_eq_error step start visited
      exact ⟨before, .inr ⟨line, later, ending, met, rfl, holds, stops⟩⟩
    | ok _ between =>
      rw [visited] at fails
      have holds := forM_eq_ok step start visited
      cases ending with
      | none => cases fails
      | some cause =>
        cases fails
        exact ⟨all, .inl ⟨holds, .broken reads⟩⟩

/-- A file that is taken line by line is taken to its end if nothing fails. -/
theorem forLines_eq_ok {path : String} {session left : Session}
    (step : ∀ {before line met next}, taken before met → visit line met = .ok () next →
      taken (before ++ [line]) next)
    (start : taken [] session) (run : forLines path visit session = .ok () left) :
    ∃ lines, session.disk.readLines path = .ok ⟨lines, none⟩ ∧ taken lines left := by
  unfold forLines at run
  rw [bind_apply, readLines_apply] at run
  cases reads : session.disk.readLines path with
  | error cause =>
    rw [reads] at run
    cases run
  | ok all =>
    obtain ⟨lines, ending⟩ := all
    rw [reads] at run
    simp only [bind_apply] at run
    cases visited : lines.forM visit session with
    | error failure between =>
      rw [visited] at run
      cases run
    | ok _ between =>
      rw [visited] at run
      cases ending with
      | none =>
        cases run
        exact ⟨lines, rfl, forM_eq_ok step start visited⟩
      | some cause => cases run

end Action

/-- A file that stops for a reason stops for a wider one. -/
theorem Disk.StopsAfter.mono {disk : Disk} {path : String}
    {refuses wider : List String → String → Failure → Prop} {before : List String}
    {failure : Failure} (stops : disk.StopsAfter path refuses before failure)
    (wide : ∀ front line cause, refuses front line cause → wider front line cause) :
    disk.StopsAfter path wider before failure := by
  cases stops with
  | unread reads => exact .unread reads
  | broken reads => exact .broken reads
  | refused reads refusal => exact .refused reads (wide _ _ _ refusal)

/-! ### Data files and lists of files

What a refusal of a line looks like and what may have changed by then. The configuration changes for
one kind of lines only. -/

/-- The failure of a data line that is refused. -/
def DataKind.refusal (kind : DataKind) (origin line reason : String) : Failure :=
  .refused (kind.option.text ++ " line \"" ++ line ++ "\" from " ++ origin) reason

/-- The rest of the tool refuses a data line of a file, once the lines before it are recorded. -/
def Registry.Refuses (context : Context) (registry : Registry) (kind : DataKind) (path : String)
    (before : List String) (line : String) (failure : Failure) : Prop :=
  isBlankText line = false ∧ ∃ reason, failure = kind.refusal path line reason ∧
    context.gate (registry.withLines kind path before) (kind.request path line) = some reason

/-- The configuration is left alone, or positional variations are asked for as their lines are
read. -/
def DataKind.MayTurn (kind : DataKind) (config left : Config) : Prop :=
  left = config ∨
    kind = .positionalVariations ∧ left = config.set .positionalVariations true

/-- The session as a data line is handed on. -/
def Session.delivering (session : Session) (kind : DataKind) : Session :=
  { session with
    config :=
      if kind = .positionalVariations then session.config.set .positionalVariations true
      else session.config
    counters := { session.counters with dataLines := session.counters.dataLines + 1 } }

/-- The session has taken in the lines of a data file. -/
def Session.HasTaken (session : Session) (kind : DataKind) (path : String) (before : List String)
    (met : Session) : Prop :=
  ∃ config counters, kind.MayTurn session.config config ∧
    met = { session with
      config, counters, registry := session.registry.withLines kind path before }

section

variable {context : Context} {session left : Session} {failure : Failure}

/-- A data line is handed on, and recorded unless the gate refuses it. -/
theorem deliver_apply (context : Context) (kind : DataKind) (origin line : String)
    (session : Session) :
    deliver context kind.option origin line session =
      match context.gate session.registry (kind.request origin line) with
      | some reason => .error (kind.refusal origin line reason) (session.delivering kind)
      | none =>
        .ok ()
          { session.delivering kind with
            registry := session.registry.record (kind.request origin line) } := by
  by_cases positional : kind = .positionalVariations
  · subst positional
    exact request_apply ..
  · rw [deliver_option]
    unfold Session.delivering
    simp only [positional, if_false, bind_apply, count_apply, request_apply]
    rfl

/-! ### Data lines handed on

The loop over the lines of a data file in closed form. The session after some lines is computed from
the lines alone, so a file that is read to its end needs no induction any more. -/

/-- None of the lines is refused once those before it are recorded. -/
def Registry.Admits (context : Context) (registry : Registry) (kind : DataKind) (path : String)
    (lines : List String) : Prop :=
  ∀ front line back, lines = front ++ line :: back → isBlankText line = false →
    context.gate (registry.withLines kind path front) (kind.request path line) = none

/-- The session with some lines of a data file handed on. -/
def Session.handed (session : Session) (kind : DataKind) (path : String) (lines : List String) :
    Session :=
  { session with
    config :=
      if kind = .positionalVariations ∧ filled lines ≠ [] then
        session.config.set .positionalVariations true
      else session.config
    counters :=
      { session.counters with
        dataLines := session.counters.dataLines + (filled lines).length }
    registry := session.registry.withLines kind path lines }

theorem Registry.admits_nil {registry : Registry} {kind : DataKind} {path : String} :
    registry.Admits context kind path [] := by
  intro front line back same
  simp at same

/-- One line more is admitted if the gate lets it pass behind the others. -/
theorem Registry.admits_append {registry : Registry} {kind : DataKind} {path line : String}
    {before : List String} (admits : registry.Admits context kind path before)
    (passes : isBlankText line = false →
      context.gate (registry.withLines kind path before) (kind.request path line) = none) :
    registry.Admits context kind path (before ++ [line]) := by
  intro front other back same full
  rcases List.eq_nil_or_concat back with rfl | ⟨middle, last, rfl⟩
  · obtain ⟨rfl, last⟩ := List.append_inj' same rfl
    obtain rfl : line = other := (List.cons.inj last).1
    exact passes full
  · have split : before ++ [line] = (front ++ other :: middle) ++ [last] := by simpa using same
    obtain ⟨rfl, -⟩ := List.append_inj' split rfl
    exact admits front other middle rfl full

theorem Session.handed_nil (session : Session) (kind : DataKind) (path : String) :
    session.handed kind path [] = session := by
  simp [handed, filled]

/-- A blank line is not handed on. -/
theorem Session.handed_of_blank {kind : DataKind} {path line : String} {before : List String}
    (blank : isBlankText line = true) :
    session.handed kind path (before ++ [line]) = session.handed kind path before := by
  simp [handed, filled_of_blank blank, Registry.withLines_append, Registry.withLines_of_blank,
    blank]

/-- Handing on one line more records it. -/
theorem Session.handed_of_full {kind : DataKind} {path line : String} {before : List String}
    (full : isBlankText line = false) :
    session.handed kind path (before ++ [line]) =
      { (session.handed kind path before).delivering kind with
        registry :=
          (session.handed kind path before).registry.record (kind.request path line) } := by
  rw [Registry.record_request _ _ _ full]
  by_cases positional : kind = .positionalVariations
  · by_cases first : filled before = [] <;>
      simp [handed, delivering, positional, first, filled_of_full full, Registry.withLines_append,
        Config.set_set, Nat.add_assoc]
  · simp [handed, delivering, positional, filled_of_full full, Registry.withLines_append,
      Nat.add_assoc]

/-- The session has been handed some lines, none of which was refused. -/
def Session.IsHanded (context : Context) (session : Session) (kind : DataKind) (path : String)
    (before : List String) (met : Session) : Prop :=
  session.registry.Admits context kind path before ∧ met = session.handed kind path before

/-- Acting on one line more hands it on. -/
theorem Session.IsHanded.next {kind : DataKind} {path line : String} {before : List String}
    {met next : Session} (handed : session.IsHanded context kind path before met)
    (run :
      (if isBlankText line then pure () else deliver context kind.option path line : Action Unit) met =
        .ok () next) :
    session.IsHanded context kind path (before ++ [line]) next := by
  obtain ⟨admits, rfl⟩ := handed
  cases blank : isBlankText line with
  | true =>
    rw [if_pos blank] at run
    cases run
    exact ⟨Registry.admits_append admits fun full => by simp [blank] at full,
      (handed_of_blank blank).symm⟩
  | false =>
    rw [if_neg (by simp [blank]), deliver_apply] at run
    cases verdict :
      context.gate (session.handed kind path before).registry (kind.request path line) with
    | some reason =>
      rw [verdict] at run
      cases run
    | none =>
      rw [verdict] at run
      cases run
      exact ⟨Registry.admits_append admits fun _ => verdict, (handed_of_full blank).symm⟩

theorem Session.isHanded_nil (context : Context) (session : Session) (kind : DataKind)
    (path : String) : session.IsHanded context kind path [] session :=
  ⟨Registry.admits_nil, (session.handed_nil kind path).symm⟩

/-- A line of a data file fails if it is refused, and only then. -/
theorem Session.IsHanded.refused {kind : DataKind} {path line : String} {before : List String}
    {met : Session} (handed : session.IsHanded context kind path before met)
    (fails : (if isBlankText line then pure () else deliver context kind.option path line : Action Unit)
      met = .error failure left) :
    isBlankText line = false ∧ left = met.delivering kind ∧ ∃ reason,
      failure = kind.refusal path line reason ∧
        context.gate (session.registry.withLines kind path before) (kind.request path line) =
          some reason := by
  obtain ⟨-, rfl⟩ := handed
  cases blank : isBlankText line with
  | true =>
    rw [if_pos blank] at fails
    cases fails
  | false =>
    rw [if_neg (by simp [blank]), deliver_apply] at fails
    cases verdict :
      context.gate (session.handed kind path before).registry (kind.request path line) with
    | none =>
      rw [verdict] at fails
      cases fails
    | some reason =>
      rw [verdict] at fails
      cases fails
      exact ⟨rfl, rfl, reason, rfl, verdict⟩

/-- The session has taken in the lines that were handed on. -/
theorem Session.IsHanded.hasTaken {kind : DataKind} {path : String} {before : List String}
    {met : Session} (handed : session.IsHanded context kind path before met) :
    session.HasTaken kind path before met := by
  obtain ⟨-, rfl⟩ := handed
  refine ⟨_, _, ?_, rfl⟩
  split
  · rename_i positional
    exact .inr ⟨positional.1, rfl⟩
  · exact .inl rfl

/-- A session that has taken in some lines may go on to the next. -/
theorem Session.HasTaken.delivering {kind : DataKind} {path : String} {before : List String}
    {met : Session} (taken : session.HasTaken kind path before met) :
    session.HasTaken kind path before (met.delivering kind) := by
  obtain ⟨config, counters, turned, rfl⟩ := taken
  refine ⟨_, _, ?_, rfl⟩
  split
  · rename_i positional
    rcases turned with rfl | ⟨-, rfl⟩
    · exact .inr ⟨positional, rfl⟩
    · exact .inr ⟨positional, Config.set_set ..⟩
  · exact turned

/-- A data file that fails has given the lines before the one where it stops. -/
theorem deliverFile_eq_error {kind : DataKind} {path : String}
    (fails : deliverFile context kind.option path session = .error failure left) :
    ∃ before, session.HasTaken kind path before left ∧
      session.disk.StopsAfter path (session.registry.Refuses context kind path) before failure := by
  obtain ⟨before, ⟨handed, stops⟩ | ⟨line, later, ending, met, reads, handed, fails⟩⟩ :=
    forLines_eq_error Session.IsHanded.next (session.isHanded_nil context kind path) fails
  · exact ⟨before, handed.hasTaken, stops.mono fun _ _ _ => False.elim⟩
  · obtain ⟨full, rfl, reason, rfl, refused⟩ := handed.refused fails
    exact ⟨before, handed.hasTaken.delivering, .refused reads ⟨full, reason, rfl, refused⟩⟩

/-- What comes of a data file whose lines are read: all of them are handed on, or those before the
one that cannot be read, or those before the one that is refused. -/
theorem deliverFile_apply (context : Context) (kind : DataKind) {path : String} {lines : Lines}
    (reads : session.disk.readLines path = .ok lines) :
    ∃ before, session.registry.Admits context kind path before ∧
      (lines = ⟨before, none⟩ ∧
          deliverFile context kind.option path session = .ok () (session.handed kind path before) ∨
        (∃ cause, lines = ⟨before, some cause⟩ ∧
          deliverFile context kind.option path session =
            .error (.resource path .reading cause) (session.handed kind path before)) ∨
        ∃ line later ending reason, lines = ⟨before ++ line :: later, ending⟩ ∧
          isBlankText line = false ∧
          context.gate (session.registry.withLines kind path before) (kind.request path line) =
            some reason ∧
          deliverFile context kind.option path session =
            .error (kind.refusal path line reason)
              ((session.handed kind path before).delivering kind)) := by
  have start := session.isHanded_nil context kind path
  cases run : deliverFile context kind.option path session with
  | ok _ left =>
    obtain ⟨before, read, admits, rfl⟩ := forLines_eq_ok Session.IsHanded.next start run
    rw [reads] at read
    cases read
    exact ⟨before, admits, .inl ⟨rfl, rfl⟩⟩
  | error failure left =>
    obtain ⟨before, ⟨handed, stops⟩ | ⟨line, later, ending, met, read, handed, fails⟩⟩ :=
      forLines_eq_error Session.IsHanded.next start run
    · obtain ⟨admits, rfl⟩ := handed
      cases stops with
      | unread unread =>
        rw [reads] at unread
        cases unread
      | broken broken =>
        rw [reads] at broken
        cases broken
        exact ⟨before, admits, .inr (.inl ⟨_, rfl, rfl⟩)⟩
      | refused _ never => exact never.elim
    · rw [reads] at read
      cases read
      obtain ⟨full, rfl, reason, rfl, refused⟩ := handed.refused fails
      obtain ⟨admits, rfl⟩ := handed
      exact ⟨before, admits, .inr (.inr ⟨line, later, ending, reason, rfl, full, refused, rfl⟩)⟩

/-- The session has recorded the source files that some lines name. -/
def Session.HasListed (session : Session) (kind : SourceKind) (before : List String)
    (met : Session) : Prop :=
  ∃ counters,
    met = { session with counters, registry := session.registry.withSources kind before }

/-- The session with the source files of some lines recorded. -/
def Session.listing (session : Session) (kind : SourceKind) (lines : List String) : Session :=
  { session with
    counters :=
      { session.counters with
        sourceFiles := session.counters.sourceFiles + (filled lines).length }
    registry := session.registry.withSources kind lines }

theorem Session.listing_nil (session : Session) (kind : SourceKind) :
    session.listing kind [] = session := by
  simp [listing, filled]

/-- Source files are listed line by line, in order. -/
theorem Session.listing_cons (session : Session) (kind : SourceKind) (line : String)
    (lines : List String) :
    (session.listing kind [line]).listing kind lines = session.listing kind (line :: lines) := by
  have split : line :: lines = [line] ++ lines := rfl
  simp only [listing, ← Registry.withSources_append, split, filled_append, List.length_append,
    Nat.add_assoc]

/-- A line that is not blank is recorded. -/
theorem listLine_apply (kind : SourceKind) (line : String) (session : Session) :
    (if isBlankText line then pure () else addSource (trim line) kind : Action Unit) session =
      .ok () (session.listing kind [line]) := by
  cases blank : isBlankText line with
  | true => simp [Session.listing, filled_of_blank blank, Registry.withSources_of_blank _ _ blank]
  | false => simp [Session.listing, filled_of_full blank, Registry.addSource_trim _ _ blank]

/-- Lines that are recorded one by one are recorded in order. -/
theorem forM_listing {kind : SourceKind} {visit : String → Action Unit}
    (each : ∀ line session, visit line session = .ok () (session.listing kind [line]))
    (lines : List String) (session : Session) :
    lines.forM visit session = .ok () (session.listing kind lines) := by
  induction lines generalizing session with
  | nil =>
    rw [Session.listing_nil]
    rfl
  | cons line lines ih =>
    have unrolled : (line :: lines).forM visit session =
        (visit line >>= fun _ => lines.forM visit) session := rfl
    rw [unrolled, bind_apply, each]
    exact (ih _).trans (by rw [Session.listing_cons])

/-- What comes of a list of files whose lines are read: the files that they name are recorded,
whether the list is read to its end or not. -/
theorem readSourceList_apply {path : String} {kind : SourceKind} {lines : Lines}
    (reads : session.disk.readLines path = .ok lines) :
    readSourceList path kind session =
      match lines.failure with
      | none => .ok () (session.listing kind lines.lines)
      | some cause =>
        .error (.resource path .reading cause) (session.listing kind lines.lines) := by
  unfold readSourceList forLines
  rw [bind_apply, readLines_apply, reads]
  simp only [bind_apply, forM_listing (listLine_apply kind)]
  cases lines.failure <;> rfl

/-- A list of files fails only where it cannot be read, with the files recorded that are named
before that. -/
theorem readSourceList_eq_error {path : String} {kind : SourceKind}
    (fails : readSourceList path kind session = .error failure left) :
    ∃ before, session.HasListed kind before left ∧
      session.disk.StopsAfter path (fun _ _ _ => False) before failure := by
  cases reads : session.disk.readLines path with
  | error cause =>
    unfold readSourceList forLines at fails
    rw [bind_apply, readLines_apply, reads] at fails
    cases fails
    exact ⟨[], ⟨session.counters, by rw [Registry.withSources_nil]⟩, .unread reads⟩
  | ok lines =>
    obtain ⟨before, ending⟩ := lines
    rw [readSourceList_apply reads] at fails
    cases ending with
    | none => cases fails
    | some cause =>
      cases fails
      exact ⟨before, ⟨_, rfl⟩, .broken reads⟩

end

end ExtractOptions

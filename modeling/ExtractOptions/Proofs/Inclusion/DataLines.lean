/-
Module: ExtractOptions.Proofs.Inclusion.DataLines
Purpose: what data lines do, in a file of their own and in an argument file. Either way those that are
  not blank are handed on one by one, up to one that is refused.
Main exports: handOn, deliverFile_of_find, DataKind.ofText_directive, Reading.dataLines
-/
import ExtractOptions.Proofs.Inclusion.Abreast
import ExtractOptions.Proofs.Run.Routing
import ExtractOptions.Proofs.Session.DataFile

namespace ExtractOptions

open Text ExtractOptions.Action

/-! ### A file of data lines

A data file is read as a whole and its lines are handed on one after the other. Blank lines are
passed over, so only the others are seen below. -/

theorem Action.forM_cons (visit : String → Action Unit) (line : String) (lines : List String) :
    (line :: lines).forM visit = (visit line >>= fun _ => lines.forM visit) := rfl

/-- Hand on a line, unless it is blank. -/
def handOn (context : Context) (option : LetterOption) (origin line : String) : Action Unit :=
  if isBlankText line then pure () else deliver context option origin line

/-- To hand on lines is to deliver those that are not blank. -/
theorem forM_handOn (context : Context) (option : LetterOption) (origin : String)
    (lines : List String) :
    lines.forM (handOn context option origin) =
      (filled lines).forM (deliver context option origin) := by
  induction lines with
  | nil => rfl
  | cons line lines ih =>
    have parts : filled (line :: lines) = filled [line] ++ filled lines :=
      filled_append [line] lines
    rw [forM_cons, ih, parts]
    unfold handOn
    cases blank : isBlankText line with
    | true =>
      rw [filled_of_blank blank]
      rfl
    | false =>
      rw [filled_of_full blank]
      rfl

/-- Handing on a line leaves the disk alone. -/
theorem handOn_disk {context : Context} {option : LetterOption} {origin line : String}
    {session left : Session} (run : handOn context option origin line session = .ok () left) :
    left.disk = session.disk := by
  unfold handOn at run
  split at run
  · cases run
    rfl
  · obtain ⟨kind, rfl⟩ | takes := option.exists_kind_or
    · rw [deliver_apply] at run
      split at run <;> cases run
      rfl
    · rw [deliver_of_not_persists takes] at run
      cases run

/-- A data file that can be read is handed on without its blank lines. -/
theorem deliverFile_of_find {context : Context} {option : LetterOption} {path : String}
    {place : Location} {bytes : List UInt8} {held : List String} {session : Session}
    (found : session.disk.find path = .ok (place, .file bytes))
    (holds : Lines.ofBytes bytes = ⟨held, none⟩) :
    deliverFile context option path session =
      (filled held).forM (deliver context option path) session := by
  have reads : session.disk.readLines path = .ok ⟨held, none⟩ := by
    unfold Disk.readLines
    rw [found, ← holds]
    rfl
  have visits : deliverFile context option path = forLines path (handOn context option path) := rfl
  rw [visits, ← forM_handOn]
  unfold forLines
  rw [bind_apply, readLines_apply, reads]
  simp only [bind_apply]
  cases held.forM (handOn context option path) session <;> rfl

/-! ### The directives that take data lines

Each kind of data lines has one directive. It hands on a file if it names one, and asks for lines
otherwise. -/

/-- The option of a kind of data lines hands on the file that it names. -/
theorem DataKind.perform_option (context : Context) (includeFile : String → Action Unit)
    (kind : DataKind) (value : String) (session : Session) :
    kind.option.perform context includeFile value session =
      deliverNamedFile context kind.option (skipSpaces value) session.lettered := by
  cases kind <;> rfl

/-- The written directive is one, whatever follows the letter. -/
theorem DataKind.ofText_directive (kind : DataKind) (value : String) :
    LineForm.ofText (Directive.render ⟨kind.option, value⟩) = .letter kind.option value := by
  refine LineForm.ofText_eq_letter_iff.mpr ⟨?_, rfl⟩
  cases kind <;> decide

/-! ### Data lines in an argument file

Where data lines are taken, each line that is no directive is handed on. The lines come from the
reader one by one, and an induction over them gives the same as for a file of data lines. -/

section Readings

variable {context : Context} {includeFile : String → Action Unit}

/-- A line without a colon at its start, where data lines are taken. -/
theorem interpretLine_of_uncoloned {line : String} (uncoloned : line.toList.head? ≠ some ':')
    (origin : String) (option : LetterOption) :
    interpretLine context includeFile origin (some option) line = do
      handOn context option origin line
      return some option := by
  unfold handOn
  cases blank : isBlankText line with
  | true =>
    unfold interpretLine
    rw [if_pos blank]
    rfl
  | false =>
    rw [interpretLine_eq, LineForm.ofText_of_isPlain ⟨blank, uncoloned⟩]
    rfl

/-- Lines after a directive that takes them are handed on in order, up to one that is refused; blank
lines are passed over. -/
theorem Reading.dataLines {option : LetterOption} {lines rest : List String} {failure : Option IoError}
    (uncoloned : ∀ line ∈ lines, line.toList.head? ≠ some ':') {reading : Reading}
    (pending : reading.pending = some option)
    (supplies : reading.reader.Supplies reading.session.disk ⟨lines ++ rest, failure⟩) :
    (∀ left, (filled lines).forM (deliver context option reading.reader.path) reading.session =
        .ok () left →
      ∃ later, reading.Advances context includeFile lines.length ⟨later, some option, left⟩ ∧
        later.Supplies left.disk ⟨rest, failure⟩) ∧
    ∀ cause left, (filled lines).forM (deliver context option reading.reader.path) reading.session =
        .error cause left →
      ∀ more, reading.run context includeFile (more + lines.length) = .error cause left := by
  rw [← forM_handOn]
  induction lines generalizing reading with
  | nil =>
    refine ⟨fun left delivered => ?_, fun _ _ refused => by cases refused⟩
    cases delivered
    obtain ⟨reader, own, session⟩ := reading
    cases pending
    exact ⟨reader, .refl _, supplies⟩
  | cons line lines ih =>
    obtain ⟨later, read, path, place, left⟩ := supplies.next_cons
    have acts : interpretLine context includeFile reading.reader.path (some option) line = _ :=
      interpretLine_of_uncoloned (uncoloned line List.mem_cons_self) reading.reader.path option
    rw [forM_cons, bind_apply]
    cases visited : handOn context option reading.reader.path line reading.session with
    | error cause stopped =>
      refine ⟨fun _ delivered => (by cases delivered), fun _ _ refused more => ?_⟩
      cases refused
      have fails : interpretLine context includeFile reading.reader.path reading.pending line
          reading.session = .error cause stopped := by
        rw [pending, acts, bind_apply, visited]
      exact Reading.run_of_error read fails _
    | ok _ between =>
      have done : interpretLine context includeFile reading.reader.path reading.pending line
          reading.session = .ok (some option) between := by
        rw [pending, acts, bind_apply, visited]
        rfl
      have step : reading.Advances context includeFile 1 ⟨later, some option, between⟩ :=
        .line read path done
      have kept : between.disk = reading.session.disk := handOn_disk visited
      have supplied : later.Supplies between.disk ⟨lines ++ rest, failure⟩ := by
        rw [kept]
        exact left
      have onward := @ih (fun other among => uncoloned other (List.mem_cons_of_mem _ among))
        ⟨later, some option, between⟩ rfl supplied
      simp only [path] at onward
      refine ⟨fun last delivered => ?_, fun cause last refused more => ?_⟩
      · obtain ⟨further, goes, ends⟩ := onward.1 last delivered
        exact ⟨further, step.trans goes, ends⟩
      · rw [List.length_cons, ← Nat.add_assoc, step.run, onward.2 cause last refused]

end Readings

end ExtractOptions

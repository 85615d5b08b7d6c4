/-
Module: ExtractOptions.Proofs.Inclusion.Abreast
Purpose: two readings side by side. The first session acts on lines of the outer or of the inner
  file, the second on the same lines of the expanded outer file; what comes after these lines may
  differ. Both get past them together, and are side by side again.
Main exports: Reading, Reading.Advances, Abreast, Abreast.lines
-/
import ExtractOptions.Proofs.Inclusion.Trail

namespace ExtractOptions

open ExtractOptions.Action

/-! ### Readings

A reading is a place in a file together with the session that was reached there. Seen like this,
acting on a line is a step from one reading to another, and the rest of the file is what is left to
run. -/

/-- The lines of an argument file in the course of being acted on. -/
structure Reading where
  reader : LineReader
  pending : Option LetterOption
  session : Session

namespace Reading

variable {context : Context} {includeFile : String → Action Unit}

/-- What comes of the remaining lines. -/
def run (context : Context) (includeFile : String → Action Unit) (allowance : Nat)
    (reading : Reading) : EStateM.Result Failure Session Unit :=
  interpretLines context includeFile allowance reading.reader reading.pending reading.session

/-- The options given in the remaining lines. -/
def given (context : Context) (includeFile : String → Action Unit) (included : String → Trace)
    (allowance : Nat) (reading : Reading) : List Given :=
  givenInLines context includeFile included allowance reading.reader reading.pending
    reading.session

/-- The reading becomes the later one by acting on so many lines. -/
structure Advances (context : Context) (includeFile : String → Action Unit) (count : Nat)
    (reading later : Reading) : Prop where
  run : ∀ more, reading.run context includeFile (more + count) = later.run context includeFile more
  given : ∀ included more, ∀ one ∈ later.given context includeFile included more,
    one ∈ reading.given context includeFile included (more + count)
  path : later.reader.path = reading.reader.path
  place : later.reader.place = reading.reader.place

namespace Advances

theorem refl (reading : Reading) : Advances context includeFile 0 reading reading :=
  ⟨fun _ => rfl, fun _ _ _ => id, rfl, rfl⟩

/-- Lines that are acted on one after the other add up. -/
theorem trans {first second : Nat} {reading later last : Reading}
    (head : Advances context includeFile first reading later)
    (tail : Advances context includeFile second later last) :
    Advances context includeFile (second + first) reading last where
  run := by
    intro more
    rw [← Nat.add_assoc, head.run, tail.run]
  given := by
    intro included more one among
    rw [← Nat.add_assoc]
    exact head.given included _ one (tail.given included more one among)
  path := tail.path.trans head.path
  place := tail.place.trans head.place

/-- Acting on one line. -/
theorem line {reading : Reading} {line : String} {later : LineReader} {answer : Option LetterOption}
    {left : Session} (read : reading.reader.next reading.session.disk = .ok (some (line, later)))
    (path : later.path = reading.reader.path)
    (done : interpretLine context includeFile reading.reader.path reading.pending line
      reading.session = .ok answer left) :
    Advances context includeFile 1 reading ⟨later, answer, left⟩ where
  run := by
    intro more
    unfold Reading.run
    rw [interpretLines_apply, read]
    simp only [bind_apply, done]
  given := by
    intro included more one among
    unfold Reading.given
    rw [givenInLines_apply, read]
    simp only [Trace.andThen_of_ok done, List.mem_append]
    exact .inr among
  path := path
  place := LineReader.next_place read

end Advances

/-- A reading fails with the line that it has come to. -/
theorem run_of_error {reading : Reading} {line : String} {later : LineReader} {cause : Failure}
    {left : Session} (read : reading.reader.next reading.session.disk = .ok (some (line, later)))
    (fails : interpretLine context includeFile reading.reader.path reading.pending line
      reading.session = .error cause left) (more : Nat) :
    reading.run context includeFile (more + 1) = .error cause left := by
  unfold Reading.run
  rw [interpretLines_apply, read]
  simp only [bind_apply, fails]

/-- The reading of a file that has just been opened. -/
def opened (path : String) (place : Location) (session : Session) : Reading :=
  ⟨{ path, place }, none, session.entering place⟩

/-- A reading that has come to the end of its file stops there. -/
theorem eq_of_run_nil {reading : Reading} {failure : Option IoError}
    (supplies : reading.reader.Supplies reading.session.disk ⟨[], failure⟩) {allowance : Nat}
    {left : Session} (run : reading.run context includeFile allowance = .ok () left) :
    left = reading.session := by
  cases allowance with
  | zero => cases run
  | succ allowance =>
    unfold Reading.run at run
    rw [interpretLines_apply, supplies.next_nil] at run
    cases failure <;> cases run
    rfl

/-- A reading without lines left stops. -/
theorem run_nil {reading : Reading}
    (supplies : reading.reader.Supplies reading.session.disk ⟨[], none⟩) (allowance : Nat) :
    reading.run context includeFile (allowance + 1) = .ok () reading.session := by
  unfold Reading.run
  rw [interpretLines_apply, supplies.next_nil]

/-- A file that can be found is read from its first line on. -/
theorem interpretFile_of_find {path : String} {place : Location} {bytes : List UInt8}
    {session : Session} (found : session.disk.find path = .ok (place, .file bytes)) :
    interpretFile context includeFile path session =
      interpretLines context includeFile (lineAllowance bytes) { path, place } none session := by
  have holds : session.disk.file? place = some bytes := by
    unfold Disk.file?
    rw [Disk.node?_of_find found]
  rw [interpretFile_apply, Disk.openReader_of_find found]
  generalize lineAllowance = allowance
  simp only [holds, Option.getD_some]

/-- The options given in a file that can be found are those of its lines. -/
theorem givenInFile_of_find {included : String → Trace} {path : String} {place : Location}
    {bytes : List UInt8} {session : Session}
    (found : session.disk.find path = .ok (place, .file bytes)) :
    givenInFile context includeFile included path session =
      givenInLines context includeFile included (lineAllowance bytes) { path, place } none
        session := by
  have holds : session.disk.file? place = some bytes := by
    unfold Disk.file?
    rw [Disk.node?_of_find found]
  unfold givenInFile
  rw [Disk.openReader_of_find found]
  generalize lineAllowance = allowance
  simp only [holds, Option.getD_some]

/-- A file that is not being read yet is read from its first line on. -/
theorem readNested_of_find {path : String} {place : Location} {bytes : List UInt8}
    {session : Session} (found : session.disk.find path = .ok (place, .file bytes))
    (unread : place ∉ session.including) (levels : Nat) :
    readNested context (levels + 1) path session =
      match (opened path place session).run context (readNested context levels)
        (lineAllowance bytes) with
      | .ok _ after => .ok () after.leaving
      | .error failure after => .error failure after.leaving := by
  have inside : interpretFile context (readNested context levels) path (session.entering place) =
      (opened path place session).run context (readNested context levels) (lineAllowance bytes) :=
    interpretFile_of_find found
  rw [readNested_apply, Disk.canonical_of_find found, ← inside]
  exact if_neg unread

/-- The options given in a file that is not being read yet are those of its lines, with one level
less. -/
theorem givenNested_of_find {path : String} {place : Location} {bytes : List UInt8}
    {session : Session} (found : session.disk.find path = .ok (place, .file bytes))
    (unread : place ∉ session.including) (levels : Nat) :
    givenNested context (levels + 1) path session =
      (opened path place session).given context (readNested context levels)
        (givenNested context levels) (lineAllowance bytes) := by
  have inside : givenInFile context (readNested context levels) (givenNested context levels) path
      (session.entering place) = (opened path place session).given context
        (readNested context levels) (givenNested context levels) (lineAllowance bytes) :=
    givenInFile_of_find found
  rw [givenNested_apply]
  rw [Disk.canonical_of_find found, ← inside]
  exact if_neg unread

/-- Only a file that is not being read yet is read, and only while levels are left. -/
theorem unread_of_readNested {path : String} {place : Location} {levels : Nat}
    {session left : Session} (stands : session.disk.canonical path = .ok place)
    (run : readNested context levels path session = .ok () left) :
    place ∉ session.including ∧ ∃ deeper, levels = deeper + 1 := by
  rw [readNested_apply, stands] at run
  simp only at run
  split at run
  · cases run
  · rename_i unread
    cases levels with
    | zero => cases run
    | succ deeper => exact ⟨unread, deeper, rfl⟩

end Reading

/-- A file has room for its lines in the allowance. -/
theorem Lines.exists_allowance (bytes : List UInt8) :
    ∃ more, lineAllowance bytes = more + 1 + (Lines.ofBytes bytes).lines.length := by
  have fits := Lines.length_ofBytes_le bytes
  have room : bytes.length + 1 ≤ lineAllowance bytes :=
    Nat.add_le_add_left (Nat.two_pow_pos 63) _
  obtain ⟨more, enough⟩ :=
    Nat.exists_eq_add_of_le (Nat.le_trans (Nat.add_le_add_right fits 1) room)
  refine ⟨more, ?_⟩
  rw [enough, Nat.add_comm, ← Nat.add_assoc, Nat.add_right_comm]

/-! ### Readings side by side

The invariant of the induction over lines. The two readings share what was acted on, and each has
its own lines left; lines that both have next are acted on by both. -/

/-- What one of the two files holds for the first session. -/
def Inclusion.holds (inclusion : Inclusion) (place : Location) : List UInt8 :=
  if place = inclusion.swap.place then inclusion.swap.old else inclusion.bytes

/-- The first session has both files of the inclusion as the stage says. -/
theorem Mirror.node?_eq {stage : Stage} {first second : Session} (mirror : Mirror stage first second)
    {place : Location} (reserved : stage.reserves place) :
    first.disk.node? place = some (.file (stage.holds place)) := by
  unfold Inclusion.holds
  split
  · rename_i outer
    rw [outer, mirror.disk.old]
  · rename_i other
    rw [reserved.resolve_left other, Disk.node?_of_find mirror.found]

/-- The first reading is of one of the two files and has some lines left, the second one is of the
expanded file and has others left. -/
structure Abreast (stage : Stage) (first second : Reading) (rest other : Lines) : Prop where
  mirror : Mirror stage first.session second.session
  pending : first.pending = none ∨ first.pending = second.pending
  reserved : stage.reserves first.reader.place
  swapped : second.reader.place = stage.swap.place
  supplies : first.reader.Supplies first.session.disk rest
  opposite : second.reader.Supplies second.session.disk other

namespace Abreast

variable {context : Context} {includeFile followFile : String → Action Unit}
  {included : String → Trace} {wanted : LetterOption → Bool}

/-- Both readings get past lines that they share, if the first one comes to its end. -/
theorem lines (blind : context.gate.IgnoresOrigins) {lines : List String} {stage : Stage}
    {first second : Reading} {rest other : List String} {failure opposite : Option IoError}
    (abreast : Abreast stage first second ⟨lines ++ rest, failure⟩ ⟨lines ++ other, opposite⟩)
    (includes : ∀ moved file, Trails { stage with moved } { stage with moved } (included file)
      (includeFile file) (followFile file))
    (delivers : Delivers context stage wanted first.reader.path second.reader.path)
    {allowance : Nat} {left : Session}
    (run : first.run context includeFile allowance = .ok () left)
    (spares : ∀ given ∈ first.given context includeFile included allowance,
      given.Spares stage.toInclusion) :
    ∃ fewer later further, allowance = fewer + lines.length ∧
      first.Advances context includeFile lines.length later ∧
      second.Advances context followFile lines.length further ∧
      Abreast (stage.noting (dataLines wanted first.pending lines)) later further ⟨rest, failure⟩
        ⟨other, opposite⟩ := by
  induction lines generalizing stage first second allowance with
  | nil => exact ⟨allowance, first, second, rfl, .refl first, .refl second, by
      simpa [dataLines] using abreast⟩
  | cons line lines ih =>
    obtain ⟨later, read, path, place, supplies⟩ := abreast.supplies.next_cons
    obtain ⟨further, readToo, pathToo, placeToo, suppliesToo⟩ := abreast.opposite.next_cons
    cases allowance with
    | zero => cases run
    | succ allowance =>
      unfold Reading.run at run
      rw [interpretLines_apply, read] at run
      obtain ⟨answer, between, done, ended⟩ := bind_ok run
      have begins := spares
      unfold Reading.given at begins
      rw [givenInLines_apply, read] at begins
      simp only [Trace.andThen_of_ok done, List.mem_append] at begins
      obtain ⟨reply, middle, followed, agree, next, still⟩ :=
        interpretLine_follows blind (includes stage.moved) delivers abreast.pending
          (fun given among => begins given (.inl among)) abreast.mirror done
      have step : first.Advances context includeFile 1 ⟨later, answer, between⟩ :=
        .line read path done
      have stepToo : second.Advances context followFile 1 ⟨further, reply, middle⟩ :=
        .line readToo pathToo followed
      have kept : between.disk.node? first.reader.place =
          first.session.disk.node? first.reader.place :=
        (still.node?_eq abreast.reserved).trans (abreast.mirror.node?_eq abreast.reserved).symm
      have keptToo : middle.disk.node? stage.swap.place =
          second.session.disk.node? stage.swap.place :=
        still.disk.new.trans abreast.mirror.disk.new.symm
      have onward : Abreast (stage.noting (dataLine wanted first.pending line))
          ⟨later, answer, between⟩ ⟨further, reply, middle⟩ ⟨lines ++ rest, failure⟩
          ⟨lines ++ other, opposite⟩ :=
        { mirror := still
          pending := agree
          reserved := by rw [place]; exact abreast.reserved
          swapped := by rw [placeToo]; exact abreast.swapped
          supplies := supplies.congr (by rw [place]; exact kept)
          opposite := suppliesToo.congr (by rw [placeToo, abreast.swapped]; exact keptToo) }
      obtain ⟨fewer, last, furthest, enough, goes, goesToo, ends⟩ :=
        ih onward includes (by rw [path, pathToo]; exact delivers) ended
          fun given among => spares given (step.given included allowance given among)
      refine ⟨fewer, last, furthest, ?_, step.trans goes, stepToo.trans goesToo, ?_⟩
      · rw [enough, List.length_cons, Nat.add_assoc]
      · rw [next, Stage.noting_noting] at ends
        exact ends

end Abreast

end ExtractOptions

/-
Module: ExtractOptions.Proofs.Disk.Beside
Purpose: two disks, the second of which has one file more, unless the first one has it as well. All
  that can be found, read or opened on the first disk can be found, read or opened on the second one
  with the same outcome; they stay as far apart as they are as long as nothing is put where the
  file is missing.
Main exports: Addition, Disk.Beside, Disk.Beside.grows, Disk.Beside.placeForOutput_iff,
  Disk.Beside.openTarget, Disk.Beside.write, Disk.Beside.of_put
-/
import ExtractOptions.Proofs.Disk.Growth

namespace ExtractOptions

/-- A file, and what it holds where it is added. -/
structure Addition where
  place : Location
  bytes : List UInt8

namespace Disk

/-- The other disk is the first one, with the file added if it was missing. -/
structure Beside (addition : Addition) (disk other : Disk) : Prop where
  workingDirectory : other.workingDirectory = disk.workingDirectory
  elsewhere : ∀ place, place ≠ addition.place → other.node? place = disk.node? place
  present : disk.node? addition.place ≠ none →
    other.node? addition.place = disk.node? addition.place
  missing : disk.node? addition.place = none →
    other.node? addition.place = some (.file addition.bytes)

/-- Where a file may be opened for output depends on the directories alone. -/
theorem placeForOutput_of_directories {first later : Disk}
    (workingDirectory : later.workingDirectory = first.workingDirectory)
    (same : ∀ place, later.isDirectory place = first.isDirectory place) {text : String}
    {place : Location} (chosen : first.placeForOutput text = .ok place) :
    later.placeForOutput text = .ok place := by
  obtain ⟨path, parsed, chosen⟩ := bind_eq_ok.mp chosen
  refine bind_eq_ok.mpr ⟨path, parsed, ?_⟩
  cases last : path.names.getLast? with
  | none =>
    rw [last] at chosen
    cases chosen
  | some name =>
    rw [last] at chosen
    obtain ⟨parent, walked, chosen⟩ := bind_eq_ok.mp chosen
    obtain ⟨_, directory, chosen⟩ := bind_eq_ok.mp chosen
    have started : later.start path = first.start path := by
      unfold start
      rw [workingDirectory]
    refine bind_eq_ok.mpr ⟨parent, by rw [started, walk_of_directories same walked], ?_⟩
    refine bind_eq_ok.mpr ⟨(), ?_, ?_⟩
    · rw [checkDirectory_eq_ok, same]
      exact checkDirectory_eq_ok.mp directory
    · by_cases slash : path.endsInSlash = true
      · rw [if_pos slash] at chosen
        cases chosen
      · rw [if_neg slash] at chosen ⊢
        obtain ⟨reached, entered, chosen⟩ := bind_eq_ok.mp chosen
        refine bind_eq_ok.mpr ⟨reached, enter_of_directories same entered, ?_⟩
        rw [same]
        exact chosen

namespace Beside

variable {addition : Addition} {disk other : Disk}

/-! ### What is where

The added file is the only place where the two disks may differ, and there the first one has
nothing. -/

/-- What the first disk has is on the second one. -/
theorem node?_of_some (beside : Beside addition disk other) {place : Location} {node : Node}
    (there : disk.node? place = some node) : other.node? place = some node := by
  by_cases here : place = addition.place
  · subst here
    rw [beside.present (by simp [there]), there]
  · rw [beside.elsewhere place here, there]

/-- The two disks have the same directories. -/
theorem isDirectory_eq (beside : Beside addition disk other) (place : Location) :
    other.isDirectory place = disk.isDirectory place := by
  unfold isDirectory
  by_cases here : place = addition.place
  · subst here
    cases held : disk.node? addition.place with
    | none =>
      rw [beside.missing held]
      rfl
    | some node => rw [beside.node?_of_some held]
  · rw [beside.elsewhere place here]

/-- The second disk has the file as it was added, unless the first one has another there. -/
theorem holds (beside : Beside addition disk other)
    (unspoiled : disk.node? addition.place = none ∨
      disk.node? addition.place = some (.file addition.bytes)) :
    other.node? addition.place = some (.file addition.bytes) := by
  rcases unspoiled with none | held
  · exact beside.missing none
  · exact beside.node?_of_some held

/-- To add a file is one of the ways in which a disk can grow. -/
theorem grows (beside : Beside addition disk other) : disk.Grows other where
  workingDirectory := beside.workingDirectory
  directories := beside.isDirectory_eq
  present := by
    intro place there
    obtain ⟨node, held⟩ := Option.ne_none_iff_exists'.mp there
    simp [beside.node?_of_some held]

/-- Putting the file on the disk adds it. -/
theorem of_put (unspoiled : disk.node? addition.place = none ∨
      disk.node? addition.place = some (.file addition.bytes)) :
    Beside addition disk (disk.put addition.place (.file addition.bytes)) := by
  have apart : addition.place ≠ [] := by
    intro root
    rw [root] at unspoiled
    simp [node?] at unspoiled
  have put : (disk.put addition.place (.file addition.bytes)).node? addition.place =
      some (.file addition.bytes) := by
    rw [node?_put, if_neg apart, if_pos rfl]
  exact
    { workingDirectory := rfl
      elsewhere := fun place away => node?_put_of_ne away _
      present := fun there => by rw [put, unspoiled.resolve_left there]
      missing := fun _ => put }

/-! ### Finding and reading

Walks go through directories, which the two disks share. A walk that ends at something on the first
disk therefore ends at the same thing on the second. -/

/-- What can be found on the first disk is found on the second. -/
theorem find (beside : Beside addition disk other) {text : String} {place : Location} {node : Node}
    (found : disk.find text = .ok (place, node)) : other.find text = .ok (place, node) := by
  obtain ⟨path, opened, leads⟩ := find_eq_ok.mp found
  obtain ⟨walked, there, ends⟩ := follow_eq_ok.mp leads
  refine find_eq_ok.mpr ⟨path, opened, follow_eq_ok.mpr ⟨?_, beside.node?_of_some there, ends⟩⟩
  rw [beside.grows.start_eq]
  exact walk_of_directories beside.isDirectory_eq walked

/-- What can be opened for reading on the first disk can be opened on the second, and something is
there. -/
theorem openReader (beside : Beside addition disk other) {text : String} {reader : LineReader}
    (opened : disk.openReader text = .ok reader) :
    other.openReader text = .ok reader ∧ disk.node? reader.place ≠ none := by
  obtain ⟨⟨place, node⟩, found, made⟩ := bind_eq_ok.mp opened
  cases made
  refine ⟨openReader_of_find (beside.find found), ?_⟩
  simp [node?_of_find found]

/-- What can be read on the first disk reads the same on the second. -/
theorem readLines (beside : Beside addition disk other) {text : String} {lines : Lines}
    (read : disk.readLines text = .ok lines) : other.readLines text = .ok lines := by
  obtain ⟨⟨place, node⟩, found, made⟩ := bind_eq_ok.mp read
  exact bind_eq_ok.mpr ⟨(place, node), beside.find found, made⟩

/-- A file of the first disk reads the same on the second one. -/
theorem next_eq (beside : Beside addition disk other) {reader : LineReader}
    (there : disk.node? reader.place ≠ none) : reader.next other = reader.next disk := by
  obtain ⟨node, held⟩ := Option.ne_none_iff_exists'.mp there
  unfold LineReader.next LineReader.nextPiece bytesFrom
  rw [held, beside.node?_of_some held]

/-! ### Writing

Where a file may be opened for output depends on directories alone. What is written on both disks
keeps them beside each other, unless it is the added file that is written. -/

theorem placeForOutput_iff (beside : Beside addition disk other) {text : String}
    {place : Location} :
    other.placeForOutput text = .ok place ↔ disk.placeForOutput text = .ok place :=
  ⟨placeForOutput_of_directories beside.workingDirectory.symm
      fun place => (beside.isDirectory_eq place).symm,
    placeForOutput_of_directories beside.workingDirectory beside.isDirectory_eq⟩

/-- What is put on both disks keeps them beside each other. -/
theorem put (beside : Beside addition disk other) (place : Location) (node : Node) :
    Beside addition (disk.put place node) (other.put place node) where
  workingDirectory := beside.workingDirectory
  elsewhere := by
    intro reached apart
    rw [node?_put, node?_put, beside.elsewhere reached apart]
  present := by
    intro there
    rw [node?_put, node?_put]
    by_cases here : addition.place = place
    · simp [here]
    · rw [node?_put_of_ne here] at there
      rw [beside.present there]
  missing := by
    intro none
    by_cases here : addition.place = place
    · rw [node?_put, here, if_pos rfl] at none
      split at none <;> cases none
    · rw [node?_put_of_ne here] at none ⊢
      exact beside.missing none

/-- A file that can be opened for output on the first disk can be opened on the second one, which
makes no difference unless that creates the file that was added. -/
theorem openTarget (beside : Beside addition disk other) {text : String} {mode : OpenMode}
    {target : Target} {opened : Disk} (made : disk.openTarget text mode = .ok (target, opened))
    (uncreated : disk.node? addition.place = none → opened.node? addition.place = none) :
    ∃ otherOpened, other.openTarget text mode = .ok (target, otherOpened) ∧
      Beside addition opened otherOpened ∧ opened.node? target.place ≠ none := by
  obtain ⟨place, chosen, made⟩ := bind_eq_ok.mp made
  cases made
  refine ⟨_, bind_eq_ok.mpr ⟨place, beside.placeForOutput_iff.mpr chosen, rfl⟩, ?_⟩
  have apart : place ≠ [] := by
    rintro rfl
    have vacant := isDirectory_of_placeForOutput chosen
    simp [isDirectory, node?] at vacant
  have put : (disk.put place (.file [])).node? place ≠ none := by
    simp [node?_put, apart]
  unfold Disk.opened at uncreated ⊢
  cases held : disk.node? place with
  | none =>
    have away : place ≠ addition.place := by
      rintro rfl
      have created := uncreated held
      simp only [held] at created
      exact put created
    rw [beside.elsewhere place away, held]
    exact ⟨beside.put place _, put⟩
  | some node =>
    have there : disk.node? place ≠ none := by simp [held]
    rw [beside.node?_of_some held]
    cases node with
    | fullDevice => exact ⟨beside, there⟩
    | directory => exact ⟨beside.put place _, put⟩
    | file bytes =>
      cases mode with
      | write => exact ⟨beside.put place _, put⟩
      | append => exact ⟨beside, there⟩

/-- What cannot be opened for output on the first disk cannot be opened on the second. -/
theorem openTarget_error (beside : Beside addition disk other) {text : String} {mode : OpenMode}
    {cause : IoError} (fails : disk.openTarget text mode = .error cause) :
    ∃ reason, other.openTarget text mode = .error reason := by
  cases made : other.openTarget text mode with
  | error reason => exact ⟨reason, rfl⟩
  | ok answer =>
    obtain ⟨place, chosen, -⟩ := bind_eq_ok.mp made
    have opens : disk.openTarget text mode = _ :=
      bind_eq_ok.mpr ⟨place, beside.placeForOutput_iff.mp chosen, rfl⟩
    rw [fails] at opens
    cases opens

/-- Writing has the same outcome on both disks, except to the file where it is missing. -/
theorem write (beside : Beside addition disk other) {target : Target}
    (same : target.place = addition.place → disk.node? target.place ≠ none) (bytes : List UInt8) :
    (∃ cause, disk.write target bytes = .error cause ∧ other.write target bytes = .error cause) ∨
      ∃ later first second, disk.write target bytes = .ok (later, first) ∧
        other.write target bytes = .ok (later, second) ∧ later.place = target.place ∧
        Beside addition first second := by
  have alike : other.node? target.place = disk.node? target.place := by
    by_cases here : target.place = addition.place
    · have there := same here
      rw [here] at there ⊢
      exact beside.present there
    · exact beside.elsewhere _ here
  unfold Disk.write
  split
  · exact .inr ⟨_, _, _, rfl, rfl, rfl, beside⟩
  · rw [alike]
    split
    · split
      · exact .inr ⟨_, _, _, rfl, rfl, rfl, beside.put _ _⟩
      · exact .inr ⟨_, _, _, rfl, rfl, rfl, beside.put _ _⟩
    · exact .inl ⟨_, rfl, rfl⟩
    · exact .inl ⟨_, rfl, rfl⟩
    · exact .inl ⟨_, rfl, rfl⟩

end Beside

end Disk

end ExtractOptions

/-
Module: ExtractOptions.Proofs.Disk.Swap
Purpose: two disks that differ in what one file holds. Paths lead to the same places on both, the
  file itself included, because both have a file there. Whatever else is read or opened is the same
  on both, and they still differ in that one file only after anything is written to another one.
Main exports: Swap, Disk.Swapped, Disk.Swapped.canonical_eq, Disk.Swapped.find_of_ne,
  Disk.Swapped.placeForOutput_eq, Disk.Swapped.next_eq, Disk.Swapped.opened, Disk.Swapped.write
-/
import ExtractOptions.Proofs.Disk.Frame

namespace ExtractOptions

/-- A file, what it holds on the one disk, and what it holds on the other. -/
structure Swap where
  place : Location
  old : List UInt8
  new : List UInt8

namespace Disk

/-- The two disks hold the two contents of the swapped file, and agree on all else. -/
structure Swapped (swap : Swap) (disk other : Disk) : Prop where
  workingDirectory : other.workingDirectory = disk.workingDirectory
  old : disk.node? swap.place = some (.file swap.old)
  new : other.node? swap.place = some (.file swap.new)
  elsewhere : ∀ place, place ≠ swap.place → other.node? place = disk.node? place

namespace Swapped

variable {swap : Swap} {disk other : Disk}

/-- The root is a directory, so the swapped file is elsewhere. -/
theorem place_ne_root (swapped : Swapped swap disk other) : swap.place ≠ [] :=
  ne_root_of_file swapped.old

/-- Putting other bytes into a file swaps it. -/
theorem of_put {place : Location} {old : List UInt8} (holds : disk.node? place = some (.file old))
    (new : List UInt8) : Swapped ⟨place, old, new⟩ disk (disk.put place (.file new)) where
  workingDirectory := rfl
  old := holds
  new := by rw [node?_put, if_neg (ne_root_of_file holds), if_pos rfl]
  elsewhere := fun _ apart => node?_put_of_ne apart _

/-! ### Paths

Both disks have a file at the swapped place, and directories are the same everywhere, so no walk can
tell the disks apart. Only what is found at the end may differ. -/

/-- The two disks have the same directories, and checks for them agree. -/
theorem checkDirectory_eq (swapped : Swapped swap disk other) (place : Location) :
    other.checkDirectory place = disk.checkDirectory place := by
  unfold checkDirectory
  by_cases here : place = swap.place
  · rw [here, swapped.old, swapped.new]
  · rw [swapped.elsewhere place here]

theorem isDirectory_eq (swapped : Swapped swap disk other) (place : Location) :
    other.isDirectory place = disk.isDirectory place := by
  unfold isDirectory
  by_cases here : place = swap.place
  · rw [here, swapped.old, swapped.new]
    rfl
  · rw [swapped.elsewhere place here]

/-- Steps into directories are the same on both disks. -/
theorem enter_eq (swapped : Swapped swap disk other) : other.enter = disk.enter := by
  funext place name
  unfold enter
  rw [swapped.checkDirectory_eq]

theorem start_eq (swapped : Swapped swap disk other) (path : Path) :
    other.start path = disk.start path := by
  unfold start
  rw [swapped.workingDirectory]

/-- A file may be opened for output at the same places on both. -/
theorem placeForOutput_eq (swapped : Swapped swap disk other) (text : String) :
    other.placeForOutput text = disk.placeForOutput text := by
  unfold placeForOutput
  simp only [swapped.enter_eq, swapped.start_eq, swapped.checkDirectory_eq,
    swapped.isDirectory_eq]

/-- A path leads to the same place on both disks, if to any. -/
theorem follow_eq (swapped : Swapped swap disk other) (path : Path) :
    (other.follow path).map Prod.fst = (disk.follow path).map Prod.fst := by
  unfold follow
  rw [swapped.enter_eq, swapped.start_eq]
  cases path.names.foldlM disk.enter (disk.start path) with
  | error cause => rfl
  | ok place =>
    simp only [bind, Except.bind]
    by_cases here : place = swap.place
    · rw [here, swapped.old, swapped.new]
      by_cases slash : path.endsInSlash <;> simp [slash, Except.map, pure, Except.pure]
    · rw [swapped.elsewhere place here]

/-- Walks end at the same place on both disks. -/
theorem walk_eq (swapped : Swapped swap disk other) (path : Path) :
    path.names.foldlM other.enter (other.start path) =
      path.names.foldlM disk.enter (disk.start path) := by
  rw [swapped.enter_eq, swapped.start_eq]

/-- A path to anything but the swapped file leads to the same thing. -/
theorem follow_of_ne (swapped : Swapped swap disk other) {path : Path} {place : Location}
    {node : Node} (found : disk.follow path = .ok (place, node)) (away : place ≠ swap.place) :
    other.follow path = .ok (place, node) := by
  rw [follow_eq_ok] at found ⊢
  rw [swapped.walk_eq, swapped.elsewhere place away]
  exact found

/-- A path to the swapped file leads to what it holds now. -/
theorem follow_swapped (swapped : Swapped swap disk other) {path : Path}
    (found : disk.follow path = .ok (swap.place, .file swap.old)) :
    other.follow path = .ok (swap.place, .file swap.new) := by
  rw [follow_eq_ok] at found ⊢
  obtain ⟨walked, -, ends⟩ := found
  rw [swapped.walk_eq]
  exact ⟨walked, swapped.new, fun slash => nomatch ends slash⟩

/-- A path stands for the same location on both disks. -/
theorem canonical_eq (swapped : Swapped swap disk other) (text : String) :
    other.canonical text = disk.canonical text := by
  have followed : ∀ held : Disk, held.canonical text =
      (Path.ofText? text).bind fun path => (held.follow path).map Prod.fst := by
    intro held
    unfold canonical
    cases Path.ofText? text with
    | error cause => rfl
    | ok path =>
      simp only [bind, Except.bind]
      cases held.follow path <;> rfl
  rw [followed, followed]
  simp only [swapped.follow_eq]

/-- Whatever is found, unless it is the swapped file, is found on the other disk. -/
theorem find_of_ne (swapped : Swapped swap disk other) {text : String} {place : Location}
    {node : Node} (found : disk.find text = .ok (place, node)) (away : place ≠ swap.place) :
    other.find text = .ok (place, node) := by
  obtain ⟨path, opened, leads⟩ := find_eq_ok.mp found
  exact find_eq_ok.mpr ⟨path, opened, swapped.follow_of_ne leads away⟩

/-- A path that leads nowhere on the one disk leads nowhere on the other. -/
theorem find_error (swapped : Swapped swap disk other) {text : String} {cause : IoError}
    (fails : disk.find text = .error cause) : other.find text = .error cause := by
  unfold find at fails ⊢
  cases opened : Path.opened? text with
  | error reason =>
    rw [opened] at fails
    exact fails
  | ok path =>
    rw [opened] at fails
    have same := swapped.follow_eq path
    have leads : disk.follow path = .error cause := fails
    rw [leads] at same
    show other.follow path = .error cause
    cases reached : other.follow path with
    | error reason | ok answer =>
      rw [reached] at same
      cases same <;> rfl

/-- The swapped file is found on the other disk, with what it holds there. -/
theorem find_swapped (swapped : Swapped swap disk other) {text : String}
    (found : disk.find text = .ok (swap.place, .file swap.old)) :
    other.find text = .ok (swap.place, .file swap.new) := by
  obtain ⟨path, opened, leads⟩ := find_eq_ok.mp found
  exact find_eq_ok.mpr ⟨path, opened, swapped.follow_swapped leads⟩

/-! ### Reading and writing other files

As long as the swapped file is left alone, both disks answer alike and go on differing in that file
only. -/

theorem openReader_eq (swapped : Swapped swap disk other) (text : String) :
    other.openReader text = disk.openReader text := by
  have followed : ∀ held : Disk, held.openReader text =
      (Path.opened? text).bind fun path =>
        ((held.follow path).map Prod.fst).map fun place => { path := text, place } := by
    intro held
    unfold openReader find
    cases Path.opened? text with
    | error cause => rfl
    | ok path =>
      simp only [bind, Except.bind]
      cases held.follow path <;> rfl
  rw [followed, followed]
  simp only [swapped.follow_eq]

/-- Another file reads the same on both disks. -/
theorem next_eq (swapped : Swapped swap disk other) {reader : LineReader}
    (away : reader.place ≠ swap.place) : reader.next other = reader.next disk := by
  unfold LineReader.next LineReader.nextPiece bytesFrom
  rw [swapped.elsewhere _ away]

theorem file?_eq (swapped : Swapped swap disk other) {place : Location}
    (away : place ≠ swap.place) : other.file? place = disk.file? place := by
  unfold file?
  rw [swapped.elsewhere _ away]

/-- Putting something elsewhere keeps the one difference. -/
theorem put (swapped : Swapped swap disk other) {place : Location} (away : place ≠ swap.place)
    (node : Node) : Swapped swap (disk.put place node) (other.put place node) where
  workingDirectory := swapped.workingDirectory
  old := by
    rw [node?_put, if_neg swapped.place_ne_root, if_neg (Ne.symm away)]
    exact swapped.old
  new := by
    rw [node?_put, if_neg swapped.place_ne_root, if_neg (Ne.symm away)]
    exact swapped.new
  elsewhere := by
    intro reached apart
    rw [node?_put, node?_put, swapped.elsewhere reached apart]

theorem opened (swapped : Swapped swap disk other) {place : Location}
    (away : place ≠ swap.place) (mode : OpenMode) :
    Swapped swap (disk.opened place mode) (other.opened place mode) := by
  unfold Disk.opened
  rw [swapped.elsewhere place away]
  split
  · exact swapped
  · exact swapped
  · exact swapped.put away _

/-- Another file that can be opened for output on the one disk can be opened on the other. -/
theorem openTarget (swapped : Swapped swap disk other) {text : String} {mode : OpenMode}
    {target : Target} {opened : Disk} (made : disk.openTarget text mode = .ok (target, opened))
    (away : target.place ≠ swap.place) :
    ∃ otherOpened, other.openTarget text mode = .ok (target, otherOpened) ∧
      Swapped swap opened otherOpened := by
  unfold Disk.openTarget at made ⊢
  rw [swapped.placeForOutput_eq]
  cases found : disk.placeForOutput text with
  | error cause =>
    rw [found] at made
    cases made
  | ok place =>
    rw [found] at made
    cases made
    exact ⟨_, rfl, swapped.opened away mode⟩

/-- What cannot be opened for output on the one disk cannot be on the other. -/
theorem openTarget_error (swapped : Swapped swap disk other) {text : String} {mode : OpenMode}
    {cause : IoError} (fails : disk.openTarget text mode = .error cause) :
    other.openTarget text mode = .error cause := by
  unfold Disk.openTarget at fails ⊢
  rw [swapped.placeForOutput_eq]
  cases found : disk.placeForOutput text with
  | error reason =>
    rw [found] at fails
    exact fails
  | ok place =>
    rw [found] at fails
    cases fails

/-- Writing to another file has the same outcome on both disks. -/
theorem write (swapped : Swapped swap disk other) {target : Target}
    (away : target.place ≠ swap.place) (bytes : List UInt8) :
    (∃ cause, disk.write target bytes = .error cause ∧ other.write target bytes = .error cause) ∨
      ∃ later first second, disk.write target bytes = .ok (later, first) ∧
        other.write target bytes = .ok (later, second) ∧ later.place = target.place ∧
        Swapped swap first second := by
  unfold Disk.write
  split
  · exact .inr ⟨_, _, _, rfl, rfl, rfl, swapped⟩
  · rw [swapped.elsewhere _ away]
    split
    · split
      · exact .inr ⟨_, _, _, rfl, rfl, rfl, swapped.put away _⟩
      · exact .inr ⟨_, _, _, rfl, rfl, rfl, swapped.put away _⟩
    · exact .inl ⟨_, rfl, rfl⟩
    · exact .inl ⟨_, rfl, rfl⟩
    · exact .inl ⟨_, rfl, rfl⟩

end Swapped

end Disk

end ExtractOptions

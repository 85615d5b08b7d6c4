/-
Module: ExtractOptions.Proofs.Disk.Footprint
Purpose: the footprint of files that are opened and written. Directories and files stay what they
  are, and only what was opened differs; a file that was opened for appending alone begins with what
  it held. This is so of each opening and of each write, and so of any number of them.
Main exports: Disk.Framed, Disk.Framed.opening, Disk.write_eq_ok, Disk.Framed.writing
-/
import ExtractOptions.Proofs.Disk.Growth

namespace ExtractOptions.Disk

/-- The later disk differs from the first one at most in the files that `opened` names. -/
structure Framed (opened : OpenMode → Location → Prop) (first later : Disk) : Prop where
  directories : ∀ place, later.isDirectory place = first.isDirectory place
  files : ∀ place, first.file? place ≠ none → later.file? place ≠ none
  elsewhere : ∀ place, later.node? place ≠ first.node? place →
    later.file? place ≠ none ∧ ∃ mode, opened mode place
  appended : ∀ place held, ¬ opened .write place → first.file? place = some held →
    ∃ now, later.file? place = some now ∧ held <+: now

theorem file?_eq_some {disk : Disk} {place : Location} {bytes : List UInt8} :
    disk.file? place = some bytes ↔ disk.node? place = some (.file bytes) := by
  unfold file?
  cases disk.node? place with
  | none => simp
  | some node => cases node <;> simp

/-- What a file holds depends only on what is at its place. -/
theorem file?_congr {disk other : Disk} {place : Location}
    (same : other.node? place = disk.node? place) : other.file? place = disk.file? place := by
  unfold file?
  rw [same]

/-- A file that was put somewhere holds the bytes it was put there with. -/
theorem file?_put_self {disk : Disk} {place : Location} (root : place ≠ []) (bytes : List UInt8) :
    (disk.put place (.file bytes)).file? place = some bytes := by
  rw [file?_eq_some, node?_put, if_neg root, if_pos rfl]

/-- The root is a directory, so a place without a directory is elsewhere. -/
theorem ne_root_of_vacant {disk : Disk} {place : Location}
    (vacant : disk.isDirectory place = false) : place ≠ [] := by
  rintro rfl
  simp [isDirectory, node?] at vacant

namespace Framed

variable {opened : OpenMode → Location → Prop} {disk first second third : Disk}

theorem refl (disk : Disk) : Framed opened disk disk where
  directories _ := rfl
  files _ there := there
  elsewhere _ differs := absurd rfl differs
  appended _ held _ there := ⟨held, there, List.prefix_rfl⟩

/-- What happens to a disk in two parts stays within what was opened in either of them. -/
theorem trans (head : Framed opened first second) (tail : Framed opened second third) :
    Framed opened first third where
  directories place := (tail.directories place).trans (head.directories place)
  files place there := tail.files place (head.files place there)
  elsewhere place differs := by
    by_cases same : third.node? place = second.node? place
    · rw [same] at differs
      rw [file?_congr same]
      exact head.elsewhere place differs
    · exact tail.elsewhere place same
  appended place held unwritten there := by
    obtain ⟨between, middle, begins⟩ := head.appended place held unwritten there
    obtain ⟨now, there, continues⟩ := tail.appended place between unwritten middle
    exact ⟨now, there, begins.trans continues⟩

/-- A file may be put where one was opened for output; what it held stays in front unless it was
opened for writing. -/
theorem put {place : Location} {mode : OpenMode} {bytes : List UInt8}
    (vacant : disk.isDirectory place = false) (allowed : opened mode place)
    (keeps : mode = .append → ∀ held, disk.file? place = some held → held <+: bytes) :
    Framed opened disk (disk.put place (.file bytes)) where
  directories := (grows_put vacant bytes).directories
  files other there := by
    by_cases here : other = place
    · rw [here, file?_put_self (ne_root_of_vacant vacant)]
      simp
    · rwa [file?_congr (node?_put_of_ne here _)]
  elsewhere other differs := by
    have here : other = place :=
      Decidable.byContradiction fun apart => differs (node?_put_of_ne apart _)
    rw [here, file?_put_self (ne_root_of_vacant vacant)]
    exact ⟨by simp, mode, allowed⟩
  appended other held unwritten there := by
    by_cases here : other = place
    · subst here
      have appends : mode = .append := by
        cases mode with
        | write => exact absurd allowed unwritten
        | append => rfl
      exact ⟨bytes, file?_put_self (ne_root_of_vacant vacant) bytes, keeps appends held there⟩
    · exact ⟨held, (file?_congr (node?_put_of_ne here _)).trans there, List.prefix_rfl⟩

end Framed

/-! ### Opening

Opening for writing empties a file, or creates an empty one. Opening for appending leaves what is
there. -/

/-- Opening for appending puts an empty file only where there is none. -/
theorem opened_eq (disk : Disk) (place : Location) (mode : OpenMode) :
    disk.opened place mode = disk ∨
      disk.opened place mode = disk.put place (.file []) ∧
        (mode = .append → disk.file? place = none) := by
  unfold opened file?
  cases disk.node? place with
  | none => exact .inr ⟨rfl, fun _ => rfl⟩
  | some node =>
    cases node with
    | fullDevice => exact .inl rfl
    | directory => exact .inr ⟨rfl, fun _ => rfl⟩
    | file bytes =>
      cases mode with
      | write => exact .inr ⟨rfl, nofun⟩
      | append => exact .inl rfl

/-- A file that was opened for writing is empty. -/
theorem eq_nil_of_opened_write {disk : Disk} {place : Location} {held : List UInt8}
    (there : (disk.opened place .write).file? place = some held) : held = [] := by
  have emptied : (disk.put place (.file [])).file? place = some held → held = [] := by
    intro there
    rw [file?_eq_some, node?_put, if_pos rfl] at there
    split at there <;> cases there
    rfl
  unfold opened at there
  cases before : disk.node? place with
  | none => exact emptied (by simpa [before] using there)
  | some node =>
    cases node with
    | fullDevice => simp [before, file?] at there
    | directory => exact emptied (by simpa [before] using there)
    | file bytes => exact emptied (by simpa [before] using there)

/-- Opening a file for output changes that file at most. -/
theorem Framed.opening {opened : OpenMode → Location → Prop} {disk : Disk} {path : String}
    {place : Location} {mode : OpenMode} (found : disk.placeForOutput path = .ok place)
    (allowed : opened mode place) : Framed opened disk (disk.opened place mode) := by
  rcases disk.opened_eq place mode with same | ⟨same, missing⟩
  · rw [same]
    exact .refl disk
  · rw [same]
    refine put (isDirectory_of_placeForOutput found) allowed fun appends held there => ?_
    rw [missing appends] at there
    cases there

/-! ### Writing

What is written through a target goes to the file that was opened, after what was written before.
The target says how much of the file stays in front. -/

/-- What a file holds after bytes were written to it through a target. -/
def rewritten (target : Target) (old bytes : List UInt8) : List UInt8 :=
  match target.mode with
  | .append => old ++ bytes
  | .write => overwrite old target.offset bytes

/-- What it takes to write something: the target leads to a file. Afterwards it leads to the same
file, behind what was written. -/
theorem write_eq_ok {disk written : Disk} {target later : Target} {bytes : List UInt8}
    (more : bytes ≠ []) :
    disk.write target bytes = .ok (later, written) ↔
      ∃ old, disk.node? target.place = some (.file old) ∧
        written = disk.put target.place (.file (rewritten target old bytes)) ∧
        later = match target.mode with
          | .append => target
          | .write => { target with offset := target.offset + bytes.length } := by
  unfold write rewritten
  rw [if_neg more]
  cases disk.node? target.place with
  | none => simp
  | some node =>
    cases node with
    | file old => cases target.mode <;> simp [eq_comm, and_comm]
    | directory | fullDevice => simp

/-- Writing to a file that was opened stays within what was opened, and so does the target. -/
theorem Framed.writing {opened : OpenMode → Location → Prop} {disk written : Disk}
    {target later : Target} {bytes : List UInt8} (more : bytes ≠ [])
    (made : disk.write target bytes = .ok (later, written))
    (allowed : opened target.mode target.place) :
    Framed opened disk written ∧ opened later.mode later.place := by
  obtain ⟨old, holds, rfl, rfl⟩ := (write_eq_ok more).mp made
  have vacant : disk.isDirectory target.place = false := by simp [isDirectory, holds]
  constructor
  · refine put vacant allowed fun appends held there => ?_
    rw [file?_eq_some, holds] at there
    cases there
    simp [rewritten, appends]
  · cases appends : target.mode <;> simpa [appends] using allowed

end ExtractOptions.Disk

/-
Module: ExtractOptions.Proofs.Disk.Growth
Purpose: what a run can do to a disk. Files are created and written, but directories stay what they
  are and nothing disappears. So a path that stood for a location stands for it ever after, and what
  it stands for later was there under that path before, unless it was only created meanwhile.
Main exports: Disk.Grows, Disk.Grows.canonical, Disk.Grows.canonical_before, Session.Steps.grows
-/
import ExtractOptions.Proofs.Disk.Frame
import ExtractOptions.Proofs.Session.Step

namespace ExtractOptions

namespace Disk

/-- The second disk has the directories of the first one, and something wherever the first one
has. -/
structure Grows (first later : Disk) : Prop where
  workingDirectory : later.workingDirectory = first.workingDirectory
  directories : ∀ place, later.isDirectory place = first.isDirectory place
  present : ∀ place, first.node? place ≠ none → later.node? place ≠ none

theorem Grows.refl (disk : Disk) : Grows disk disk :=
  ⟨rfl, fun _ => rfl, fun _ => id⟩

/-- Growth carries over from one disk to the next. -/
theorem Grows.trans {first second third : Disk} (head : Grows first second)
    (tail : Grows second third) : Grows first third where
  workingDirectory := tail.workingDirectory.trans head.workingDirectory
  directories := fun place => (tail.directories place).trans (head.directories place)
  present := fun place there => tail.present place (head.present place there)

/-! ### Walking through directories

Where a walk ends depends on the directories alone, and these stay what they are. This is what makes
a location that a path stood for stay its location. -/

theorem isDirectory_eq_true {disk : Disk} {place : Location} :
    disk.isDirectory place = true ↔ disk.node? place = some .directory := by
  simp [isDirectory]

theorem checkDirectory_eq_ok {disk : Disk} {place : Location} :
    disk.checkDirectory place = .ok () ↔ disk.isDirectory place = true := by
  unfold checkDirectory
  cases held : disk.node? place with
  | none => simp [isDirectory, held]
  | some node => cases node <;> simp [isDirectory, held]

/-- A text stands for a location exactly if it is a path that leads to something there. -/
theorem canonical_eq_ok {disk : Disk} {text : String} {place : Location} :
    disk.canonical text = .ok place ↔
      ∃ path node, Path.ofText? text = .ok path ∧ disk.follow path = .ok (place, node) := by
  unfold canonical
  cases Path.ofText? text with
  | error cause => simp [bind, Except.bind]
  | ok path =>
    cases follows : disk.follow path <;>
      simp [bind, Except.bind, pure, Except.pure, follows, Prod.ext_iff]

section

variable {first later : Disk}

/-- A step into a directory depends on the directories alone. -/
theorem enter_of_directories
    (same : ∀ place, later.isDirectory place = first.isDirectory place) {above reached : Location}
    {name : String} (entered : first.enter above name = .ok reached) :
    later.enter above name = .ok reached := by
  obtain ⟨_, directory, goes⟩ := bind_eq_ok.mp entered
  refine bind_eq_ok.mpr ⟨(), ?_, goes⟩
  rw [checkDirectory_eq_ok, same]
  exact checkDirectory_eq_ok.mp directory

/-- Where a walk ends depends on the directories alone. -/
theorem walk_of_directories
    (same : ∀ place, later.isDirectory place = first.isDirectory place) {names : List String}
    {start reached : Location} (walked : names.foldlM first.enter start = .ok reached) :
    names.foldlM later.enter start = .ok reached := by
  induction names generalizing start with
  | nil => exact walked
  | cons name names ih =>
    rw [List.foldlM_cons] at walked ⊢
    obtain ⟨next, entered, walked⟩ := bind_eq_ok.mp walked
    exact bind_eq_ok.mpr ⟨next, enter_of_directories same entered, ih walked⟩

namespace Grows

/-- Paths start where they did, since the working directory stays. -/
theorem start_eq (grows : Grows first later) (path : Path) :
    later.start path = first.start path := by
  unfold start
  rw [grows.workingDirectory]

/-- A path goes on standing for the same location. -/
theorem canonical (grows : Grows first later) {text : String} {place : Location}
    (found : first.canonical text = .ok place) : later.canonical text = .ok place := by
  obtain ⟨path, node, parsed, follows⟩ := canonical_eq_ok.mp found
  obtain ⟨walked, there, ends⟩ := follow_eq_ok.mp follows
  have present : later.node? place ≠ none := grows.present place (by simp [there])
  obtain ⟨held, holds⟩ := Option.ne_none_iff_exists'.mp present
  refine canonical_eq_ok.mpr ⟨path, held, parsed, follow_eq_ok.mpr ⟨?_, holds, fun slash => ?_⟩⟩
  · rw [grows.start_eq]
    exact walk_of_directories grows.directories walked
  · have directory : later.isDirectory place = true := by
      rw [grows.directories, isDirectory_eq_true, there, ends slash]
    rw [isDirectory_eq_true, holds] at directory
    exact Option.some.inj directory

/-- What a path stands for later it stood for before, if that was there and is unchanged. -/
theorem canonical_before (grows : Grows first later) {text : String} {place : Location}
    (found : later.canonical text = .ok place) (kept : later.node? place = first.node? place) :
    first.canonical text = .ok place := by
  obtain ⟨path, node, parsed, follows⟩ := canonical_eq_ok.mp found
  obtain ⟨walked, there, ends⟩ := follow_eq_ok.mp follows
  refine canonical_eq_ok.mpr ⟨path, node, parsed, follow_eq_ok.mpr ⟨?_, ?_, ends⟩⟩
  · rw [← grows.start_eq]
    exact walk_of_directories (fun place => (grows.directories place).symm) walked
  · rw [← kept, there]

end Grows

end

/-! ### Files put on a disk

There are two ways in which a run changes the disk: a file is opened for output, or something is
written to one. Both put a file at a place that holds no directory. -/

/-- A file put where no directory is lets the disk grow. -/
theorem grows_put {disk : Disk} {place : Location} (vacant : disk.isDirectory place = false)
    (bytes : List UInt8) : Grows disk (disk.put place (.file bytes)) where
  workingDirectory := rfl
  directories := by
    intro other
    by_cases here : other = place
    · subst here
      have apart : other ≠ [] := by
        rintro rfl
        simp [isDirectory, node?] at vacant
      rw [vacant]
      simp [isDirectory, node?_put, apart]
    · simp only [isDirectory, node?_put_of_ne here]
  present := by
    intro other there
    rw [node?_put]
    split
    · simp
    · split
      · simp
      · exact there

/-- Opening a file for output lets the disk grow. -/
theorem grows_openTarget {disk opened : Disk} {text : String} {mode : OpenMode} {target : Target}
    (run : disk.openTarget text mode = .ok (target, opened)) : Grows disk opened := by
  obtain ⟨place, chosen, made⟩ := bind_eq_ok.mp run
  cases made
  unfold Disk.opened
  split
  · exact .refl disk
  · exact .refl disk
  · exact grows_put (isDirectory_of_placeForOutput chosen) []

/-- Writing to a file lets the disk grow. -/
theorem grows_write {disk written : Disk} {target later : Target} {bytes : List UInt8}
    (made : disk.write target bytes = .ok (later, written)) : Grows disk written := by
  unfold write at made
  split at made
  · cases made
    exact .refl disk
  · split at made
    · rename_i old file
      have vacant : disk.isDirectory target.place = false := by simp [isDirectory, file]
      split at made <;> cases made <;> exact grows_put vacant _
    · cases made
    · cases made
    · cases made

end Disk

/-! ### Runs

Every step of a session lets the disk grow, and growth composes, so a whole run lets it grow. -/

/-- A diagnostic is written to a file or nowhere. -/
theorem Session.diagnose_grows (session : Session) (message : String) :
    session.disk.Grows (session.diagnose message).disk := by
  unfold Session.diagnose Session.writeLog
  split
  · exact .refl session.disk
  · split
    · rename_i written
      exact Disk.grows_write written
    · exact .refl session.disk

/-- Every step lets the disk grow. -/
theorem Session.Step.grows {context : Context} {may : Deed → Prop} {first second : Session}
    (step : Session.Step context may first second) : first.disk.Grows second.disk := by
  cases step with
  | choose opened => exact Disk.grows_openTarget opened
  | warn message => exact first.diagnose_grows message
  | _ => exact .refl first.disk

/-- The disk grows along any number of steps. -/
theorem Session.Steps.grows {context : Context} {may : Deed → Prop} {first second : Session}
    (steps : Session.Steps context may first second) : first.disk.Grows second.disk := by
  induction steps with
  | refl => exact .refl first.disk
  | tail _ step ih => exact ih.trans step.grows

end ExtractOptions

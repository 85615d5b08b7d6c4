/-
Module: ExtractOptions.Proofs.Disk.Frame
Purpose: what stays as it is when a file is opened or written. Other files keep what they hold, and
  a path that leads to one of them still does: files are only put where no directory is, so that
  every directory on the way remains.
Main exports: Disk.node?_put, Disk.find_eq_ok, Disk.canonical_of_find, Disk.find_opened,
  Disk.find_write
-/
import ExtractOptions.Disk.Target
import ExtractOptions.Proofs.Action

namespace ExtractOptions

namespace Disk

/-! ### Putting something on a disk

A disk is a table from locations to nodes, and `put` replaces one entry. The root is always a
directory, whatever the table says. -/

theorem lookup_insertNode (place other : Location) (node : Node) (nodes : List (Location × Node)) :
    (insertNode place node nodes).lookup other =
      if other = place then some node else nodes.lookup other := by
  induction nodes with
  | nil =>
    by_cases same : other = place
    · simp [insertNode, same]
    · have differs : (other == place) = false := beq_eq_false_iff_ne.mpr same
      simp [insertNode, List.lookup_cons, same, differs]
  | cons entry later ih =>
    obtain ⟨key, held⟩ := entry
    unfold insertNode
    by_cases here : key = place
    · subst here
      by_cases same : other = key
      · simp [same]
      · have differs : (other == key) = false := beq_eq_false_iff_ne.mpr same
        simp [List.lookup_cons, same, differs]
    · by_cases same : other = key
      · subst same
        simp [here]
      · have differs : (other == key) = false := beq_eq_false_iff_ne.mpr same
        simp [List.lookup_cons, here, differs, ih]

/-- What is at a place after something was put somewhere. -/
theorem node?_put (disk : Disk) (place other : Location) (node : Node) :
    (disk.put place node).node? other =
      if other = [] then some .directory
      else if other = place then some node
      else disk.node? other := by
  unfold node? put
  by_cases root : other = [] <;> simp [root, lookup_insertNode]

/-- A file is not the root, which is a directory. -/
theorem ne_root_of_file {disk : Disk} {place : Location} {bytes : List UInt8}
    (holds : disk.node? place = some (.file bytes)) : place ≠ [] := by
  intro root
  rw [root] at holds
  simp [node?] at holds

/-- Putting something at one place leaves the others alone. -/
theorem node?_put_of_ne {disk : Disk} {place other : Location} (apart : other ≠ place)
    (node : Node) : (disk.put place node).node? other = disk.node? other := by
  rw [node?_put, if_neg apart]
  by_cases root : other = []
  · simp [root, node?]
  · rw [if_neg root]

/-! ### Paths that lead to something

A path is walked name by name through directories. These lemmas say what has to be true of the disk
for a path to lead somewhere. -/

/-- A path leads somewhere exactly if the walk along its names does, something is there, and it is a
directory if the path insists on one. -/
theorem follow_eq_ok {disk : Disk} {path : Path} {place : Location} {node : Node} :
    disk.follow path = .ok (place, node) ↔
      path.names.foldlM disk.enter (disk.start path) = .ok place ∧
        disk.node? place = some node ∧ (path.endsInSlash = true → node = .directory) := by
  unfold follow
  cases path.names.foldlM disk.enter (disk.start path) with
  | error cause => simp [bind, Except.bind]
  | ok reached =>
    simp only [bind, Except.bind, Except.ok.injEq]
    cases held : disk.node? reached with
    | none =>
      constructor
      · nofun
      · rintro ⟨rfl, there, -⟩
        rw [held] at there
        cases there
    | some present =>
      by_cases slash : path.endsInSlash = true ∧ present ≠ .directory
      · simp only [if_pos slash]
        constructor
        · nofun
        · rintro ⟨rfl, there, ends⟩
          rw [held] at there
          cases there
          exact absurd (ends slash.1) slash.2
      · simp only [if_neg slash, pure, Except.pure, Except.ok.injEq, Prod.mk.injEq]
        constructor
        · rintro ⟨rfl, rfl⟩
          exact ⟨rfl, held, fun ends => Decidable.byContradiction fun other => slash ⟨ends, other⟩⟩
        · rintro ⟨rfl, there, -⟩
          rw [held] at there
          cases there
          exact ⟨rfl, rfl⟩

/-- A text finds something exactly if it is a path that leads there. -/
theorem find_eq_ok {disk : Disk} {text : String} {place : Location} {node : Node} :
    disk.find text = .ok (place, node) ↔
      ∃ path, Path.opened? text = .ok path ∧ disk.follow path = .ok (place, node) := by
  unfold find
  cases Path.opened? text with
  | error cause => simp [bind, Except.bind]
  | ok path => simp [bind, Except.bind]

/-- What is found is on the disk. -/
theorem node?_of_find {disk : Disk} {text : String} {place : Location} {node : Node}
    (found : disk.find text = .ok (place, node)) : disk.node? place = some node := by
  obtain ⟨path, -, leads⟩ := find_eq_ok.mp found
  exact (follow_eq_ok.mp leads).2.1

/-- What can be found stands for its location. -/
theorem canonical_of_find {disk : Disk} {text : String} {place : Location} {node : Node}
    (found : disk.find text = .ok (place, node)) : disk.canonical text = .ok place := by
  obtain ⟨path, opened, leads⟩ := find_eq_ok.mp found
  have parsed : Path.ofText? text = .ok path := by
    unfold Path.opened? at opened
    cases parsed : Path.ofText? text with
    | error cause =>
      rw [parsed] at opened
      cases opened
    | ok other =>
      simp only [parsed, bind, Except.bind] at opened
      split at opened <;> cases opened
      rfl
  unfold canonical
  rw [parsed]
  simp only [bind, Except.bind, leads]
  rfl

theorem openReader_of_find {disk : Disk} {text : String} {place : Location} {node : Node}
    (found : disk.find text = .ok (place, node)) :
    disk.openReader text = .ok { path := text, place } := by
  unfold openReader
  rw [found]
  rfl

/-- A file that is found is read from its bytes. -/
theorem readLines_of_find {disk : Disk} {path : String} {place : Location}
    {bytes : List UInt8} (found : disk.find path = .ok (place, .file bytes)) :
    disk.readLines path = .ok (Lines.ofBytes bytes) := by
  unfold readLines
  rw [found]
  rfl

/-- A reader that has just been opened has fetched nothing. -/
theorem reader_of_openReader {disk : Disk} {text : String} {reader : LineReader}
    (opened : disk.openReader text = .ok reader) :
    reader = { path := text, place := reader.place } := by
  unfold openReader at opened
  cases found : disk.find text with
  | error cause =>
    rw [found] at opened
    cases opened
  | ok answer =>
    rw [found] at opened
    cases opened
    rfl

/-- A reader that is opened stands at the location of its path. -/
theorem openReader_eq_ok {disk : Disk} {text : String} {reader : LineReader}
    (opened : disk.openReader text = .ok reader) :
    disk.canonical text = .ok reader.place ∧ reader.path = text := by
  unfold openReader at opened
  cases found : disk.find text with
  | error cause =>
    rw [found] at opened
    cases opened
  | ok answer =>
    rw [found] at opened
    cases opened
    exact ⟨canonical_of_find found, rfl⟩

/-! ### Paths after a file was put somewhere

A file is only put where no directory is, so every step of a walk still finds its directory. -/

section Put

variable {disk : Disk} {place : Location} {bytes : List UInt8}

/-- A step into a directory is not affected by files. -/
theorem enter_put (vacant : disk.isDirectory place = false) {above reached : Location}
    {name : String} (entered : disk.enter above name = .ok reached) :
    (disk.put place (.file bytes)).enter above name = .ok reached := by
  unfold enter at entered ⊢
  have apart : above ≠ place := by
    rintro rfl
    unfold checkDirectory at entered
    unfold isDirectory at vacant
    split at entered
    · rename_i directory
      rw [directory] at vacant
      cases vacant
    · cases entered
    · cases entered
  unfold checkDirectory at entered ⊢
  rw [node?_put_of_ne apart]
  exact entered

theorem walk_put (vacant : disk.isDirectory place = false) {names : List String}
    {start reached : Location} (walked : names.foldlM disk.enter start = .ok reached) :
    names.foldlM (disk.put place (.file bytes)).enter start = .ok reached := by
  induction names generalizing start with
  | nil => exact walked
  | cons name names ih =>
    rw [List.foldlM_cons] at walked ⊢
    cases entered : disk.enter start name with
    | error cause =>
      rw [entered] at walked
      cases walked
    | ok next =>
      rw [entered] at walked
      rw [enter_put vacant entered]
      exact ih walked

/-- A path still leads to where it did after a file was put somewhere else. -/
theorem find_put (vacant : disk.isDirectory place = false) {text : String} {found : Location}
    {node : Node} (leads : disk.find text = .ok (found, node)) (apart : found ≠ place) :
    (disk.put place (.file bytes)).find text = .ok (found, node) := by
  obtain ⟨path, opened, follows⟩ := find_eq_ok.mp leads
  obtain ⟨walked, there, ends⟩ := follow_eq_ok.mp follows
  refine find_eq_ok.mpr ⟨path, opened, follow_eq_ok.mpr ⟨walk_put vacant walked, ?_, ends⟩⟩
  rw [node?_put_of_ne apart, there]

end Put

/-- Only the last check of a place for output can tell that it is no directory. -/
theorem isDirectory_of_placeForOutput {disk : Disk} {text : String} {place : Location}
    (found : disk.placeForOutput text = .ok place) : disk.isDirectory place = false := by
  obtain ⟨path, -, found⟩ := bind_eq_ok.mp found
  cases last : path.names.getLast? with
  | none =>
    rw [last] at found
    cases found
  | some name =>
    rw [last] at found
    obtain ⟨parent, -, found⟩ := bind_eq_ok.mp found
    obtain ⟨_, -, found⟩ := bind_eq_ok.mp found
    split at found
    · cases found
    · obtain ⟨reached, -, found⟩ := bind_eq_ok.mp found
      split at found
      · cases found
      · rename_i vacant
        cases found
        simpa using vacant

/-- A path still leads to where it did after another file was opened. -/
theorem find_opened {disk : Disk} {output text : String} {place found : Location} {node : Node}
    (chosen : disk.placeForOutput output = .ok place) (mode : OpenMode)
    (leads : disk.find text = .ok (found, node)) (apart : found ≠ place) :
    (disk.opened place mode).find text = .ok (found, node) := by
  unfold opened
  split
  · exact leads
  · exact leads
  · exact find_put (isDirectory_of_placeForOutput chosen) leads apart

/-- A path still leads to where it did after another file was written. -/
theorem find_write {disk written : Disk} {target later : Target} {bytes : List UInt8}
    {text : String} {found : Location} {node : Node}
    (made : disk.write target bytes = .ok (later, written))
    (leads : disk.find text = .ok (found, node)) (apart : found ≠ target.place) :
    written.find text = .ok (found, node) := by
  unfold write at made
  split at made
  · cases made
    exact leads
  · split at made
    · rename_i old file
      have vacant : disk.isDirectory target.place = false := by simp [isDirectory, file]
      split at made <;> cases made <;> exact find_put vacant leads apart
    · cases made
    · cases made
    · cases made

end Disk

end ExtractOptions

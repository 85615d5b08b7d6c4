/-
Module: ExtractOptions.Proofs.Session.Beside
Purpose: two sessions that differ in one argument file. The second one is reading it, and has it on
  its disk even if the first one does not; all else is the same, but for the number of argument
  files read. They go on differing in that alone when the same is done to both.
Main exports: Session.Within, Session.Beside, Session.Beside.configure, Session.Beside.rewrite,
  Session.Beside.diagnose
-/
import ExtractOptions.Proofs.Disk.Beside

namespace ExtractOptions

/-! ### Sessions within the same argument files

What options do leaves the files being read alone and lets the disk grow. Both are kept in one
relation, which composes. -/

/-- The later session is reading the argument files that the first one was, on a disk that may have
grown. -/
structure Session.Within (first later : Session) : Prop where
  including : later.including = first.including
  grows : first.disk.Grows later.disk

namespace Session.Within

theorem refl (session : Session) : session.Within session :=
  ⟨rfl, .refl session.disk⟩

/-- Two stretches of a session within the same argument files are one. -/
theorem trans {first second third : Session} (head : first.Within second)
    (tail : second.Within third) : first.Within third :=
  ⟨tail.including.trans head.including, head.grows.trans tail.grows⟩

end Session.Within

/-! ### Sessions with an argument file more

The second session is inside one more file. These lemmas say which changes can be made to both
without another difference. -/

/-- The second session is reading one argument file more than the first, which is on its disk even
if the first one has no such file. -/
structure Session.Beside (addition : Addition) (first second : Session) : Prop where
  config : second.config = first.config
  registry : second.registry = first.registry
  standardError : second.standardError = first.standardError
  disk : first.disk.Beside addition second.disk
  /-- Diagnostics do not go to the file if it is missing. -/
  log : ∀ target, first.config.log = .file target → target.place = addition.place →
    first.disk.node? target.place ≠ none
  counters : second.counters =
    { first.counters with argumentFiles := first.counters.argumentFiles + 1 }
  including : ∀ place ∈ second.including, place = addition.place ∨ place ∈ first.including

namespace Session.Beside

variable {addition : Addition} {first second : Session}

/-- The same configuration may be put into both sessions, if diagnostics do not go to the added file
where it is missing. -/
theorem configure (beside : Session.Beside addition first second) {config : Config}
    (log : ∀ target, config.log = .file target → target.place = addition.place →
      first.disk.node? target.place ≠ none) :
    Session.Beside addition { first with config } { second with config } :=
  { beside with config := rfl, log }

/-- The same registry may be put into both sessions. -/
theorem register (beside : Session.Beside addition first second) (registry : Registry) :
    Session.Beside addition { first with registry } { second with registry } :=
  { beside with registry := rfl }

/-- Everything is counted in both sessions alike. -/
theorem count (beside : Session.Beside addition first second) {change : Counters → Counters}
    (same : ∀ counters files,
      change { counters with argumentFiles := counters.argumentFiles + files } =
      { change counters with argumentFiles := (change counters).argumentFiles + files }) :
    Session.Beside addition { first with counters := change first.counters }
      { second with counters := change second.counters } :=
  { beside with counters := by rw [beside.counters, same] }

/-- A disk that grows does not lose the file that diagnostics go to. -/
theorem rewrite (beside : Session.Beside addition first second) {disk other : Disk}
    (grows : first.disk.Grows disk) (disks : disk.Beside addition other) :
    Session.Beside addition { first with disk } { second with disk := other } :=
  { beside with
    disk := disks
    log := fun target writes here => grows.present _ (beside.log target writes here) }

/-- A message goes to the same place in both sessions. -/
theorem diagnose (beside : Session.Beside addition first second) (message : String) :
    Session.Beside addition (first.diagnose message) (second.diagnose message) := by
  unfold Session.diagnose Session.writeLog
  rw [beside.config]
  cases log : first.config.log with
  | standardError =>
    exact { beside with config := rfl, standardError := by rw [beside.standardError] }
  | file target =>
    rcases beside.disk.write (beside.log target log) (Text.Utf8.encode (message ++ "\n")) with
      ⟨cause, fails, alike⟩ | ⟨later, here, there, made, alike, stays, disks⟩
    · simp only [fails, alike]
      exact beside
    · simp only [made, alike]
      refine (beside.rewrite (Disk.grows_write made) disks).configure fun other same here => ?_
      cases same
      rw [stays] at here ⊢
      exact (Disk.grows_write made).present _ (beside.log target log here)

end Session.Beside

end ExtractOptions

/-
Module: ExtractOptions.Proofs.Run.Diagnosis
Purpose: where the warnings of a run go. Each option that directs diagnostics to a file decides it
  anew: they go to that file if it can be opened, and to standard error if not. A file that
  diagnostics go to gets every warning at its end, as long as nothing else empties it.
Main exports: Given.redirects?, Given.warning?, isFiled, warningsOnError, messageText,
  Chronology.standardError, Surface.Records, Chronology.records
-/
import ExtractOptions.Proofs.Disk.Footprint
import ExtractOptions.Proofs.Disk.Written
import ExtractOptions.Proofs.Run.Surface

namespace ExtractOptions

open Text

/-! ### The warnings of options

Which warning an option gives and where diagnostics go after it can be told from the option and the
session that it meets. What a run shows is put together from these. -/

namespace Given

/-- Whether the file that the option directs diagnostics to can be opened. Other options leave
diagnostics where they go. -/
def redirects? (context : Context) (given : Given) : Option Bool :=
  match given.outward context with
  | .logging path mode => some (given.session.disk.openTarget path mode).isOk
  | _ => none

/-- The warning that the option gives, if it gives one. -/
def warning? (context : Context) (given : Given) : Option String :=
  match given.outward context with
  | .warning message => some message
  | .logging path mode =>
    match given.session.disk.openTarget path mode with
    | .ok _ => none
    | .error _ => some (unopenedWarning path)
  | .nothing | .opening .. => none

end Given

/-- Diagnostics go to a file after some options were given: the last one to redirect them could open
its file, or none did and they went to a file before. -/
def isFiled (context : Context) (before : Bool) (given : List Given) : Bool :=
  (given.filterMap (Given.redirects? context)).getLast?.getD before

/-- The messages that go to standard error, if diagnostics go to a file or not. -/
def messagesOnError (filed : Bool) (messages : List String) : List String :=
  match filed with
  | true => []
  | false => messages

/-- The warnings that go to standard error while some options are given: those of options that leave
diagnostics, or direct them, there. -/
def warningsOnError (context : Context) : (filed : Bool) → List Given → List String
  | _, [] => []
  | filed, one :: later =>
    let filed := (one.redirects? context).getD filed
    messagesOnError filed (one.warning? context).toList ++ warningsOnError context filed later

/-- Some messages, a newline after each of them. -/
def messageText : List String → String
  | [] => ""
  | message :: later => message ++ "\n" ++ messageText later

/-- The text of messages that follow each other is put together from theirs. -/
theorem messageText_append (messages later : List String) :
    messageText (messages ++ later) = messageText messages ++ messageText later := by
  induction messages with
  | nil => simp [messageText]
  | cons message messages ih => simp [messageText, ih, String.append_assoc]

theorem messageText_singleton (message : String) : messageText [message] = message ++ "\n" := by
  simp [messageText]

/-- The first option redirects diagnostics, or leaves the matter to the others. -/
theorem isFiled_cons (context : Context) (before : Bool) (one : Given) (later : List Given) :
    isFiled context before (one :: later) =
      isFiled context ((one.redirects? context).getD before) later := by
  unfold isFiled
  cases directs : one.redirects? context with
  | none => rw [List.filterMap_cons_none directs]; rfl
  | some opened => simp [directs, List.getLast?_cons]

/-! ### Standard error

A message goes to standard error only while no file takes it. Options in the run may change that, so
the messages are split at each option that redirects diagnostics. -/

/-- Diagnostics go to a file. -/
def Surface.isFiled (surface : Surface) : Bool :=
  match surface.log with
  | .standardError => false
  | .file _ => true

namespace Surface

/-- Without a file a message shows on standard error. -/
theorem diagnose_of_unfiled {surface : Surface} (unfiled : surface.isFiled = false)
    (message : String) :
    surface.diagnose message =
      { surface with standardError := surface.standardError ++ (message ++ "\n") } := by
  unfold diagnose
  cases directed : surface.log with
  | standardError => rfl
  | file target => simp [isFiled, directed] at unfiled

/-- A message to a file shows nowhere else. -/
theorem diagnose_of_filed {surface : Surface} (filed : surface.isFiled = true)
    (message : String) :
    (surface.diagnose message).standardError = surface.standardError ∧
      (surface.diagnose message).isFiled = true := by
  unfold diagnose
  cases directed : surface.log with
  | standardError => simp [isFiled, directed] at filed
  | file target =>
    simp only
    cases surface.disk.write target (Utf8.encode (message ++ "\n")) with
    | ok answer => exact ⟨rfl, rfl⟩
    | error cause => exact ⟨rfl, filed⟩

/-- What standard error shows after a message that goes where diagnostics go. -/
theorem diagnose_standardError (surface : Surface) (message : String) :
    (surface.diagnose message).standardError =
        surface.standardError ++ messageText (messagesOnError surface.isFiled [message]) ∧
      (surface.diagnose message).isFiled = surface.isFiled := by
  cases filed : surface.isFiled with
  | false =>
    rw [diagnose_of_unfiled filed]
    exact ⟨by rw [messagesOnError, messageText_singleton], filed⟩
  | true =>
    obtain ⟨same, stays⟩ := diagnose_of_filed filed message
    exact ⟨by rw [same, messagesOnError, messageText, String.append_empty], stays⟩

end Surface

section Runs

variable {context : Context}

theorem messageText_onError_nil (filed : Bool) : messageText (messagesOnError filed []) = "" := by
  cases filed <;> rfl

/-- What standard error shows after an option. -/
theorem Given.standardError_after {given : Given} (listed : given.option.isListed) :
    (given.after context).surface.isFiled =
        (given.redirects? context).getD given.session.surface.isFiled ∧
      (given.after context).surface.standardError = given.session.surface.standardError ++
        messageText (messagesOnError (given.after context).surface.isFiled
          (given.warning? context).toList) := by
  rw [given.surface_after listed]
  unfold redirects? warning?
  cases does : given.outward context with
  | nothing =>
    rw [Option.toList_none, messageText_onError_nil, String.append_empty]
    exact ⟨rfl, rfl⟩
  | warning message =>
    obtain ⟨tells, stays⟩ := given.session.surface.diagnose_standardError message
    simp only [Outward.apply, stays]
    exact ⟨rfl, tells⟩
  | opening path mode =>
    rw [Option.toList_none, messageText_onError_nil, String.append_empty, Outward.apply]
    cases given.session.surface.disk.openTarget path mode <;> exact ⟨rfl, rfl⟩
  | logging path mode =>
    cases made : given.session.surface.disk.openTarget path mode with
    | ok answer =>
      have same : given.session.disk.openTarget path mode = .ok answer := made
      simp only [Outward.apply, made, same]
      exact ⟨rfl, by simp [messageText_onError_nil]⟩
    | error cause =>
      have same : given.session.disk.openTarget path mode = .error cause := made
      simp only [Outward.apply, made, same]
      rw [Surface.diagnose_of_unfiled rfl]
      exact ⟨rfl, by rw [← messageText_singleton]; rfl⟩

/-- Standard error shows the warnings that go there, in order. -/
theorem Chronology.standardError {clean : Prop} {first last : Session} {given : List Given}
    (chronology : Chronology context clean first given last) :
    last.surface.isFiled = isFiled context first.surface.isFiled given ∧
      last.surface.standardError = first.surface.standardError ++
        messageText (warningsOnError context first.surface.isFiled given) := by
  induction chronology with
  | done session => exact ⟨rfl, by rw [warningsOnError, messageText, String.append_empty]⟩
  | @interlude first second last given interlude _ ih =>
    have same : second.surface = first.surface := interlude.inward.surface
    rwa [same] at ih
  | option one listed _ _ ih =>
    obtain ⟨directs, tells⟩ := one.standardError_after listed
    obtain ⟨ends, tellsLater⟩ := ih
    rw [directs] at ends tellsLater tells
    refine ⟨ends.trans (isFiled_cons context _ one _).symm, ?_⟩
    rw [tellsLater, tells, warningsOnError, messageText_append, String.append_assoc]

/-! ### The file that diagnostics go to

While nothing else empties the file, each message is added at its end, and what was there stays in
front. The invariant is `Surface.Records`. -/

/-- Diagnostics go to the end of the file at a place, which holds the given bytes. -/
def Surface.Records (place : Location) (held : List UInt8) (surface : Surface) : Prop :=
  ∃ target, surface.log = .file target ∧ target.place = place ∧
    surface.disk.file? place = some held ∧ (target.mode = .write → target.offset = held.length)

namespace Surface.Records

variable {place : Location} {held : List UInt8} {surface : Surface}

/-- A message is added to what the file holds. -/
theorem diagnose (records : surface.Records place held) (message : String) :
    (surface.diagnose message).Records place (held ++ Lines.written [message]) := by
  obtain ⟨target, directed, rfl, there, ends⟩ := records
  have bytes : Lines.written [message] = Utf8.encode (message ++ "\n") := by
    simp [Lines.written]
  have holds := Disk.file?_eq_some.mp there
  have root := Disk.ne_root_of_file holds
  have added : Disk.rewritten target held (Utf8.encode (message ++ "\n")) =
      held ++ Utf8.encode (message ++ "\n") := by
    unfold Disk.rewritten
    cases how : target.mode with
    | append => rfl
    | write => simp [Disk.overwrite, ends how]
  have made := (Disk.write_eq_ok (Utf8.encode_line_ne_nil message)).mpr ⟨held, holds, rfl, rfl⟩
  unfold Surface.diagnose
  simp only [directed, made, added, bytes]
  refine ⟨_, rfl, ?_, Disk.file?_put_self root _, ?_⟩
  · cases target.mode <;> rfl
  · cases how : target.mode with
    | append => simp [how]
    | write => simp [ends how]

/-- What opening another file, or the same one for appending, leaves to be recorded. -/
theorem file?_opened {disk : Disk} {other : Location} {mode : OpenMode}
    (there : disk.file? place = some held) (kept : other = place → mode = .append) :
    (disk.opened other mode).file? place = some held := by
  rcases disk.opened_eq other mode with same | ⟨same, missing⟩
  · rw [same, there]
  · by_cases here : other = place
    · subst here
      rw [missing (kept rfl)] at there
      cases there
    · rw [same, Disk.file?_congr (Disk.node?_put_of_ne (Ne.symm here) _), there]

/-- An option that neither redirects diagnostics nor empties the file adds its warning to it. -/
theorem option {given : Given} (listed : given.option.isListed)
    (records : given.session.surface.Records place held)
    (stays : given.redirects? context = none) (kept : ¬ given.Opens context .write place) :
    (given.after context).surface.Records place
      (held ++ Lines.written (given.warning? context).toList) := by
  rw [given.surface_after listed]
  unfold Given.redirects? at stays
  unfold Given.warning?
  cases does : given.outward context with
  | nothing => simpa [Lines.written, Outward.apply] using records
  | warning message => exact records.diagnose message
  | logging path mode => simp [does] at stays
  | opening path mode =>
    obtain ⟨target, directed, leads, there, ends⟩ := records
    simp only [Outward.apply, Option.toList_none, Lines.written, List.flatMap_nil, List.append_nil]
    cases made : given.session.surface.disk.openTarget path mode with
    | error cause => exact ⟨target, directed, leads, there, ends⟩
    | ok answer =>
      obtain ⟨opened, disk⟩ := answer
      obtain ⟨found, rfl⟩ := openTarget_eq_ok made
      refine ⟨target, directed, leads, file?_opened there fun same => ?_, ends⟩
      rw [same] at found
      cases mode with
      | append => rfl
      | write => exact absurd ((Given.opens_iff_of_outward (.inl does)).mpr ⟨rfl, found⟩) kept

end Surface.Records

/-- An option that directs diagnostics to a file it can open records them there. -/
theorem Given.records_of_redirects {given : Given} (listed : given.option.isListed)
    (directs : given.redirects? context = some true) {mode : OpenMode} {place : Location}
    (opens : given.Opens context mode place) {held : List UInt8}
    (there : (given.after context).disk.file? place = some held) :
    (given.after context).surface.Records place held := by
  have shown : (given.after context).surface = _ := given.surface_after listed
  unfold redirects? at directs
  cases does : given.outward context with
  | nothing | warning | opening => simp [does] at directs
  | logging path own =>
    obtain ⟨rfl, found⟩ := (opens_iff_of_outward (Or.inr does)).mp opens
    have made : given.session.surface.disk.openTarget path own =
        .ok ({ path, mode := own, place }, given.session.disk.opened place own) :=
      bind_eq_ok.mpr ⟨place, found, rfl⟩
    simp only [does, Outward.apply, made] at shown
    have disk : (given.after context).disk = given.session.disk.opened place own :=
      congrArg Surface.disk shown
    refine ⟨{ path, mode := own, place }, congrArg Surface.log shown, rfl, there, ?_⟩
    rintro rfl
    rw [disk] at there
    rw [Disk.eq_nil_of_opened_write there]
    rfl

/-- Options that neither redirect diagnostics nor empty the file they go to add their warnings to
it. -/
theorem Chronology.records {clean : Prop} {first last : Session} {given : List Given}
    (chronology : Chronology context clean first given last) {place : Location}
    {held : List UInt8} (begins : first.surface.Records place held)
    (stays : ∀ one ∈ given, one.redirects? context = none)
    (kept : ∀ one ∈ given, ¬ one.Opens context .write place) :
    last.surface.Records place
      (held ++ Lines.written (given.filterMap (Given.warning? context))) := by
  induction chronology generalizing held with
  | done session => simpa [Lines.written] using begins
  | @interlude first second last given interlude _ ih =>
    have same : second.surface = first.surface := interlude.inward.surface
    rw [← same] at begins
    exact ih begins stays kept
  | option one listed _ _ ih =>
    have next := begins.option listed (stays one List.mem_cons_self) (kept one List.mem_cons_self)
    have rest := ih next (fun other among => stays other (List.mem_cons_of_mem one among))
      fun other among => kept other (List.mem_cons_of_mem one among)
    rw [List.append_assoc] at rest
    cases warns : one.warning? context with
    | none =>
      rw [List.filterMap_cons_none warns]
      simpa [warns, Lines.written] using rest
    | some message =>
      rw [List.filterMap_cons_some warns]
      simpa [warns, Lines.written] using rest

end Runs

end ExtractOptions

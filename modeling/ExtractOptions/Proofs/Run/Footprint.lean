/-
Module: ExtractOptions.Proofs.Run.Footprint
Purpose: the footprint of a run on the disk. Messages are written through a target that some option
  of the run opened, so a run changes only files that its options opened, whatever it reads on the
  way and whatever fails; and what was only ever opened for appending loses nothing.
Main exports: Surface.Within, Outward.framed, Calls.disk_framed
-/
import ExtractOptions.Proofs.Disk.Footprint
import ExtractOptions.Proofs.Run.Surface
import ExtractOptions.Proofs.Text.Utf8

namespace ExtractOptions

open Text

/-! ### Surfaces

Messages are written through the target of the log, and that target was opened by some option. What
is written outside therefore stays within what was opened. -/

/-- Diagnostics go to standard error or to a file that was opened. -/
def Surface.Within (opened : OpenMode → Location → Prop) (surface : Surface) : Prop :=
  ∀ target, surface.log = .file target → opened target.mode target.place

section Framed

variable {opened : OpenMode → Location → Prop} {surface : Surface}

/-- A message is written within what was opened. -/
theorem Surface.framed_diagnose (within : surface.Within opened) (message : String) :
    Disk.Framed opened surface.disk (surface.diagnose message).disk ∧
      (surface.diagnose message).Within opened := by
  unfold diagnose
  cases directed : surface.log with
  | standardError =>
    refine ⟨.refl _, fun target same => ?_⟩
    cases same
  | file target =>
    simp only
    cases written : surface.disk.write target (Utf8.encode (message ++ "\n")) with
    | error cause => exact ⟨.refl _, within⟩
    | ok answer =>
      obtain ⟨later, disk⟩ := answer
      obtain ⟨framed, stays⟩ :=
        Disk.Framed.writing (Utf8.encode_line_ne_nil message) written (within target directed)
      refine ⟨framed, fun other same => ?_⟩
      cases same
      exact stays

/-- Opening a file for diagnostics or for something else stays within what is opened. -/
theorem Outward.framed {outward : Outward} (within : surface.Within opened)
    (allowed : ∀ path mode place, outward = .opening path mode ∨ outward = .logging path mode →
      surface.disk.placeForOutput path = .ok place → opened mode place) :
    Disk.Framed opened surface.disk (outward.apply surface).disk ∧
      (outward.apply surface).Within opened := by
  cases outward with
  | nothing => exact ⟨.refl _, within⟩
  | warning message => exact surface.framed_diagnose within message
  | opening path mode =>
    simp only [apply]
    cases made : surface.disk.openTarget path mode with
    | error cause => exact ⟨.refl _, within⟩
    | ok answer =>
      obtain ⟨target, disk⟩ := answer
      obtain ⟨found, rfl⟩ := openTarget_eq_ok made
      exact ⟨.opening found (allowed path mode _ (.inl rfl) found), within⟩
  | logging path mode =>
    simp only [apply]
    cases made : surface.disk.openTarget path mode with
    | error cause =>
      have unlogged : Surface.Within opened { surface with log := .standardError } := by
        intro target same
        cases same
      exact Surface.framed_diagnose unlogged (unopenedWarning path)
    | ok answer =>
      obtain ⟨place, found, answered⟩ := bind_eq_ok.mp made
      cases answered
      have fits := allowed path mode place (.inr rfl) found
      refine ⟨.opening found fits, fun other same => ?_⟩
      cases same
      exact fits

end Framed

/-! ### Runs

A chronology adds one option at a time, and with it the files that the option opens. -/

/-- A run stays within the files that its options open. -/
theorem Chronology.framed {context : Context} {clean : Prop} {first last : Session}
    {given : List Given} (chronology : Chronology context clean first given last)
    {opened : OpenMode → Location → Prop}
    (allowed : ∀ one ∈ given, ∀ mode place, one.Opens context mode place → opened mode place)
    (within : first.surface.Within opened) :
    Disk.Framed opened first.disk last.disk ∧ last.surface.Within opened := by
  induction chronology with
  | done session => exact ⟨.refl session.disk, within⟩
  | @interlude first second last given interlude _ ih =>
    have same : second.surface = first.surface := interlude.inward.surface
    rw [← same] at within
    obtain ⟨framed, ends⟩ := ih allowed within
    have disk : second.disk = first.disk := congrArg Surface.disk same
    rw [← disk]
    exact ⟨framed, ends⟩
  | option one listed _ _ ih =>
    have opens : ∀ path mode place,
        one.outward context = .opening path mode ∨ one.outward context = .logging path mode →
        one.session.disk.placeForOutput path = .ok place → opened mode place :=
      fun path mode place does found =>
        allowed one List.mem_cons_self mode place
          ((one.opens_iff_of_outward does).mpr ⟨rfl, found⟩)
    obtain ⟨head, between⟩ := Outward.framed within opens
    rw [← one.surface_after listed] at head between
    obtain ⟨tail, ends⟩ :=
      ih (fun other among => allowed other (List.mem_cons_of_mem one among)) between
    exact ⟨head.trans tail, ends⟩

/-- Whatever calls are made, failed ones included, a run creates no directory and takes no file
away. A file that is new or holds something else was opened by an option of the run that succeeded,
and one that was opened for appending alone still begins with all that it held. -/
theorem Calls.disk_framed (context : Context) (disk : Disk) (calls : List Call) :
    Disk.Framed
      (fun mode place => ∃ one ∈ Calls.given context calls { disk }, one.Opens context mode place)
      disk (Calls.after context calls { disk }).disk := by
  have chronology : Chronology context _ { disk } _ _ := Calls.chronology calls { disk }
  have within : ({ disk } : Session).surface.Within
      (fun mode place => ∃ one ∈ Calls.given context calls { disk },
        one.Opens context mode place) := by
    intro target same
    cases same
  exact (chronology.framed (fun one among mode place opens => ⟨one, among, opens⟩) within).1

end ExtractOptions

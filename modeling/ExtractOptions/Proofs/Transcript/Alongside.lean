/-
Module: ExtractOptions.Proofs.Transcript.Alongside
Purpose: argument files read in two sessions, the second of which is reading one file more. What the
  first session reads with success the second one reads too, line by line and with the same
  outcome, as long as no option touches the additional file or asks for it to be read. The
  second session may have another bound on how many files may be open.
Main exports: Given.Apart, ReadsAlong, lineAction_along, Course.along, readNested_along
-/
import ExtractOptions.Proofs.Inclusion.Stack
import ExtractOptions.Proofs.Run.Chronology
import Mathlib.Data.List.Basic

namespace ExtractOptions

open Text ExtractOptions.Action

/-- The option leaves what is at the place as it is, and does not have it read for its options. -/
structure Given.Apart (context : Context) (place : Location) (one : Given) : Prop where
  untouched : (one.after context).disk.node? place = one.session.disk.node? place
  unread : ∀ file ∈ one.file?, one.session.disk.canonical file ≠ .ok place

instance (context : Context) (place : Location) (one : Given) :
    Decidable (one.Apart context place) :=
  decidable_of_iff (_ ∧ _) ⟨fun parts => ⟨parts.1, parts.2⟩, fun apart => ⟨apart.1, apart.2⟩⟩

/-- As long as all options are apart from a place it stays as it is. -/
theorem Chronology.untouched {context : Context} {clean : Prop} {first last : Session}
    {given : List Given} {place : Location}
    (chronology : Chronology context clean first given last)
    (apart : ∀ one ∈ given, one.Apart context place) :
    last.disk.node? place = first.disk.node? place := by
  refine (chronology.keeps (fun session => session.disk.node? place = first.disk.node? place)
    (fun interlude same => by rw [interlude.disk, same]) (fun one among _ _ same => ?_) rfl).1
  rw [(apart one among).untouched, same]

/-- What the first session reads the second one reads too, unless that is the additional file. -/
def ReadsAlong (context : Context) (addition : Addition) (included : String → Trace)
    (includeFile followFile : String → Action Unit) : Prop :=
  ∀ ⦃file first second left⦄, Session.Beside addition first second →
    first.disk.canonical file ≠ .ok addition.place →
    (∀ one ∈ included file first, one.Apart context addition.place) →
    includeFile file first = .ok () left →
    ∃ after, followFile file second = .ok () after ∧ Session.Beside addition left after

section

variable {context : Context} (depth : Nat) {addition : Addition} {included : String → Trace}
  {includeFile followFile : String → Action Unit}

/-! ### Lines

A line that succeeds in the first session succeeds in the second one. Options do not see the
additional file, so only a line that includes a file needs a hypothesis. -/

/-- An option with a letter does the same in both sessions if the file that it names does. -/
theorem LetterOption.along (includes : ReadsAlong context addition included includeFile followFile)
    {option : LetterOption} (given : option ≠ .named) {value : String}
    {first second left : Session} (beside : Session.Beside addition first second)
    (apart : ∀ one ∈ option.given context included value first, one.Apart context addition.place)
    (run : option.perform context includeFile value first = .ok () left) :
    ∃ after, option.perform { context with maxIncludeDepth := depth } followFile value second =
      .ok () after ∧ Session.Beside addition left after := by
  have own := apart ⟨.letter option, value, first⟩ (List.mem_cons_self)
  rcases option.reads_or_alone context value with ⟨rfl, named⟩ | alone
  · have unread : first.disk.canonical (skipSpaces value) ≠ .ok addition.place :=
      own.unread _ (by simp [Given.file?, named])
    rw [perform_argumentFile named] at run ⊢
    rw [given_argumentFile named] at apart
    have counted : Session.Beside addition first.lettered second.lettered :=
      { beside with counters := by simp only [Session.lettered, beside.counters] }
    exact includes counted unread (fun one among => apart one (List.mem_cons_of_mem _ among)) run
  · rw [alone] at run
    obtain ⟨after, goes, still⟩ := (option.alone_unaware context given value).parallel beside run
      fun none => by
        have untouched := own.untouched
        rw [Given.after, Given.alone, after_of_ok run] at untouched
        exact untouched.trans none
    refine ⟨after, ?_, still⟩
    rw [← goes]
    exact congrFun (alone followFile) second

theorem lineAction_along (includes : ReadsAlong context addition included includeFile followFile)
    {origin line : String} {before : List String} {first second left : Session}
    (beside : Session.Beside addition first second)
    (apart : ∀ one ∈ givenInLine context included line first, one.Apart context addition.place)
    (run : lineAction context includeFile origin before line first = .ok () left) :
    ∃ after,
      lineAction { context with maxIncludeDepth := depth } followFile origin before line second =
        .ok () after ∧ Session.Beside addition left after := by
  unfold givenInLine at apart
  cases form : LineForm.ofText line with
  | named name value =>
    obtain ⟨option, found, alone⟩ := (lineAction_named_iff form).mp run
    have listed : option ∈ NamedOption.all := List.mem_of_find?_eq_some found
    have own := apart ⟨.named option, value, first⟩ (by simp [form, givenByName, found])
    obtain ⟨after, goes, still⟩ := (option.alone_unaware context listed value).parallel beside alone
      fun none => by
        have untouched := own.untouched
        rw [Given.after, Given.alone, after_of_ok alone] at untouched
        exact untouched.trans none
    exact ⟨after, (lineAction_named_iff form).mpr ⟨option, found, goes⟩, still⟩
  | blank =>
    simp only [lineAction, form] at run ⊢
    cases run
    exact ⟨second, rfl, beside⟩
  | letter option value =>
    simp only [lineAction, form] at run apart ⊢
    have given := (LineForm.ofText_eq_letter_iff.mp form).1
    exact LetterOption.along depth includes given beside apart run
  | source path =>
    simp only [lineAction, form] at run ⊢
    cases run
    exact (Unaware.addSource path .normal).parallel beside rfl id
  | data =>
    simp only [lineAction, form] at run ⊢
    cases kind : kindAfter? before with
    | none =>
      simp only [kind] at run
      cases run
    | some kind' =>
      simp only [kind] at run ⊢
      have same : left.disk = first.disk := by
        have asides : Relation.ReflTransGen (Aside context) first _ :=
          deliver_asides kind'.option origin line first
        have kept := disk_of_asides asides
        rwa [after_of_ok run] at kept
      exact (Unaware.deliver context kind'.persists_option origin line).parallel beside run fun none => by
        rw [same, none]
  | unknown failure =>
    simp only [lineAction, form] at run ⊢
    cases run

/-! ### Files

A file is read along line by line, and both sessions leave it again. The second session has one more
file around it all the time. -/

theorem Session.Beside.room_eq {first second : Session}
    (beside : Session.Beside addition first second) {path : String} {reader : LineReader}
    (opens : first.disk.openReader path = .ok reader) :
    second.room path = first.room path := by
  obtain ⟨alike, there⟩ := beside.disk.openReader opens
  obtain ⟨node, held⟩ := Option.ne_none_iff_exists'.mp there
  rw [Session.room_of_opens opens, Session.room_of_opens alike]
  unfold Disk.file?
  rw [held, beside.disk.node?_of_some held]

/-- The second session comes to every point of a course that the first one comes to. -/
theorem Course.along (chronicles : ∀ file, Chronicles context (includeFile file) (included file))
    (includes : ReadsAlong context addition included includeFile followFile) {path : String}
    {first second met : Session} {before : List String} {reader : LineReader}
    (beside : Session.Beside addition first second)
    (apart : ∀ one ∈ givenInFile context includeFile included path first,
      one.Apart context addition.place)
    (course : Course context includeFile path first before reader met) :
    ∃ further, Course { context with maxIncludeDepth := depth } followFile path second before reader
        further ∧
      Session.Beside addition met further ∧ met.disk.node? reader.place ≠ none := by
  induction course with
  | opened opens =>
    obtain ⟨alike, there⟩ := beside.disk.openReader opens
    exact ⟨second, .opened alike, beside, there⟩
  | @line before reader later met after line course room next does ih =>
    obtain ⟨further, goes, still, there⟩ := ih
    have comes : ComesTo context includeFile path first before line met :=
      ⟨reader, later, course, room, next⟩
    obtain ⟨last, alike, finally_⟩ := lineAction_along depth includes still
      (fun one among => apart one (comes.given_subset among)) does
    obtain ⟨_, opens, -⟩ := course.opens
    have grows := ((lineAction_chronicles chronicles path before line).of_ok does).steps.grows
    refine ⟨last, .line goes ?_ ?_ alike, finally_, ?_⟩
    · rw [beside.room_eq opens]
      exact room
    · rw [still.disk.next_eq there]
      exact next
    · rw [LineReader.next_place next]
      exact grows.present _ there

theorem interpretFile_along
    (chronicles : ∀ file, Chronicles context (includeFile file) (included file))
    (includes : ReadsAlong context addition included includeFile followFile) {path : String}
    {first second left : Session} (beside : Session.Beside addition first second)
    (apart : ∀ one ∈ givenInFile context includeFile included path first,
      one.Apart context addition.place)
    (run : interpretFile context includeFile path first = .ok () left) :
    ∃ after, interpretFile { context with maxIncludeDepth := depth } followFile path second =
      .ok () after ∧ Session.Beside addition left after := by
  have ends := interpretFile_ends context includeFile path first
  rw [run] at ends
  cases ends with
  | finished course done room =>
    obtain ⟨after, goes, still, there⟩ := course.along depth chronicles includes beside apart
    obtain ⟨_, opens, -⟩ := course.opens
    refine ⟨after, goes.interpretFile_of_done ?_ ?_, still⟩
    · rw [still.disk.next_eq there]
      exact done
    · rw [beside.room_eq opens]
      exact room

namespace Session.Beside

variable {first second : Session} {place : Location}

/-- Whoever adds a file and begins to read it is beside one who does not. -/
theorem of_put {session : Session}
    (unspoiled : session.disk.node? addition.place = none ∨
      session.disk.node? addition.place = some (.file addition.bytes))
    (log : ∀ target, session.config.log = .file target → target.place ≠ addition.place) :
    Session.Beside addition session
      (Session.entering
        { session with disk := session.disk.put addition.place (.file addition.bytes) }
        addition.place) where
  config := rfl
  registry := rfl
  standardError := rfl
  disk := .of_put unspoiled
  log := fun target writes here => absurd here (log target writes)
  counters := rfl
  including := fun _ among => List.mem_cons.mp among

/-- Both sessions may enter the same file. -/
theorem entering (beside : Session.Beside addition first second) :
    Session.Beside addition (first.entering place) (second.entering place) :=
  { beside with
    counters := by simp only [Session.entering, beside.counters]
    including := by
      intro other among
      rcases List.mem_cons.mp among with rfl | among
      · exact .inr List.mem_cons_self
      · exact (beside.including other among).imp_right (List.mem_cons_of_mem _) }

/-- Whoever leaves a file is back among the files around it. -/
theorem leaving {inside within : Session} (beside : Session.Beside addition inside within)
    (around : Session.Beside addition first second)
    (stack : inside.including = place :: first.including)
    (stackToo : within.including = place :: second.including) :
    Session.Beside addition inside.leaving within.leaving :=
  { beside with
    including := by
      simp only [Session.leaving, stack, stackToo, List.drop_succ_cons, List.drop_zero]
      exact around.including }

end Session.Beside

/-- Files within files are read in both sessions alike. -/
theorem readNested_along (levels : Nat) :
    ReadsAlong context addition (givenNested context levels) (readNested context levels)
      (readNested { context with maxIncludeDepth := depth } levels) := by
  induction levels with
  | zero =>
    intro path first second left beside unread apart run
    obtain ⟨inner, -, -, impossible, -⟩ := readNested_eq_ok.mp run
    cases impossible
  | succ inner ih =>
    intro path first second left beside unread apart run
    obtain ⟨_, place, between, same, found, fresh, inside, rfl⟩ := readNested_eq_ok.mp run
    cases same
    have given : givenNested context (inner + 1) path first =
        givenInFile context (readNested context inner) (givenNested context inner) path
          (first.entering place) := by
      rw [givenNested_apply, found]
      exact if_neg fresh
    rw [given] at apart
    obtain ⟨after, goes, still⟩ := interpretFile_along depth (readNested_chronicles inner) ih
      beside.entering apart inside
    have freshToo : place ∉ second.including := by
      intro present
      rcases beside.including place present with rfl | present
      · exact unread found
      · exact fresh present
    have stack := (interpretFile_keepsStack (readNested_keepsStack inner) path).of_ok inside
    have stackToo := (interpretFile_keepsStack (readNested_keepsStack inner) path).of_ok goes
    exact ⟨after.leaving, readNested_eq_ok.mpr ⟨inner, place, after, rfl,
      beside.disk.grows.canonical found, freshToo, goes, rfl⟩, still.leaving beside stack stackToo⟩

end

end ExtractOptions

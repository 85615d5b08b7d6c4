/-
Module: ExtractOptions.Proofs.Run.Soundness
Purpose: a run never fails for a defect of the program. The letter that only starts the directives
  of named options is no option: neither a command line nor an argument file, however deep, gives
  it. The router of data lines is only given options that take them. So the failure that stands for
  a defect comes up in one case only, when the letter itself is applied from outside.
Main exports: Failure.isInternal, Action.Sound, Given.IsMarker, nearestOption?, optionAfter?_eq,
  deliver_internal_iff, Call.internal_iff
-/
import ExtractOptions.Proofs.Run.Course
import ExtractOptions.Proofs.Session.Tally
import ExtractOptions.Proofs.Session.Unaware

namespace ExtractOptions

open Text ExtractOptions.Action

/-- A failure that stands for a defect of the program. -/
def Failure.isInternal : Failure → Bool
  | .internal _ => true
  | _ => false

/-- A failure that any option may have is no defect. -/
theorem Failure.isInternal_of_isOrdinary {failure : Failure}
    (ordinary : failure.isOrdinary = true) :
    failure.isInternal = false := by
  cases failure with
  | internal => cases ordinary
  | _ => rfl

/-! ### How actions fail

Soundness is closed under the ways in which actions are put together, so it is shown along the
program. The two places where a defect could be reported are reached by no argument file and no
command line. -/

/-- The action does not fail for a defect of the program. -/
def Action.Sound {α : Type} (action : Action α) : Prop :=
  ∀ session failure left, action session = .error failure left → failure.isInternal = false

namespace Action.Sound

variable {α β : Type}

theorem of_unaware {action : Action α} (unaware : Unaware action) : Sound action :=
  fun session failure left fails =>
    Failure.isInternal_of_isOrdinary (unaware.ordinary session failure left fails)

protected theorem pure (answer : α) : Sound (pure answer) :=
  of_unaware (.pure answer)

protected theorem throw {failure : Failure} (sound : failure.isInternal = false) :
    Sound (throw failure : Action α) := by
  rintro _ _ _ ⟨⟩
  exact sound

/-- Actions that do not fail for a defect do not do so together. -/
protected theorem bind {action : Action α} {next : α → Action β} (head : Sound action)
    (tail : ∀ answer, Sound (next answer)) : Sound (action >>= next) := by
  intro session failure left fails
  rw [bind_apply] at fails
  cases run : action session with
  | ok answer between =>
    rw [run] at fails
    exact tail answer between failure left fails
  | error cause between =>
    rw [run] at fails
    cases fails
    exact head session failure left run

protected theorem map {action : Action α} {f : α → β} (head : Sound action) :
    Sound (f <$> action) := by
  rw [← bind_pure_comp]
  exact head.bind fun answer => .pure (f answer)

end Action.Sound

section

variable {context : Context} {includeFile : String → Action Unit}

/-- Every letter but the marker is applied without a defect. -/
theorem LetterOption.sound_perform {option : LetterOption} (given : option ≠ .named)
    (includes : ∀ file, Sound (includeFile file)) (value : String) :
    Sound (option.perform context includeFile value) := by
  rcases option.reads_or_alone context value with ⟨rfl, named⟩ | alone
  · intro session failure left fails
    rw [perform_argumentFile named] at fails
    exact includes _ _ failure left fails
  · rw [alone]
    exact .of_unaware (option.alone_unaware context given value)

/-- A line is acted on without a defect, since only an option that takes data lines is in force. -/
theorem lineAction_sound (includes : ∀ file, Sound (includeFile file)) (origin : String)
    (before : List String) (line : String) :
    Sound (lineAction context includeFile origin before line) := by
  unfold lineAction
  cases form : LineForm.ofText line with
  | blank => exact .pure ()
  | named name value => exact (Sound.of_unaware (performNamed_unaware context _ name value)).map
  | letter option value =>
    exact option.sound_perform (LineForm.ofText_eq_letter_iff.mp form).1 includes value
  | source path => exact .of_unaware (.addSource path .normal)
  | data =>
    cases kindAfter? before with
    | none => exact .throw rfl
    | some kind => exact .of_unaware (.deliver context kind.persists_option origin line)
  | unknown failure =>
    cases LineForm.failure_of_unknown form
    exact .throw rfl

theorem interpretFile_sound (includes : ∀ file, Sound (includeFile file)) (path : String) :
    Sound (interpretFile context includeFile path) := by
  intro session failure left fails
  have ends := interpretFile_ends context includeFile path session
  rw [fails] at ends
  cases ends with
  | unopened | unreadable | exhausted => rfl
  | @failed before line met _ _ comes does =>
    exact lineAction_sound includes path before line met failure left does

theorem readNested_sound (levels : Nat) (path : String) :
    Sound (readNested context levels path) := by
  induction levels generalizing path with
  | zero =>
    intro session failure left fails
    have ends := readNested_ends context 0 path session
    rw [fails] at ends
    cases ends <;> rfl
  | succ inner ih =>
    intro session failure left fails
    have ends := readNested_ends context (inner + 1) path session
    rw [fails] at ends
    cases ends with
    | missing | again => rfl
    | failed _ _ inside => exact interpretFile_sound ih path _ failure _ inside

theorem readArgumentFile_sound (path : String) : Sound (readArgumentFile context path) :=
  fun session => readNested_sound (context.maxIncludeDepth - session.including.length) path session

/-- A letter on a command line is not the one that starts a name. -/
theorem Token.ne_named {token value : String} {c : Char} {option : LetterOption}
    (form : Token.ofText token = .letter c value)
    (letter : LetterOption.ofLetter? c = some option) :
    option ≠ .named := by
  rintro rfl
  have dash : '-' = c := LetterOption.letter_of_ofLetter? letter
  subst dash
  unfold Token.ofText at form
  split at form
  · cases form
  · rename_i notNamed chars
    cases form
    exact notNamed rfl
  · cases form
  · cases form

/-- A command line meets no defect. -/
theorem resolve_sound (tokens : List String) : Sound (resolve context tokens) := by
  induction tokens using resolve.induct with
  | case1 => exact .pure ()
  | case2 token later name form next afterNext =>
    unfold resolve
    simp only [form]
    refine (Sound.of_unaware (performNamed_unaware context _ name _)).bind fun consumed => ?_
    cases consumed with
    | nameOnly => exact next
    | nameAndValue =>
      cases later with
      | nil => exact .pure ()
      | cons value afterValue => exact afterNext
  | case3 token later c value form next =>
    unfold resolve performLetter
    simp only [form]
    refine Sound.bind ?_ fun _ => next
    cases letter : LetterOption.ofLetter? c with
    | none => exact .throw rfl
    | some option =>
      exact option.sound_perform (Token.ne_named form letter) readArgumentFile_sound value
  | case4 token later form =>
    unfold resolve
    simp only [form]
    exact .throw rfl
  | case5 token later path form next =>
    unfold resolve
    simp only [form]
    exact (Sound.of_unaware (.addSource path .normal)).bind fun _ => next

end

/-! ### The letter that starts a name

The same for the options given: a trace is clear if the marker is nowhere in it. The two inductions
go side by side, one over what is done and one over what is given. -/

/-- The option is or stands for the letter that only starts the directives of named options. -/
def Given.IsMarker (given : Given) : Prop :=
  ∃ own, given.option.asLetter? given.value = some (.named, own)

/-- No option in the trace is or stands for that letter. -/
def Trace.Clear (trace : Trace) : Prop :=
  ∀ session, ∀ one ∈ trace session, ¬ one.IsMarker

namespace Trace.Clear

variable {context : Context} {includeFile : String → Action Unit} {included : String → Trace}

theorem silent : Clear .silent :=
  fun _ _ among => nomatch among

/-- What is clear goes on clear. -/
theorem andThen {α : Type} {trace : Trace} {action : Action α} {next : α → Trace}
    (head : Clear trace) (tail : ∀ answer, Clear (next answer)) :
    Clear (trace.andThen action next) := by
  intro session one among
  rcases List.mem_append.mp among with first | later
  · exact head session one first
  · cases run : action session with
    | ok answer left =>
      rw [run] at later
      exact tail answer left one later
    | error failure left =>
      rw [run] at later
      cases later

/-- A letter gives itself and what its file gives, and none of these is the marker. -/
theorem letter {option : LetterOption} (given : option ≠ .named)
    (includes : ∀ file, Clear (included file)) (value : String) :
    Clear (option.given context included value) := by
  intro session one among
  rcases List.mem_cons.mp among with rfl | inside
  · rintro ⟨own, stands⟩
    cases stands
    exact given rfl
  · split at inside
    · exact includes _ _ one inside
    · cases inside

/-- No name stands for the marker. -/
theorem byName (name value : String) : Clear (givenByName name value) := by
  intro session one among
  unfold givenByName at among
  cases found : NamedOption.find? name with
  | none =>
    rw [found] at among
    cases among
  | some option =>
    rw [found, List.mem_singleton] at among
    subst among
    rintro ⟨own, stands⟩
    have listed : option ∈ NamedOption.all := List.mem_of_find?_eq_some found
    cases makes : option.action with
    | letter letter =>
      simp only [AnyOption.asLetter?, makes, Option.some.injEq, Prod.mk.injEq] at stands
      exact NamedOption.ne_named listed makes stands.1
    | adjust | fenComments | bound | suppressTag | fenPattern | material | version =>
      simp [AnyOption.asLetter?, makes] at stands

/-- No line of a file gives the marker, because its directives are read as names. -/
theorem inLine (includes : ∀ file, Clear (included file)) (line : String) :
    Clear (givenInLine context included line) := by
  unfold givenInLine
  cases form : LineForm.ofText line with
  | named name value => exact byName name value
  | letter option value => exact letter ((LineForm.ofText_eq_letter_iff.mp form).1) includes value
  | blank | source | data | unknown => exact silent

theorem inFile (includes : ∀ file, Clear (included file)) (path : String) :
    Clear (givenInFile context includeFile included path) := by
  intro session one among
  obtain ⟨before, line, met, -, here⟩ := exists_comesTo_of_mem among
  exact inLine includes line met one here

theorem nested (levels : Nat) (path : String) : Clear (givenNested context levels path) := by
  induction levels generalizing path with
  | zero =>
    intro session one among
    rw [givenNested_apply] at among
    split at among
    · cases among
    · split at among <;> cases among
  | succ inner ih =>
    intro session one among
    rw [givenNested_apply] at among
    split at among
    · cases among
    · split at among
      · cases among
      · exact inFile ih path _ one among

theorem reading (path : String) : Clear (givenReading context path) :=
  fun session => nested (context.maxIncludeDepth - session.including.length) path session

theorem resolving (tokens : List String) : Clear (givenResolving context tokens) := by
  induction tokens using resolve.induct with
  | case1 => exact silent
  | case2 token later name form next afterNext =>
    unfold givenResolving
    simp only [form]
    refine (byName name _).andThen fun consumed => ?_
    cases consumed with
    | nameOnly => exact next
    | nameAndValue =>
      cases later with
      | nil => exact silent
      | cons value afterValue => exact afterNext
  | case3 token later c value form next =>
    unfold givenResolving
    simp only [form]
    refine andThen ?_ fun _ => next
    cases found : LetterOption.ofLetter? c with
    | none => exact silent
    | some option => exact letter (Token.ne_named form found) reading value
  | case4 token later form =>
    unfold givenResolving
    simp only [form]
    exact silent
  | case5 token later path form next =>
    unfold givenResolving
    simp only [form]
    exact silent.andThen fun _ => next

end Trace.Clear

/-! ### Data lines

The router of data lines counts a line before it looks at the option, so what the counter shows is
that a line has come to it. It fails for a defect of the program exactly if the option takes no data
lines. In an argument file that option is the one of the nearest directive, and only one that takes
data lines is ever in force; in a data file it is the option that names the file. -/

/-- The option of the last directive among some lines. -/
def nearestOption? (before : List String) : Option LetterOption :=
  (nearestLetter? before).bind LetterOption.ofLetter?

/-- The option in force is the nearest one, if that takes data lines. -/
theorem optionAfter?_eq (before : List String) :
    optionAfter? before = (nearestOption? before).filter LetterOption.persists := by
  unfold optionAfter? kindAfter? nearestOption?
  cases nearestLetter? before with
  | none => rfl
  | some letter =>
    simp only [Option.bind_some]
    cases found : LetterOption.ofLetter? letter with
    | some option =>
      rw [← LetterOption.letter_of_ofLetter? found, ← LineForm.persisting_eq]
      exact (Option.filter_some ..).symm
    | none =>
      cases belongs : DataKind.ofLetter? letter with
      | none => rfl
      | some kind =>
        unfold DataKind.ofLetter? at belongs
        split at belongs <;> cases belongs <;> cases found

/-- A data line is handed to the nearest option, which takes data lines, or it is stray. -/
theorem lineAction_of_data (context : Context) (includeFile : String → Action Unit) {line : String}
    (form : LineForm.ofText line = .data) (origin : String) (before : List String) :
    (∃ option, nearestOption? before = some option ∧ option.persists = true ∧
      lineAction context includeFile origin before line = deliver context option origin line) ∨
    lineAction context includeFile origin before line = throw (.usage (.strayLine line)) := by
  have nearest := optionAfter?_eq before
  unfold optionAfter? at nearest
  unfold lineAction
  rw [form]
  cases inForce : kindAfter? before with
  | none => exact .inr rfl
  | some kind =>
    rw [inForce, Option.map_some] at nearest
    obtain ⟨own, takes⟩ := Option.filter_eq_some_iff.mp nearest.symm
    exact .inl ⟨kind.option, own, takes, rfl⟩

/-- An option that takes data lines hands on those of the file that it names, as its own. -/
theorem LetterOption.effect_of_persists (context : Context) {option : LetterOption}
    (takes : option.persists = true) (includeFile : String → Action Unit) (value : String) :
    option.effect context includeFile value =
      deliverNamedFile context option (skipSpaces value) := by
  obtain ⟨kind, rfl⟩ := persists_iff.mp takes
  cases kind <;> rfl

/-- An option given by itself counts data lines only if it is or stands for one that takes them. -/
theorem Given.persists_of_dataLines {context : Context} {given : Given}
    (counts : (given.after context).counters.dataLines ≠ given.session.counters.dataLines) :
    ∃ letter own, given.option.asLetter? given.value = some (letter, own) ∧
      letter.persists = true := by
  obtain ⟨option, value, session⟩ := given
  cases option with
  | letter option =>
    cases takes : option.persists with
    | true => exact ⟨option, value, rfl, takes⟩
    | false => exact absurd (option.dataLines_alone context takes value session) counts
  | named option =>
    cases takes : option.persists with
    | false => exact absurd (option.dataLines_alone context takes value session) counts
    | true =>
      unfold NamedOption.persists at takes
      cases makes : option.action with
      | letter letter =>
        rw [makes] at takes
        exact ⟨letter, option.letterValue value, by simp only [AnyOption.asLetter?, makes], takes⟩
      | adjust | fenComments | bound | suppressTag | fenPattern | material | version =>
        simp [makes] at takes

/-- Whatever the router makes of a line, it counts it. -/
theorem deliver_counts (context : Context) (option : LetterOption) (origin line : String)
    (session : Session) :
    ((deliver context option origin line).after session).counters.dataLines =
      session.counters.dataLines + 1 := by
  obtain ⟨kind, rfl⟩ | takes := option.exists_kind_or
  · cases verdict : context.gate session.registry (kind.request origin line) with
    | some reason =>
      rw [after_of_error (by rw [deliver_apply, verdict])]
      rfl
    | none =>
      rw [after_of_ok (by rw [deliver_apply, verdict])]
      rfl
  · rw [deliver_of_not_persists takes]
    rfl

/-- The router fails for a defect of the program exactly if the option takes no data lines. -/
theorem deliver_internal_iff (context : Context) (option : LetterOption) (origin line : String)
    (session : Session) :
    (∃ defect left, deliver context option origin line session =
      .error (.internal defect) left) ↔ option.persists = false := by
  constructor
  · rintro ⟨defect, left, fails⟩
    refine Bool.eq_false_iff.mpr fun takes => ?_
    have sound := Sound.of_unaware (.deliver context takes origin line) session _ left fails
    cases sound
  · intro takes
    rw [deliver_of_not_persists takes]
    exact ⟨.noDataLines option, _, rfl⟩

/-! ### Calls

Only a call from outside can apply the marker, since it alone passes a letter without reading it
from a token or a line. -/

/-- Any call but the marker from outside is made without a defect. -/
theorem Call.sound (context : Context) {call : Call}
    (other : ∀ value, call ≠ .letter .named value) :
    Sound (call.run context) := by
  cases call with
  | commandLine tokens => exact resolve_sound tokens
  | letter option value =>
    exact option.sound_perform (fun same => other value (by rw [same])) readArgumentFile_sound value
  | named name value => exact (Sound.of_unaware (performNamed_unaware context _ name value)).map
  | argumentFile path => exact readArgumentFile_sound path

/-- Any call but the marker from outside gives no marker. -/
theorem Call.clear (context : Context) {call : Call}
    (other : ∀ value, call ≠ .letter .named value) :
    Trace.Clear (call.given context) := by
  cases call with
  | commandLine tokens => exact .resolving tokens
  | letter option value =>
    exact .letter (fun same => other value (by rw [same])) .reading value
  | named name value => exact .byName name value
  | argumentFile path => exact .reading path

/-- A call fails for a defect of the program exactly if it applies, from outside, the letter that
only starts the directives of named options. No other call ever gives that letter as an option. The
router of data lines, which fails so for an option without data lines, never meets one: in argument
files it is given the nearest option, which takes them, or the line is stray; of the options given
only those that take data lines come to it, each with itself. -/
theorem Call.internal_iff (context : Context) (call : Call) (session : Session) :
    ((∃ defect left, call.run context session = .error (.internal defect) left) ↔
      ∃ value, call = .letter .named value) ∧
    ((∃ one ∈ call.given context session, one.IsMarker) ↔ ∃ value, call = .letter .named value) ∧
    (∀ (includeFile : String → Action Unit) (path : String) (before : List String) (line : String)
      (met : Session), ComesTo context includeFile path session before line met →
      LineForm.ofText line = .data →
        (∃ option, nearestOption? before = some option ∧ option.persists = true ∧
          lineAction context includeFile path before line = deliver context option path line) ∨
        interpretFile context includeFile path session =
          .error (.usage (.strayLine line)) met) ∧
    (∀ given : Given,
      (given.after context).counters.dataLines ≠ given.session.counters.dataLines →
        ∃ letter own, given.option.asLetter? given.value = some (letter, own) ∧
          letter.persists = true) ∧
    (∀ (option : LetterOption) (includeFile : String → Action Unit) (value : String),
      option.persists = true →
        option.effect context includeFile value =
          deliverNamedFile context option (skipSpaces value)) ∧
    ∀ (option : LetterOption) (origin line : String) (met : Session),
      ((deliver context option origin line).after met).counters.dataLines =
          met.counters.dataLines + 1 ∧
        ((∃ defect left, deliver context option origin line met =
          .error (.internal defect) left) ↔ option.persists = false) := by
  refine ⟨⟨?_, ?_⟩, ⟨?_, ?_⟩, ?_, fun given => given.persists_of_dataLines, ?_, ?_⟩
  · rintro ⟨defect, left, fails⟩
    refine Classical.byContradiction fun other => ?_
    have sound := call.sound context (fun value same => other ⟨value, same⟩) session _ left fails
    cases sound
  · rintro ⟨value, rfl⟩
    exact ⟨.appliedMarker .named, session.lettered, rfl⟩
  · rintro ⟨one, among, marker⟩
    refine Classical.byContradiction fun other => ?_
    exact call.clear context (fun value same => other ⟨value, same⟩) session one among marker
  · rintro ⟨value, rfl⟩
    exact ⟨⟨.letter .named, value, session⟩, List.mem_cons_self, value, rfl⟩
  · intro includeFile path before line met comes form
    rcases lineAction_of_data context includeFile form path before with routed | stray
    · exact .inl routed
    · exact .inr (comes.interpretFile_of_error (by rw [stray]; rfl))
  · exact fun option includeFile value takes => option.effect_of_persists context takes includeFile value
  · exact fun option origin line met =>
      ⟨deliver_counts context option origin line met, deliver_internal_iff context option origin line met⟩

end ExtractOptions

/-
Module: ExtractOptions.Proofs.Run.Surface
Purpose: what shows of a run outside. Between options nothing does; an option that is given does
  what it is said to do on the surface that it meets, and opens a file exactly if that is part of
  it.
Main exports: Given.outward, Given.Opens, Given.surface_after, Given.warnings_after,
  Given.gamesPerFile_after, Given.opens_iff_of_outward, Interlude.inward
-/
import ExtractOptions.Proofs.Run.Chronology
import ExtractOptions.Proofs.Session.Surface

namespace ExtractOptions

open Text ExtractOptions.Action

variable {context : Context}

/-- What happens between options is inward. -/
theorem Interlude.inward {clean : Prop} {first second : Session}
    (interlude : Interlude context clean first second) : first.Inward second := by
  cases interlude with
  | dataLine kind origin line => exact .of_goesBy (deliver_inward kind.option origin line) first
  | source path => exact .of_goesBy (addSource_inward path .normal) first
  | enter place => exact ⟨rfl, rfl, rfl⟩
  | leave => exact ⟨rfl, rfl, rfl⟩

namespace Given

/-- What the option does outside of the session that it meets. -/
def outward (context : Context) (given : Given) : Outward :=
  match given.option with
  | .letter option => option.outward context given.value given.session
  | .named option => option.outward context given.value given.session

/-- What shows of an option is what it does outside. -/
theorem surface_after {given : Given} (listed : given.option.isListed) :
    (given.after context).surface = (given.outward context).apply given.session.surface := by
  obtain ⟨option, value, session⟩ := given
  cases option with
  | letter option => exact (option.surface_alone context value session).1
  | named option => exact (NamedOption.shows_alone context listed value session).surface

/-- A warning that an option gives is counted. -/
theorem warnings_after {given : Given} (listed : given.option.isListed) :
    (given.after context).counters.warnings =
      given.session.counters.warnings +
        ((given.outward context).warning? given.session.disk).toList.length := by
  obtain ⟨option, value, session⟩ := given
  cases option with
  | letter option => exact (option.surface_alone context value session).2
  | named option => exact (NamedOption.shows_alone context listed value session).warnings

/-- An option that fails gives no warning. -/
theorem unwarned_of_error {given : Given} {failure : Failure} {left : Session}
    (fails : given.alone context given.session = .error failure left) :
    (given.outward context).warning? given.session.disk = none := by
  obtain ⟨option, value, session⟩ := given
  apply Option.eq_none_iff_forall_ne_some.mpr
  intro message warns
  have success : (Given.alone context ⟨option, value, session⟩).succeeds session = true := by
    cases option with
    | letter option => exact option.succeeds_of_warning context warns
    | named option => exact option.succeeds_of_warning context warns
  rw [succeeds_of_error fails] at success
  cases success

/-- Only one option says how many games go into a file. -/
theorem gamesPerFile_after {given : Given} (listed : given.option.isListed)
    (other : given.option ≠ .letter .gamesPerFile) :
    (given.after context).config.gamesPerFile = given.session.config.gamesPerFile := by
  obtain ⟨option, value, session⟩ := given
  cases option with
  | letter option =>
    have apart : option ≠ .gamesPerFile := fun same => other (congrArg AnyOption.letter same)
    exact (option.shows_alone context apart value session).gamesPerFile
  | named option => exact (NamedOption.shows_alone context listed value session).gamesPerFile

/-- The option succeeds and opens the file at the place for output. It is one of the options for
output, duplicates, games that match nothing, and diagnostics, or a name for one. -/
def Opens (context : Context) (given : Given) (mode : OpenMode) (place : Location) : Prop :=
  (given.alone context).succeeds given.session = true ∧
    ∃ letter value path, given.option.asLetter? given.value = some (letter, value) ∧
      letter.target? value = some path ∧ letter.openMode = mode ∧
      given.session.disk.placeForOutput path = .ok place

/-- An option that opens a file, for diagnostics or for something else, is a letter or a name for
one, and has succeeded. -/
theorem exists_letter_of_outward {given : Given} {path : String} {mode : OpenMode}
    (does : given.outward context = .opening path mode ∨
      given.outward context = .logging path mode) :
    (given.alone context).succeeds given.session = true ∧
      ∃ letter value, given.option.asLetter? given.value = some (letter, value) ∧
        letter.target? value = some path ∧ letter.openMode = mode := by
  have opens : ∀ (letter : LetterOption) (value : String) (session : Session),
      letter.outward context value session = .opening path mode ∨
        letter.outward context value session = .logging path mode →
      letter.target? value = some path ∧ letter.openMode = mode ∧
        (letter.alone context value).succeeds session = true := by
    rintro letter value session (does | does)
    · exact letter.target?_of_opening does
    · exact letter.target?_of_logging does
  obtain ⟨option, value, session⟩ := given
  cases option with
  | letter option =>
    obtain ⟨names, same, success⟩ := opens option value session does
    exact ⟨success, option, value, rfl, names, same⟩
  | named option =>
    simp only [outward, NamedOption.outward] at does
    cases makes : option.action with
    | letter letter =>
      simp only [makes] at does
      obtain ⟨names, same, success⟩ := opens letter (option.letterValue value) session.named does
      have run : option.alone context value session = _ :=
        NamedOption.alone_of_letter makes value session
      refine ⟨(succeeds_congr run).trans success, letter, option.letterValue value, ?_, names, same⟩
      simp [AnyOption.asLetter?, makes]
    | fenComments =>
      simp only [makes] at does
      rcases does with does | does <;> split at does <;> cases does
    | bound unit side =>
      simp only [makes, softBoundOutward] at does
      rcases does with does | does <;>
        · split at does
          · cases does
          · split at does <;> cases does
    | adjust | suppressTag | fenPattern | material | version => simp [makes] at does

/-- A file is opened exactly where the path of the option leads. -/
theorem opens_iff_of_outward {given : Given} {path : String} {mode own : OpenMode}
    {place : Location} (does : given.outward context = .opening path own ∨
      given.outward context = .logging path own) :
    given.Opens context mode place ↔
      own = mode ∧ given.session.disk.placeForOutput path = .ok place := by
  obtain ⟨success, letter, value, stands, names, same⟩ := exists_letter_of_outward does
  constructor
  · rintro ⟨-, other, otherValue, otherPath, otherStands, otherNames, rfl, found⟩
    rw [stands] at otherStands
    cases otherStands
    rw [names] at otherNames
    cases otherNames
    exact ⟨same.symm, found⟩
  · rintro ⟨rfl, found⟩
    exact ⟨success, letter, value, path, stands, names, same, found⟩

end Given

end ExtractOptions

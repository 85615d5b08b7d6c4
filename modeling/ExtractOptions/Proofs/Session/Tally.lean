/-
Module: ExtractOptions.Proofs.Session.Tally
Purpose: how options are counted. What an option does besides counts no options, whatever comes of
  it. So an option counts once, as given by letter or by name, and another name for a letter counts
  twice: by its name, and with the letter that it stands for. Lines of data are counted by the options
  that take them only.
Main exports: Session.Uncounted, Session.Uncounted.of_asides, NamedOption.isAlias,
  LetterOption.options_alone, NamedOption.options_alone, LetterOption.dataLines_alone,
  NamedOption.dataLines_alone
-/
import ExtractOptions.Proofs.Session.Ledger

namespace ExtractOptions

open Text ExtractOptions.Action

/-- As many options are counted in the second session as in the first one. -/
def Session.Uncounted (first second : Session) : Prop :=
  second.counters.options = first.counters.options

/-- Any number of steps that count no option come down to one. -/
theorem Session.Uncounted.of_steps {first last : Session}
    (steps : Relation.ReflTransGen Session.Uncounted first last) : first.Uncounted last := by
  induction steps with
  | refl => rfl
  | tail _ step ih => exact step.trans ih

/-- Steps that are no option's count none. -/
theorem Session.Uncounted.of_asides {context : Context} {first last : Session}
    (steps : Relation.ReflTransGen (Aside context) first last) : first.Uncounted last :=
  .of_steps (Relation.ReflTransGen.mono (fun _ _ aside => aside.uncounted) _ _ steps)

section Options

variable (context : Context)

/-- An option by letter counts once, whatever comes of it. -/
theorem LetterOption.options_alone (option : LetterOption) (value : String) (session : Session) :
    ((option.alone context value).after session).counters.options =
      session.counters.options + 1 := by
  have counted : option.alone context value session =
      option.effect context (fun _ => pure ()) value session.lettered := rfl
  have own := ((option.effect_assembled context value).kept session.lettered).options
  rw [after_congr counted, own]
  simp only [Session.lettered, Counters.options]
  omega

/-- The option is another name for one with a letter. -/
def NamedOption.isAlias (option : NamedOption) : Bool :=
  match option.action with
  | .letter _ => true
  | _ => false

/-- An option by name counts once, and once more if it is another name for a letter. -/
theorem NamedOption.options_alone (option : NamedOption) (value : String) (session : Session) :
    ((option.alone context value).after session).counters.options =
      session.counters.options + 1 + option.isAlias.toNat := by
  have named : session.named.counters.options = session.counters.options + 1 :=
    (Nat.add_assoc ..).symm
  unfold isAlias
  cases makes : option.action with
  | letter letter =>
    have same : option.alone context value session =
        letter.alone context (option.letterValue value) session.named :=
      alone_of_letter makes value session
    rw [after_congr same, letter.options_alone, named]
    rfl
  | adjust | fenComments | bound | suppressTag | fenPattern | material | version =>
    have counted : option.alone context value session =
        option.effect context (fun _ => pure ()) value session.named := rfl
    have assembled := option.effect_assembled context (by simp [makes]) value
    rw [after_congr counted, (assembled.kept session.named).options, named]
    rfl

/-! ### Lines of data

The counter of data lines is moved by the router of data lines and by nothing else. An option that
does not call it leaves the counter alone. -/

/-- An option that takes no data lines counts none, whatever comes of it. -/
theorem LetterOption.dataLines_alone {option : LetterOption} (takes : option.persists = false)
    (value : String) (session : Session) :
    ((option.alone context value).after session).counters.dataLines =
      session.counters.dataLines := by
  obtain ⟨rest, letters, names, assembled, same⟩ := option.alone_assembled context value session
  rw [after_congr same, assembled.dataLines_eq (by simp [takes])]
  rfl

/-- The same for a name, which takes data lines only if it stands for such a letter. -/
theorem NamedOption.dataLines_alone {option : NamedOption} (takes : option.persists = false)
    (value : String) (session : Session) :
    ((option.alone context value).after session).counters.dataLines =
      session.counters.dataLines := by
  obtain ⟨rest, letters, names, assembled, same⟩ := option.alone_assembled context value session
  rw [after_congr same, assembled.dataLines_eq (by simp [takes])]
  rfl

end Options

end ExtractOptions

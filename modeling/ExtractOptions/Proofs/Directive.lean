/-
Module: ExtractOptions.Proofs.Directive
Purpose: the lines that give an option. After the opening of a directive come a letter and a value,
  and what a line gives depends on its shape: on whether it has the opening, on whether anything
  follows, and on the letter. A directive and its written form determine each other, and the value is
  what follows the bytes of the letter.
Main exports: Directive.written, Directive.render, Directive.Shape, Directive.shape,
  Directive.ofLine?_written, Directive.ofLine?_eq_some_iff, Directive.ofLine?_eq_none_iff,
  Directive.ofLine?_eq_error_iff, directives_decode_uniquely
-/
import ExtractOptions.Directive
import ExtractOptions.Proofs.Text.Pieces
import ExtractOptions.Proofs.Text.Utf8

namespace ExtractOptions

open Text

namespace Directive

/-- The line with a letter right after the opening, and a value right after the letter. -/
def written (letter : Char) (value : String) : String :=
  ":-" ++ String.singleton letter ++ value

/-- A written line is the opening, the letter and the value. -/
theorem toList_written (letter : Char) (value : String) :
    (written letter value).toList = opening ++ letter :: value.toList := by
  simp [written, opening]

/-- The same for a value that is given by its characters. -/
theorem written_ofList (letter : Char) (value : List Char) :
    written letter (String.ofList value) = String.ofList (opening ++ letter :: value) := by
  apply String.toList_injective
  rw [toList_written, String.toList_ofList, String.toList_ofList]

/-- The written form of a directive. -/
def render (directive : Directive) : String :=
  written directive.option.letter directive.value

/-- How a line stands to the opening of a directive: it does not start with it, holds nothing else,
or goes on with a letter and a value. -/
inductive Shape : String → Prop
  | unopened {line : String} (apart : ¬ opening <+: line.toList) : Shape line
  | bare : Shape ":-"
  | lettered (letter : Char) (value : String) : Shape (written letter value)

/-- Every line has one of the three shapes. -/
theorem shape (line : String) : Shape line := by
  by_cases opened : opening <+: line.toList
  · obtain ⟨rest, whole⟩ := opened
    cases rest with
    | nil =>
      have bare : line = ":-" := String.toList_injective (by rw [← whole]; rfl)
      exact bare ▸ .bare
    | cons letter value =>
      have lettered : line = written letter (String.ofList value) := by
        apply String.toList_injective
        rw [toList_written, String.toList_ofList, whole]
      exact lettered ▸ .lettered letter (String.ofList value)
  · exact .unopened opened

/-! ### What each line gives

One equation for each shape of a line, and from these one equivalence for each answer of the reader.
The shapes leave no line out, so the answers are told apart by the line alone. -/

/-- A line without the opening gives no directive. -/
theorem ofLine?_of_unopened {line : String} (apart : ¬ opening <+: line.toList) :
    ofLine? line = .ok none := by
  unfold ofLine?
  rw [dropPrefix?_eq_none_iff.mpr apart]

theorem ofLine?_bare : ofLine? ":-" = .ok none := rfl

/-- What a written line gives depends on its letter alone. -/
theorem ofLine?_written (letter : Char) (value : String) :
    ofLine? (written letter value) =
      match LetterOption.ofLetter? letter with
      | some option => .ok (some ⟨option, value⟩)
      | none => .error (.usage (.unknownDirective (written letter value))) := by
  have opened := dropPrefix?_eq_some_iff.mpr (toList_written letter value)
  unfold ofLine?
  cases known : LetterOption.ofLetter? letter <;>
    simp only [opened, known, String.ofList_toList]

variable {line : String}

/-- A line gives a directive exactly if it is the written form of it. -/
theorem ofLine?_eq_some_iff {directive : Directive} :
    ofLine? line = .ok (some directive) ↔
      line = written directive.option.letter directive.value := by
  constructor
  · intro read
    cases shape line with
    | unopened apart =>
      rw [ofLine?_of_unopened apart] at read
      cases read
    | bare => cases read
    | lettered letter value =>
      rw [ofLine?_written] at read
      split at read
      · rename_i option known
        cases read
        rw [LetterOption.letter_of_ofLetter? known]
      · cases read
  · rintro rfl
    rw [ofLine?_written, LetterOption.ofLetter?_letter]

/-- A line gives nothing exactly if the opening is missing or stands alone. -/
theorem ofLine?_eq_none_iff :
    ofLine? line = .ok none ↔ ¬ opening <+: line.toList ∨ line = ":-" := by
  constructor
  · intro read
    cases shape line with
    | unopened apart => exact .inl apart
    | bare => exact .inr rfl
    | lettered letter value =>
      rw [ofLine?_written] at read
      split at read <;> cases read
  · rintro (apart | rfl)
    · exact ofLine?_of_unopened apart
    · exact ofLine?_bare

/-- A line is refused exactly if its letter is that of no option. -/
theorem ofLine?_eq_error_iff {failure : Failure} :
    ofLine? line = .error failure ↔
      failure = .usage (.unknownDirective line) ∧
        ∃ letter value, line = written letter value ∧
          ∀ option : LetterOption, option.letter ≠ letter := by
  constructor
  · intro read
    cases shape line with
    | unopened apart =>
      rw [ofLine?_of_unopened apart] at read
      cases read
    | bare => cases read
    | lettered letter value =>
      rw [ofLine?_written] at read
      split at read
      · cases read
      · rename_i unknown
        cases read
        exact ⟨rfl, letter, value, rfl, LetterOption.ofLetter?_eq_none_iff.mp unknown⟩
  · rintro ⟨rfl, letter, value, rfl, unknown⟩
    rw [ofLine?_written, LetterOption.ofLetter?_eq_none_iff.mpr unknown]

/-- The value starts behind the bytes of the opening and those of the letter. -/
theorem drop_encode_written (letter : Char) (value : String) :
    (Utf8.encode (written letter value)).drop (2 + letter.utf8Size) = Utf8.encode value := by
  have front : (Utf8.encode (":-" ++ String.singleton letter)).length = 2 + letter.utf8Size := by
    have opened : (Utf8.encode ":-").length = 2 := by decide
    rw [Utf8.encode_append, List.length_append, opened]
    simp [Utf8.encode, String.length_utf8EncodeChar]
  rw [written, Utf8.encode_append, List.drop_left' front]

end Directive

/-- A line gives a directive exactly if it is the opening, the letter of an option, and a value, and
then gives that option and that value. It gives none exactly if it does not start with the opening
or holds nothing else. Every other line is a misuse that quotes it. A directive is read back from
its written form, with the value from the byte behind the letter on, and the two tables of letters
are inverse to each other. -/
theorem directives_decode_uniquely :
    (∀ line directive, Directive.ofLine? line = .ok (some directive) ↔
      line = ":-" ++ String.singleton directive.option.letter ++ directive.value) ∧
    (∀ line, Directive.ofLine? line = .ok none ↔ ¬ [':', '-'] <+: line.toList ∨ line = ":-") ∧
    (∀ line failure, Directive.ofLine? line = .error failure ↔
      failure = .usage (.unknownDirective line) ∧
        ∃ letter value, line = ":-" ++ String.singleton letter ++ value ∧
          ∀ option : LetterOption, option.letter ≠ letter) ∧
    (∀ line, (Failure.usage (.unknownDirective line)).message =
      "Unrecognized argument: " ++ line ++ " in the argument file.") ∧
    (∀ directive : Directive, Directive.ofLine? directive.render = .ok (some directive) ∧
      (Utf8.encode directive.render).drop (2 + directive.option.letter.utf8Size) =
        Utf8.encode directive.value) ∧
    ∀ c option, LetterOption.ofLetter? c = some option ↔ option.letter = c := by
  refine ⟨fun line directive => Directive.ofLine?_eq_some_iff,
    fun line => Directive.ofLine?_eq_none_iff,
    fun line failure => Directive.ofLine?_eq_error_iff, fun line => rfl, fun directive => ?_,
    fun c option => LetterOption.ofLetter?_eq_some_iff⟩
  unfold Directive.render
  exact ⟨Directive.ofLine?_eq_some_iff.mpr rfl, Directive.drop_encode_written _ _⟩

/-- The value is kept as it is, characters of several bytes included; such a character is no
letter. -/
example :
    Directive.ofLine? ":-té é" = .ok (some ⟨.tagCriteria, "é é"⟩) ∧
      Directive.ofLine? ":-ét" = .error (.usage (.unknownDirective ":-ét")) :=
  ⟨rfl, rfl⟩

end ExtractOptions

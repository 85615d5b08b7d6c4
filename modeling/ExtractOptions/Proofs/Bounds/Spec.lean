/-
Module: ExtractOptions.Proofs.Bounds.Spec
Purpose: the written form of a bound is read exactly. A text is a bound if it consists of the letter
  of a side, or of no letter for an exact bound, and of a numeral of 32 bits. Every other text is at
  fault in one of two ways, and its first character says in which.
Main exports: BoundSide.Marks, BoundSpec.IsWritten, BoundSpec.Starts, BoundSpec.render,
  BoundSpec.parse_eq_ok_iff, BoundSpec.parse_exactly
-/
import ExtractOptions.Bounds.Spec
import ExtractOptions.Proofs.Text.Numeral

namespace ExtractOptions

open Text

/-- What may stand in front of the number of a bound: the letter of its side, and nothing as well if
the bound is exact. -/
inductive BoundSide.Marks : List Char → BoundSide → Prop
  | letter (side : BoundSide) : Marks [side.letter] side
  | nothing : Marks [] .exact

/-- A letter is read as the side that it stands for. -/
theorem BoundSide.ofLetter?_eq_some_iff {c : Char} {side : BoundSide} :
    ofLetter? c = some side ↔ c = side.letter := by
  constructor
  · intro named
    unfold ofLetter? at named
    split at named <;> cases named <;> rfl
  · rintro rfl
    exact ofLetter?_letter side

theorem BoundSide.isDigit_letter (side : BoundSide) : side.letter.isDigit = false := by
  cases side <;> rfl

namespace BoundSpec

/-- The text is a bound in its written form. -/
def IsWritten (cs : List Char) (spec : BoundSpec) : Prop :=
  ∃ mark digits, BoundSide.Marks mark spec.side ∧ Numeral.Denotes digits spec.number ∧
    cs = mark ++ digits

/-- A character with which a bound may start. -/
def Begins (c : Char) : Prop :=
  (∃ side : BoundSide, c = side.letter) ∨ c.isDigit = true

/-- The text starts like a bound. -/
def Starts (cs : List Char) : Prop :=
  ∃ c rest, cs = c :: rest ∧ Begins c

/-- The rest of a bound is read as a number of 32 bits. -/
theorem ofDigits_eq_ok_iff {side : BoundSide} {digits : List Char} {spec : BoundSpec} :
    ofDigits side digits = .ok spec ↔
      spec.side = side ∧ Numeral.Denotes digits spec.number ∧ spec.number ≤ Numeral.max32 := by
  rw [← Numeral.digits?_eq_some_iff]
  unfold ofDigits
  obtain ⟨own, number⟩ := spec
  cases Numeral.digits? Numeral.max32 digits with
  | none => simp
  | some value => simp [eq_comm]

/-- Digits are at fault in one way only. -/
theorem ofDigits_eq_badNumber_iff {side : BoundSide} {digits : List Char} :
    ofDigits side digits = .error .badNumber ↔ ∀ spec, ofDigits side digits ≠ .ok spec := by
  unfold ofDigits
  cases Numeral.digits? Numeral.max32 digits <;> simp

/-! ### The first character

The first character decides how a text goes on: it is the letter of a side, or the first digit of an
exact bound, or wrong. Each case has a lemma, and no later proof looks at the text again. -/

variable {text : String} {c : Char} {cs : List Char}

/-- Behind the letter of a side the number follows. -/
theorem parse_of_letter {side : BoundSide} (starts : text.toList = side.letter :: cs) :
    parse text = ofDigits side cs := by
  simp [parse, starts]

/-- Without a letter the bound is exact, and the number starts at once. -/
theorem parse_of_digit (starts : text.toList = c :: cs) (digit : c.isDigit = true) :
    parse text = ofDigits .exact (c :: cs) := by
  have plain : BoundSide.ofLetter? c = none := by
    rw [Option.eq_none_iff_forall_not_mem]
    intro side named
    rw [BoundSide.ofLetter?_eq_some_iff.mp named, side.isDigit_letter] at digit
    cases digit
  simp [parse, starts, plain, digit]

/-- Any other start makes the side the fault. -/
theorem parse_of_not_starts (wrong : ¬ Starts text.toList) : parse text = .error .badSide := by
  unfold parse
  cases whole : text.toList with
  | nil => rfl
  | cons c cs =>
    have other : ¬ Begins c := fun begins => wrong ⟨c, cs, whole, begins⟩
    cases named : BoundSide.ofLetter? c with
    | some side => exact absurd (.inl ⟨side, BoundSide.ofLetter?_eq_some_iff.mp named⟩) other
    | none =>
      have wordy : c.isDigit = false := by simpa using fun digit => other (.inr digit)
      simp [named, wordy]

/-- A text that starts like a bound is read as the digits behind its mark. -/
theorem parse_of_starts (starts : Starts text.toList) :
    ∃ mark side digits, BoundSide.Marks mark side ∧ text.toList = mark ++ digits ∧
      parse text = ofDigits side digits := by
  obtain ⟨c, cs, whole, ⟨side, rfl⟩ | digit⟩ := starts
  · exact ⟨[side.letter], side, cs, .letter side, whole, parse_of_letter whole⟩
  · exact ⟨[], .exact, c :: cs, .nothing, whole, parse_of_digit whole digit⟩

/-- The mark of a written bound is the one that its first character makes. -/
theorem parse_of_isWritten {spec : BoundSpec} (written : IsWritten text.toList spec) :
    ∃ digits, Numeral.Denotes digits spec.number ∧ parse text = ofDigits spec.side digits := by
  obtain ⟨mark, digits, marks, denotes, whole⟩ := written
  generalize spec.side = side at marks
  cases marks with
  | letter => exact ⟨digits, denotes, parse_of_letter whole⟩
  | nothing =>
    cases digits with
    | nil => exact absurd rfl denotes.nonempty
    | cons c cs => exact ⟨c :: cs, denotes, parse_of_digit whole denotes.isDigit_head⟩

/-! ### What is read

Each of the three answers of the reader has an equivalence of its own. Together they leave no text
out. -/

/-- A text is read as a bound exactly if it is a written form of it and the number has 32 bits. -/
theorem parse_eq_ok_iff {spec : BoundSpec} :
    parse text = .ok spec ↔ IsWritten text.toList spec ∧ spec.number ≤ Numeral.max32 := by
  constructor
  · intro read
    by_cases starts : Starts text.toList
    · obtain ⟨mark, side, digits, marks, whole, parsed⟩ := parse_of_starts starts
      obtain ⟨rfl, denotes, within⟩ := ofDigits_eq_ok_iff.mp (parsed.symm.trans read)
      exact ⟨⟨mark, digits, marks, denotes, whole⟩, within⟩
    · rw [parse_of_not_starts starts] at read
      cases read
  · rintro ⟨written, within⟩
    obtain ⟨digits, denotes, parsed⟩ := parse_of_isWritten written
    rw [parsed, ofDigits_eq_ok_iff.mpr ⟨rfl, denotes, within⟩]

/-- The side is at fault exactly if the text does not start like a bound. -/
theorem parse_eq_badSide_iff :
    parse text = .error .badSide ↔ ¬ Starts text.toList := by
  constructor
  · intro fault starts
    obtain ⟨mark, side, digits, -, -, parsed⟩ := parse_of_starts starts
    rw [parsed, ofDigits] at fault
    split at fault <;> cases fault
  · exact parse_of_not_starts

/-- The number is at fault exactly if the text starts like a bound and is none. -/
theorem parse_eq_badNumber_iff :
    parse text = .error .badNumber ↔
      Starts text.toList ∧ ∀ spec, parse text ≠ .ok spec := by
  constructor
  · intro fault
    refine ⟨?_, fun spec read => by rw [fault] at read; cases read⟩
    by_contra wrong
    rw [parse_eq_badSide_iff.mpr wrong] at fault
    cases fault
  · rintro ⟨starts, unread⟩
    obtain ⟨mark, side, digits, -, -, parsed⟩ := parse_of_starts starts
    rw [parsed] at unread ⊢
    exact ofDigits_eq_badNumber_iff.mpr unread

/-- The written form of a bound, with the letter of its side. -/
def render (spec : BoundSpec) : String :=
  String.ofList (spec.side.letter :: Numeral.decimal spec.number)

/-- It is one of the forms in which the bound may be written. -/
theorem isWritten_render (side : BoundSide) (number : Nat) :
    IsWritten (render ⟨side, number⟩).toList ⟨side, number⟩ :=
  ⟨[side.letter], Numeral.decimal number, .letter side, Numeral.denotes_decimal number, by
    rw [render, String.toList_ofList, List.singleton_append]⟩

theorem not_starts_iff :
    ¬ Starts text.toList ↔ text = "" ∨ ∃ c cs, text.toList = c :: cs ∧ ¬ Begins c := by
  rw [← String.toList_eq_nil_iff]
  constructor
  · intro wrong
    cases whole : text.toList with
    | nil => exact .inl rfl
    | cons c cs => exact .inr ⟨c, cs, rfl, fun begins => wrong ⟨c, cs, whole, begins⟩⟩
  · rintro (empty | ⟨c, cs, whole, other⟩) ⟨d, rest, same, begins⟩
    · rw [empty] at same
      cases same
    · rw [whole] at same
      cases same
      exact other begins

/-- A text is read as a bound exactly if it is one in its written form, with a number of 32 bits. It
is at fault for its side exactly if it is empty or starts with a character that no bound starts
with, and for its number in every other case. What is written for a bound is read back. -/
theorem parse_exactly :
    (∀ text spec, parse text = .ok spec ↔
      IsWritten text.toList spec ∧ spec.number ≤ 4294967295) ∧
    (∀ text, parse text = .error .badSide ↔
      text = "" ∨ ∃ c cs, text.toList = c :: cs ∧ ¬ Begins c) ∧
    (∀ text, parse text = .error .badNumber ↔
      (∃ c cs, text.toList = c :: cs ∧ Begins c) ∧
        ∀ spec, IsWritten text.toList spec → 4294967295 < spec.number) ∧
    ∀ (side : BoundSide) (number : UInt32),
      parse (render ⟨side, number.toNat⟩) = .ok ⟨side, number.toNat⟩ := by
  refine ⟨fun text spec => parse_eq_ok_iff, fun text => ?_, fun text => ?_, fun side number => ?_⟩
  · rw [parse_eq_badSide_iff, not_starts_iff]
  · rw [parse_eq_badNumber_iff]
    refine and_congr_right fun _ => forall_congr' fun spec => ?_
    rw [ne_eq, parse_eq_ok_iff, not_and, Nat.not_le]
    rfl
  · exact parse_eq_ok_iff.mpr ⟨isWritten_render side number.toNat, Numeral.toNat_le_max32 number⟩

end BoundSpec

end ExtractOptions

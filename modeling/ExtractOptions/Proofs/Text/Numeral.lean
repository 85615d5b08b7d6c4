/-
Module: ExtractOptions.Proofs.Text.Numeral
Purpose: whole numbers read and written. A text of digits stands for the number that it has in the
  decimal system, and the readers accept exactly such texts up to their greatest number; what is
  written for a number is such a text.
Main exports: Numeral.Denotes, Numeral.digits?_eq_some_iff, Numeral.denotes_decimal,
  Numeral.DenotesUnsigned, Numeral.unsigned?_eq_some_iff, Numeral.DenotesSpaced,
  Numeral.digits?_trimChars_eq_some_iff, Numeral.Sign, Numeral.DenotesSigned,
  Numeral.signed?_eq_some_iff, Numeral.Spells, Numeral.spells_iff
-/
import ExtractOptions.Proofs.Text.Pieces
import ExtractOptions.Text.Numeral
import Mathlib.Data.List.Basic

namespace ExtractOptions.Text

theorem isBlank_of_isDigit {c : Char} (digit : c.isDigit = true) : isBlank c = false := by
  simp only [Char.isDigit, Bool.and_eq_true, decide_eq_true_eq, UInt32.le_iff_toNat_le] at digit
  obtain ⟨low, high⟩ := digit
  change 48 ≤ c.toNat at low
  change c.toNat ≤ 57 at high
  simp only [isBlank, Bool.or_eq_false_iff, Bool.and_eq_false_iff, decide_eq_false_iff_not,
    beq_eq_false_iff_ne]
  omega

namespace Numeral

/-- The text is a run of digits that stands for the number. -/
structure Denotes (cs : List Char) (n : Nat) : Prop where
  nonempty : cs ≠ []
  digits : ∀ c ∈ cs, c.isDigit = true
  value : Nat.ofDigitChars 10 cs 0 = n

/-- The value of a run of digits is the one that the library gives it. -/
theorem ofDigits_eq (cs : List Char) : ofDigits cs = Nat.ofDigitChars 10 cs 0 := by
  rw [Nat.ofDigitChars_eq_foldl]
  rfl

/-- Runs of digits are accepted up to the greatest number, and nothing else is. -/
theorem digits?_eq_some_iff {most n : Nat} {cs : List Char} :
    digits? most cs = some n ↔ Denotes cs n ∧ n ≤ most := by
  unfold digits?
  rw [ofDigits_eq, Option.ite_none_right_eq_some, Option.some.injEq, List.all_eq_true]
  constructor
  · rintro ⟨⟨nonempty, digits, within⟩, rfl⟩
    exact ⟨⟨nonempty, digits, rfl⟩, within⟩
  · rintro ⟨⟨nonempty, digits, rfl⟩, within⟩
    exact ⟨⟨nonempty, digits, within⟩, rfl⟩

theorem toNat_le_max32 (n : UInt32) : n.toNat ≤ max32 := by
  have within := n.toNat_lt
  unfold max32
  rw [Nat.pow_eq]
  omega

theorem denotes_decimal (n : Nat) : Denotes (decimal n) n where
  nonempty := Nat.toDigits_ne_nil
  digits _ among := Nat.isDigit_of_mem_toDigits (by decide) (by decide) among
  value := Nat.ofDigitChars_ten_toDigits

/-- The text is a numeral for the number, with a plus sign in front of it if one likes. -/
def DenotesUnsigned (cs : List Char) (n : Nat) : Prop :=
  Denotes cs n ∨ ∃ digits, cs = '+' :: digits ∧ Denotes digits n

/-- Numerals with an optional plus sign are accepted up to the greatest number, and nothing else
is. -/
theorem unsigned?_eq_some_iff {most n : Nat} {cs : List Char} :
    unsigned? most cs = some n ↔ DenotesUnsigned cs n ∧ n ≤ most := by
  unfold unsigned? DenotesUnsigned
  split
  · rename_i digits
    have signed : ¬ Denotes ('+' :: digits) n := fun denotes =>
      absurd (denotes.digits '+' List.mem_cons_self) (by decide)
    rw [digits?_eq_some_iff]
    simp [signed]
  · rename_i plain
    have unsigned : ¬ ∃ digits, cs = '+' :: digits ∧ Denotes digits n := by
      rintro ⟨digits, rfl, -⟩
      exact plain digits rfl
    rw [digits?_eq_some_iff, or_iff_left unsigned]

/-- The text is a numeral for the number, with white space around it if one likes. -/
def DenotesSpaced (cs : List Char) (n : Nat) : Prop :=
  ∃ before digits after : List Char, (∀ c ∈ before, isBlank c = true) ∧
    (∀ c ∈ after, isBlank c = true) ∧ Denotes digits n ∧ cs = before ++ digits ++ after

theorem Denotes.spaced {cs : List Char} {n : Nat} (denotes : Denotes cs n) : DenotesSpaced cs n :=
  ⟨[], cs, [], by simp, by simp, denotes, by simp⟩

/-- A text denotes a number with white space around it exactly if it does so when trimmed. -/
theorem denotesSpaced_iff {cs : List Char} {n : Nat} :
    DenotesSpaced cs n ↔ Denotes (trimChars cs) n := by
  constructor
  · rintro ⟨before, digits, after, blankBefore, blankAfter, denotes, rfl⟩
    rwa [trimChars_padded blankBefore blankAfter fun c among =>
      isBlank_of_isDigit (denotes.digits c among)]
  · intro denotes
    obtain ⟨before, after, blankBefore, blankAfter, same⟩ := exists_trimmed cs
    exact ⟨before, trimChars cs, after, blankBefore, blankAfter, denotes, same⟩

/-- Reading a trimmed text accepts numerals with white space around them. -/
theorem digits?_trimChars_eq_some_iff {most n : Nat} {cs : List Char} :
    digits? most (trimChars cs) = some n ↔ DenotesSpaced cs n ∧ n ≤ most := by
  rw [digits?_eq_some_iff, denotesSpaced_iff]

/-- A numeral holds digits and white space only. -/
theorem DenotesSpaced.isDigit_or_isBlank {cs : List Char} {n : Nat} (denotes : DenotesSpaced cs n)
    {c : Char} (among : c ∈ cs) : c.isDigit = true ∨ isBlank c = true := by
  obtain ⟨before, digits, after, blankBefore, blankAfter, denotes, rfl⟩ := denotes
  simp only [List.mem_append] at among
  rcases among with (among | among) | among
  · exact .inr (blankBefore c among)
  · exact .inl (denotes.digits c among)
  · exact .inr (blankAfter c among)

theorem DenotesSpaced.ne_nil {cs : List Char} {n : Nat} (denotes : DenotesSpaced cs n) :
    cs ≠ [] := by
  obtain ⟨before, digits, after, -, -, denotes, rfl⟩ := denotes
  simp [denotes.nonempty]

/-! ### Signs

Readers differ in the signs that they know, so the signs are a parameter. A text has at most one of
them in front, and this decides how the rest is read. -/

/-- What may stand in front of the digits of a numeral. -/
inductive Sign where
  | absent
  | plus
  | minus
deriving DecidableEq, Repr

namespace Sign

/-- The sign as it is written. -/
def text : Sign → List Char
  | absent => []
  | plus => ['+']
  | minus => ['-']

/-- The number of a numeral with the sign, if its digits stand for `n`. -/
def apply (sign : Sign) (n : Nat) : Int :=
  match sign with
  | absent | plus => n
  | minus => -n

theorem isBlank_of_mem_text {sign : Sign} {c : Char} (among : c ∈ sign.text) :
    isBlank c = false := by
  cases sign with
  | absent => cases among
  | plus | minus =>
    obtain rfl := List.mem_singleton.mp among
    decide

end Sign

/-- The text is a numeral for the number, with one of the given signs. -/
def DenotesSigned (signs : List Sign) (cs : List Char) (n : Int) : Prop :=
  ∃ sign ∈ signs, ∃ digits m, Denotes digits m ∧ cs = sign.text ++ digits ∧ sign.apply m = n

section Signed

variable {signs : List Sign} {cs : List Char} {n : Int}

/-- The sign is the one the text starts with; without one it starts with a digit. -/
def Sign.Heads (sign : Sign) (cs : List Char) : Prop :=
  sign = .absent → (∀ rest, cs ≠ '+' :: rest) ∧ ∀ rest, cs ≠ '-' :: rest

/-- A run of digits starts with one. -/
theorem Denotes.isDigit_head {c : Char} {m : Nat} (denotes : Denotes (c :: cs) m) :
    c.isDigit = true :=
  denotes.digits c List.mem_cons_self

/-- A text has one sign, and one run of digits behind it. -/
theorem Sign.Heads.unique {sign other : Sign} {digits : List Char} {m : Nat}
    (heads : sign.Heads cs) (denotes : Denotes digits m)
    (same : sign.text ++ cs = other.text ++ digits) : other = sign ∧ digits = cs := by
  cases sign <;> cases other <;>
    simp only [Sign.text, List.nil_append, List.cons_append, List.cons.injEq] at same
  case absent.absent => exact ⟨rfl, same.symm⟩
  case absent.plus => exact absurd same ((heads rfl).1 digits)
  case absent.minus => exact absurd same ((heads rfl).2 digits)
  case plus.absent | minus.absent =>
    subst same
    exact absurd denotes.isDigit_head (by decide)
  case plus.plus | minus.minus => exact ⟨rfl, same.2.symm⟩
  case plus.minus | minus.plus => exact absurd same.1 (by decide)

/-- Behind a sign that is allowed, a numeral goes on with digits. -/
theorem denotesSigned_append {sign : Sign} (allowed : sign ∈ signs) (heads : sign.Heads cs) :
    DenotesSigned signs (sign.text ++ cs) n ↔ ∃ m, Denotes cs m ∧ sign.apply m = n := by
  constructor
  · rintro ⟨other, -, digits, m, denotes, same, rfl⟩
    obtain ⟨rfl, rfl⟩ := heads.unique denotes same
    exact ⟨m, denotes, rfl⟩
  · rintro ⟨m, denotes, rfl⟩
    exact ⟨sign, allowed, cs, m, denotes, rfl, rfl⟩

/-- Without signs a numeral is a run of digits. -/
theorem denotesSigned_only_absent {m : Nat} : DenotesSigned [.absent] cs m ↔ Denotes cs m := by
  constructor
  · rintro ⟨sign, allowed, digits, m', denotes, rfl, same⟩
    obtain rfl := List.mem_singleton.mp allowed
    obtain rfl := Int.ofNat_inj.mp same
    exact denotes
  · exact fun denotes => ⟨.absent, List.mem_singleton_self _, cs, m, denotes, rfl, rfl⟩

/-- A plus sign alone makes the numerals of unsigned numbers. -/
theorem denotesSigned_absent_plus {m : Nat} :
    DenotesSigned [.absent, .plus] cs m ↔ DenotesUnsigned cs m := by
  constructor
  · rintro ⟨sign, allowed, digits, m', denotes, rfl, same⟩
    cases sign with
    | absent =>
      obtain rfl := Int.ofNat_inj.mp same
      exact .inl denotes
    | plus =>
      obtain rfl := Int.ofNat_inj.mp same
      exact .inr ⟨digits, rfl, denotes⟩
    | minus => simp at allowed
  · rintro (denotes | ⟨digits, rfl, denotes⟩)
    · exact ⟨.absent, by simp, cs, m, denotes, rfl, rfl⟩
    · exact ⟨.plus, by simp, digits, m, denotes, rfl, rfl⟩

/-- What is read behind a sign, if the number lies between the two. -/
theorem behind_eq_some_iff {least most : Int} {sign : Sign} (allowed : sign ∈ signs)
    (heads : sign.Heads cs) :
    ((digits? (least.natAbs + most.natAbs) cs).bind fun m =>
        if least ≤ sign.apply m ∧ sign.apply m ≤ most then some (sign.apply m) else none) = some n ↔
      DenotesSigned signs (sign.text ++ cs) n ∧ least ≤ n ∧ n ≤ most := by
  simp only [Option.bind_eq_some_iff, digits?_eq_some_iff, Option.ite_none_right_eq_some,
    Option.some.injEq, denotesSigned_append allowed heads]
  constructor
  · rintro ⟨m, ⟨denotes, -⟩, inRange, rfl⟩
    exact ⟨⟨m, denotes, rfl⟩, inRange⟩
  · rintro ⟨⟨m, denotes, rfl⟩, inRange⟩
    have bounded : m ≤ least.natAbs + most.natAbs := by
      cases sign <;> simp only [Sign.apply] at inRange <;> omega
    exact ⟨m, ⟨denotes, bounded⟩, inRange, rfl⟩

/-- Numerals with an optional sign are accepted between the two numbers, and nothing else is. -/
theorem signed?_eq_some_iff {least most : Int} :
    signed? least most cs = some n ↔
      DenotesSigned [.absent, .plus, .minus] cs n ∧ least ≤ n ∧ n ≤ most := by
  unfold signed?
  split
  · have minus : Sign.minus ∈ [.absent, .plus, .minus] := by simp
    exact behind_eq_some_iff minus nofun
  · have plus : Sign.plus ∈ [.absent, .plus, .minus] := by simp
    exact behind_eq_some_iff plus nofun
  · rename_i notMinus notPlus
    have absent : Sign.absent ∈ [.absent, .plus, .minus] := by simp
    exact behind_eq_some_iff absent fun _ => ⟨notPlus, notMinus⟩

/-- The text spells the number: it is a numeral with one of the given signs, with white space around
it if one likes. -/
def Spells (signs : List Sign) (cs : List Char) (n : Int) : Prop :=
  ∃ before body after : List Char, (∀ c ∈ before, isBlank c = true) ∧
    (∀ c ∈ after, isBlank c = true) ∧ DenotesSigned signs body n ∧ cs = before ++ body ++ after

theorem DenotesSigned.isBlank_eq_false (denotes : DenotesSigned signs cs n) {c : Char}
    (among : c ∈ cs) : isBlank c = false := by
  obtain ⟨sign, -, digits, m, denotes, rfl, -⟩ := denotes
  rcases List.mem_append.mp among with among | among
  · exact Sign.isBlank_of_mem_text among
  · exact isBlank_of_isDigit (denotes.digits c among)

/-- A text spells a number exactly if it denotes it when trimmed. -/
theorem spells_iff : Spells signs cs n ↔ DenotesSigned signs (trimChars cs) n := by
  constructor
  · rintro ⟨before, body, after, blankBefore, blankAfter, denotes, rfl⟩
    rwa [trimChars_padded blankBefore blankAfter fun c among => denotes.isBlank_eq_false among]
  · intro denotes
    obtain ⟨before, after, blankBefore, blankAfter, same⟩ := exists_trimmed cs
    exact ⟨before, trimChars cs, after, blankBefore, blankAfter, denotes, same⟩

/-- What a text without signs spells is what it denotes with white space around it. -/
theorem spells_only_absent {m : Nat} : Spells [.absent] cs m ↔ DenotesSpaced cs m := by
  rw [spells_iff, denotesSigned_only_absent, denotesSpaced_iff]

/-- Reading a trimmed text without signs accepts what spells a number up to the greatest one. -/
theorem digits?_trimChars_eq_some_iff_spells {most m : Nat} :
    digits? most (trimChars cs) = some m ↔ Spells [.absent] cs m ∧ m ≤ most := by
  rw [digits?_trimChars_eq_some_iff, spells_only_absent]

end Signed

end Numeral

end ExtractOptions.Text

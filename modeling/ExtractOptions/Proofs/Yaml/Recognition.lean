/-
Module: ExtractOptions.Proofs.Yaml.Recognition
Purpose: what a text of plain characters is read as after it was written. The writer puts quotes
  around a text that it takes for a number, a truth value or null itself. It knows two kinds of
  numerals less than the reader: those too large for a finite number, and those with a minus sign
  after the mark of their base. Every other text is read as it was written.
Main exports: IsSignedRadix, IsOverflow, Misread, ofPlain_of_unquoted, writtenLine, writeText_eq
-/
import ExtractOptions.Proofs.Text.Numeral
import ExtractOptions.Proofs.Yaml.Mapping
import ExtractOptions.Yaml.Writer

namespace ExtractOptions.Yaml

open Text

/-! ### Whole numbers

The reader and the writer each have a notion of whole numbers, and they differ. These lemmas compare
the two on numerals of 64 bits. -/

theorem hexValue?_of_isDigit {c : Char} (digit : c.isDigit = true) :
    Numeral.hexValue? c = some (Numeral.digitValue c) := by
  simp only [Char.isDigit, Bool.and_eq_true, decide_eq_true_eq] at digit
  exact if_pos ⟨digit.1, digit.2⟩

theorem digitValue_lt {c : Char} (digit : c.isDigit = true) : Numeral.digitValue c < 10 := by
  simp only [Char.isDigit, Bool.and_eq_true, decide_eq_true_eq, UInt32.le_iff_toNat_le] at digit
  have high : c.toNat ≤ 57 := digit.2
  have zero : '0'.toNat = 48 := rfl
  unfold Numeral.digitValue
  omega

theorem mapM_hexValue? {ds : List Char} (digits : ∀ c ∈ ds, c.isDigit = true) :
    ds.mapM Numeral.hexValue? = some (ds.map Numeral.digitValue) := by
  induction ds with
  | nil => rfl
  | cons d ds ih =>
    obtain ⟨here, later⟩ := List.forall_mem_cons.mp digits
    rw [List.mapM_cons, hexValue?_of_isDigit here, ih later]
    rfl

/-- A run of decimal digits is a numeral without a mark of its base. -/
theorem isMagnitude_of_denotes {ds : List Char} {n most : Nat} (denotes : Numeral.Denotes ds n)
    (within : n ≤ most) : isMagnitude most ds = true := by
  have value : Numeral.ofValues 10 (ds.map Numeral.digitValue) = n := by
    rw [← denotes.value, ← Numeral.ofDigits_eq, Numeral.ofValues, List.foldl_map]
    rfl
  have small : (ds.map Numeral.digitValue).all (· < 10) = true := by
    simpa using fun d among => digitValue_lt (denotes.digits d among)
  have numeral : isNumeralOf 10 most ds = true := by
    simp only [isNumeralOf, mapM_hexValue? denotes.digits, value, small, within]
    simp [denotes.nonempty]
  unfold isMagnitude
  split
  · exact absurd (denotes.digits 'x' (by simp)) (by decide)
  · exact absurd (denotes.digits 'o' (by simp)) (by decide)
  · exact absurd (denotes.digits 'b' (by simp)) (by decide)
  · exact numeral

/-- Without a sign in front, whole numbers are magnitudes. -/
theorem isWholeNumber_of_unmarked {cs : List Char} (minus : ∀ ds, cs ≠ '-' :: ds)
    (plus : ∀ ds, cs ≠ '+' :: ds) : isWholeNumber cs = isMagnitude (Nat.pow 2 128 - 1) cs := by
  unfold isWholeNumber
  split
  · exact absurd rfl (minus _)
  · exact absurd rfl (plus _)
  · rfl

/-- What is read as an integer of 64 bits is written as a whole number. -/
theorem isWholeNumber_of_signed64 {cs : List Char} {n : Int}
    (read : Numeral.signed64? cs = some n) : isWholeNumber cs = true := by
  have magnitude {ds : List Char} {m most : Nat} (wide : Nat.pow 2 127 ≤ most)
      (digits : Numeral.digits?
        ((-Nat.pow 2 63 : Int).natAbs + (Nat.pow 2 63 - 1 : Int).natAbs) ds = some m) :
      isMagnitude most ds = true := by
    obtain ⟨denotes, within⟩ := Numeral.digits?_eq_some_iff.mp digits
    exact isMagnitude_of_denotes denotes ((within.trans (by decide)).trans wide)
  unfold Numeral.signed64? Numeral.signed? at read
  split at read
  · obtain ⟨m, digits, -⟩ := Option.bind_eq_some_iff.mp read
    exact magnitude (by decide) digits
  · obtain ⟨m, digits, -⟩ := Option.bind_eq_some_iff.mp read
    exact magnitude (by decide) digits
  · rename_i unmarkedMinus unmarkedPlus
    obtain ⟨m, digits, -⟩ := Option.bind_eq_some_iff.mp read
    rw [isWholeNumber_of_unmarked unmarkedMinus unmarkedPlus]
    exact magnitude (by decide) digits

/-! ### Numerals that the writer does not know

The two kinds of texts that the reader takes for a number and the writer does not. They are the only
ones, which is why settings come back unless such a text is among them. -/

/-- A number of 64 bits in base 8 or 16, with a minus sign after the mark of the base. -/
def IsSignedRadix (cs : List Char) : Prop :=
  (['0', 'x', '-'] <+: cs ∨ ['0', 'o', '-'] <+: cs) ∧ (Scalar.radixInteger? cs).isSome = true

/-- A numeral whose value is beyond the range of finite numbers. -/
def IsOverflow (cs : List Char) : Prop :=
  cs.any Char.isDigit = true ∧ (Binary64.parse? cs).isSome = true ∧ isFinite cs = false

/-- The text is written without quotes, though it is read as a number. -/
def Misread (cs : List Char) : Prop :=
  writtenStyle cs = .plain ∧ (IsSignedRadix cs ∨ IsOverflow cs)

instance (cs : List Char) : Decidable (IsSignedRadix cs) := inferInstanceAs (Decidable (_ ∧ _))

instance (cs : List Char) : Decidable (IsOverflow cs) := inferInstanceAs (Decidable (_ ∧ _))

instance (cs : List Char) : Decidable (Misread cs) := inferInstanceAs (Decidable (_ ∧ _))

/-- An unsigned number of 64 bits in a base is a numeral of that base. -/
theorem isNumeralOf_of_values {base : Nat} {ds : List Char} {n : Int}
    (read : (do
      let values ← ds.mapM Numeral.hexValue?
      if ds = [] ∨ values.any (base ≤ ·) then none
      else if -Nat.pow 2 63 ≤ (Numeral.ofValues base values : Int) ∧
          (Numeral.ofValues base values : Int) < Nat.pow 2 63 then
        some (Numeral.ofValues base values : Int)
      else none) = some n) :
    isNumeralOf base (Nat.pow 2 128 - 1) ds = true := by
  obtain ⟨values, spelled, read⟩ := Option.bind_eq_some_iff.mp read
  split at read
  · cases read
  rename_i named
  split at read
  · rename_i range
    have within : Numeral.ofValues base values ≤ Nat.pow 2 128 - 1 :=
      (Int.ofNat_lt.mp range.2).le.trans (by decide)
    simp only [not_or, Bool.not_eq_true, List.any_eq_false, decide_eq_true_eq] at named
    have small : values.all (· < base) = true := by
      simpa using named.2
    simp only [isNumeralOf, spelled, small, within]
    simp [named.1]
  · cases read

/-- A number in base 8 or 16 is known to the writer unless a minus sign follows the mark. -/
theorem isWholeNumber_or_isSignedRadix {cs : List Char} {n : Int} (unsigned : '+' ∉ cs)
    (read : Scalar.radixInteger? cs = some n) :
    isWholeNumber cs = true ∨ IsSignedRadix cs := by
  have some : (Scalar.radixInteger? cs).isSome = true := by simp [read]
  unfold Scalar.radixInteger? at read
  simp only at read
  split at read
  · split at read
    · exact .inr ⟨.inl (List.prefix_append ['0', 'x', '-'] _), some⟩
    · simp at unsigned
    · exact .inl (isNumeralOf_of_values read)
  · split at read
    · exact .inr ⟨.inr (List.prefix_append ['0', 'o', '-'] _), some⟩
    · simp at unsigned
    · exact .inl (isNumeralOf_of_values read)
  · cases read

/-! ### What is read

What a text without quotes is read as, by the marks in it: a number in base ten, a number with a
mark, a truth value, or itself. -/

/-- Without a plus sign, integers are those with 64 bits and a minus sign at most. -/
theorem integer?_of_unsigned {cs : List Char} (unsigned : '+' ∉ cs) :
    Scalar.integer? cs = Numeral.signed64? cs := by
  unfold Scalar.integer?
  split
  · simp at unsigned
  · rfl

/-- What is no fraction is neither infinite nor finite. -/
theorem isFractional_of_unsigned {cs : List Char} (unsigned : '+' ∉ cs)
    (other : isFractional cs = false) :
    Scalar.isPointWord cs = false ∧ isFinite cs = false := by
  unfold isFractional at other
  rw [Bool.or_eq_false_iff] at other
  obtain ⟨word, number⟩ := other
  split at number
  · simp at unsigned
  · exact ⟨word, number⟩

/-- What is no reserved word and has no mark of a base is read as a number or as a text. -/
theorem ofPlain_of_unreserved {cs : List Char} (unmarked : Scalar.radixInteger? cs = none)
    (nonempty : cs ≠ []) (other : ∀ word ∈ reservedWords, cs ≠ word.toList) :
    Scalar.ofPlain cs =
      match Scalar.integer? cs with
      | some n => .integer n
      | none => if Scalar.isReal cs then .real (String.ofList cs) else .text (String.ofList cs) := by
  have notNull : ¬ (cs = [] ∨ cs = ['~'] ∨ cs = "null".toList) := by
    rintro (empty | same | same)
    · exact nonempty empty
    · exact other "~" (by decide) (by rw [same]; decide)
    · exact other "null" (by decide) same
  have notTrue : ¬ (cs = "true".toList ∨ cs = "True".toList ∨ cs = "TRUE".toList) := by
    rintro (same | same | same)
    · exact other "true" (by decide) same
    · exact other "True" (by decide) same
    · exact other "TRUE" (by decide) same
  have notFalse : ¬ (cs = "false".toList ∨ cs = "False".toList ∨ cs = "FALSE".toList) := by
    rintro (same | same | same)
    · exact other "false" (by decide) same
    · exact other "False" (by decide) same
    · exact other "FALSE" (by decide) same
  unfold Scalar.ofPlain Scalar.truthValue?
  rw [unmarked, if_neg notTrue, if_neg notFalse]
  simp only [if_neg notNull]
  cases Scalar.integer? cs <;> rfl

/-- What a text that the writer takes for nothing else is read as. -/
theorem ofPlain_of_unquoted {cs : List Char} (unsigned : '+' ∉ cs)
    (other : readsAsOther cs = false) :
    (IsSignedRadix cs ∧ ∃ n, Scalar.ofPlain cs = .integer n) ∨
      (IsOverflow cs ∧ Scalar.ofPlain cs = .real (String.ofList cs)) ∨
      ¬ IsSignedRadix cs ∧ ¬ IsOverflow cs ∧ Scalar.ofPlain cs = .text (String.ofList cs) := by
  simp only [readsAsOther, Bool.or_eq_false_iff] at other
  obtain ⟨⟨⟨⟨nonempty, reserved⟩, whole⟩, fractional⟩, -⟩ := other
  cases radix : Scalar.radixInteger? cs with
  | some n =>
    rcases isWholeNumber_or_isSignedRadix unsigned radix with known | signed
    · rw [whole] at known
      cases known
    · exact .inl ⟨signed, n, by rw [Scalar.ofPlain, radix]⟩
  | none =>
    have notRadix : ¬ IsSignedRadix cs := fun ⟨_, reads⟩ => by
      rw [radix] at reads
      cases reads
    have unreserved : ∀ word ∈ reservedWords, cs ≠ word.toList := by
      rintro word among rfl
      rw [String.ofList_toList] at reserved
      exact absurd (List.contains_iff_mem.mpr among) (by rw [reserved]; decide)
    have notInteger : Scalar.integer? cs = none := by
      cases read : Scalar.integer? cs with
      | none => rfl
      | some n =>
        rw [integer?_of_unsigned unsigned] at read
        rw [isWholeNumber_of_signed64 read] at whole
        cases whole
    obtain ⟨notWord, notFinite⟩ := isFractional_of_unsigned unsigned fractional
    rw [ofPlain_of_unreserved radix (by rintro rfl; cases nonempty) unreserved, notInteger]
    cases real : Scalar.isReal cs with
    | true =>
      rw [Scalar.isReal, notWord, Bool.false_or, Bool.and_eq_true] at real
      exact .inr (.inl ⟨⟨real.1, real.2, notFinite⟩, rfl⟩)
    | false =>
      refine .inr (.inr ⟨notRadix, ?_, rfl⟩)
      rintro ⟨digit, number, -⟩
      simp [Scalar.isReal, digit, number] at real

/-- The numeral of a number is read as that number. -/
theorem ofPlain_decimal {n : Nat} (within : n < Nat.pow 2 63) :
    Scalar.ofPlain (Numeral.decimal n) = .integer n := by
  have denotes := Numeral.denotes_decimal n
  generalize Numeral.decimal n = cs at denotes
  have unsigned : '+' ∉ cs := fun among => absurd (denotes.digits '+' among) (by decide)
  have notWord (word : List Char) (other : word.all Char.isDigit = false) : cs ≠ word := by
    rintro rfl
    rw [List.all_eq_true.mpr denotes.digits] at other
    cases other
  have notRadix : Scalar.radixInteger? cs = none := by
    unfold Scalar.radixInteger?
    split
    · exact absurd rfl (notWord _ rfl)
    · exact absurd rfl (notWord _ rfl)
    · rfl
  have unreserved : ∀ word ∈ reservedWords, cs ≠ word.toList := by
    have lettered : (reservedWords.all fun word => !word.toList.all Char.isDigit) = true := by
      decide
    exact fun word among => notWord _ (by simpa using List.all_eq_true.mp lettered word among)
  have integer : Scalar.integer? cs = some (n : Int) := by
    rw [integer?_of_unsigned unsigned]
    unfold Numeral.signed64? Numeral.signed?
    split
    · exact absurd rfl (notWord _ rfl)
    · exact absurd rfl (notWord _ rfl)
    · refine Option.bind_eq_some_iff.mpr ⟨n, Numeral.digits?_eq_some_iff.mpr ⟨denotes, ?_⟩, ?_⟩
      · exact within.le.trans (by decide)
      · exact if_pos ⟨by omega, by omega⟩
  rw [ofPlain_of_unreserved notRadix denotes.nonempty unreserved, integer]

/-! ### What is written

A text of plain characters is written as it is or in single quotes, and which of the two is decided
by what the writer takes it for. -/

/-- Plain characters lie between the dash and the small letters. -/
theorem toNat_of_plain {c : Char} (plain : isPlainCharacter c = true) :
    0x2D ≤ c.toNat ∧ c.toNat ≤ 0x7A := by
  delta isPlainCharacter Char.isAlphanum Char.isAlpha Char.isUpper Char.isLower Char.isDigit at plain
  simp only [Bool.or_eq_true, Bool.and_eq_true, decide_eq_true_eq, beq_iff_eq,
    UInt32.le_iff_toNat_le] at plain
  rcases plain with (((((upper | lower) | digit) | rfl) | rfl) | rfl) | rfl
  · change 65 ≤ c.toNat ∧ c.toNat ≤ 90 at upper
    omega
  · change 97 ≤ c.toNat ∧ c.toNat ≤ 122 at lower
    omega
  · change 48 ≤ c.toNat ∧ c.toNat ≤ 57 at digit
    omega
  all_goals decide

theorem isPrintable_of_plain {c : Char} (plain : isPlainCharacter c = true) :
    isPrintable c = true := by
  obtain ⟨low, high⟩ := toNat_of_plain plain
  simp [isPrintable]
  omega

theorem endsWrittenLine_of_plain {c : Char} (plain : isPlainCharacter c = true) :
    endsWrittenLine c = false := by
  simp only [endsWrittenLine, Bool.or_eq_false_iff, beq_eq_false_iff_ne]
  exact ⟨⟨⟨⟨ne_of_plain plain (by decide), ne_of_plain plain (by decide)⟩,
    ne_of_plain plain (by decide)⟩, ne_of_plain plain (by decide)⟩, ne_of_plain plain (by decide)⟩

theorem anyNeighbours_eq_false {p : Char → Char → Bool} {cs : List Char}
    (apart : ∀ a ∈ cs, ∀ b ∈ cs, p a b = false) : anyNeighbours p cs = false := by
  induction cs with
  | nil => rfl
  | cons a cs ih =>
    cases cs with
    | nil => rfl
    | cons b cs =>
      rw [anyNeighbours, apart a (by simp) b (by simp), Bool.false_or]
      exact ih fun a first b second => apart a (.tail _ first) b (.tail _ second)

section Written

variable {cs : List Char} (plain : ∀ c ∈ cs, isPlainCharacter c = true)

include plain

theorem fitsSingleQuotes_of_plain : fitsSingleQuotes cs = true := by
  have ends : endsLineWithSpace cs = false := anyNeighbours_eq_false fun a first b second => by
    simp [endsWrittenLine_of_plain (plain b second)]
  have starts : startsLineWithSpace cs = false := anyNeighbours_eq_false fun a first b second => by
    simp [endsWrittenLine_of_plain (plain a first)]
  simp [fitsSingleQuotes, ends, starts]
  exact fun c among => isPrintable_of_plain (plain c among)

/-- A text of plain characters is written as it is or in single quotes. -/
theorem writtenStyle_of_plain : writtenStyle cs = .plain ∨ writtenStyle cs = .singleQuoted := by
  have single : ¬ cs.contains '\n' = true := by
    simpa using fun among => ne_of_plain (plain _ among) (by decide) rfl
  unfold writtenStyle
  rw [if_neg single]
  split
  · exact .inl rfl
  · rw [if_pos (fitsSingleQuotes_of_plain plain)]
    exact .inr rfl

/-- A plain text in quotes needs nothing doubled. -/
theorem singleQuotes_of_plain : singleQuotes cs = '\'' :: cs ++ ['\''] := by
  have within : indentLines (fun c => if c = '\'' then ['\'', '\''] else [c]) false cs = cs := by
    induction cs with
    | nil => rfl
    | cons c cs ih =>
      obtain ⟨here, later⟩ := List.forall_mem_cons.mp plain
      have quote : c ≠ '\'' := ne_of_plain here (by decide)
      simp [indentLines, endsWrittenLine_of_plain here, quote, ih later]
  have last : cs.getLast?.any endsWrittenLine = false := by
    cases ends : cs.getLast? with
    | none => rfl
    | some c => exact endsWrittenLine_of_plain (plain c (List.mem_of_getLast? ends))
  simp [singleQuotes, within, last]

end Written

/-- What is written without quotes is taken for nothing else by the writer. -/
theorem readsAsOther_of_unquoted {cs : List Char} (style : writtenStyle cs = .plain) :
    readsAsOther cs = false := by
  unfold writtenStyle at style
  split at style
  · split at style <;> cases style
  · split at style
    · rename_i stands
      simpa using (Bool.and_eq_true_iff.mp stands).2
    · split at style <;> cases style

/-- The line that gives a text under a key. -/
def writtenLine (key : List Char) (text : String) : EntryLine where
  key := key
  style := if writtenStyle text.toList = .plain then .plain else .text
  text := text.toList

/-- What is written for a text of plain characters is the value of its line. -/
theorem writeText_eq {text : String} (plain : ∀ c ∈ text.toList, isPlainCharacter c = true)
    (key : List Char) : writeText text = (writtenLine key text).value ++ ['\n'] := by
  rcases writtenStyle_of_plain plain with style | style
  · simp [writeText, writtenLine, style, EntryLine.value]
  · simp [writeText, writtenLine, style, EntryLine.value, singleQuotes_of_plain plain]

/-- The line of a text of plain characters is a simple one. -/
theorem isSimple_writtenLine {key : List Char} {text : String}
    (plain : ∀ c ∈ text.toList, isPlainCharacter c = true) (named : key ≠ [])
    (short : key.length ≤ keyLength) (word : ∀ c ∈ key, c.isAlpha = true ∨ c = '_') :
    (writtenLine key text).IsSimple where
  named := named
  short := short
  word := word
  characters := plain
  standing style := by
    have unquoted : writtenStyle text.toList = .plain := by
      by_contra quoted
      simp [writtenLine, quoted] at style
    refine ⟨?_, ?_⟩ <;>
    · rintro (same : text.toList = _)
      rw [same] at unquoted
      exact absurd unquoted (by decide)

/-- A text that was written is read as itself, unless it is misread as a number. -/
theorem valueNode_writtenLine {text : String}
    (plain : ∀ c ∈ text.toList, isPlainCharacter c = true) (key : List Char) :
    (¬ Misread text.toList ∧ (writtenLine key text).valueNode = .scalar (.text text)) ∨
      Misread text.toList ∧
        ((IsSignedRadix text.toList ∧
            ∃ n, (writtenLine key text).valueNode = .scalar (.integer n)) ∨
          IsOverflow text.toList ∧ (writtenLine key text).valueNode = .scalar (.real text)) := by
  by_cases style : writtenStyle text.toList = .plain
  · have other : readsAsOther text.toList = false := readsAsOther_of_unquoted style
    have unsigned : '+' ∉ text.toList := fun among => ne_of_plain (plain _ among) (by decide) rfl
    have node : (writtenLine key text).valueNode = .scalar (Scalar.ofPlain text.toList) := by
      simp [EntryLine.valueNode, writtenLine, style, Reader.ofScalar]
    rw [node]
    rcases ofPlain_of_unquoted unsigned other with
      ⟨radix, n, read⟩ | ⟨overflow, read⟩ | ⟨notRadix, notOverflow, read⟩
    · exact .inr ⟨⟨style, .inl radix⟩, .inl ⟨radix, n, by rw [read]⟩⟩
    · exact .inr ⟨⟨style, .inr overflow⟩, .inr ⟨overflow, by rw [read, String.ofList_toList]⟩⟩
    · refine .inl ⟨fun misread => ?_, by rw [read, String.ofList_toList]⟩
      exact misread.2.elim notRadix notOverflow
  · refine .inl ⟨fun misread => style misread.1, ?_⟩
    simp [EntryLine.valueNode, writtenLine, style, Reader.ofScalar]

end ExtractOptions.Yaml

/-
Module: ExtractOptions.Proofs.Run.Hash
Purpose: hashes of positions. A text spells a hash if it is one of its hexadecimal numerals of at
  most sixteen digits, with a mark in front of them and white space around them if one likes. The
  option that matches a hash takes these texts for the hash that they spell, and no other text.
Main exports: Value.SpellsHash, Value.hash?_eq_some_iff, Session.withHash, Call.givingHash,
  hashes_round_trip
-/
import ExtractOptions.Proofs.Run.Given
import ExtractOptions.Proofs.Text.Hexadecimal
import ExtractOptions.Proofs.Text.Pieces

namespace ExtractOptions

open Text

namespace Value

/-- What may stand in front of the digits of a hash. -/
def hashMarks : List (List Char) :=
  [[], ['0', 'x'], ['0', 'X']]

/-- The text spells the hash. -/
inductive SpellsHash (cs : List Char) (hash : Nat) : Prop
  | spelled {before mark digits after : List Char}
    (whole : cs = before ++ (mark ++ digits) ++ after)
    (blankBefore : ∀ c ∈ before, isBlank c = true) (blankAfter : ∀ c ∈ after, isBlank c = true)
    (marks : mark ∈ hashMarks) (short : digits.length ≤ 16)
    (denotes : Numeral.DenotesHex digits hash)

/-! ### The mark in front of the digits

The mark is optional and begins with a digit itself, so it has to be told from the digits. A numeral
that starts with a zero goes on with a digit, the mark with its letter. -/

/-- A text is one of the marks, or none, and the digits behind it. -/
theorem exists_mark_append_hashDigits (cs : List Char) :
    ∃ mark ∈ hashMarks, cs = mark ++ hashDigits cs := by
  unfold hashDigits
  split
  · exact ⟨['0', 'x'], by decide, rfl⟩
  · exact ⟨['0', 'X'], by decide, rfl⟩
  · exact ⟨[], by decide, rfl⟩

/-- The zero that a numeral starts with is no part of a mark. -/
theorem hashDigits_append {mark digits : List Char} (marks : mark ∈ hashMarks)
    (plain : ∀ c ∈ digits, c ≠ 'x' ∧ c ≠ 'X') : hashDigits (mark ++ digits) = digits := by
  simp only [hashMarks, List.mem_cons, List.not_mem_nil, or_false] at marks
  obtain rfl | rfl | rfl := marks
  · rw [List.nil_append]
    unfold hashDigits
    split
    · exact absurd rfl (plain 'x' (by simp)).1
    · exact absurd rfl (plain 'X' (by simp)).2
    · rfl
  · rfl
  · rfl

/-- Digits are told apart from white space and from the letter of a mark. -/
theorem plain_of_hexValue? {c : Char} {d : Nat} (value : Numeral.hexValue? c = some d) :
    isBlank c = false ∧ c ≠ 'x' ∧ c ≠ 'X' := by
  have known : (Numeral.hexValue? c).isSome = true → isBlank c = false ∧ c ≠ 'x' ∧ c ≠ 'X' :=
    of_ascii (P := fun c => (Numeral.hexValue? c).isSome = true →
        isBlank c = false ∧ c ≠ 'x' ∧ c ≠ 'X')
      (by decide +kernel) (Numeral.lt_of_hexValue? value).1
  exact known (Option.isSome_iff_exists.mpr ⟨d, value⟩)

/-! ### What is read

With white space and mark put aside, a text is read as a hexadecimal numeral. One equivalence says
which texts those are, and everything else follows from it. -/

variable {value : String} {hash : Nat}

/-- A text spells what is left of it without white space and mark. -/
theorem spellsHash_iff :
    SpellsHash value.toList hash ↔
      (hashDigits (digitsOf value)).length ≤ 16 ∧
        Numeral.DenotesHex (hashDigits (digitsOf value)) hash := by
  constructor
  · intro spells
    obtain @⟨before, mark, digits, after, whole, blankBefore, blankAfter, marks, short, denotes⟩ :=
      spells
    have plain : ∀ c ∈ digits, isBlank c = false ∧ c ≠ 'x' ∧ c ≠ 'X' := by
      intro c among
      obtain ⟨d, value⟩ := denotes.exists_hexValue? among
      exact plain_of_hexValue? value
    have printed : ∀ c ∈ mark ++ digits, isBlank c = false := by
      intro c among
      rcases List.mem_append.mp among with front | digit
      · have marked : ∀ mark ∈ hashMarks, ∀ c ∈ mark, isBlank c = false := by
          simp [hashMarks, isBlank]
        exact marked mark marks c front
      · exact (plain c digit).1
    have trimmed : digitsOf value = mark ++ digits := by
      rw [digitsOf, whole, trimChars_padded blankBefore blankAfter printed]
    rw [trimmed, hashDigits_append marks fun c among => (plain c among).2]
    exact ⟨short, denotes⟩
  · rintro ⟨short, denotes⟩
    obtain ⟨before, after, blankBefore, blankAfter, whole⟩ := exists_trimmed value.toList
    obtain ⟨mark, marks, parts⟩ := exists_mark_append_hashDigits (trimChars value.toList)
    exact .spelled (parts ▸ whole) blankBefore blankAfter marks short denotes

/-- A hash is read from its spellings, and from nothing else. -/
theorem hash?_eq_some_iff : hash? value = some hash ↔ SpellsHash value.toList hash := by
  unfold hash?
  rw [Option.ite_none_right_eq_some, Numeral.hexadecimal?_eq_some_iff, spellsHash_iff]

/-- What is spelled is a number of 64 bits. -/
theorem SpellsHash.lt_pow {cs : List Char} (spells : SpellsHash cs hash) : hash < 2 ^ 64 := by
  obtain ⟨-, -, -, -, short, denotes⟩ := spells
  exact denotes.lt_pow short (by decide)

/-- A number of 64 bits is spelled by its digits. -/
theorem spellsHash_toDigits (hash : UInt64) :
    SpellsHash (Nat.toDigits 16 hash.toNat) hash.toNat := by
  generalize digits : Nat.toDigits 16 hash.toNat = cs
  have short : cs.length ≤ 16 :=
    digits ▸ (Nat.length_toDigits_le_iff (by decide) (by decide)).mpr hash.toNat_lt
  have denotes : Numeral.DenotesHex cs hash.toNat := digits ▸ Numeral.denotesHex_toDigits _
  have bare : cs = [] ++ ([] ++ cs) ++ [] := by simp
  exact .spelled bare (by simp) (by simp) (by decide) short denotes

end Value

/-! ### Matching a hash

The option adds the hash to those to match. By letter and by name it is given in the same way. -/

/-- The session with the hash among those to match. -/
def Session.withHash (session : Session) (hash : Nat) : Session :=
  { session with
    registry :=
      { session.registry with positionHashes := session.registry.positionHashes ++ [hash] }
    config := session.config.set .positionalVariations true }

/-- The calls that give the value to the option for hashes. -/
def Call.givingHash (value : String) : List Call :=
  [.letter .positionHash value, .commandLine ["-H" ++ value]]

/-- A token that gives an option by letter does what the option does. -/
theorem resolve_positionHash (context : Context) (value : String) :
    resolve context ["-H" ++ value] =
      LetterOption.positionHash.perform context (readArgumentFile context) value := by
  have token : Token.ofText ("-H" ++ value) = .letter 'H' value := by
    simp [Token.ofText, String.toList_append]
  have named : LetterOption.ofLetter? 'H' = some .positionHash := by decide
  have nothing : resolve context [] = pure () := rfl
  rw [resolve, token, nothing]
  simp only [performLetter, named]
  exact bind_pure_unit

/-- A text that spells a hash makes it one to match, and any other text leaves all as it is. -/
theorem run_givingHash {value : String} {call : Call} (gives : call ∈ Call.givingHash value)
    (context : Context) (session : Session) :
    call.run context session =
      match Value.hash? value with
      | none => .error (.usage (.malformedHash value)) session.lettered
      | some hash => .ok () (session.lettered.withHash hash) := by
  have same : call.run context =
      LetterOption.positionHash.perform context (readArgumentFile context) value := by
    simp only [Call.givingHash, List.mem_cons, List.not_mem_nil, or_false] at gives
    obtain rfl | rfl := gives
    · rfl
    · exact resolve_positionHash context value
  rw [same]
  cases read : Value.hash? value <;>
    simp [LetterOption.perform, LetterOption.effect, matchHash, read, Session.lettered,
      Session.withHash]

/-- Every number of 64 bits is a hash that some text spells. A text that spells a hash makes that
number one more to match, and is no other number; any other text is a misuse of the option, and
nothing changes but the count of options. -/
theorem hashes_round_trip :
    (∀ hash : UInt64, Value.SpellsHash (Nat.toDigits 16 hash.toNat) hash.toNat) ∧
    (∀ (value : String) (hash : Nat), Value.SpellsHash value.toList hash →
      hash < 2 ^ 64 ∧ (∀ other, Value.SpellsHash value.toList other → other = hash) ∧
        ∀ (context : Context) (session : Session), ∀ call ∈ Call.givingHash value,
          call.run context session = .ok () (session.lettered.withHash hash)) ∧
    ∀ value : String, (∀ hash, ¬ Value.SpellsHash value.toList hash) →
      ∀ (context : Context) (session : Session), ∀ call ∈ Call.givingHash value,
        call.run context session = .error (.usage (.malformedHash value)) session.lettered := by
  refine ⟨Value.spellsHash_toDigits, fun value hash spells => ?_, fun value wrong => ?_⟩
  · have read : Value.hash? value = some hash := Value.hash?_eq_some_iff.mpr spells
    refine ⟨spells.lt_pow, fun other also => ?_, fun context session call gives => ?_⟩
    · exact Option.some.inj ((Value.hash?_eq_some_iff.mpr also).symm.trans read)
    · rw [run_givingHash gives, read]
  · intro context session call gives
    have unread : Value.hash? value = none := by
      rw [Option.eq_none_iff_forall_not_mem]
      exact fun hash read => wrong hash (Value.hash?_eq_some_iff.mp read)
    rw [run_givingHash gives, unread]

/-- Digits of mixed case behind zeros and a mark, with white space around them; and a mark with no
digits behind it. -/
theorem hashes_round_trip_marked :
    Value.SpellsHash " 0X00fF\t".toList 255 ∧
      (∃ left, (Call.letter .positionHash " 0X00fF\t").run {} { disk := ⟨[], []⟩ } = .ok () left ∧
        left.registry.positionHashes = [255]) ∧
      (∀ hash, ¬ Value.SpellsHash "0x".toList hash) ∧
      ∃ left, (Call.commandLine ["-H0x"]).run {} { disk := ⟨[], []⟩ } =
        .error (.usage (.malformedHash "0x")) left := by
  have spells : Value.SpellsHash " 0X00fF\t".toList 255 :=
    Value.hash?_eq_some_iff.mp (by decide +kernel)
  have unread : Value.hash? "0x" = none := by decide +kernel
  have wrong : ∀ hash, ¬ Value.SpellsHash "0x".toList hash := by
    intro hash spells
    rw [Value.hash?_eq_some_iff.mpr spells] at unread
    cases unread
  obtain ⟨-, taken, refused⟩ := hashes_round_trip
  obtain ⟨-, -, run⟩ := taken _ _ spells
  exact ⟨spells, ⟨_, run {} { disk := ⟨[], []⟩ } _ List.mem_cons_self, rfl⟩, wrong,
    _, refused _ wrong {} { disk := ⟨[], []⟩ } _ (List.mem_cons_of_mem _ List.mem_cons_self)⟩

end ExtractOptions

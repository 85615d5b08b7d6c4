/-
Module: ExtractOptions.Proofs.Run.Format
Purpose: the notations of moves are recognised exactly. A text names a notation if it is one of
  their names in any mix of ASCII upper and lower case, or the name of the standard one with six
  letters behind it, which keep their case. The option that chooses a notation takes these texts and
  leaves everything as it is for any other.
Main exports: OutputFormat.IsNamed, OutputFormat.foldCase, OutputFormat.parse?_eq_some_iff,
  OutputFormat.map_foldCase_parse?, Session.withFormat, formats_recognised
-/
import ExtractOptions.Proofs.Config.Change
import ExtractOptions.Proofs.Run.Given
import ExtractOptions.Proofs.Text.Case
import ExtractOptions.Text.Utf8

namespace ExtractOptions

open Text

/-- Whether letters can stand for pieces does not depend on their case. -/
theorem arePieceLetters_map_toLower (cs : List Char) :
    OutputFormat.arePieceLetters (cs.map Char.toLower) = OutputFormat.arePieceLetters cs := by
  unfold OutputFormat.arePieceLetters
  rw [List.length_map, List.all_map]
  simp only [Function.comp_def, isAlphabetic_toLower]

namespace OutputFormat

/-- The text names the format, in any mix of ASCII upper and lower case. -/
inductive IsNamed (text : String) : OutputFormat → Prop
  | name {name : String} {format : OutputFormat} (listed : (name, format) ∈ names)
    (spelled : text.toLower = name) : IsNamed text format
  | letters {san letters : List Char} (whole : text.toList = san ++ letters)
    (spelled : san.map Char.toLower = ['s', 'a', 'n']) (six : letters.length = 6)
    (alphabetic : ∀ c ∈ letters, isAlphabetic c = true) :
    IsNamed text (.san (some (String.ofList letters)))

/-- The format with its piece letters, if it has any, in lower case. -/
def foldCase : OutputFormat → OutputFormat
  | san (some letters) => san (some letters.toLower)
  | format => format

/-- Piece letters are six alphabetic characters. -/
theorem arePieceLetters_iff {cs : List Char} :
    arePieceLetters cs = true ↔ cs.length = 6 ∧ ∀ c ∈ cs, isAlphabetic c = true := by
  simp [arePieceLetters]

/-- No name is listed twice. -/
theorem lookup_names_iff {key : String} {format : OutputFormat} :
    names.lookup key = some format ↔ (key, format) ∈ names := by
  constructor
  · intro found
    obtain ⟨before, after, parts, -⟩ := List.lookup_eq_some_iff.mp found
    rw [parts]
    exact List.mem_append_right before List.mem_cons_self
  · intro listed
    have each : ∀ entry ∈ names, names.lookup entry.1 = some entry.2 := by decide
    exact each _ listed

/-- No name is as long as one with piece letters. -/
theorem lookup_names_of_length {key : String} (long : key.toList.length = 9) :
    names.lookup key = none := by
  rw [Option.eq_none_iff_forall_not_mem]
  intro format found
  have shorter : ∀ entry ∈ names, entry.1.toList.length ≠ 9 := by decide
  exact shorter _ (lookup_names_iff.mp found) long

variable {text other : String} {format : OutputFormat}

/-- What is spelled like the standard notation has three characters. -/
theorem length_of_spelled {san : List Char} (spelled : san.map Char.toLower = ['s', 'a', 'n']) :
    san.length = 3 := by
  rw [← List.length_map Char.toLower, spelled]
  rfl

/-- The characters before the piece letters are three, and piece letters are six. -/
theorem length_of_letters {san letters : List Char} (whole : text.toList = san ++ letters)
    (spelled : san.map Char.toLower = ['s', 'a', 'n']) (six : letters.length = 6) :
    san.length = 3 ∧ text.toLower.toList.length = 9 := by
  have three : san.length = 3 := length_of_spelled spelled
  refine ⟨three, ?_⟩
  rw [toList_toLower, List.length_map, whole, List.length_append, three, six]

/-- A format is recognised by its names, and nothing else is recognised. -/
theorem parse?_eq_some_iff : parse? text = some format ↔ IsNamed text format := by
  constructor
  · intro read
    unfold parse? at read
    split at read
    · rename_i listed found
      cases read
      exact .name (lookup_names_iff.mp found) rfl
    · obtain ⟨⟨spelled, letters⟩, same⟩ := Option.ite_none_right_eq_some.mp read
      cases same
      obtain ⟨six, alphabetic⟩ := arePieceLetters_iff.mp letters
      exact .letters (List.take_append_drop 3 text.toList).symm spelled six alphabetic
  · intro named
    unfold parse?
    cases named with
    | name listed spelled =>
      subst spelled
      rw [lookup_names_iff.mpr listed]
    | @letters san letters whole spelled six alphabetic =>
      obtain ⟨three, long⟩ := length_of_letters whole spelled six
      have front : text.toList.take 3 = san := by rw [whole, ← three, List.take_left]
      have back : text.toList.drop 3 = letters := by rw [whole, ← three, List.drop_left]
      simp only [lookup_names_of_length long, front, back]
      rw [if_pos ⟨spelled, arePieceLetters_iff.mpr ⟨six, alphabetic⟩⟩]

/-- Texts that differ in letter case only name the same format, up to the case of piece letters. -/
theorem map_foldCase_parse? (same : text.toLower = other.toLower) :
    (parse? text).map foldCase = (parse? other).map foldCase := by
  have chars : text.toList.map Char.toLower = other.toList.map Char.toLower := by
    have lists := congrArg String.toList same
    rwa [toList_toLower, toList_toLower] at lists
  have front : (text.toList.take 3).map Char.toLower = (other.toList.take 3).map Char.toLower := by
    rw [List.map_take, List.map_take, chars]
  have back : (text.toList.drop 3).map Char.toLower = (other.toList.drop 3).map Char.toLower := by
    rw [List.map_drop, List.map_drop, chars]
  have letters : arePieceLetters (text.toList.drop 3) = arePieceLetters (other.toList.drop 3) := by
    rw [← arePieceLetters_map_toLower, back, arePieceLetters_map_toLower]
  unfold parse?
  rw [same, front]
  cases names.lookup other.toLower with
  | some format => rfl
  | none =>
    have folded : (String.ofList (text.toList.drop 3)).toLower =
        (String.ofList (other.toList.drop 3)).toLower := by
      apply String.toList_injective
      rw [toList_toLower, toList_toLower, String.toList_ofList, String.toList_ofList, back]
    simp only [letters]
    split
    · simp only [Option.map_some, foldCase, folded]
    · rfl

/-! ### Piece letters

The program cuts a text after three bytes. The name in front is ASCII, so this is a cut after three
characters, and it cannot fall within a character. -/

/-- The name in front of the piece letters has a byte for each of its characters. -/
theorem length_encode_san {san : List Char} (spelled : san.map Char.toLower = ['s', 'a', 'n']) :
    (Utf8.encode (String.ofList san)).length = 3 := by
  have ascii : ∀ c ∈ san, (String.utf8EncodeChar c).length = 1 := by
    intro c among
    have lower : c.toLower ∈ ['s', 'a', 'n'] := spelled ▸ List.mem_map_of_mem among
    have small : ∀ d ∈ ['s', 'a', 'n'], d.toNat < 0x80 := by simp
    have low : c.toNat < 0x80 := lt_of_toLower_lt (small _ lower)
    rw [String.length_utf8EncodeChar, Char.utf8Size_eq_one_iff]
    exact UInt32.le_iff_toNat_le.mpr (Nat.le_of_lt_succ low)
  unfold Utf8.encode
  rw [String.toList_ofList, List.length_flatMap, List.map_congr_left ascii]
  simp [length_of_spelled spelled]

/-- The piece letters are what the text has behind its first three characters, which are as many
bytes. -/
theorem exists_of_parse?_letters {letters : String}
    (read : parse? text = some (.san (some letters))) :
    ∃ san, text = san ++ letters ∧ san.toList.length = 3 ∧ (Utf8.encode san).length = 3 ∧
      letters.toList.length = 6 := by
  generalize named : OutputFormat.san (some letters) = format at read
  cases parse?_eq_some_iff.mp read with
  | name listed spelled =>
    have bare : ∀ entry ∈ names, ∀ letters, entry.2 ≠ .san (some letters) := by
      simp [names]
    exact absurd named.symm (bare _ listed letters)
  | @letters front back whole spelled six alphabetic =>
    cases named
    refine ⟨String.ofList front, ?_, ?_, length_encode_san spelled, by rwa [String.toList_ofList]⟩
    · rw [← String.ofList_append, ← whole, String.ofList_toList]
    · rw [String.toList_ofList]
      exact (length_of_letters whole spelled six).1

end OutputFormat

/-! ### Choosing a format

The option changes nothing for a text that names no format, and only fails then. -/

/-- The session with the format chosen. Only the notation that keeps a game on one line changes
anything else. -/
def Session.withFormat (session : Session) : OutputFormat → Session
  | .uci =>
    { session with
      config := { session.config.stripped with lineLength := uciLineLength, outputFormat := .uci }
      registry := { session.registry with lineLength := some uciLineLength } }
  | format => { session with config := { session.config with outputFormat := format } }

/-- A text that is recognised chooses its format, and any other text leaves all as it is. -/
theorem run_outputFormat (context : Context) (session : Session) (text : String) :
    (Call.letter .outputFormat text).run context session =
      match OutputFormat.parse? text with
      | none => .error (.usage (.unknownFormat text)) session.lettered
      | some format => .ok () (session.lettered.withFormat format) := by
  cases read : OutputFormat.parse? text with
  | none => simp [Call.run, LetterOption.perform, LetterOption.effect, selectFormat, read,
      Session.lettered]
  | some format =>
    cases format <;>
      simp [Call.run, LetterOption.perform, LetterOption.effect, selectFormat, read,
        Session.lettered, Session.withFormat, Config.stripped]

/-- A notation is recognised exactly by its names, in any mix of ASCII upper and lower case, and by
the standard name with six letters behind it; these are what the text has behind its first three
bytes. Letter case makes no difference but to them. An option with a text that is recognised chooses
that notation, and with any other text it fails and changes nothing. -/
theorem formats_recognised :
    (∀ text format, OutputFormat.parse? text = some format ↔ OutputFormat.IsNamed text format) ∧
    (∀ text letters, OutputFormat.parse? text = some (.san (some letters)) →
      ∃ san, text = san ++ letters ∧ san.toList.length = 3 ∧ (Utf8.encode san).length = 3 ∧
        letters.toList.length = 6) ∧
    (∀ text other : String, text.toLower = other.toLower →
      (OutputFormat.parse? text).map OutputFormat.foldCase =
        (OutputFormat.parse? other).map OutputFormat.foldCase) ∧
    ∀ (context : Context) (session : Session) (text : String),
      (Call.letter .outputFormat text).run context session =
        match OutputFormat.parse? text with
        | none => .error (.usage (.unknownFormat text)) session.lettered
        | some format => .ok () (session.lettered.withFormat format) :=
  ⟨fun _ _ => OutputFormat.parse?_eq_some_iff, fun _ _ => OutputFormat.exists_of_parse?_letters,
    fun _ _ => OutputFormat.map_foldCase_parse?, run_outputFormat⟩

/-- Piece letters of two bytes each, behind the name in mixed case. -/
theorem formats_recognised_letters :
    OutputFormat.parse? "SaNпкСлФк" = some (.san (some "пкСлФк")) ∧
      (∃ san, "SaNпкСлФк" = san ++ "пкСлФк" ∧ san.toList.length = 3 ∧
        (Utf8.encode san).length = 3 ∧ "пкСлФк".toList.length = 6) ∧
      "UCI".toLower = "uCi".toLower ∧
      (OutputFormat.parse? "UCI").map OutputFormat.foldCase =
        (OutputFormat.parse? "uCi").map OutputFormat.foldCase := by
  have read : OutputFormat.parse? "SaNпкСлФк" = some (.san (some "пкСлФк")) := by decide +kernel
  have upper : "UCI".toLower = "uci" := by decide +kernel
  have mixed : "uCi".toLower = "uci" := by decide +kernel
  have same : "UCI".toLower = "uCi".toLower := upper.trans mixed.symm
  obtain ⟨-, letters, folded, -⟩ := formats_recognised
  exact ⟨read, letters _ _ read, same, folded _ _ same⟩

end ExtractOptions

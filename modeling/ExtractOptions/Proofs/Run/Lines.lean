/-
Module: ExtractOptions.Proofs.Run.Lines
Purpose: a file is read as its lines, whatever bytes it holds. A piece of the file that is UTF-8
  holds one line, which is what is left without the carriage returns at its end. Reading hands out
  the lines of the pieces in order and stops at the first piece that is not UTF-8; and what was read
  and is written again, each line with a newline, reads the same.
Main exports: IsUtf8, HoldsLine, lineText?_eq_some_iff, rawLines_induction, length_rawLines,
  LineReader.Yields, Session.Reads, Session.lines_of_file
-/
import ExtractOptions.Proofs.Disk.Frame
import ExtractOptions.Proofs.Disk.Written
import ExtractOptions.Proofs.Run.Reading
import ExtractOptions.Proofs.Text.WellFormed
import Mathlib.Data.List.Forall2

namespace ExtractOptions

open Text

/-! ### Pieces and the lines that they hold

A piece may end in carriage returns, and these are taken off however many there are. `HoldsLine`
says this without the function that does it, and determines the line. -/

/-- The bytes are those of a text. -/
def IsUtf8 (piece : List UInt8) : Prop :=
  ∃ text, Utf8.encode text = piece

/-- The byte of a carriage return. -/
def carriageReturn : UInt8 := 13

/-- The piece consists of the bytes of the line and of carriage returns after them, and none of
these is left to the line. -/
def HoldsLine (piece : List UInt8) (line : String) : Prop :=
  (∃ returns, piece = Utf8.encode line ++ List.replicate returns carriageReturn) ∧
    line.toList.getLast? ≠ some '\r'

/-- A carriage return has one byte. -/
theorem encode_returns (returns : Nat) :
    Utf8.encode (String.ofList (List.replicate returns '\r')) =
      List.replicate returns carriageReturn := by
  have single : String.utf8EncodeChar '\r' = [carriageReturn] := by decide
  induction returns with
  | zero => rfl
  | succ returns ih =>
    unfold Utf8.encode at ih ⊢
    rw [String.toList_ofList] at ih ⊢
    rw [List.replicate_succ, List.flatMap_cons, ih, single, List.replicate_succ,
      List.singleton_append]

/-- The text of a piece is the line that it holds. -/
theorem lineText?_eq_some_iff {piece : List UInt8} {line : String} :
    lineText? piece = some line ↔ HoldsLine piece line := by
  unfold lineText?
  rw [Option.map_eq_some_iff]
  constructor
  · rintro ⟨text, decodes, rfl⟩
    obtain ⟨returns, parts⟩ := exists_replicate_dropEndWhile text.toList '\r'
    have whole : text = String.ofList (dropEndWhile (· == '\r') text.toList) ++
        String.ofList (List.replicate returns '\r') := by
      rw [← String.ofList_append, ← parts, String.ofList_toList]
    refine ⟨⟨returns, ?_⟩, ?_⟩
    · rw [← Utf8.decode?_eq_some_iff_encode.mp decodes, ← encode_returns, ← Utf8.encode_append,
        ← whole]
    · rw [String.toList_ofList, ← dropEndWhile_eq_self_iff]
      exact List.rdropWhile_idempotent _ _
  · rintro ⟨⟨returns, rfl⟩, bare⟩
    refine ⟨line ++ String.ofList (List.replicate returns '\r'), ?_, ?_⟩
    · rw [← encode_returns, ← Utf8.encode_append, Utf8.decode?_encode]
    · rw [String.toList_append, String.toList_ofList, dropEndWhile_append_replicate bare,
        String.ofList_toList]

/-- A piece has no text exactly if it is not UTF-8. -/
theorem lineText?_eq_none_iff {piece : List UInt8} : lineText? piece = none ↔ ¬ IsUtf8 piece := by
  unfold lineText? IsUtf8
  rw [Option.map_eq_none_iff, Option.eq_none_iff_forall_not_mem, not_exists]
  simp only [Option.mem_def, Utf8.decode?_eq_some_iff_encode]

/-- A piece without a newline holds a text that can stand on a line of its own. -/
theorem HoldsLine.isLine {piece : List UInt8} {line : String} (holds : HoldsLine piece line)
    (single : newline ∉ piece) : IsLine line := by
  obtain ⟨⟨returns, rfl⟩, bare⟩ := holds
  refine ⟨fun among => single ?_, bare⟩
  have own : newline ∈ String.utf8EncodeChar '\n' := by decide
  exact List.mem_append_left _ (List.mem_flatMap.mpr ⟨'\n', among, own⟩)

/-! ### The pieces of a file

An induction principle that goes through a file piece by piece. The definitions split bytes at
newlines, and with the principle no proof has to. -/

/-- Bytes are none, or have no newline, or are a piece with its newline and other bytes. -/
theorem rawLines_induction {motive : List UInt8 → Prop} (nothing : motive [])
    (unended : ∀ bytes, bytes ≠ [] → newline ∉ bytes → motive bytes)
    (ended : ∀ piece after, newline ∉ piece → motive after → motive (piece ++ newline :: after))
    (bytes : List UInt8) : motive bytes := by
  induction length : bytes.length using Nat.strongRecOn generalizing bytes with
  | ind size ih =>
    by_cases more : bytes = []
    · rwa [more]
    · by_cases present : newline ∈ bytes
      · obtain ⟨piece, after, rfl, single⟩ := List.eq_append_cons_of_mem present
        have shorter : after.length < size := by
          rw [← length, List.length_append, List.length_cons]
          omega
        exact ended piece after single (ih _ shorter after rfl)
      · exact unended bytes more present

/-- The pieces of a file hold no newline. -/
theorem newline_notMem_of_mem_rawLines {bytes piece : List UInt8} (among : piece ∈ rawLines bytes) :
    newline ∉ piece := by
  induction bytes using rawLines_induction with
  | nothing => cases among
  | unended bytes more single =>
    rw [rawLines_of_notMem single more, List.mem_singleton] at among
    rwa [among]
  | ended first after single ih =>
    rw [rawLines_append single] at among
    rcases List.mem_cons.mp among with rfl | later
    · exact single
    · exact ih later

/-- There is a line for each newline, and one for what follows the last of them. -/
theorem length_rawLines (bytes : List UInt8) :
    (rawLines bytes).length =
      bytes.count newline + if bytes ≠ [] ∧ bytes.getLast? ≠ some newline then 1 else 0 := by
  induction bytes using rawLines_induction with
  | nothing => rfl
  | unended bytes more single =>
    have last : bytes.getLast? ≠ some newline := fun ends => single (List.mem_of_getLast? ends)
    rw [rawLines_of_notMem single more, List.count_eq_zero_of_not_mem single, if_pos ⟨more, last⟩]
    rfl
  | ended piece after single ih =>
    have ends : (piece ++ newline :: after).getLast? = some (after.getLast?.getD newline) := by
      rw [List.getLast?_append_cons, List.getLast?_cons]
    have open_iff : piece ++ newline :: after ≠ [] ∧
        (piece ++ newline :: after).getLast? ≠ some newline ↔
          after ≠ [] ∧ after.getLast? ≠ some newline := by
      rw [ends]
      cases last : after.getLast? with
      | none => simp [List.getLast?_eq_none_iff.mp last]
      | some byte =>
        have more : after ≠ [] := by
          rintro rfl
          cases last
        simp [more]
    rw [rawLines_append single, List.length_cons, ih, List.count_append,
      List.count_eq_zero_of_not_mem single, List.count_cons_self, if_congr open_iff rfl rfl]
    omega

/-- Pieces that are UTF-8 hold a line each. -/
theorem exists_lines_of_isUtf8 {pieces : List (List UInt8)}
    (sound : ∀ piece ∈ pieces, IsUtf8 piece) : ∃ lines, List.Forall₂ HoldsLine pieces lines := by
  induction pieces with
  | nil => exact ⟨[], .nil⟩
  | cons piece pieces ih =>
    obtain ⟨lines, held⟩ := ih fun other among => sound other (List.mem_cons_of_mem piece among)
    cases text : lineText? piece with
    | none => exact absurd (sound piece List.mem_cons_self) (lineText?_eq_none_iff.mp text)
    | some line => exact ⟨line :: lines, .cons (lineText?_eq_some_iff.mp text) held⟩

/-- Pieces that hold lines have these lines for their texts. -/
theorem map_lineText?_of_holds {pieces : List (List UInt8)} {lines : List String}
    (held : List.Forall₂ HoldsLine pieces lines) : pieces.map lineText? = lines.map some := by
  induction held with
  | nil => rfl
  | cons holds _ ih => rw [List.map_cons, List.map_cons, lineText?_eq_some_iff.mpr holds, ih]

namespace Lines

variable {bytes : List UInt8} {lines : List String}

/-- A file whose pieces hold lines is read as these lines. -/
theorem ofBytes_of_holds (held : List.Forall₂ HoldsLine (rawLines bytes) lines) :
    ofBytes bytes = ⟨lines, none⟩ := by
  have texts : fileTexts bytes = lines.map some := map_lineText?_of_holds held
  rcases ofBytes_cases bytes with ⟨others, same, read⟩ | ⟨others, later, same, read⟩
  · rw [texts, List.map_inj_right fun _ _ => Option.some.inj] at same
    rw [read, same]
  · have broken : none ∈ lines.map some := by
      rw [← texts, same]
      simp
    simp at broken

/-- A piece that is not UTF-8 stops the reading. -/
theorem ofBytes_of_broken {sound later : List (List UInt8)} {broken : List UInt8}
    (pieces : rawLines bytes = sound ++ broken :: later)
    (held : List.Forall₂ HoldsLine sound lines) (illFormed : ¬ IsUtf8 broken) :
    ofBytes bytes = ⟨lines, some .notUtf8⟩ := by
  have texts : fileTexts bytes = lines.map some ++ none :: later.map lineText? := by
    rw [fileTexts, pieces, List.map_append, map_lineText?_of_holds held, List.map_cons,
      lineText?_eq_none_iff.mpr illFormed]
  rcases ofBytes_cases bytes with ⟨others, same, read⟩ | ⟨others, beyond, same, read⟩
  · have broken : none ∈ others.map some := by
      rw [← same, texts]
      simp
    simp at broken
  · rw [read, eq_of_map_some_append (same.symm.trans texts)]

/-- The lines that are read can be written again. -/
theorem isLine_of_mem_ofBytes {line : String} (among : line ∈ (ofBytes bytes).lines) :
    IsLine line := by
  have read : some line ∈ fileTexts bytes := by
    rcases ofBytes_cases bytes with ⟨lines, texts, whole⟩ | ⟨lines, later, texts, broken⟩
    · rw [whole] at among
      rw [texts]
      exact List.mem_map_of_mem among
    · rw [broken] at among
      rw [texts]
      exact List.mem_append_left _ (List.mem_map_of_mem among)
  obtain ⟨piece, present, text⟩ := List.mem_map.mp read
  exact (lineText?_eq_some_iff.mp text).isLine (newline_notMem_of_mem_rawLines present)

end Lines

/-! ### Reading a file

Both ways to read a file hand out the same lines: all at once, and one by one with a reader. The
inductive `Yields` says what a reader hands out when it is asked again and again. -/

/-- A reader that is asked again and again hands out these lines one after the other, and then ends
or fails. The session stays as it is. -/
inductive LineReader.Yields (session : Session) :
    LineReader → List String → Option Failure → Prop
  | ended {reader : LineReader} (next : nextLine reader session = .ok none session) :
    Yields session reader [] none
  | failed {reader : LineReader} {failure : Failure}
      (next : nextLine reader session = .error failure session) :
    Yields session reader [] (some failure)
  | line {reader later : LineReader} {line : String} {lines : List String}
      {ending : Option Failure} (next : nextLine reader session = .ok (some (line, later)) session)
      (rest : Yields session later lines ending) :
    Yields session reader (line :: lines) ending

/-- What a reading comes to after the last line. -/
def readingEnds (ending : Option Failure) : Action Unit :=
  match ending with
  | some failure => throw failure
  | none => pure ()

/-- The file at the path is read as these lines, one after the other, and then the reading ends or
fails: for a reader that is asked line by line, and for a loop over the lines. -/
structure Session.Reads (session : Session) (path : String) (lines : List String)
    (ending : Option Failure) : Prop where
  lineByLine : ∃ reader, session.disk.openReader path = .ok reader ∧
    reader.Yields session lines ending
  inLoop : ∀ visit : String → Action Unit,
    Action.forLines path visit session =
      (do
        lines.forM visit
        readingEnds ending : Action Unit) session

/-- A reader yields the lines that it has left. -/
theorem LineReader.Supplies.yields {session : Session} {reader : LineReader} {lines : List String}
    {failure : Option IoError} (supplies : reader.Supplies session.disk ⟨lines, failure⟩) :
    reader.Yields session lines (failure.map (.resource reader.path .reading ·)) := by
  induction lines generalizing reader with
  | nil =>
    have next := supplies.next_nil
    cases failure with
    | none =>
      refine .ended ?_
      rw [nextLine_apply, next]
    | some cause =>
      refine .failed ?_
      rw [nextLine_apply, next]
  | cons line lines ih =>
    obtain ⟨later, next, path, -, left⟩ := supplies.next_cons
    have given : nextLine reader session = .ok (some (line, later)) session := by
      rw [nextLine_apply, next]
    exact .line given (path ▸ ih left)

/-- A file is read as the lines that its bytes hold. -/
theorem Session.reads_of_find {session : Session} {path : String} {place : Location}
    {bytes : List UInt8} (found : session.disk.find path = .ok (place, .file bytes)) :
    session.Reads path (Lines.ofBytes bytes).lines
      ((Lines.ofBytes bytes).failure.map (.resource path .reading ·)) where
  lineByLine := by
    have supplies : LineReader.Supplies { path, place } session.disk (Lines.ofBytes bytes) :=
      LineReader.supplies_opened (Disk.node?_of_find found)
    exact ⟨{ path, place }, Disk.openReader_of_find found, supplies.yields⟩
  inLoop visit := by
    have lines : Action.readLines path session = .ok (Lines.ofBytes bytes) session := by
      simp [Action.readLines, Disk.readLines_of_find found]
    unfold Action.forLines
    rw [Action.bind_apply, lines]
    obtain ⟨texts, failure⟩ := Lines.ofBytes bytes
    cases failure <;> rfl

/-- Whatever bytes a file holds, it is read as the lines of its pieces. If all pieces are UTF-8,
there is a line for each newline and one for what follows the last of them; otherwise the reading
fails after the lines of the pieces before the first that is not UTF-8. A file with the lines that
were read is read as the same lines. -/
theorem Session.lines_of_file {session : Session} {path : String} {place : Location}
    {bytes : List UInt8} (found : session.disk.find path = .ok (place, .file bytes)) :
    ∃ lines ending, session.Reads path lines ending ∧
      ((∀ piece ∈ rawLines bytes, IsUtf8 piece) →
        ending = none ∧ List.Forall₂ HoldsLine (rawLines bytes) lines ∧
          lines.length =
            bytes.count newline + if bytes ≠ [] ∧ bytes.getLast? ≠ some newline then 1 else 0) ∧
      (∀ sound broken later, rawLines bytes = sound ++ broken :: later →
        (∀ piece ∈ sound, IsUtf8 piece) → ¬ IsUtf8 broken →
          ending = some (.resource path .reading .notUtf8) ∧ List.Forall₂ HoldsLine sound lines) ∧
      ∀ (other : Session) (copy : String) (spot : Location),
        other.disk.find copy = .ok (spot, .file (Lines.written lines)) →
          other.Reads copy lines none := by
  refine ⟨_, _, reads_of_find found, fun sound => ?_, ?_, ?_⟩
  · obtain ⟨lines, held⟩ := exists_lines_of_isUtf8 sound
    rw [Lines.ofBytes_of_holds held]
    exact ⟨rfl, held, held.length_eq.symm.trans (length_rawLines bytes)⟩
  · intro sound broken later pieces whole illFormed
    obtain ⟨lines, held⟩ := exists_lines_of_isUtf8 whole
    rw [Lines.ofBytes_of_broken pieces held illFormed]
    exact ⟨rfl, held⟩
  · intro other copy spot written
    have again : Lines.ofBytes (Lines.written (Lines.ofBytes bytes).lines) =
        ⟨(Lines.ofBytes bytes).lines, none⟩ :=
      Lines.ofBytes_written fun _ => Lines.isLine_of_mem_ofBytes
    have reads := reads_of_find written
    rw [again] at reads
    exact reads

/-- A file with carriage returns, an empty line and a piece that is not UTF-8 behind them, and a
file with the two lines that are read from it. -/
theorem Session.lines_of_file_broken :
    let bytes : List UInt8 := [0xC3, 0xA9, 13, 13, 10, 10, 255, 10, 98]
    let session : Session :=
      { disk :=
          { nodes := [(["list"], .file bytes), (["copy"], .file [0xC3, 0xA9, 10, 10])]
            workingDirectory := [] } }
    session.disk.find "list" = .ok (["list"], .file bytes) ∧
      session.Reads "list" ["é", ""] (some (.resource "list" .reading .notUtf8)) ∧
      session.Reads "copy" ["é", ""] none := by
  intro bytes session
  have found : session.disk.find "list" = .ok (["list"], .file bytes) := by decide +kernel
  have pieces : rawLines bytes = [[0xC3, 0xA9, 13, 13], []] ++ [255] :: [[98]] := by
    decide +kernel
  have sound : ∀ piece ∈ [[0xC3, 0xA9, 13, 13], []], IsUtf8 piece := by
    intro piece among
    rcases List.mem_pair.mp among with rfl | rfl
    · exact ⟨"é\r\r", by decide +kernel⟩
    · exact ⟨"", rfl⟩
  have illFormed : ¬ IsUtf8 [255] := lineText?_eq_none_iff.mp (by decide +kernel)
  obtain ⟨lines, ending, reads, -, stops, again⟩ := lines_of_file found
  obtain ⟨rfl, held⟩ := stops _ _ _ pieces sound illFormed
  have texts : [some "é", some ""] = lines.map some := by
    rw [← map_lineText?_of_holds held]
    decide +kernel
  obtain rfl : ["é", ""] = lines :=
    (List.map_inj_right fun _ _ => Option.some.inj).mp texts
  exact ⟨found, reads, again session "copy" ["copy"] (by decide +kernel)⟩

end ExtractOptions

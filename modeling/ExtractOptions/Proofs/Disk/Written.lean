/-
Module: ExtractOptions.Proofs.Disk.Written
Purpose: lines written to a file are read back. A line can be written if it holds no newline and
  does not end in a carriage return, which would be taken for a part of the line end.
Main exports: IsLine, Lines.written, Lines.ofBytes_written
-/
import ExtractOptions.Proofs.Disk.Pieces
import Mathlib.Data.List.DropRight

namespace ExtractOptions

open Text

/-- A text that can stand on a line of its own. -/
def IsLine (text : String) : Prop :=
  '\n' ∉ text.toList ∧ text.toList.getLast? ≠ some '\r'

instance (text : String) : Decidable (IsLine text) :=
  inferInstanceAs (Decidable (_ ∧ _))

namespace Lines

/-- The bytes of some lines, each with a newline at its end. -/
def written (lines : List String) : List UInt8 :=
  lines.flatMap fun line => Utf8.encode (line ++ "\n")

/-- The bytes of a text on one line hold no newline. -/
theorem newline_notMem_encode {text : String} (single : '\n' ∉ text.toList) :
    newline ∉ Utf8.encode text := by
  intro among
  obtain ⟨c, present, among⟩ := List.mem_flatMap.mp among
  have code : c.toNat = 10 := Utf8.mem_encodeChar_ascii (by decide) among
  have same : c = '\n' := by
    rw [← Char.ofNat_toNat c, code]
  exact single (same ▸ present)

theorem encode_line (line : String) :
    Utf8.encode (line ++ "\n") = Utf8.encode line ++ [newline] :=
  Utf8.encode_append line "\n"

/-- The first line is the first piece. -/
theorem nextPiece_written {line : String} (single : '\n' ∉ line.toList) (rest : List UInt8) :
    nextPiece (Utf8.encode (line ++ "\n") ++ rest) = (Utf8.encode (line ++ "\n"), rest) := by
  rw [encode_line, List.append_assoc, List.singleton_append,
    nextPiece_append (newline_notMem_encode single)]

/-- What is left of a line without its newline. -/
theorem lineOfPiece?_encode {line : String} (isLine : IsLine line) :
    lineOfPiece? (Utf8.encode (line ++ "\n")) = some line := by
  obtain ⟨single, last⟩ := isLine
  have kept : line.toList.rdropWhile (· == '\r') = line.toList := by
    rw [List.rdropWhile_eq_self_iff]
    intro more ends
    refine last ?_
    rw [List.getLast?_eq_some_getLast more, eq_of_beq ends]
  rw [encode_line, lineOfPiece?_append_newline (newline_notMem_encode single), lineText?,
    Utf8.decode?_encode, Option.map_some]
  have same : dropEndWhile (· == '\r') line.toList = line.toList := kept
  rw [same, String.ofList_toList]

/-- Lines that were written are read back. -/
theorem ofBytes_written {lines : List String} (all : ∀ line ∈ lines, IsLine line) :
    ofBytes (written lines) = ⟨lines, none⟩ := by
  induction lines with
  | nil => exact ofBytes_nil
  | cons line lines ih =>
    have isLine := all line List.mem_cons_self
    have later := ih fun other among => all other (List.mem_cons_of_mem line among)
    have whole : written (line :: lines) = Utf8.encode (line ++ "\n") ++ written lines :=
      List.flatMap_cons
    have more : Utf8.encode (line ++ "\n") ++ written lines ≠ [] := by
      rw [Utf8.encode_append]
      simp [Utf8.encode]
    rw [whole, ofBytes_cons more, nextPiece_written isLine.1]
    simp only [lineOfPiece?_encode isLine, later]

end Lines

end ExtractOptions

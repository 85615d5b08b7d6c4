/-
Module: ExtractOptions.Proofs.Disk.Pieces
Purpose: the lines of a file without a reader. The bytes are cut at their newlines, and what follows
  the last one is a line only if there is something; each line is UTF-8 or is not, and loses the
  carriage returns at its end. Reading hands out these lines up to the first that is not UTF-8.
Main exports: rawLines, lineText?, fileTexts, Lines.ofBytes_cases,
  Lines.fileTexts_of_whole, Lines.fileTexts_of_broken, Lines.fileTexts_of_among
-/
import ExtractOptions.Proofs.Disk.Lines
import ExtractOptions.Proofs.Text.Pieces
import ExtractOptions.Proofs.Text.Utf8
import Mathlib.Data.List.Basic

namespace ExtractOptions

open Text

/-! ### The bytes of the lines

The lines of a file are described by splitting its bytes at the newlines, with no reader in sight.
That the pieces of a reader are these lines is what the section is for. -/

/-- The bytes of each line. -/
def rawLines (bytes : List UInt8) : List (List UInt8) :=
  let pieces := bytes.splitOn newline
  if pieces.getLast? = some [] then pieces.dropLast else pieces

/-- The text of a line, if its bytes are UTF-8. -/
def lineText? (piece : List UInt8) : Option String :=
  (Utf8.decode? piece).map fun text => String.ofList (dropEndWhile (· == '\r') text.toList)

/-- The text of each line of a file, or nothing for a line that is not UTF-8. -/
def fileTexts (bytes : List UInt8) : List (Option String) :=
  (rawLines bytes).map lineText?

/-- What follows the last newline is a line if there is something. -/
theorem rawLines_of_notMem {bytes : List UInt8} (unended : newline ∉ bytes) (more : bytes ≠ []) :
    rawLines bytes = [bytes] := by
  simp [rawLines, List.splitOn_eq_singleton unended, more]

/-- A newline ends a line, and the lines after it are those of what follows. -/
theorem rawLines_append {before : List UInt8} (unended : newline ∉ before) (after : List UInt8) :
    rawLines (before ++ newline :: after) = before :: rawLines after := by
  obtain ⟨piece, later, pieces⟩ :=
    List.exists_cons_of_ne_nil (List.splitOn_ne_nil newline after)
  simp only [rawLines, List.splitOn_append_cons_self, List.splitOn_eq_singleton unended, pieces,
    List.cons_append, List.nil_append, List.getLast?_cons_cons, List.dropLast_cons_cons]
  split <;> rfl

/-- The first piece is the first line, with its newline if it has one. -/
theorem nextPiece_append {before : List UInt8} (unended : newline ∉ before)
    (after : List UInt8) :
    nextPiece (before ++ newline :: after) = (before ++ [newline], after) := by
  rw [nextPiece_of_not_mem unended, nextPiece_cons, if_pos rfl]

/-- Without a newline all the bytes are one piece. -/
theorem nextPiece_of_notMem {bytes : List UInt8} (unended : newline ∉ bytes) :
    nextPiece bytes = (bytes, []) := by
  have whole := nextPiece_of_not_mem unended []
  simpa using whole

/-! ### The text of a line

A line is decoded after its line end was cut off, and decoding may fail. The fault is then a fault
of that line alone. -/

/-- The line end that is cut off is the newline and the carriage returns before it. -/
theorem lineOfPiece?_of_notMem {piece : List UInt8} (unended : newline ∉ piece) :
    lineOfPiece? piece = lineText? piece := by
  unfold lineOfPiece? lineText?
  cases decodes : Utf8.decode? piece with
  | none => rfl
  | some text =>
    have single : ∀ c ∈ text.toList, (c == '\n' || c == '\r') = (c == '\r') := by
      intro c among
      have other : c ≠ '\n' := by
        rintro rfl
        exact unended (Utf8.newline_mem_of_decode? decodes among)
      simp [other]
    simp only [bind, Option.bind_some, pure, Option.map_some, dropEndWhile_congr single]

/-- A piece with its newline has the text of the line. -/
theorem lineOfPiece?_append_newline {piece : List UInt8} (unended : newline ∉ piece) :
    lineOfPiece? (piece ++ [newline]) = lineText? piece := by
  rw [← lineOfPiece?_of_notMem unended]
  have decodes : Utf8.decode? (piece ++ [newline]) = _ := Utf8.decode?_append_newline piece
  unfold lineOfPiece?
  rw [decodes]
  cases Utf8.decode? piece with
  | none => rfl
  | some text => simp [dropEndWhile, String.toList_append]

/-! ### Reading

Reading stops at the first line that is not UTF-8. What it hands out before that are the lines of
the file, one by one and in order. -/

namespace Lines

/-- Reading hands out the first line, and then what follows it, unless the first line is not
UTF-8. -/
theorem ofBytes_step {bytes : List UInt8} (more : bytes ≠ []) :
    ∃ first after, after.length < bytes.length ∧ rawLines bytes = first :: rawLines after ∧
      ofBytes bytes =
        match lineText? first with
        | none => ⟨[], some .notUtf8⟩
        | some line => { ofBytes after with lines := line :: (ofBytes after).lines } := by
  by_cases ended : newline ∈ bytes
  · obtain ⟨before, after, rfl, unended⟩ := List.eq_append_cons_of_mem ended
    refine ⟨before, after, by simp; omega, rawLines_append unended after, ?_⟩
    have read := ofBytes_cons more
    rw [nextPiece_append unended, lineOfPiece?_append_newline unended] at read
    exact read.trans (by cases lineText? before <;> rfl)
  · have positive := List.length_pos_iff.mpr more
    refine ⟨bytes, [], positive, rawLines_of_notMem ended more, ?_⟩
    have read := ofBytes_cons more
    rw [nextPiece_of_notMem ended, lineOfPiece?_of_notMem ended] at read
    exact read.trans (by cases lineText? bytes <;> rfl)

/-- Reading hands out all lines if all are UTF-8, and else those before the first that is not. -/
theorem ofBytes_cases (bytes : List UInt8) :
    (∃ lines, fileTexts bytes = lines.map some ∧ ofBytes bytes = ⟨lines, none⟩) ∨
      ∃ lines later, fileTexts bytes = lines.map some ++ none :: later ∧
        ofBytes bytes = ⟨lines, some .notUtf8⟩ := by
  induction size : bytes.length using Nat.strongRecOn generalizing bytes with
  | ind size ih =>
    by_cases none : bytes = []
    · subst none
      exact .inl ⟨[], rfl, ofBytes_nil⟩
    · obtain ⟨first, after, shorter, pieces, reads⟩ := ofBytes_step none
      have texts : fileTexts bytes = lineText? first :: fileTexts after := by
        rw [fileTexts, pieces]
        rfl
      cases text : lineText? first with
      | none =>
        rw [text] at texts reads
        exact .inr ⟨[], fileTexts after, texts, reads⟩
      | some line =>
        rw [text] at texts reads
        rcases ih after.length (size ▸ shorter) after rfl with
          ⟨lines, rest, later⟩ | ⟨lines, beyond, rest, later⟩
        · exact .inl ⟨line :: lines, by rw [texts, rest]; rfl, by rw [reads, later]⟩
        · exact .inr ⟨line :: lines, beyond, by rw [texts, rest]; rfl, by rw [reads, later]⟩

section

variable {bytes : List UInt8} {lines : List String}

/-- A file that is read to its end has these lines. -/
theorem fileTexts_of_whole (read : ofBytes bytes = ⟨lines, none⟩) :
    fileTexts bytes = lines.map some := by
  rcases ofBytes_cases bytes with ⟨all, texts, whole⟩ | ⟨all, beyond, texts, broken⟩
  · rw [read] at whole
    cases whole
    exact texts
  · rw [read] at broken
    cases broken

/-- What stops a reading is a line that is not UTF-8. -/
theorem fileTexts_of_broken {cause : IoError} (read : ofBytes bytes = ⟨lines, some cause⟩) :
    cause = .notUtf8 ∧ ∃ later, fileTexts bytes = lines.map some ++ none :: later := by
  rcases ofBytes_cases bytes with ⟨all, texts, whole⟩ | ⟨all, beyond, texts, broken⟩
  · rw [read] at whole
    cases whole
  · rw [read] at broken
    cases broken
    exact ⟨rfl, beyond, texts⟩

/-- A line that is read is the next one of the file after those read before it. -/
theorem fileTexts_of_among {line : String} {later : List String} {ending : Option IoError}
    (read : ofBytes bytes = ⟨lines ++ line :: later, ending⟩) :
    ∃ rest, fileTexts bytes = lines.map some ++ some line :: rest := by
  cases ending with
  | none => exact ⟨later.map some, by rw [fileTexts_of_whole read, List.map_append, List.map_cons]⟩
  | some cause =>
    obtain ⟨-, beyond, texts⟩ := fileTexts_of_broken read
    exact ⟨later.map some ++ none :: beyond, by simp [texts]⟩

end

end Lines

end ExtractOptions

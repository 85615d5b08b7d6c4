/-
Module: ExtractOptions.Proofs.Run.Delivery
Purpose: files that options name are delivered completely and in order. Whatever bytes such a file
  holds, a list of source files gives the lines that are not blank, trimmed, up to its end or to the
  first line that is not UTF-8; a file of data lines gives them up to the first that is refused as
  well. What was given before a failure stays.
Main exports: Call.files_delivered
-/
import ExtractOptions.Proofs.Disk.Frame
import ExtractOptions.Proofs.Disk.Pieces
import ExtractOptions.Proofs.Run.Residue

namespace ExtractOptions

open Text ExtractOptions.Action

/-- The empty path names nothing. -/
theorem Disk.ne_empty_of_find {disk : Disk} {path : String} {place : Location} {node : Node}
    (found : disk.find path = .ok (place, node)) : path ≠ "" := by
  rintro rfl
  have nothing : disk.find "" = .error .noSuchFile := rfl
  rw [nothing] at found
  cases found

section

variable {context : Context} {session : Session} {value : String}

/-- An option that takes a list reads it, once it is counted. -/
theorem LetterOption.run_of_listKind? {option : LetterOption} {kind : SourceKind}
    (lists : option.listKind? = some kind) (named : skipSpaces value ≠ "")
    (list : option = .checkFile → isGameFile (skipSpaces value) = false) :
    (Call.letter option value).run context session =
      readSourceList (skipSpaces value) kind session.lettered := by
  cases option <;> cases lists
  · have notGames : isGameFile (skipSpaces value) = false := list rfl
    simp [Call.run, perform, effect, addCheckFile, requireFile, named, notGames, Session.lettered]
  · simp [Call.run, perform, effect, requireFile, named, Session.lettered]

/-- An option that takes data lines hands on those of the file that it names, once it is counted. -/
theorem LetterOption.run_option (kind : DataKind) (named : skipSpaces value ≠ "") :
    (Call.letter kind.option value).run context session =
      deliverFile context kind.option (skipSpaces value) session.lettered := by
  cases kind <;>
    simp [Call.run, perform, effect, DataKind.option, deliverNamedFile, named, Session.lettered]

/-- A list of source files gives its lines that are not blank, trimmed and in order, up to its end
or to the first line that is not UTF-8. A file of data lines hands them on in the same way, up to
the first that is refused. -/
theorem Call.files_delivered (context : Context) (session : Session) {value : String}
    {place : Location} {bytes : List UInt8}
    (found : session.disk.find (skipSpaces value) = .ok (place, .file bytes)) :
    let file := skipSpaces value
    (∀ (option : LetterOption) (kind : SourceKind), option.listKind? = some kind →
      (option = .checkFile → isGameFile file = false) →
      ∃ lines,
        fileTexts bytes = lines.map some ∧
            (Call.letter option value).run context session =
              .ok () (session.lettered.listing kind lines) ∨
          ∃ later, fileTexts bytes = lines.map some ++ none :: later ∧
            (Call.letter option value).run context session =
              .error (.resource file .reading .notUtf8) (session.lettered.listing kind lines)) ∧
    ∀ kind : DataKind, ∃ lines, session.registry.Admits context kind file lines ∧
      (fileTexts bytes = lines.map some ∧
          (Call.letter kind.option value).run context session =
            .ok () (session.lettered.handed kind file lines) ∨
        (∃ later, fileTexts bytes = lines.map some ++ none :: later ∧
          (Call.letter kind.option value).run context session =
            .error (.resource file .reading .notUtf8) (session.lettered.handed kind file lines)) ∨
        ∃ line later reason, fileTexts bytes = lines.map some ++ some line :: later ∧
          isBlankText line = false ∧
          context.gate (session.registry.withLines kind file lines) (kind.request file line) =
            some reason ∧
          (Call.letter kind.option value).run context session =
            .error (kind.refusal file line reason)
              ((session.lettered.handed kind file lines).delivering kind)) := by
  have named : skipSpaces value ≠ "" := Disk.ne_empty_of_find found
  have reads : session.lettered.disk.readLines (skipSpaces value) = .ok (Lines.ofBytes bytes) :=
    Disk.readLines_of_find found
  refine ⟨fun option kind lists list => ?_, fun kind => ?_⟩
  · rw [LetterOption.run_of_listKind? lists named list, readSourceList_apply reads]
    rcases Lines.ofBytes_cases bytes with ⟨lines, texts, all⟩ | ⟨lines, later, texts, all⟩
    · exact ⟨lines, .inl ⟨texts, by rw [all]⟩⟩
    · exact ⟨lines, .inr ⟨later, texts, by rw [all]⟩⟩
  · rw [LetterOption.run_option kind named]
    obtain ⟨lines, admits, ⟨whole, run⟩ | ⟨cause, broken, run⟩ |
      ⟨line, later, ending, reason, among, full, refused, run⟩⟩ :=
        deliverFile_apply context kind reads
    · exact ⟨lines, admits, .inl ⟨Lines.fileTexts_of_whole whole, run⟩⟩
    · obtain ⟨rfl, beyond, texts⟩ := Lines.fileTexts_of_broken broken
      exact ⟨lines, admits, .inr (.inl ⟨beyond, texts, run⟩)⟩
    · obtain ⟨rest, texts⟩ := Lines.fileTexts_of_among among
      exact ⟨lines, admits, .inr (.inr ⟨line, rest, reason, texts, full, refused, run⟩)⟩

/-- A list with a carriage return, a blank line and a line that is not UTF-8, and the one file that
it names before that. -/
theorem Call.files_delivered_broken :
    let bytes : List UInt8 := [32, 97, 13, 10, 9, 10, 255, 10, 98]
    let session : Session :=
      { disk := { nodes := [(["list"], .file bytes)], workingDirectory := [] } }
    session.disk.find (skipSpaces "list") = .ok (["list"], .file bytes) ∧
      (Call.letter .sourceList "list").run {} session =
        .error (.resource "list" .reading .notUtf8)
          { session.lettered with
            registry := { sources := [("a", .normal)] }
            counters := { session.lettered.counters with sourceFiles := 1 } } := by
  intro bytes session
  have found : session.disk.find (skipSpaces "list") = .ok (["list"], .file bytes) := by
    decide +kernel
  have texts : fileTexts bytes = [some " a", some "\t", none, some "b"] := by decide +kernel
  refine ⟨found, ?_⟩
  obtain ⟨lines, ⟨whole, -⟩ | ⟨later, stops, run⟩⟩ :=
    (Call.files_delivered {} session found).1 .sourceList .normal rfl nofun
  · have broken : none ∈ lines.map some := by rw [← whole, texts]; simp
    simp at broken
  · obtain rfl : [" a", "\t"] = lines := eq_of_map_some_append (stops ▸ texts).symm
    rw [run]
    rfl

end

end ExtractOptions

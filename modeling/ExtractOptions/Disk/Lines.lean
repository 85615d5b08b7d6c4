/-
Module: ExtractOptions.Disk.Lines
Purpose: files read line by line. A line ends at a newline or at the end of the file; its newline
  and the carriage returns before it are cut off, and each line must be UTF-8 on its own. A file
  that nobody writes meanwhile can be read as a whole (`Disk.readLines`). One that may change
  while it is read is read through a `LineReader`, which fetches blocks of bytes when it runs out
  of them and sees a change only in blocks it has yet to fetch.
Main exports: nextPiece, LineReader, LineReader.next, Disk.openReader, Lines, Disk.readLines
-/
import ExtractOptions.Disk.Basic
import ExtractOptions.Text.Utf8

namespace ExtractOptions

open Text

/-- The byte that ends a line. -/
def newline : UInt8 := 10

/-- The bytes up to and including the first newline, all of them if there is none, and what
follows. -/
def nextPiece (bytes : List UInt8) : List UInt8 × List UInt8 :=
  match bytes.dropWhile (· != newline) with
  | [] => (bytes, [])
  | _ :: after => (bytes.takeWhile (· != newline) ++ [newline], after)

/-- The text of a line without the run of line ends that closes it. -/
def lineOfPiece? (piece : List UInt8) : Option String := do
  let text ← Utf8.decode? piece
  return String.ofList (dropEndWhile (fun c => c == '\n' || c == '\r') text.toList)

/-- A file in the course of being read: the bytes fetched and not yet used, and the offset of the
next byte to fetch. -/
structure LineReader where
  path : String
  place : Location
  fetched : List UInt8 := []
  offset : Nat := 0
deriving Repr

/-- How many bytes are fetched at a time. -/
def LineReader.block : Nat := 8192

/-- The bytes of a file from an offset on, or why they cannot be read. -/
def Disk.bytesFrom (disk : Disk) (place : Location) (offset : Nat) :
    Except IoError (List UInt8) :=
  match disk.node? place with
  | some (.file bytes) => .ok (bytes.drop offset)
  | some .directory => .error .isADirectory
  | some .fullDevice => .error .outOfMemory
  | none => .error .noSuchFile

/-- Read one piece. It is taken from the bytes fetched already if they hold a newline; otherwise as
many blocks are fetched as the piece reaches into. -/
def LineReader.nextPiece (disk : Disk) (reader : LineReader) :
    Except IoError (List UInt8 × LineReader) :=
  if reader.fetched.contains newline then
    let (piece, rest) := ExtractOptions.nextPiece reader.fetched
    .ok (piece, { reader with fetched := rest })
  else do
    let ahead ← disk.bytesFrom reader.place reader.offset
    let (piece, _) := ExtractOptions.nextPiece ahead
    let blocks := (piece.length + block - 1) / block
    let taken := ahead.take (blocks * block)
    return (reader.fetched ++ piece,
      { reader with
        fetched := taken.drop piece.length
        offset := reader.offset + taken.length })

/-- Read one line, if any is left. -/
def LineReader.next (disk : Disk) (reader : LineReader) :
    Except IoError (Option (String × LineReader)) := do
  let (piece, reader) ← reader.nextPiece disk
  if piece = [] then return none
  match lineOfPiece? piece with
  | some line => return some (line, reader)
  | none => .error .notUtf8

/-- Open a file for reading. A directory can be opened, but the first read of it fails. -/
def Disk.openReader (disk : Disk) (path : String) : Except IoError LineReader := do
  let (place, _) ← disk.find path
  return { path, place }

/-- The lines of a file up to its end or up to the first one that cannot be read, and why that one
cannot. -/
structure Lines where
  lines : List String
  failure : Option IoError := none
deriving DecidableEq, Repr

/-- A step from a byte sequence to what follows its first piece makes it shorter. -/
theorem nextPiece_length_lt {bytes : List UInt8} (h : bytes ≠ []) :
    (nextPiece bytes).2.length < bytes.length := by
  unfold nextPiece
  split
  · exact List.length_pos_iff.2 h
  · rename_i _ _ e
    have := (List.dropWhile_sublist (l := bytes) (· != newline)).length_le
    rw [e, List.length_cons] at this
    exact this

/-- The lines that a byte sequence holds. -/
def Lines.ofBytes (bytes : List UInt8) : Lines :=
  if _ : bytes = [] then ⟨[], none⟩
  else
    match lineOfPiece? (nextPiece bytes).1 with
    | none => ⟨[], some .notUtf8⟩
    | some line =>
      let later := ofBytes (nextPiece bytes).2
      { later with lines := line :: later.lines }
termination_by bytes.length
decreasing_by exact nextPiece_length_lt (by assumption)

/-- The lines of what is at a path. -/
def Disk.readLines (disk : Disk) (path : String) : Except IoError Lines := do
  let (_, node) ← disk.find path
  match node with
  | .file bytes => return Lines.ofBytes bytes
  | .directory => return ⟨[], some .isADirectory⟩
  | .fullDevice => return ⟨[], some .outOfMemory⟩

end ExtractOptions

/-
Module: ExtractOptions.Proofs.Disk.Lines
Purpose: reading line by line against reading at once. While a file stays the same, a reader that
  fetches blocks hands out the lines that the whole file holds, in order, and fails where that
  fails; how the bytes fall into blocks does not matter.
Main exports: LineReader.remaining, LineReader.next_eq, Lines.ofBytes_cons, Lines.ofBytes_nil,
  LineReader.Supplies, LineReader.Supplies.next_cons
-/
import ExtractOptions.Disk.Lines

namespace ExtractOptions

/-! ### Pieces

A piece is the bytes up to and including the next newline, or all that is left. Cutting off pieces
one after the other is how both kinds of reading see a file. -/

@[simp] theorem nextPiece_nil : nextPiece [] = ([], []) := rfl

/-- A newline ends the piece; any other byte belongs to it with what follows. -/
theorem nextPiece_cons (byte : UInt8) (bytes : List UInt8) :
    nextPiece (byte :: bytes) =
      if byte = newline then ([byte], bytes)
      else (byte :: (nextPiece bytes).1, (nextPiece bytes).2) := by
  unfold nextPiece
  by_cases ends : byte = newline
  · simp [ends]
  · simp only [List.dropWhile_cons, List.takeWhile_cons, bne_iff_ne, ne_eq, ends, not_false_eq_true,
      if_true, if_false]
    split <;> simp

/-- What follows a newline does not matter to the piece that it ends. -/
theorem nextPiece_of_mem {bytes : List UInt8} (present : newline ∈ bytes) (more : List UInt8) :
    nextPiece (bytes ++ more) = ((nextPiece bytes).1, (nextPiece bytes).2 ++ more) := by
  induction bytes with
  | nil => cases present
  | cons byte bytes ih =>
    rw [List.cons_append, nextPiece_cons, nextPiece_cons]
    by_cases ends : byte = newline
    · simp [ends]
    · have later : newline ∈ bytes := (List.mem_cons.mp present).resolve_left (Ne.symm ends)
      simp [ends, ih later]

/-- Bytes without a newline belong to the piece that ends after them. -/
theorem nextPiece_of_not_mem {bytes : List UInt8} (absent : newline ∉ bytes)
    (more : List UInt8) :
    nextPiece (bytes ++ more) = (bytes ++ (nextPiece more).1, (nextPiece more).2) := by
  induction bytes with
  | nil => rfl
  | cons byte bytes ih =>
    rw [List.mem_cons, not_or] at absent
    rw [List.cons_append, nextPiece_cons, if_neg (Ne.symm absent.1), ih absent.2]
    rfl

/-- Nothing is lost when the first piece is cut off. -/
theorem nextPiece_flatten (bytes : List UInt8) :
    (nextPiece bytes).1 ++ (nextPiece bytes).2 = bytes := by
  induction bytes with
  | nil => rfl
  | cons byte bytes ih =>
    rw [nextPiece_cons]
    by_cases ends : byte = newline
    · simp [ends]
    · simp [ends, ih]

/-- Only at the end of the bytes is the first piece empty. -/
theorem nextPiece_eq_nil_iff {bytes : List UInt8} : (nextPiece bytes).1 = [] ↔ bytes = [] := by
  cases bytes with
  | nil => simp
  | cons byte bytes =>
    rw [nextPiece_cons]
    by_cases ends : byte = newline <;> simp [ends]

/-! ### Readers

A reader holds bytes that it fetched and knows where to fetch more. What it has yet to hand out is
the rest of the file, however much of it was fetched already; with that measure the blocks
disappear. -/

namespace LineReader

/-- The bytes that a reader has yet to hand out. -/
def remaining (reader : LineReader) (bytes : List UInt8) : List UInt8 :=
  reader.fetched ++ bytes.drop reader.offset

/-- Blocks that reach beyond a piece leave what follows the piece, fetched or not. -/
theorem fetched_append {piece : List UInt8} {size : Nat} (enough : piece.length ≤ size)
    (rest : List UInt8) :
    ((piece ++ rest).take size).drop piece.length ++
      (piece ++ rest).drop ((piece ++ rest).take size).length = rest := by
  have taken : (piece ++ rest).take size = piece ++ rest.take (size - piece.length) := by
    rw [List.take_append, List.take_of_length_le enough]
  have beyond : ∀ count, rest.drop (rest.take count).length = rest.drop count := by
    intro count
    have split : (rest.take count ++ rest.drop count).drop (rest.take count).length =
        rest.drop count := List.drop_left
    rwa [List.take_append_drop] at split
  rw [taken, List.drop_left, List.length_append, ← List.drop_drop, List.drop_left, beyond,
    List.take_append_drop]

/-- While the file stays the same, the reader takes its pieces from the bytes that remain. -/
theorem nextPiece_eq {disk : Disk} {reader : LineReader} {bytes : List UInt8}
    (holds : disk.node? reader.place = some (.file bytes)) :
    ∃ later : LineReader,
      reader.nextPiece disk = .ok ((ExtractOptions.nextPiece (reader.remaining bytes)).1, later) ∧
        later.path = reader.path ∧ later.place = reader.place ∧
        later.remaining bytes = (ExtractOptions.nextPiece (reader.remaining bytes)).2 := by
  unfold LineReader.nextPiece remaining
  by_cases present : newline ∈ reader.fetched
  · have ends : reader.fetched.contains newline = true := by simpa using present
    rw [if_pos ends, nextPiece_of_mem present]
    exact ⟨_, rfl, rfl, rfl, rfl⟩
  · have absent : ¬ reader.fetched.contains newline = true := by simpa using present
    have ahead : disk.bytesFrom reader.place reader.offset = .ok (bytes.drop reader.offset) := by
      simp [Disk.bytesFrom, holds]
    rw [if_neg absent, nextPiece_of_not_mem present, ahead]
    refine ⟨_, rfl, rfl, rfl, ?_⟩
    have whole := nextPiece_flatten (bytes.drop reader.offset)
    have enough : (ExtractOptions.nextPiece (bytes.drop reader.offset)).1.length ≤
        ((ExtractOptions.nextPiece (bytes.drop reader.offset)).1.length + block - 1) / block *
          block := by
      unfold block
      omega
    have leaves := fetched_append enough (ExtractOptions.nextPiece (bytes.drop reader.offset)).2
    rw [whole, List.drop_drop] at leaves
    exact leaves

/-- While the file stays the same, the reader hands out the line that starts the bytes that
remain. -/
theorem next_eq {disk : Disk} {reader : LineReader} {bytes : List UInt8}
    (holds : disk.node? reader.place = some (.file bytes)) (more : reader.remaining bytes ≠ []) :
    ∃ later : LineReader,
      (reader.next disk =
          match lineOfPiece? (ExtractOptions.nextPiece (reader.remaining bytes)).1 with
          | some line => .ok (some (line, later))
          | none => .error .notUtf8) ∧
        later.path = reader.path ∧ later.place = reader.place ∧
        later.remaining bytes = (ExtractOptions.nextPiece (reader.remaining bytes)).2 := by
  obtain ⟨later, read, samePath, samePlace, rest⟩ := nextPiece_eq holds
  have some : (ExtractOptions.nextPiece (reader.remaining bytes)).1 ≠ [] :=
    fun none => more (nextPiece_eq_nil_iff.mp none)
  refine ⟨later, ?_, samePath, samePlace, rest⟩
  unfold next
  rw [read]
  simp only [bind, Except.bind, if_neg some]
  cases lineOfPiece? (ExtractOptions.nextPiece (reader.remaining bytes)).1 <;> rfl

/-- A reader that has handed out everything reports the end. -/
theorem next_eq_none {disk : Disk} {reader : LineReader} {bytes : List UInt8}
    (holds : disk.node? reader.place = some (.file bytes)) (done : reader.remaining bytes = []) :
    reader.next disk = .ok none := by
  obtain ⟨later, read, -⟩ := nextPiece_eq holds
  unfold next
  rw [read, done]
  rfl

/-- Only a file has a first line. -/
theorem exists_file_of_next {disk : Disk} {path line : String} {place : Location}
    {later : LineReader}
    (read : ({ path, place } : LineReader).next disk = .ok (some (line, later))) :
    ∃ bytes, disk.node? place = some (.file bytes) := by
  unfold next LineReader.nextPiece Disk.bytesFrom at read
  cases held : disk.node? place with
  | none => simp [held, bind, Except.bind] at read
  | some node =>
    cases node with
    | file bytes => exact ⟨bytes, rfl⟩
    | directory => simp [held, bind, Except.bind] at read
    | fullDevice => simp [held, bind, Except.bind] at read

/-- A reader stays with its file. -/
theorem next_stays {disk : Disk} {reader later : LineReader} {line : String}
    (read : reader.next disk = .ok (some (line, later))) :
    later.path = reader.path ∧ later.place = reader.place := by
  have stays : ∀ {piece : List UInt8} {other : LineReader},
      reader.nextPiece disk = .ok (piece, other) →
        other.path = reader.path ∧ other.place = reader.place := by
    intro piece other fetched
    unfold LineReader.nextPiece at fetched
    split at fetched
    · cases fetched
      exact ⟨rfl, rfl⟩
    · cases ahead : disk.bytesFrom reader.place reader.offset with
      | error cause =>
        rw [ahead] at fetched
        cases fetched
      | ok bytes =>
        rw [ahead] at fetched
        cases fetched
        exact ⟨rfl, rfl⟩
  unfold next at read
  cases fetched : reader.nextPiece disk with
  | error cause =>
    rw [fetched] at read
    cases read
  | ok answer =>
    obtain ⟨piece, other⟩ := answer
    rw [fetched] at read
    simp only [bind, Except.bind] at read
    split at read
    · cases read
    · split at read <;> cases read
      exact stays fetched

theorem next_path {disk : Disk} {reader later : LineReader} {line : String}
    (read : reader.next disk = .ok (some (line, later))) : later.path = reader.path :=
  (next_stays read).1

theorem next_place {disk : Disk} {reader later : LineReader} {line : String}
    (read : reader.next disk = .ok (some (line, later))) : later.place = reader.place :=
  (next_stays read).2

end LineReader

/-! ### The lines of a file

Reading at once is defined by recursion on the bytes. These are its two equations. -/

namespace Lines

/-- An empty file has no lines. -/
theorem ofBytes_nil : ofBytes [] = ⟨[], none⟩ := by
  unfold ofBytes
  simp

/-- The lines of a file are its first line and the lines of the rest, up to one that is not UTF-8. -/
theorem ofBytes_cons {bytes : List UInt8} (more : bytes ≠ []) :
    ofBytes bytes =
      match lineOfPiece? (nextPiece bytes).1 with
      | none => ⟨[], some .notUtf8⟩
      | some line =>
        { ofBytes (nextPiece bytes).2 with
          lines := line :: (ofBytes (nextPiece bytes).2).lines } := by
  rw [ofBytes]
  refine (dif_neg more).trans ?_
  cases lineOfPiece? (nextPiece bytes).1 <;> rfl

/-- Every line has a byte. -/
theorem length_ofBytes_le (bytes : List UInt8) : (ofBytes bytes).lines.length ≤ bytes.length := by
  induction bytes using ofBytes.induct with
  | case1 => simp [ofBytes_nil]
  | case2 bytes more unreadable => simp [ofBytes_cons more, unreadable]
  | case3 bytes more line readable ih =>
    have shorter := nextPiece_length_lt more
    simp only [ofBytes_cons more, readable, List.length_cons]
    omega

end Lines

/-! ### The lines that a reader has left

A file may change while it is read, so what a reader will hand out can only be told as long as its
file stays. `Supplies` says this, and it is all that the loops over lines need. -/

/-- What the reader has left of its file. It hands out these lines, and then fails or ends as they
do, if the file stays as it is. -/
def LineReader.Supplies (reader : LineReader) (disk : Disk) (lines : Lines) : Prop :=
  ∃ bytes, disk.node? reader.place = some (.file bytes) ∧
    Lines.ofBytes (reader.remaining bytes) = lines

namespace LineReader

variable {disk other : Disk} {reader : LineReader}

/-- A reader that has just been opened has the whole file left. -/
theorem supplies_opened {path : String} {place : Location} {bytes : List UInt8}
    (holds : disk.node? place = some (.file bytes)) :
    ({ path, place } : LineReader).Supplies disk (Lines.ofBytes bytes) :=
  ⟨bytes, holds, by simp [remaining]⟩

namespace Supplies

/-- What a reader has left depends on its own file alone. -/
theorem congr {lines : Lines} (supplies : reader.Supplies disk lines)
    (same : other.node? reader.place = disk.node? reader.place) : reader.Supplies other lines := by
  obtain ⟨bytes, holds, left⟩ := supplies
  exact ⟨bytes, by rw [same, holds], left⟩

/-- After the last line the reader ends or fails. -/
theorem next_nil {failure : Option IoError} (supplies : reader.Supplies disk ⟨[], failure⟩) :
    reader.next disk =
      match failure with
      | none => .ok none
      | some cause => .error cause := by
  obtain ⟨bytes, holds, left⟩ := supplies
  by_cases done : reader.remaining bytes = []
  · rw [done, Lines.ofBytes_nil] at left
    cases left
    exact next_eq_none holds done
  · obtain ⟨later, read, -⟩ := next_eq holds done
    rw [Lines.ofBytes_cons done] at left
    cases piece : lineOfPiece? (ExtractOptions.nextPiece (reader.remaining bytes)).1 with
    | none =>
      rw [piece] at left read
      cases left
      exact read
    | some line =>
      rw [piece] at left
      cases left

/-- The reader hands out the first of the lines that it has left. -/
theorem next_cons {line : String} {lines : List String} {failure : Option IoError}
    (supplies : reader.Supplies disk ⟨line :: lines, failure⟩) :
    ∃ later : LineReader, reader.next disk = .ok (some (line, later)) ∧ later.path = reader.path ∧
      later.place = reader.place ∧ later.Supplies disk ⟨lines, failure⟩ := by
  obtain ⟨bytes, holds, left⟩ := supplies
  have more : reader.remaining bytes ≠ [] := by
    intro none
    rw [none, Lines.ofBytes_nil] at left
    cases left
  obtain ⟨later, read, path, place, rest⟩ := next_eq holds more
  rw [Lines.ofBytes_cons more] at left
  cases piece : lineOfPiece? (ExtractOptions.nextPiece (reader.remaining bytes)).1 with
  | none =>
    rw [piece] at left
    cases left
  | some text =>
    rw [piece] at left read
    simp only [Lines.mk.injEq, List.cons.injEq] at left
    obtain ⟨⟨rfl, later_lines⟩, later_failure⟩ := left
    refine ⟨later, read, path, place, bytes, by rw [place, holds], ?_⟩
    rw [rest, ← later_lines, ← later_failure]

end Supplies

end LineReader

end ExtractOptions

/-
Module: ExtractOptions.Disk.Target
Purpose: files opened for output. Opening for writing empties the file and writes at an offset of
  its own; opening for appending keeps what is there and always writes at the end. Either way the
  file is created when it is missing, but never its directory.
Main exports: OpenMode, Target, Disk.openTarget, Disk.write
-/
import ExtractOptions.Disk.Basic

namespace ExtractOptions

/-- How a file is opened for output. -/
inductive OpenMode where
  | write
  | append
deriving DecidableEq, Repr

/-- A file opened for output. -/
structure Target where
  path : String
  mode : OpenMode
  place : Location
  /-- Where the next byte goes; of no meaning for appending. -/
  offset : Nat := 0
deriving DecidableEq, Repr

namespace Disk

/-- The location that a path names for output. A slash at the end asks for a directory, which
cannot be written. -/
def placeForOutput (disk : Disk) (text : String) : Except IoError Location := do
  let path ← Path.opened? text
  match path.names.getLast? with
  | none => .error .isADirectory
  | some name =>
    let parent ← path.names.dropLast.foldlM disk.enter (disk.start path)
    disk.checkDirectory parent
    if path.endsInSlash then .error .isADirectory
    let place ← disk.enter parent name
    if disk.isDirectory place then .error .isADirectory else return place

/-- What opening for output leaves at the location. -/
def opened (disk : Disk) (place : Location) (mode : OpenMode) : Disk :=
  match disk.node? place, mode with
  | some .fullDevice, _ => disk
  | some (.file _), .append => disk
  | _, _ => disk.put place (.file [])

/-- Open a file for output. -/
def openTarget (disk : Disk) (text : String) (mode : OpenMode) :
    Except IoError (Target × Disk) := do
  let place ← disk.placeForOutput text
  return ({ path := text, mode, place }, disk.opened place mode)

/-- Bytes with others written over them from an offset on. A gap before the offset is filled with
zeros. -/
def overwrite (old : List UInt8) (offset : Nat) (new : List UInt8) : List UInt8 :=
  old.take offset ++ List.replicate (offset - old.length) 0 ++ new ++
    old.drop (offset + new.length)

/-- Write to an open file. Writing nothing never fails. -/
def write (disk : Disk) (target : Target) (bytes : List UInt8) :
    Except IoError (Target × Disk) :=
  if bytes = [] then .ok (target, disk)
  else
    match disk.node? target.place with
    | some (.file old) =>
      match target.mode with
      | .append => .ok (target, disk.put target.place (.file (old ++ bytes)))
      | .write =>
        .ok ({ target with offset := target.offset + bytes.length },
          disk.put target.place (.file (overwrite old target.offset bytes)))
    | some .fullDevice => .error .noSpace
    | some .directory => .error .isADirectory
    | none => .error .noSuchFile

end Disk

end ExtractOptions

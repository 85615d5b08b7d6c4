/-
Module: ExtractOptions.Disk.Path
Purpose: the reasons why a file operation fails, and path names taken apart. A path is a list of
  names between slashes; it starts at the root when its first character is a slash, and it insists
  on a directory when its last one is.
Main exports: IoError, IoError.message, Path, Path.ofText?
-/
import ExtractOptions.Text.Blank

namespace ExtractOptions

/-- Why a file operation fails. -/
inductive IoError where
  | noSuchFile
  | outOfMemory
  | fileExists
  | notADirectory
  | isADirectory
  | noSpace
  | nameTooLong
  | nulInName
  | notUtf8
deriving DecidableEq, Repr

/-- The text of a failure, with the operating system's number where it has one. -/
def IoError.message : IoError → String
  | noSuchFile => "No such file or directory (os error 2)"
  | outOfMemory => "Cannot allocate memory (os error 12)"
  | fileExists => "File exists (os error 17)"
  | notADirectory => "Not a directory (os error 20)"
  | isADirectory => "Is a directory (os error 21)"
  | noSpace => "No space left on device (os error 28)"
  | nameTooLong => "File name too long (os error 36)"
  | nulInName => "file name contained an unexpected NUL byte"
  | notUtf8 => "stream did not contain valid UTF-8"

/-- A path name taken apart. Empty names, as between two slashes, mean nothing and are left out. -/
structure Path where
  fromRoot : Bool
  names : List String
  endsInSlash : Bool
deriving DecidableEq, Repr

namespace Path

/-- The longest name of a file, in bytes. -/
def maxName : Nat := 255

/-- The longest path that can be opened, in bytes. -/
def maxLength : Nat := 4095

/-- A name that fits into a directory. -/
def fits (name : String) : Bool :=
  name.utf8ByteSize ≤ maxName

/-- Take a path name apart. A NUL cannot be part of one, and no name at all names nothing. -/
def ofText? (text : String) : Except IoError Path :=
  let cs := text.toList
  if '\x00' ∈ cs then .error .nulInName
  else if cs = [] then .error .noSuchFile
  else
    .ok
      { fromRoot := cs.head? == some '/'
        names := ((Text.pieces '/' cs).filter fun name => !name.isEmpty).map String.ofList
        endsInSlash := cs.getLast? == some '/' }

/-- Take apart a path name that is to be opened, which bounds its length. -/
def opened? (text : String) : Except IoError Path := do
  let path ← ofText? text
  if maxLength < text.utf8ByteSize then .error .nameTooLong else .ok path

/-- The path of a name within a directory. -/
def join (directory name : String) : String :=
  if directory = "" then name
  else if directory.toList.getLast? = some '/' then directory ++ name
  else directory ++ "/" ++ name

end Path

end ExtractOptions

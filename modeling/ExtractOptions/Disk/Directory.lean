/-
Module: ExtractOptions.Disk.Directory
Purpose: making directories. A directory is made together with the ones above it that are missing;
  whatever was made before a failure stays.
Main exports: Disk.createDirectories
-/
import ExtractOptions.Disk.Basic

namespace ExtractOptions.Disk

/-- Make one directory. Its parent must be there, and nothing may be in its place. -/
def createDirectory (disk : Disk) (path : Path) : Except IoError Disk := do
  match path.names.getLast? with
  | none => .error .fileExists
  | some name =>
    let parent ← path.names.dropLast.foldlM disk.enter (disk.start path)
    let place ← disk.enter parent name
    match disk.node? place with
    | some _ => .error .fileExists
    | none => return disk.put place .directory

/-- The path leads to a directory. -/
def leadsToDirectory (disk : Disk) (path : Path) : Bool :=
  match disk.follow path with
  | .ok (_, .directory) => true
  | _ => false

/-- The names without the run of `.` at their end. -/
def dropDots (names : List String) : List String :=
  (names.reverse.dropWhile (· == ".")).reverse

/-- The path without its last name. A `.` at the end is no name of its own, neither before that nor
afterwards. -/
def parentPath (path : Path) : Path :=
  { path with
    names := dropDots (dropDots path.names).dropLast
    endsInSlash := false }

/-- Make a directory and the missing ones above it, going up at most `levels` times. The answer
holds the disk afterwards, and the failure if there was one. -/
def createFrom : (levels : Nat) → Disk → Path → Disk × Option IoError
  | levels, disk, path =>
    if path.names = [] then (disk, none)
    else
      match disk.createDirectory path with
      | .ok made => (made, none)
      | .error .noSuchFile =>
        match levels with
        | 0 => (disk, some .noSuchFile)
        | above + 1 =>
          match createFrom above disk (parentPath path) with
          | (made, some failure) => (made, some failure)
          | (made, none) =>
            match made.createDirectory path with
            | .ok finished => (finished, none)
            | .error failure =>
              (made, if made.leadsToDirectory path then none else some failure)
      | .error failure => (disk, if disk.leadsToDirectory path then none else some failure)

/-- Make a directory and the missing ones above it. The empty path needs no directory. -/
def createDirectories (disk : Disk) (text : String) : Disk × Option IoError :=
  if text = "" then (disk, none)
  else
    match Path.opened? text with
    | .error failure => (disk, some failure)
    | .ok path => createFrom path.names.length disk path

end ExtractOptions.Disk

/-
Module: ExtractOptions.Disk.Basic
Purpose: the files that a run sees, as a value. A disk holds files, directories and devices at
  locations, which are lists of names from the root. Looking up a path walks through its names from
  the left: every name but the last must lead to a directory, `.` stays and `..` goes up.
Main exports: Location, Node, Disk, Disk.node?, Disk.put, Disk.enter, Disk.find, Disk.canonical
-/
import ExtractOptions.Disk.Path

namespace ExtractOptions

/-- Where something is on the disk: the names of the directories from the root, and its own. -/
abbrev Location := List String

/-- What may be at a location. The device is always full: it can be opened, but takes no byte, and
reading it never ends. -/
inductive Node where
  | file (bytes : List UInt8)
  | directory
  | fullDevice
deriving DecidableEq, Repr

/-- The disk, and the directory that relative paths start from. -/
structure Disk where
  nodes : List (Location × Node)
  workingDirectory : Location

namespace Disk

/-- What is at a location. The root is always a directory. -/
def node? (disk : Disk) (place : Location) : Option Node :=
  if place = [] then some .directory else disk.nodes.lookup place

/-- The pairs with the value at `place` replaced, or with a new pair at the end. -/
def insertNode (place : Location) (node : Node) :
    List (Location × Node) → List (Location × Node)
  | [] => [(place, node)]
  | entry :: later =>
    if entry.1 = place then (place, node) :: later
    else entry :: insertNode place node later

/-- The disk with something put at a location. -/
def put (disk : Disk) (place : Location) (node : Node) : Disk :=
  { disk with nodes := insertNode place node disk.nodes }

/-- A directory is at the location. -/
def isDirectory (disk : Disk) (place : Location) : Bool :=
  disk.node? place == some .directory

/-- What keeps a location from being used as a directory, if anything does. -/
def checkDirectory (disk : Disk) (place : Location) : Except IoError Unit :=
  match disk.node? place with
  | some .directory => .ok ()
  | some _ => .error .notADirectory
  | none => .error .noSuchFile

/-- Go from a directory to one of its names. Nothing need be there yet. -/
def enter (disk : Disk) (place : Location) (name : String) : Except IoError Location := do
  disk.checkDirectory place
  if name = "." then return place
  else if name = ".." then return place.dropLast
  else if Path.fits name then return place ++ [name]
  else .error .nameTooLong

/-- The location that a path starts from. -/
def start (disk : Disk) (path : Path) : Location :=
  if path.fromRoot then [] else disk.workingDirectory

/-- Walk through the names of a path to something that exists. -/
def follow (disk : Disk) (path : Path) : Except IoError (Location × Node) := do
  let place ← path.names.foldlM disk.enter (disk.start path)
  match disk.node? place with
  | none => .error .noSuchFile
  | some node =>
    if path.endsInSlash ∧ node ≠ .directory then .error .notADirectory
    else return (place, node)

/-- What a path names, for reading it. -/
def find (disk : Disk) (text : String) : Except IoError (Location × Node) := do
  disk.follow (← Path.opened? text)

/-- The one location that a path stands for, however it is spelled. -/
def canonical (disk : Disk) (text : String) : Except IoError Location := do
  return (← disk.follow (← Path.ofText? text)).1

/-- Something is at the path. -/
def exists? (disk : Disk) (text : String) : Bool :=
  (disk.find text).isOk

/-- The bytes of the file at a location. -/
def file? (disk : Disk) (place : Location) : Option (List UInt8) :=
  match disk.node? place with
  | some (.file bytes) => some bytes
  | _ => none

end Disk

end ExtractOptions

/-
Module: ExtractOptions.Main
Purpose: the command-line program. It takes the disk as it finds it, runs the options on that value,
  and carries the changed files back. A run sees the files below the working directory, the ones
  that its arguments name from the root, and the device that is always full.
Main exports: main
-/
import ExtractOptions.Program

namespace ExtractOptions

/-- The variables that settings are taken from. -/
def settingVariables : List String :=
  let keys := [Setting.logLevel, .logDirectory, .logJson, .maxIncludeDepth, .ecoFile].map
    fun setting => environmentMark ++ setting.key
  [directoryVariable, ecoFileVariable] ++ keys.map String.toUpper ++ keys

/-- The variables that are set, and their values. -/
def readEnvironment : IO (List (String × String)) :=
  settingVariables.filterMapM fun name => do
    return (← IO.getEnv name).map fun value => (name, value)

/-- The names in a path from the root. -/
def namesFromRoot (path : String) : Location :=
  ((Text.pieces '/' path.toList).filter fun name => !name.isEmpty).map String.ofList

/-- The path of a location. -/
def pathFromRoot (place : Location) : String :=
  "/" ++ "/".intercalate place

/-- The disk with a directory at a location and at all locations above it. -/
def Disk.putDirectories (disk : Disk) (place : Location) : Disk :=
  (List.range place.length).foldl (fun disk k => disk.put (place.take (k + 1)) .directory) disk

/-- How deep below the working directory files are looked for. -/
def visibleDepth : Nat := 32

/-- The disk with what a directory entry leads to. An entry that cannot be read is passed over. -/
def loadEntry : (depth : Nat) → Disk → Location → IO.FS.DirEntry → IO Disk
  | 0, disk, _, _ => return disk
  | depth + 1, disk, parent, entry => do
    let place := parent ++ [entry.fileName]
    try
      if ← entry.path.isDir then
        let inner ← entry.path.readDir
        inner.foldlM (fun disk below => loadEntry depth disk place below)
          (disk.put place .directory)
      else
        let bytes ← IO.FS.readBinFile entry.path
        return disk.put place (.file bytes.toList)
    catch _ => return disk

/-- The location that an argument names from the root, if it does, possibly after a letter. -/
def namedFromRoot? (argument : String) : Option Location :=
  match argument.toList with
  | '/' :: rest | '-' :: _ :: '/' :: rest => some (namesFromRoot (String.ofList rest))
  | _ => none

/-- The disk with a file that an argument names, and with the directory of the file. -/
def loadNamed (disk : Disk) (place : Location) : IO Disk := do
  if (disk.node? place).isSome then return disk
  let parent := place.dropLast
  let disk := if (disk.node? parent).isSome then disk else disk.putDirectories parent
  try
    let bytes ← IO.FS.readBinFile (pathFromRoot place)
    return disk.put place (.file bytes.toList)
  catch _ => return disk

/-- The disk as a run sees it. -/
def loadDisk (arguments : List String) : IO Disk := do
  let here ← IO.currentDir
  let workingDirectory := namesFromRoot here.toString
  let empty : Disk :=
    { nodes := [(["dev"], .directory), (["dev", "full"], .fullDevice)], workingDirectory }
  let disk ← (← here.readDir).foldlM
    (fun disk entry => loadEntry visibleDepth disk workingDirectory entry)
    (empty.putDirectories workingDirectory)
  (arguments.filterMap namedFromRoot?).foldlM loadNamed disk

/-- Carry back what a run changed. -/
def storeDisk (before after : Disk) : IO Unit :=
  after.nodes.forM fun (place, node) => do
    if before.node? place ≠ some node then
      match node with
      | .directory => IO.FS.createDirAll (pathFromRoot place)
      | .file bytes => IO.FS.writeBinFile (pathFromRoot place) ⟨bytes.toArray⟩
      | .fullDevice => pure ()

end ExtractOptions

/-- Run the program on the arguments of the command line. -/
def main (arguments : List String) : IO UInt32 := do
  let disk ← ExtractOptions.loadDisk arguments
  let outcome := ExtractOptions.run arguments (← ExtractOptions.readEnvironment) disk
  ExtractOptions.storeDisk disk outcome.disk
  IO.print outcome.standardOutput
  IO.eprint outcome.standardError
  return (outcome.exitCode % 256).toNat.toUInt32

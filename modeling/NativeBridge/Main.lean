import NativeBridge.CommandLine.Run
import NativeBridge.CommandLine.Usage

/-!
# The command

The command takes a copy of the files that its options name, runs on the copy and
writes back what has changed.
-/

namespace NativeBridge.CommandLine

/-- The paths that a command reads or writes. -/
def Given.paths (given : Given) : List String :=
  let config := (given.value? .config).getD standardConfigFile
  config :: [Setting.sources, .managedOut, .nativeOut].filterMap given.value?

/-- The path of a place. -/
def pathOf (place : Place) : String :=
  "/" ++ "/".intercalate place

/-- What stands at a place, if anything does. -/
def readEntry (place : Place) : IO (Option FileEntry) := do
  let path := (← IO.currentDir) / pathOf place
  if ← path.isDir then return some .directory
  if ← path.pathExists then return some (.file (← IO.FS.readBinFile path))
  return none

/-- Copies what stands at a place and below it into a tree. -/
partial def copyBelow (tree : FileTree) (place : Place) : IO FileTree := do
  match ← readEntry place with
  | none => return tree
  | some (.file bytes) => return tree.insert place (.file bytes)
  | some .directory =>
      let mut copy := tree.insert place .directory
      for entry in ← ((← IO.currentDir) / pathOf place).readDir do
        copy ← copyBelow copy (place ++ [entry.fileName])
      return copy

/-- Copies what stands at a place and at the places above it into a tree. -/
def copyAbove (tree : FileTree) (place : Place) : IO FileTree :=
  (List.range (place.length + 1)).foldlM (fun copy length => do
    match ← readEntry (place.take length) with
    | some entry => return copy.insert (place.take length) entry
    | none => return copy) tree

/-- The tree of the files that are named by some paths. -/
def copyFiles (paths : List String) : IO FileTree := do
  let start := FileTree.empty.destination (← IO.currentDir).toString
  let bare : FileTree := ⟨[], start⟩
  let places := paths.map bare.destination
  places.foldlM (fun copy place => do copyBelow (← copyAbove copy place) place)
    (← copyAbove bare start)

/-- Writes an entry that is not in the tree from before. -/
def writeEntry (before : FileTree) (place : Place) (entry : FileEntry) : IO Unit := do
  if (before.entry? place).any (FileEntry.sameAs entry) then return
  match entry with
  | .directory => IO.FS.createDirAll (pathOf place)
  | .file bytes => IO.FS.writeBinFile (pathOf place) bytes

/-- Runs the command on the files that it names. -/
def execute (arguments : List String) : IO Outcome := do
  let paths := match readArguments arguments with
    | .ok (_, given) => given.paths
    | .error _ => []
  let before ← copyFiles paths
  let (outcome, after) := run arguments before
  after.entries.reverse.forM fun (place, entry) => writeEntry before place entry
  return outcome

end NativeBridge.CommandLine

open NativeBridge.CommandLine in
/-- Runs the command, prints what it has to say and ends with its code. -/
def main (arguments : List String) : IO UInt32 := do
  let outcome ← execute arguments
  match outcome with
  | .done text => IO.print text
  | .failed fault => IO.eprintln ("Error: " ++ fault.message)
  | .stopped .help => IO.println usage
  | .stopped .usage => IO.eprintln usage
  return outcome.code.toUInt32

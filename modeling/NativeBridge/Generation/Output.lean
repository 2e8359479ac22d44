import NativeBridge.Generation.Basic
import NativeBridge.Generation.Sources

/-!
# Running the generator over files

The files of a run are written below two directories. A file that holds the same
text already is left alone.
-/

namespace NativeBridge

/-- A change of the files that may fail; what was changed before stays changed. -/
abbrev FileChange := ExceptT Failure (StateM FileTree)

namespace FileChange

/-- Makes a directory with everything above it. -/
def makeDirectories (path : String) : FileChange Unit := do
  let (tree, fault) := (← get).makeDirectories (PathText.lineage path)
  set tree
  match fault with
  | some fault => throw (.access path fault)
  | none => return

/-- A file holds exactly this text. -/
def holds (tree : FileTree) (path text : String) : Bool :=
  match tree.readText path with
  | .ok found => found == text
  | .error _ => false

/-- Writes a text to a file unless the file holds it already; tells whether it was written. -/
def writeIfChanged (path text : String) : FileChange Bool := do
  let tree ← get
  if holds tree path text then return false
  match tree.writeText path text with
  | .ok tree =>
      set tree
      return true
  | .error fault => throw (.access path fault)

/-- Writes some files below a directory; the number of those that were written. -/
def writeFiles (directory : String) (files : List GeneratedFile) : FileChange Nat := do
  makeDirectories directory
  let written ← files.mapM fun file =>
    writeIfChanged (PathText.join directory file.name) file.contents
  return (written.filter id).length

end FileChange

/-- Writes the files of a run below two directories; the number of those that were written. -/
def Generated.write (generated : Generated) (managed native : String) : FileChange Nat := do
  let first ← FileChange.writeFiles managed generated.managedFiles
  let second ← FileChange.writeFiles native generated.nativeFiles
  return first + second

/-- Everything that follows from some source files. -/
def generateSources (config : Config) (files : List SourceFile) : Except Failure Generated := do
  generate config (← readDeclarations files)

/-- Everything that follows from the source files below a directory. -/
def FileTree.generate (tree : FileTree) (config : Config) (root directory : String) :
    Except Failure Generated := do
  generateSources config (← tree.sources root directory)

end NativeBridge

import NativeBridge.Config.Reading
import NativeBridge.Declarations.ModulePath
import NativeBridge.Declarations.Reading

/-!
# What a run reads

A run reads every source file below a directory, in the order of their paths,
and a configuration file that may be missing.
-/

namespace NativeBridge

/-- A fault of the file or directory at a path. -/
def accessed {α : Type} (path : String) (result : Except AccessFault α) : Except Failure α :=
  result.mapError (.access path)

/-- The file with these names on its way ends like a source file. -/
def isSource (place : Place) : Bool :=
  place.getLast?.any (PathText.hasExtension "rs")

/-- Places in the order of their names. -/
def inOrder (places : List Place) : List Place :=
  places.mergeSort fun first second => !Place.before second first

/-- The components of a path from a directory that they begin with; all of them otherwise. -/
def relativeTo (root components : List String) : List String :=
  if root.isPrefixOf components then components.drop root.length else components

/-- The source file at a place below a directory. Its name is relative to the root
of the sources if it is below it. -/
def sourceFile (root directory : String) (place : Place) (contents : String) : SourceFile :=
  let path := PathText.join directory ("/".intercalate place)
  let relative := relativeTo (PathText.components root) (PathText.components path)
  ⟨"/".intercalate relative, modulePath relative, contents⟩

namespace FileTree

/-- The source files in a directory and below it, by the names on the way from there; the
system lists the names in each directory in an order of its own. -/
def walk (tree : FileTree) (listing : Place → List String) (place : Place) : List Place :=
  (listing place).flatMap fun name =>
    if (tree.entry? (place ++ [name])).any FileEntry.isDirectory then
      (tree.walk listing (place ++ [name])).map (name :: ·)
    else if isSource [name] then [[name]] else []
termination_by tree.countBelow place
decreasing_by
  exact FileTree.countBelow_lt (Option.isSome_of_any ‹_›)

/-- Reads a source file below a directory. -/
def readSource (tree : FileTree) (root directory : String) (below : Place) :
    Except Failure SourceFile := do
  let path := PathText.join directory ("/".intercalate below)
  return sourceFile root directory below (← accessed path (tree.readText path))

/-- Reads every source file below a directory in order. -/
def sourcesListed (tree : FileTree) (listing : Place → List String) (root directory : String) :
    Except Failure (List SourceFile) := do
  let place ← accessed directory (tree.directory directory)
  (inOrder (tree.walk listing place)).mapM (tree.readSource root directory)

/-- Reads every source file below a directory; the names in each directory are listed as the
tree has them. -/
def sources (tree : FileTree) (root directory : String) : Except Failure (List SourceFile) :=
  tree.sourcesListed tree.names root directory

/-- The configuration in a file; the standard one if there is no such file. -/
def config (tree : FileTree) (path : String) : Except Failure Config := do
  if tree.exists? path then Config.read (← accessed path (tree.readText path))
  else return .standard

end FileTree

end NativeBridge

import NativeBridge.Files.PathText

/-!
# Module paths of files

A source file holds the module that its path below the source directory names;
the files at the root of a directory hold the module of the directory.
-/

namespace NativeBridge

/-- The name of a file without its extension. -/
def stem (name : String) : String :=
  if name.endsWith ".rs" then (name.dropEnd 3).toString else name

/-- Names of files that hold the module of their directory. -/
def rootStems : List String :=
  ["mod", "lib", "main"]

/-- The path of the module that a file holds, by the components of its own path. -/
def modulePath (components : List String) : String :=
  let last := (components.getLast?.map fun name => [stem name]).getD []
  "::".intercalate (components.dropLast ++ last.filter fun name => !rootStems.contains name)

end NativeBridge

/-!
# Paths of files as text

A path is written with slashes between its components. Empty components and
single dots mean nothing, except for a dot at the front.
-/

namespace NativeBridge.PathText

/-- What stands between the slashes. -/
def pieces (path : String) : List String :=
  (path.toList.splitOn '/').map String.ofList

/-- The components of a path; a slash at the front is one of them. -/
def components (path : String) : List String :=
  let pieces := pieces path
  let root := if path.startsWith '/' then ["/"] else []
  let dot := if pieces.head? == some "." then ["."] else []
  root ++ dot ++ pieces.filter fun piece => piece != "" && piece != "."

/-- The path with some components. -/
def ofComponents : List String → String
  | "/" :: rest => "/" ++ "/".intercalate rest
  | components => "/".intercalate components

/-- A path from a directory; a path with a slash at the front starts at the root. -/
def join (directory path : String) : String :=
  if path.startsWith '/' then path
  else if directory.isEmpty || directory.endsWith '/' then directory ++ path
  else directory ++ "/" ++ path

/-- The directories above a path, the nearest first, by their components. -/
def above (components : List String) : List (List String) :=
  (List.range components.length).reverse.map components.take

/-- The path itself and the directories above it, the nearest first; neither the
empty path nor the root is among them. -/
def lineage (path : String) : List String :=
  let named := (above (components path)).filter fun components =>
    components != [] && components != ["/"]
  if path.isEmpty then [] else path :: named.map ofComponents

/-- The name ends with a full stop and this extension, after at least one more character. -/
def hasExtension (extension name : String) : Bool :=
  let ending := "." ++ extension
  name.endsWith ending && name != ending

end NativeBridge.PathText

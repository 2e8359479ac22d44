import NativeBridge.Files.PathText

/-!
# Trees of files

A tree of files is a value: what stands at each place below the root, and the
place from which relative paths start. Every access says why it fails.
-/

namespace NativeBridge

/-- What goes wrong with one file or directory. -/
inductive AccessFault where
  | notFound | notDirectory | isDirectory | alreadyExists | notUtf8
  deriving DecidableEq, Repr, Inhabited

/-- The text that the system has for a fault. -/
def AccessFault.message : AccessFault → String
  | notFound => "No such file or directory (os error 2)"
  | notDirectory => "Not a directory (os error 20)"
  | isDirectory => "Is a directory (os error 21)"
  | alreadyExists => "File exists (os error 17)"
  | notUtf8 => "stream did not contain valid UTF-8"

/-- The names on the way from the root to a file or directory. -/
abbrev Place := List String

/-- Where a piece of a path leads from a directory. -/
def Place.follow (place : Place) (piece : String) : Place :=
  if piece = "" ∨ piece = "." then place
  else if piece = ".." then place.dropLast
  else place ++ [piece]

/-- The second place is below the first. -/
def Place.isAbove (place other : Place) : Bool :=
  place.isPrefixOf other && other != place

theorem Place.isAbove_of_append {place rest other : Place}
    (inside : Place.isAbove (place ++ rest) other = true) : Place.isAbove place other = true := by
  simp only [Place.isAbove, Bool.and_eq_true, List.isPrefixOf_iff_prefix, bne_iff_ne] at inside ⊢
  obtain ⟨⟨more, rfl⟩, outside⟩ := inside
  refine ⟨⟨rest ++ more, by simp⟩, fun same => outside ?_⟩
  simp_all

theorem Place.isAbove_entry (place : Place) (name : String) :
    Place.isAbove place (place ++ [name]) = true := by
  simp [Place.isAbove]

theorem Place.not_isAbove_self (place : Place) : Place.isAbove place place = false := by
  simp [Place.isAbove]

/-- The order of paths goes by their names, from the first on. -/
def Place.before (first second : Place) : Bool :=
  first.lex second fun left right => decide (left < right)

/-- What stands at a place. -/
inductive FileEntry where
  | file (bytes : ByteArray)
  | directory
  deriving Inhabited

/-- A directory stands there. -/
def FileEntry.isDirectory : FileEntry → Bool
  | file _ => false
  | directory => true

/-- Equality byte by byte. -/
def FileEntry.sameAs : FileEntry → FileEntry → Bool
  | file bytes, file others => bytes.data == others.data
  | directory, directory => true
  | _, _ => false

/-- Files and directories by their places, the root apart, and the place from
which relative paths start. -/
structure FileTree where
  entries : List (Place × FileEntry)
  start : Place
  deriving Inhabited

namespace FileTree

/-- The tree with an empty root. -/
def empty : FileTree :=
  ⟨[], []⟩

/-- What stands at a place. -/
def entry? (tree : FileTree) (place : Place) : Option FileEntry :=
  if place.isEmpty then some .directory else tree.entries.lookup place

/-- The tree with something at a place. -/
def insert (tree : FileTree) (place : Place) (entry : FileEntry) : FileTree :=
  { tree with entries := (place, entry) :: tree.entries.filter fun (other, _) => other != place }

/-- The tree without a place and everything below it. -/
def erase (tree : FileTree) (place : Place) : FileTree :=
  { tree with entries := tree.entries.filter fun (other, _) => !place.isPrefixOf other }

/-- Follows one piece of a path out of a directory. -/
def enter (tree : FileTree) (place : Place) (piece : String) : Except AccessFault Place :=
  match tree.entry? place with
  | none => .error .notFound
  | some (.file _) => .error .notDirectory
  | some .directory => .ok (place.follow piece)

/-- Where the pieces of a path start. -/
def origin (tree : FileTree) (path : String) : Place :=
  if path.startsWith '/' then [] else tree.start

/-- The place that a path names, without a look at what stands on the way. -/
def destination (tree : FileTree) (path : String) : Place :=
  (PathText.pieces path).foldl Place.follow (tree.origin path)

/-- The place that a path leads to; nothing needs to stand there yet. -/
def resolve (tree : FileTree) (path : String) : Except AccessFault Place :=
  if path.isEmpty then .error .notFound
  else (PathText.pieces path).foldlM tree.enter (tree.origin path)

/-- What stands where a path leads. -/
def stat (tree : FileTree) (path : String) : Except AccessFault (Place × FileEntry) := do
  let place ← tree.resolve path
  match tree.entry? place with
  | some entry => return (place, entry)
  | none => throw .notFound

/-- Something stands where a path leads. -/
def exists? (tree : FileTree) (path : String) : Bool :=
  (tree.stat path).isOk

/-- A directory stands where a path leads. -/
def isDirectory (tree : FileTree) (path : String) : Bool :=
  match tree.stat path with
  | .ok (_, .directory) => true
  | _ => false

/-- The bytes of a file as text. -/
def decode (bytes : ByteArray) : Except AccessFault String :=
  match String.fromUTF8? bytes with
  | some text => .ok text
  | none => .error .notUtf8

/-- The text of a file. -/
def readText (tree : FileTree) (path : String) : Except AccessFault String := do
  match ← tree.stat path with
  | (_, .file bytes) => decode bytes
  | (_, .directory) => throw .isDirectory

/-- The files below a place, by the names on the way from there. -/
def filesBelow (tree : FileTree) (place : Place) : List (Place × ByteArray) :=
  tree.entries.filterMap fun (other, entry) =>
    match entry with
    | .file bytes => if place.isPrefixOf other then some (other.drop place.length, bytes) else none
    | .directory => none

/-- The names of what stands in a directory. -/
def names (tree : FileTree) (place : Place) : List String :=
  tree.entries.filterMap fun (other, _) =>
    if other.dropLast = place then other.getLast? else none

/-- How many files and directories stand below a place. -/
def countBelow (tree : FileTree) (place : Place) : Nat :=
  tree.entries.countP fun entry => Place.isAbove place entry.1

/-- An entry of a directory has less below it than the directory. -/
theorem countBelow_lt {tree : FileTree} {place : Place} {name : String}
    (stands : (tree.entry? (place ++ [name])).isSome) :
    tree.countBelow (place ++ [name]) < tree.countBelow place := by
  obtain ⟨entry, isEntry⟩ := Option.isSome_iff_exists.mp stands
  have found : tree.entries.lookup (place ++ [name]) = some entry := by
    simpa [FileTree.entry?] using isEntry
  obtain ⟨before, after, entries, -⟩ := List.lookup_eq_some_iff.mp found
  -- Whatever is below the entry is below the directory, and so is the entry itself.
  have mono (others : List (Place × FileEntry)) :
      others.countP (fun other => Place.isAbove (place ++ [name]) other.1)
        ≤ others.countP (fun other => Place.isAbove place other.1) :=
    List.countP_mono_left fun other _ inside => Place.isAbove_of_append inside
  have first := mono before
  have last := mono after
  simp only [countBelow, entries, List.countP_append, List.countP_cons, Place.isAbove_entry,
    Place.not_isAbove_self, if_true, Bool.false_eq_true, if_false]
  omega

/-- The directory that a path leads to. -/
def directory (tree : FileTree) (path : String) : Except AccessFault Place := do
  match ← tree.stat path with
  | (place, .directory) => return place
  | (_, .file _) => throw .notDirectory

/-- The files below the directory that a path leads to. -/
def list (tree : FileTree) (path : String) : Except AccessFault (List (Place × ByteArray)) := do
  return tree.filesBelow (← tree.directory path)

/-- A path without the slashes at its end. -/
def withoutEnd (path : String) : List String :=
  (PathText.pieces path).reverse.dropWhile (· == "") |>.reverse

/-- The place of a new directory: every place on the way to it is a directory already,
and nothing stands where the path leads. -/
def newPlace (tree : FileTree) (path : String) : Except AccessFault Place := do
  if path.isEmpty then throw .notFound
  let place ← (withoutEnd path).foldlM tree.enter (tree.origin path)
  if (tree.entry? place).isSome then throw .alreadyExists
  return place

/-- The tree with a new directory. -/
def makeDirectory (tree : FileTree) (path : String) : Except AccessFault FileTree := do
  return tree.insert (← tree.newPlace path) .directory

/-- The tree with a directory, which may be there already, and what went wrong. -/
def ensureDirectory (tree : FileTree) (path : String) : FileTree × Option AccessFault :=
  match tree.makeDirectory path with
  | .ok tree => (tree, none)
  | .error fault => (tree, if tree.isDirectory path then none else some fault)

/-- The tree with the directories of a lineage, the outermost made first, and what
went wrong on the way. -/
def makeDirectories (tree : FileTree) : List String → FileTree × Option AccessFault
  | [] => (tree, none)
  | path :: above =>
      match tree.makeDirectory path with
      | .error .notFound =>
          match tree.makeDirectories above with
          | (tree, none) => tree.ensureDirectory path
          | failed => failed
      | _ => tree.ensureDirectory path

/-- The tree with a text in a file, which may be there already. -/
def writeText (tree : FileTree) (path text : String) : Except AccessFault FileTree := do
  let place ← tree.resolve path
  match tree.entry? place with
  | some .directory => throw .isDirectory
  | _ => return tree.insert place (.file text.toUTF8)

end FileTree

end NativeBridge

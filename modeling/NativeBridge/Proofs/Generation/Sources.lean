import Mathlib.Data.List.Nodup
import NativeBridge.Generation.Sources
import NativeBridge.Proofs.Files.Tree

/-!
# Source files of a directory

The walk over a directory comes to every source file below it once, in whatever order the
names in each directory are listed (`mem_walk_iff`, `nodup_walk`), and the order of paths
is a total one, so the files that are read and their order do not depend on the listing
(`sourcesListed_finds_all`), nor on what stands elsewhere (`sources_congr`).
-/

namespace NativeBridge

open PathText

/-! ### The order of paths -/

namespace Place

theorem not_before_trans {first second third : Place} (later : Place.before second first = false)
    (evenLater : Place.before third second = false) : Place.before third first = false := by
  rw [Place.before, List.lex_eq_false_iff_ge] at *
  exact List.le_trans later evenLater

theorem not_before_total (first second : Place) :
    Place.before second first = false ∨ Place.before first second = false := by
  simp only [Place.before, List.lex_eq_false_iff_ge]
  exact List.le_total first second

theorem eq_of_not_before {first second : Place} (later : Place.before second first = false)
    (earlier : Place.before first second = false) : first = second := by
  rw [Place.before, List.lex_eq_false_iff_ge] at *
  exact List.le_antisymm later earlier

/-- Names that paths begin with in common do not count. -/
theorem before_append (above first second : Place) :
    Place.before (above ++ first) (above ++ second) = Place.before first second := by
  induction above with
  | nil => rfl
  | cons name rest ih =>
      have irreflexive : decide (name < name) = false := decide_eq_false (String.lt_irrefl name)
      rw [← ih]
      simp only [Place.before, List.cons_append, List.cons_lex_cons, irreflexive, Bool.false_or,
        beq_self_eq_true, Bool.true_and]

end Place

theorem pairwise_inOrder (places : List Place) :
    (inOrder places).Pairwise fun first second => Place.before second first = false := by
  have sorted : (inOrder places).Pairwise fun first second => !Place.before second first := by
    refine List.pairwise_mergeSort (fun first second third later evenLater => ?_)
      (fun first second => ?_) places
    · rw [Bool.not_eq_true'] at *
      exact Place.not_before_trans later evenLater
    · simpa using Place.not_before_total first second
  exact sorted.imp fun later => by simpa using later

theorem inOrder_perm (places : List Place) : (inOrder places).Perm places :=
  List.mergeSort_perm places _

/-- Different places stand one strictly before the other. -/
theorem pairwise_inOrder_of_nodup {places : List Place} (distinct : places.Nodup) :
    (inOrder places).Pairwise fun first second => Place.before first second = true := by
  have apart : (inOrder places).Nodup := (inOrder_perm places).nodup_iff.mpr distinct
  refine List.Pairwise.imp₂ (fun first second later differs => ?_) (pairwise_inOrder places) apart
  by_contra earlier
  exact differs (Place.eq_of_not_before later (by simpa using earlier))

/-- The order of places does not depend on the order in which they were found. -/
theorem inOrder_eq_of_perm {places others : List Place} (same : places.Perm others) :
    inOrder places = inOrder others := by
  refine List.Perm.eq_of_pairwise (fun first second _ _ => Place.eq_of_not_before)
    (pairwise_inOrder places) (pairwise_inOrder others) ?_
  exact (inOrder_perm places).trans (same.trans (inOrder_perm others).symm)

/-! ### The walk -/

/-- A source file has a name. -/
theorem ne_nil_of_isSource {below : Place} (source : isSource below = true) : below ≠ [] := by
  rintro rfl
  cases source

theorem isSource_cons {name : String} {below : Place} (further : below ≠ []) :
    isSource (name :: below) = isSource below := by
  rw [isSource, isSource, List.getLast?_cons_of_ne_nil further]

namespace FileTree

/-- The names in each directory are listed in some order. -/
def Lists (tree : FileTree) (listing : Place → List String) : Prop :=
  ∀ inside, (listing inside).Perm (tree.names inside)

variable {tree : FileTree} {listing : Place → List String} {place : Place}

theorem lists_names (tree : FileTree) : tree.Lists tree.names :=
  fun _ => .refl _

/-- The walk comes to every source file below the directory and to nothing else. -/
theorem mem_walk_iff (lawful : tree.IsTree) (lists : tree.Lists listing) {below : Place} :
    below ∈ tree.walk listing place ↔
      isSource below = true ∧ ∃ bytes, tree.entry? (place ++ below) = some (.file bytes) := by
  induction place using FileTree.walk.induct tree generalizing below with
  | case1 place ih =>
      rw [walk, List.mem_flatMap]
      constructor
      · rintro ⟨name, isListed, isFound⟩
        have stands := mem_names_iff.mp ((lists place).mem_iff.mp isListed)
        by_cases isDirectory : (tree.entry? (place ++ [name])).any FileEntry.isDirectory = true
        · rw [if_pos isDirectory] at isFound
          obtain ⟨rest, isRest, rfl⟩ := List.mem_map.mp isFound
          obtain ⟨source, bytes, isFile⟩ := (ih name isDirectory).mp isRest
          exact ⟨isSource_cons (ne_nil_of_isSource source) ▸ source, bytes, by simpa using isFile⟩
        · obtain ⟨source, rfl⟩ : isSource [name] = true ∧ below = [name] := by
            simpa [isDirectory] using isFound
          obtain ⟨entry, isEntry⟩ := Option.isSome_iff_exists.mp stands
          cases entry with
          | file bytes => exact ⟨source, bytes, isEntry⟩
          | directory => simp [isEntry, FileEntry.isDirectory] at isDirectory
      · rintro ⟨source, bytes, isFile⟩
        obtain ⟨name, rest, rfl⟩ := List.exists_cons_of_ne_nil (ne_nil_of_isSource source)
        by_cases further : rest = []
        · subst further
          refine ⟨name, (lists place).mem_iff.mpr (mem_names_iff.mpr (by simp [isFile])), ?_⟩
          simp [isFile, FileEntry.isDirectory, source]
        · have isFile' : tree.entry? ((place ++ [name]) ++ rest) = some (.file bytes) := by
            simpa using isFile
          have isDirectory : tree.entry? (place ++ [name]) = some .directory :=
            lawful.above (by simp [isFile]) further
          have isAny : (tree.entry? (place ++ [name])).any FileEntry.isDirectory = true := by
            simp [isDirectory, FileEntry.isDirectory]
          refine ⟨name, (lists place).mem_iff.mpr (mem_names_iff.mpr (by simp [isDirectory])), ?_⟩
          rw [if_pos isAny]
          exact List.mem_map_of_mem
            ((ih name isAny).mpr ⟨isSource_cons further ▸ source, bytes, isFile'⟩)

/-- The walk comes to no file twice. -/
theorem nodup_walk (lawful : tree.IsTree) (lists : tree.Lists listing) (place : Place) :
    (tree.walk listing place).Nodup := by
  induction place using FileTree.walk.induct tree with
  | case1 place ih =>
      -- What is found by way of a name begins with it.
      have begins (name : String) (below : Place)
          (isFound : below ∈ if (tree.entry? (place ++ [name])).any FileEntry.isDirectory then
              (tree.walk listing (place ++ [name])).map (name :: ·)
            else if isSource [name] then [[name]] else []) : below.head? = some name := by
        split at isFound
        · obtain ⟨rest, -, rfl⟩ := List.mem_map.mp isFound
          rfl
        · split at isFound
          · rw [List.mem_singleton.mp isFound]
            rfl
          · cases isFound
      rw [walk, List.nodup_flatMap]
      constructor
      · intro name isListed
        split
        · exact (ih name ‹_›).map (List.cons_injective)
        · split <;> simp
      · have distinct : (listing place).Nodup :=
          (lists place).nodup_iff.mpr (lawful.nodup_names place)
        refine distinct.imp fun {first second} differs below isFirst isSecond => differs ?_
        have same := (begins first below isFirst).symm.trans (begins second below isSecond)
        exact Option.some.inj same

/-- Below a place the same files stand in both trees, whatever directories there are. -/
def SameFilesBelow (tree after : FileTree) (place : Place) : Prop :=
  ∀ below bytes, below ≠ [] →
    (after.entry? (place ++ below) = some (.file bytes) ↔
      tree.entry? (place ++ below) = some (.file bytes))

/-- The walk comes to the same source files where the same files stand, in whatever order their
names are listed. -/
theorem walk_perm {after : FileTree} {others : Place → List String} (lawful : tree.IsTree)
    (lists : tree.Lists listing) (lawfulAfter : after.IsTree) (listsAfter : after.Lists others)
    (same : SameFilesBelow tree after place) :
    (after.walk others place).Perm (tree.walk listing place) := by
  refine (List.perm_ext_iff_of_nodup (nodup_walk lawfulAfter listsAfter place)
    (nodup_walk lawful lists place)).mpr fun below => ?_
  rw [mem_walk_iff lawfulAfter listsAfter, mem_walk_iff lawful lists]
  exact and_congr_right fun source =>
    exists_congr fun bytes => same below bytes (ne_nil_of_isSource source)

/-! ### Reading -/

/-- The names on the way to what stands below a directory lead there from the directory. -/
theorem resolve_below (lawful : tree.IsTree) {directory : String} {below : Place}
    (opens : tree.Opens directory) (further : below ≠ [])
    (stands : (tree.entry? (tree.destination directory ++ below)).isSome) :
    tree.resolve (join directory ("/".intercalate below))
      = .ok (tree.destination directory ++ below) := by
  have named := lawful.isName stands
  have isPieces := pieces_intercalate further fun name isName => (named name isName).slash
  have given : "/".intercalate below ≠ "" := by
    intro empty
    rw [empty] at isPieces
    have isLetters := (named "" (isPieces ▸ by simp [PathText.pieces])).letters
    exact isLetters rfl
  rw [resolve_join opens (startsWith_intercalate further named) given, isPieces,
    lawful.leads stands]

theorem directory_eq_ok_iff {path : String} :
    tree.directory path = .ok place ↔ tree.stat path = .ok (place, .directory) := by
  rw [directory, Outcome.bind_eq_ok_iff]
  constructor
  · rintro ⟨⟨found, entry⟩, isFound, isPlace⟩
    cases entry with
    | file bytes => cases isPlace
    | directory => rwa [Outcome.pure_eq_ok_iff.mp isPlace] at isFound
  · intro isFound
    exact ⟨_, isFound, rfl⟩

/-- A source file is read under its components relative to the root. -/
theorem readSource_of_file (lawful : tree.IsTree) (root : String) {directory : String}
    {below : Place} {text : String} (opens : tree.Opens directory) (source : isSource below = true)
    (isFile : tree.entry? (tree.destination directory ++ below) = some (.file text.toUTF8)) :
    tree.readSource root directory below =
      let relative := relativeTo (components root) (components directory ++ below)
      .ok ⟨"/".intercalate relative, modulePath relative, text⟩ := by
  have further := ne_nil_of_isSource source
  have stands : (tree.entry? (tree.destination directory ++ below)).isSome := by simp [isFile]
  have reads := (readText_eq_ok_iff (resolve_below lawful opens further stands)).mpr isFile
  have isComponents : components (join directory ("/".intercalate below))
      = components directory ++ below := components_join further (lawful.isName stands)
  simp [readSource, sourceFile, reads, isComponents, accessed, Except.mapError, bind, Except.bind,
    pure, Except.pure]

/-- A source file is read as what stands at its place, whatever stands elsewhere. -/
theorem readSource_congr {after : FileTree} (lawful : tree.IsTree) (lawfulAfter : after.IsTree)
    (root : String) {directory : String} (opens : tree.Opens directory)
    (opensAfter : after.Opens directory)
    (sameDirectory : after.destination directory = tree.destination directory) {below : Place}
    (further : below ≠ []) {bytes : ByteArray}
    (isFile : tree.entry? (tree.destination directory ++ below) = some (.file bytes))
    (isFileAfter : after.entry? (tree.destination directory ++ below) = some (.file bytes)) :
    after.readSource root directory below = tree.readSource root directory below := by
  have leads := resolve_below lawful opens further (by simp [isFile])
  have leadsAfter := resolve_below lawfulAfter opensAfter further
    (by simp [sameDirectory, isFileAfter])
  rw [sameDirectory] at leadsAfter
  rw [readSource, readSource, readText_of_file leads isFile,
    readText_of_file leadsAfter isFileAfter]

/-- The sources below a directory are the files that stand there, whatever stands elsewhere. -/
theorem sources_congr {after : FileTree} (lawful : tree.IsTree) (lawfulAfter : after.IsTree)
    (root : String) {directory : String}
    (isDirectory : tree.stat directory = .ok (place, .directory))
    (isDirectoryAfter : after.stat directory = .ok (place, .directory))
    (same : SameFilesBelow tree after place) :
    after.sources root directory = tree.sources root directory := by
  have samePlaces := inOrder_eq_of_perm
    (walk_perm lawful tree.lists_names lawfulAfter after.lists_names same)
  rw [sources, sources, sourcesListed, sourcesListed, directory_eq_ok_iff.mpr isDirectory,
    directory_eq_ok_iff.mpr isDirectoryAfter]
  obtain ⟨-, opens, rfl⟩ := stat_directory_iff.mp isDirectory
  obtain ⟨-, opensAfter, sameDirectory⟩ := stat_directory_iff.mp isDirectoryAfter
  have sameTexts : ∀ below ∈ inOrder (tree.walk tree.names (tree.destination directory)),
      after.readSource root directory below = tree.readSource root directory below := by
    intro below isPlace
    obtain ⟨source, bytes, isFile⟩ := (mem_walk_iff lawful tree.lists_names).mp
      ((inOrder_perm _).mem_iff.mp isPlace)
    have further := ne_nil_of_isSource source
    exact readSource_congr lawful lawfulAfter root opens opensAfter sameDirectory.symm further
      isFile ((same below bytes further).mpr isFile)
  simp only [accessed, Except.mapError, bind, Except.bind, samePlaces]
  exact Outcome.mapM_congr sameTexts

/-- Every place that the walk comes to has its text, in the order of the paths. -/
theorem exists_texts (lawful : tree.IsTree)
    (readable : ∀ below bytes, isSource below = true →
      tree.entry? (place ++ below) = some (.file bytes) →
      ∃ text, String.fromUTF8? bytes = some text) :
    ∃ found : List (Place × String),
      inOrder (tree.walk tree.names place) = found.map Prod.fst ∧
      ∀ below text, (below, text) ∈ found ↔
        isSource below = true ∧ tree.entry? (place ++ below) = some (.file text.toUTF8) := by
  have mem_places {below : Place} : below ∈ inOrder (tree.walk tree.names place) ↔
      isSource below = true ∧ ∃ bytes, tree.entry? (place ++ below) = some (.file bytes) := by
    rw [(inOrder_perm _).mem_iff, mem_walk_iff lawful tree.lists_names]
  obtain ⟨found, isFound⟩ : ∃ found : List (Place × String), List.Forall₂ (fun below file =>
      below = file.1 ∧ isSource file.1 = true ∧
        tree.entry? (place ++ file.1) = some (.file file.2.toUTF8))
      (inOrder (tree.walk tree.names place)) found := by
    refine exists_forall₂_iff.mpr fun below isPlace => ?_
    obtain ⟨source, bytes, isFile⟩ := mem_places.mp isPlace
    obtain ⟨text, decodes⟩ := readable below bytes source isFile
    exact ⟨(below, text), rfl, source, fromUTF8?_eq_some_iff.mp decodes ▸ isFile⟩
  have isMap : inOrder (tree.walk tree.names place) = found.map Prod.fst := by
    rw [← List.forall₂_eq_eq_eq, List.forall₂_map_right_iff]
    exact isFound.imp fun _ _ file => file.1
  refine ⟨found, isMap, fun below text => ⟨fun isFile => ?_, ?_⟩⟩
  · obtain ⟨_, -, -, source, stands⟩ := exists_of_forall₂ isFound isFile
    exact ⟨source, stands⟩
  · rintro ⟨source, stands⟩
    -- The text that was found at the place is the one that stands there.
    have isPlace := mem_places.mpr ⟨source, _, stands⟩
    rw [isMap] at isPlace
    obtain ⟨⟨_, other⟩, isFile, rfl⟩ := List.mem_map.mp isPlace
    obtain ⟨_, -, -, -, alsoStands⟩ := exists_of_forall₂ isFound isFile
    have sameBytes : text.toUTF8 = other.toUTF8 := by
      simpa using stands.symm.trans alsoStands
    have same : some text = some other := by
      rw [← fromUTF8?_eq_some_iff.mpr sameBytes.symm, fromUTF8?_eq_some_iff.mpr rfl]
    exact Option.some.inj same ▸ isFile

/-- The sources of a small crate: a module in a directory, a file beside it and a text that is no
source. -/
def mathCrate : FileTree :=
  ((((FileTree.empty.insert ["src"] .directory).insert ["src", "math"] .directory).insert
    ["src", "math", "mod.rs"] (.file "pub mod shapes;".toUTF8)).insert
    ["src", "lib.rs"] (.file "pub mod math;".toUTF8)).insert
    ["src", "notes.txt"] (.file "none".toUTF8)

theorem isTree_mathCrate : mathCrate.IsTree :=
  ((((IsTree.empty.insert [] "src" (by decide) rfl nofun).insert ["src"] "math" (by decide) rfl
    nofun).insert ["src", "math"] "mod.rs" (by decide) rfl nofun).insert ["src"] "lib.rs"
    (by decide) rfl nofun).insert ["src"] "notes.txt" (by decide) rfl nofun

theorem readable_mathCrate {place : Place} {bytes : ByteArray}
    (isFile : mathCrate.entry? place = some (.file bytes)) :
    ∃ text, String.fromUTF8? bytes = some text := by
  have ofText {text : String} (same : text.toUTF8 = bytes) :
      ∃ text, String.fromUTF8? bytes = some text := ⟨text, fromUTF8?_eq_some_iff.mpr same.symm⟩
  have bare : FileTree.empty.entry? place ≠ some (.file bytes) := by
    cases place <;> simp [FileTree.entry?, FileTree.empty]
  simp only [mathCrate, entry?_insert, ne_eq, reduceCtorEq, not_false_eq_true] at isFile
  split at isFile
  · exact ofText (by simpa using isFile)
  split at isFile
  · exact ofText (by simpa using isFile)
  split at isFile
  · exact ofText (by simpa using isFile)
  split at isFile
  · cases isFile
  split at isFile
  · cases isFile
  · exact absurd isFile bare

end FileTree

end NativeBridge

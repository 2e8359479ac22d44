import NativeBridge.Generation.Output
import NativeBridge.Proofs.Files.Texts
import NativeBridge.Proofs.Generation.Artifacts
import NativeBridge.Proofs.Naming

/-!
# Writing a run

A run makes a directory and writes its files, then another directory and its files
(`run_write_eq_ok_iff_steps`). That fails exactly if a directory cannot be made or stands where
a file belongs (`accessible_iff`). Otherwise every file holds its text in the end, no other file
has changed, and the run written once more changes nothing (`write_leaves_files`). All that takes
a place of its own for every file, and what is made up from declarations has such places unless
a class takes the name of an index (`hasPlaces_iff_of_generate`).
-/

namespace NativeBridge

open PathText

/-! ### Files at their places -/

/-- Some files at their places in a directory, with their texts. -/
def GeneratedFile.below (directory : Place) (files : List GeneratedFile) : List (Place × String) :=
  files.map fun file => (directory ++ [file.name], file.contents)

namespace GeneratedFile

variable {directory other : Place} {files : List GeneratedFile} {file : Place × String}

theorem ne_nil_of_mem_below (isFile : file ∈ below directory files) : file.1 ≠ [] := by
  obtain ⟨found, -, rfl⟩ := List.mem_map.mp isFile
  simp

theorem named_of_mem_below (named : ∀ file ∈ files, IsName file.name)
    (isFile : file ∈ below directory files) :
    ∃ name, file.1 = directory ++ [name] ∧ IsName name := by
  obtain ⟨found, isFound, rfl⟩ := List.mem_map.mp isFile
  exact ⟨found.name, rfl, named found isFound⟩

/-- Files with different names have different places in a directory. -/
theorem nodup_below (directory : Place) (distinct : (files.map GeneratedFile.name).Nodup) :
    ((below directory files).map Prod.fst).Nodup := by
  have isMap : (below directory files).map Prod.fst
      = (files.map GeneratedFile.name).map fun name => directory ++ [name] := by
    simp [below, Function.comp_def]
  rw [isMap]
  exact distinct.map fun first second same => by simpa using same

/-- What is written in a file is no matter to the files of other names. -/
theorem entry?_writeAt (tree : FileTree) {name : String} (text : String)
    (another : name ∉ files.map GeneratedFile.name) (isFile : file ∈ below directory files) :
    FileTree.entry? (tree.writeAt (directory ++ [name]) text) file.1 = tree.entry? file.1 := by
  obtain ⟨other, isOther, rfl⟩ := List.mem_map.mp isFile
  rw [FileTree.entry?_writeAt (by simp), if_neg]
  intro samePlace
  have sameName : other.name = name := by simpa using samePlace
  exact another (List.mem_map.mpr ⟨other, isOther, sameName⟩)

/-- Files in different directories are different files. -/
theorem notMem_below (apart : directory ≠ other) (files : List GeneratedFile)
    {others : List GeneratedFile} (isOther : file ∈ below other others) :
    file.1 ∉ (below directory files).map Prod.fst := by
  intro isPlace
  obtain ⟨_, -, rfl⟩ := List.mem_map.mp isOther
  obtain ⟨_, isFound, same⟩ := List.mem_map.mp isPlace
  obtain ⟨_, -, rfl⟩ := List.mem_map.mp isFound
  exact apart (List.append_inj' same rfl).1

end GeneratedFile

/-- A name with an ending is one for files. -/
theorem isName_append {stem ending : String} {last : Char} (plain : '/' ∉ stem.toList)
    (plainEnding : '/' ∉ ending.toList) (ends : ending.toList.getLast? = some last)
    (noDot : last ≠ '.') : IsName (stem ++ ending) where
  slash := by simp [String.toList_append, plain, plainEnding]
  letters := by
    intro empty
    have isEmpty : ending = "" := (String.append_eq_empty_iff.mp empty).2
    rw [isEmpty] at ends
    cases ends
  dot := append_ne_append_of_last stem ending "" "." ends rfl noDot
  dots := append_ne_append_of_last stem ending "." "." ends rfl noDot

/-- All files that a run produces have names. -/
theorem Generated.isName_of_generate {config : Config} {declarations : Declarations}
    {generated : Generated} (success : generate config declarations = .ok generated) :
    (∀ file ∈ generated.managedFiles, IsName file.name) ∧
      ∀ file ∈ generated.nativeFiles, IsName file.name := by
  obtain ⟨types, classes, -, -, -, rfl⟩ := generate_ok success
  have managed (cls : ExportedClass) : IsName (Stub.managedFileName cls) :=
    isName_append (Naming.slash_notMem_snakeCase cls.name) (by decide) rfl (by decide)
  have native (cls : ExportedClass) : IsName (Stub.nativeFileName cls) := by
    unfold Stub.nativeFileName
    split <;>
      exact isName_append (Naming.slash_notMem_snakeCase cls.name) (by decide) rfl (by decide)
  have own : IsName "bindings.rs" ∧ IsName "registration.cpp" ∧ IsName "index.ixx" := by decide
  simp only [managedFiles, nativeFiles, generateFiles, generateClass, List.map_map,
    List.forall_mem_append, List.forall_mem_map, List.forall_mem_cons, Function.comp_apply]
  have none : ∀ file ∈ ([] : List GeneratedFile), IsName file.name := List.forall_mem_nil _
  exact ⟨⟨fun cls _ => managed cls, own.1, none⟩,
    fun cls _ => native cls, own.2.1, own.2.2, none⟩

/-! ### Steps of a change -/

namespace FileChange

variable {α β : Type} {tree after : FileTree}

theorem run_bind_eq_ok_iff {first : FileChange α} {next : α → FileChange β} {result : β} :
    (first >>= next).run tree = (.ok result, after) ↔
      ∃ value between, first.run tree = (.ok value, between) ∧
        (next value).run between = (.ok result, after) := by
  have runs : (first >>= next).run tree =
      (fun ended => ExceptT.bindCont next ended.1 ended.2) (first.run tree) := rfl
  rw [runs]
  rcases first.run tree with ⟨_ | value, between⟩
  · constructor
    · rintro ⟨⟩
    · rintro ⟨_, _, ⟨⟩, _⟩
  · constructor
    · intro continues
      exact ⟨value, between, rfl, continues⟩
    · rintro ⟨_, _, ⟨⟩, continues⟩
      exact continues

theorem run_get_bind {next : FileTree → FileChange α} :
    (get >>= next : FileChange α).run tree = (next tree).run tree := rfl

theorem run_pure_eq_ok_iff {value result : α} :
    (pure value : FileChange α).run tree = (.ok result, after) ↔ result = value ∧ after = tree := by
  constructor
  · rintro ⟨⟩
    exact ⟨rfl, rfl⟩
  · rintro ⟨rfl, rfl⟩
    rfl

theorem run_makeDirectories_eq_ok_iff {path : String} {value : Unit} :
    (makeDirectories path).run tree = (.ok value, after) ↔
      tree.makeDirectories (lineage path) = (after, none) := by
  rw [makeDirectories, run_get_bind]
  rcases tree.makeDirectories (lineage path) with ⟨made, _ | fault⟩
  · constructor
    · rintro ⟨⟩
      rfl
    · rintro ⟨⟩
      rfl
  · constructor <;> rintro ⟨⟩

section

variable {path text : String} {place : Place}

theorem holds_eq (leads : tree.resolve path = .ok place) :
    holds tree path text = tree.holdsText place text := by
  rw [Bool.eq_iff_iff, FileTree.holdsText_iff, ← FileTree.readText_eq_ok_iff leads, holds]
  cases tree.readText path <;> simp

/-- A text is written unless a directory stands in its place or the file holds it already. -/
theorem run_writeIfChanged_eq_ok_iff {written : Bool} (leads : tree.resolve path = .ok place) :
    (writeIfChanged path text).run tree = (.ok written, after) ↔
      tree.entry? place ≠ some .directory ∧ written = !tree.holdsText place text ∧
        after = tree.writeAt place text := by
  rw [writeIfChanged, run_get_bind, holds_eq leads]
  cases holds : tree.holdsText place text with
  | true =>
      rw [tree.writeAt_of_holds holds, FileTree.holdsText_iff.mp holds]
      constructor
      · rintro ⟨⟩
        exact ⟨by simp, rfl, rfl⟩
      · rintro ⟨-, rfl, rfl⟩
        rfl
  | false =>
      have isNew : tree.writeAt place text = tree.insert place (.file text.toUTF8) := by
        rw [FileTree.writeAt, holds]
        rfl
      rw [isNew]
      cases writes : tree.writeText path text with
      | ok next =>
          obtain ⟨free, rfl⟩ := (FileTree.writeText_eq_ok_iff leads).mp writes
          constructor
          · rintro ⟨⟩
            exact ⟨free, rfl, rfl⟩
          · rintro ⟨-, rfl, rfl⟩
            rfl
      | error fault =>
          constructor
          · rintro ⟨⟩
          · rintro ⟨free, -⟩
            cases writes.symm.trans ((FileTree.writeText_eq_ok_iff leads).mpr ⟨free, rfl⟩)

end

/-! ### The files of one directory -/

variable {directory : String} {files : List GeneratedFile}

/-- What comes of writing files one after the other is known beforehand: each is written unless it
holds its text already. -/
theorem run_writeEach_eq_ok_iff {written : List Bool} (opens : tree.Opens directory)
    (named : ∀ file ∈ files, IsName file.name)
    (distinct : (files.map GeneratedFile.name).Nodup) :
    (files.mapM fun file => writeIfChanged (join directory file.name) file.contents).run tree
        = (.ok written, after) ↔
      let listed := GeneratedFile.below (tree.destination directory) files
      (∀ file ∈ listed, tree.entry? file.1 ≠ some .directory) ∧
        written = listed.map (fun file => !tree.holdsText file.1 file.2) ∧
        after = tree.writeAll listed := by
  induction files generalizing tree written after with
  | nil =>
      rw [List.mapM_nil, run_pure_eq_ok_iff]
      simp [GeneratedFile.below, FileTree.writeAll]
  | cons file rest ih =>
      rw [List.forall_mem_cons] at named
      rw [List.map_cons, List.nodup_cons] at distinct
      have leads := FileTree.resolve_name opens named.1
      have isBelow : GeneratedFile.below (tree.destination directory) (file :: rest)
          = (tree.destination directory ++ [file.name], file.contents)
            :: GeneratedFile.below (tree.destination directory) rest := rfl
      generalize isPlace : tree.destination directory ++ [file.name] = place at leads isBelow
      -- What is written first is no matter to the other files.
      have later (free : tree.entry? place ≠ some .directory) (others : List Bool) :
          (rest.mapM fun file => writeIfChanged (join directory file.name) file.contents).run
              (tree.writeAt place file.contents) = (.ok others, after) ↔
            let listed := GeneratedFile.below (tree.destination directory) rest
            (∀ file ∈ listed, tree.entry? file.1 ≠ some .directory) ∧
              others = listed.map (fun file => !tree.holdsText file.1 file.2) ∧
              after = (tree.writeAt place file.contents).writeAll listed := by
        have same (found : Place × String)
            (isLater : found ∈ GeneratedFile.below (tree.destination directory) rest) :=
          isPlace ▸ GeneratedFile.entry?_writeAt tree file.contents distinct.1 isLater
        rw [ih (opens.writeAt free) named.2 distinct.2,
          FileTree.destination_congr FileTree.start_writeAt]
        refine and_congr (forall₂_congr fun found isLater => by rw [same found isLater])
          (and_congr ?_ Iff.rfl)
        rw [List.map_congr_left fun found isLater => by
          rw [FileTree.holdsText_congr (same found isLater)]]
      rw [List.mapM_cons]
      simp only [run_bind_eq_ok_iff, run_pure_eq_ok_iff, run_writeIfChanged_eq_ok_iff leads,
        isBelow, List.map_cons, List.forall_mem_cons]
      constructor
      · rintro ⟨_, _, ⟨free, rfl, rfl⟩, others, _, runs, rfl, rfl⟩
        obtain ⟨freeRest, rfl, rfl⟩ := (later free others).mp runs
        exact ⟨⟨free, freeRest⟩, rfl, rfl⟩
      · rintro ⟨⟨free, freeRest⟩, rfl, rfl⟩
        exact ⟨_, _, ⟨free, rfl, rfl⟩, _, _, (later free _).mpr ⟨freeRest, rfl, rfl⟩, rfl, rfl⟩

/-- Writing files below a directory makes the directory, then writes them. -/
theorem run_writeFiles_eq_ok_iff {count : Nat} (lawful : tree.IsTree)
    (named : ∀ file ∈ files, IsName file.name)
    (distinct : (files.map GeneratedFile.name).Nodup) :
    (writeFiles directory files).run tree = (.ok count, after) ↔
      let listed := GeneratedFile.below (tree.destination directory) files
      ∃ made, tree.makeDirectories (lineage directory) = (made, none) ∧
        (∀ file ∈ listed, made.entry? file.1 ≠ some .directory) ∧
        count = (listed.filter fun file => !made.holdsText file.1 file.2).length ∧
        after = made.writeAll listed := by
  have opens {made : FileTree} (makes : tree.makeDirectories (lineage directory) = (made, none)) :
      made.Opens directory ∧ made.destination directory = tree.destination directory := by
    have grows := (FileTree.makeDirectories_eq_iff.mp makes).grows
    exact ⟨FileTree.opens_of_makeDirectories lawful makes, FileTree.destination_congr grows.start⟩
  rw [writeFiles, run_bind_eq_ok_iff]
  simp only [run_makeDirectories_eq_ok_iff, run_bind_eq_ok_iff, run_pure_eq_ok_iff]
  constructor
  · rintro ⟨_, made, makes, written, _, runs, rfl, rfl⟩
    obtain ⟨opens, sameDestination⟩ := opens makes
    obtain ⟨free, rfl, rfl⟩ := (run_writeEach_eq_ok_iff opens named distinct).mp runs
    rw [sameDestination] at free ⊢
    exact ⟨made, makes, free, by simp [List.filter_map], rfl⟩
  · rintro ⟨made, makes, free, rfl, rfl⟩
    obtain ⟨opens, sameDestination⟩ := opens makes
    rw [← sameDestination] at free ⊢
    have runs := (run_writeEach_eq_ok_iff opens named distinct).mpr ⟨free, rfl, rfl⟩
    exact ⟨(), made, makes, _, _, runs, by simp [List.filter_map], rfl⟩

/-- What is written below a directory leaves a tree in which the directory is there. -/
theorem isTree_of_writeFiles (lawful : tree.IsTree)
    (makes : tree.makeDirectories (lineage directory) = (after, none))
    (named : ∀ file ∈ files, IsName file.name)
    (free : ∀ file ∈ GeneratedFile.below (tree.destination directory) files,
      after.entry? file.1 ≠ some .directory) :
    let written := after.writeAll (GeneratedFile.below (tree.destination directory) files)
    written.IsTree ∧ written.start = tree.start ∧ written.Opens directory := by
  have isMade := FileTree.makeDirectories_eq_iff.mp makes
  have opens := FileTree.opens_of_makeDirectories lawful makes
  have isDirectory := opens.destination
  rw [FileTree.destination_congr isMade.grows.start] at isDirectory
  have named (file : Place × String)
      (isFile : file ∈ GeneratedFile.below (tree.destination directory) files) :=
    GeneratedFile.named_of_mem_below named isFile
  exact ⟨(isMade.isTree lawful).writeAll isDirectory named free,
    FileTree.start_writeAll.trans isMade.grows.start, opens.writeAll free⟩

end FileChange

/-! ### A run in two directories -/

namespace Generated

/-- The files of a run at their places in two directories, with their texts. -/
def listed (generated : Generated) (managed native : Place) : List (Place × String) :=
  GeneratedFile.below managed generated.managedFiles
    ++ GeneratedFile.below native generated.nativeFiles

/-- Every file of a run has a place of its own below two directories of a tree: the names of the
files are names, no two in a directory are the same, and the directories are not the same. -/
structure HasPlaces (generated : Generated) (managed native : String) (tree : FileTree) : Prop where
  isTree : tree.IsTree
  managedNamed : ∀ file ∈ generated.managedFiles, IsName file.name
  nativeNamed : ∀ file ∈ generated.nativeFiles, IsName file.name
  managedDistinct : (generated.managedFiles.map GeneratedFile.name).Nodup
  nativeDistinct : (generated.nativeFiles.map GeneratedFile.name).Nodup
  apart : tree.destination managed ≠ tree.destination native

/-- No class takes the name of an index that the run itself adds. -/
structure SparesIndexNames (generated : Generated) : Prop where
  managed : ∀ entry ∈ generated.classes, entry.cls.snakeName ≠ "bindings"
  native : ∀ entry ∈ generated.classes, entry.cls.kind ≠ .record → entry.cls.snakeName ≠ "index"

/-- No access fails while a run is written below two directories: both can be made, and no
directory stands then where a file belongs. -/
def Accessible (generated : Generated) (managed native : String) (tree : FileTree) : Prop :=
  ∃ first both, tree.makeDirectories (lineage managed) = (first, none) ∧
    first.makeDirectories (lineage native) = (both, none) ∧
    ∀ file ∈ generated.listed (tree.destination managed) (tree.destination native),
      both.entry? file.1 ≠ some .directory

variable {generated : Generated} {managed native : String} {tree after first second : FileTree}
  {count : Nat} {place : Place} {text : String}

/-- The files that a run makes up have places of their own below different directories exactly if
no class takes the name of an index. -/
theorem hasPlaces_iff_of_generate {config : Config} {declarations : Declarations}
    (success : generate config declarations = .ok generated) :
    generated.HasPlaces managed native tree ↔
      tree.IsTree ∧ generated.SparesIndexNames ∧
        tree.destination managed ≠ tree.destination native := by
  obtain ⟨managedNamed, nativeNamed⟩ := isName_of_generate success
  have managedDistinct := managedFiles_nodup_iff success
  have nativeDistinct := nativeFiles_nodup_iff success
  constructor
  · intro places
    exact ⟨places.isTree, ⟨managedDistinct.mp places.managedDistinct,
      nativeDistinct.mp places.nativeDistinct⟩, places.apart⟩
  · rintro ⟨isTree, spares, apart⟩
    exact ⟨isTree, managedNamed, nativeNamed, managedDistinct.mpr spares.managed,
      nativeDistinct.mpr spares.native, apart⟩

theorem run_write_eq_ok_iff :
    (generated.write managed native).run tree = (.ok count, after) ↔
      ∃ written between more,
        (FileChange.writeFiles managed generated.managedFiles).run tree = (.ok written, between) ∧
        (FileChange.writeFiles native generated.nativeFiles).run between = (.ok more, after) ∧
        count = written + more := by
  simp only [write, FileChange.run_bind_eq_ok_iff, FileChange.run_pure_eq_ok_iff]
  constructor
  · rintro ⟨written, between, writes, more, _, writesMore, rfl, rfl⟩
    exact ⟨written, between, more, writes, writesMore, rfl⟩
  · rintro ⟨written, between, more, writes, writesMore, rfl⟩
    exact ⟨written, between, writes, more, after, writesMore, rfl, rfl⟩

namespace HasPlaces

/-- A managed file still holds its text when the other directory has been made. -/
theorem entry?_of_managed (places : generated.HasPlaces managed native tree)
    (makes : FileTree.Makes (first.writeAll (GeneratedFile.below (tree.destination managed)
      generated.managedFiles)) (lineage native) second)
    (isManaged : (place, text)
      ∈ GeneratedFile.below (tree.destination managed) generated.managedFiles) :
    second.entry? place = some (.file text.toUTF8) :=
  makes.grows.keeps (FileTree.entry?_writeAll_of_mem first
    (fun _ => GeneratedFile.ne_nil_of_mem_below)
    (GeneratedFile.nodup_below _ places.managedDistinct) isManaged)

/-- A run is written in four steps: a directory, its files, the other directory, its files. -/
theorem run_write_eq_ok_iff_steps (places : generated.HasPlaces managed native tree) :
    (generated.write managed native).run tree = (.ok count, after) ↔
      let managedListed := GeneratedFile.below (tree.destination managed) generated.managedFiles
      let nativeListed := GeneratedFile.below (tree.destination native) generated.nativeFiles
      ∃ first second, FileTree.Makes tree (lineage managed) first ∧
        (∀ file ∈ managedListed, first.entry? file.1 ≠ some .directory) ∧
        FileTree.Makes (first.writeAll managedListed) (lineage native) second ∧
        (∀ file ∈ nativeListed, second.entry? file.1 ≠ some .directory) ∧
        count = (managedListed.filter fun file => !first.holdsText file.1 file.2).length
          + (nativeListed.filter fun file => !second.holdsText file.1 file.2).length ∧
        after = second.writeAll nativeListed := by
  rw [run_write_eq_ok_iff]
  simp only [FileChange.run_writeFiles_eq_ok_iff places.isTree places.managedNamed
    places.managedDistinct]
  constructor
  · rintro ⟨_, _, _, ⟨first, makes, free, rfl, rfl⟩, writes, rfl⟩
    obtain ⟨isTree, start, -⟩ :=
      FileChange.isTree_of_writeFiles places.isTree makes places.managedNamed free
    rw [FileChange.run_writeFiles_eq_ok_iff isTree places.nativeNamed places.nativeDistinct,
      FileTree.destination_congr start] at writes
    obtain ⟨second, makesSecond, freeSecond, rfl, rfl⟩ := writes
    rw [FileTree.makeDirectories_eq_iff] at makes makesSecond
    exact ⟨first, second, makes, free, makesSecond, freeSecond, rfl, rfl⟩
  · rintro ⟨first, second, makes, free, makesSecond, freeSecond, rfl, rfl⟩
    rw [← FileTree.makeDirectories_eq_iff] at makes makesSecond
    obtain ⟨isTree, start, -⟩ :=
      FileChange.isTree_of_writeFiles places.isTree makes places.managedNamed free
    refine ⟨_, _, _, ⟨first, makes, free, rfl, rfl⟩, ?_, rfl⟩
    rw [FileChange.run_writeFiles_eq_ok_iff isTree places.nativeNamed places.nativeDistinct,
      FileTree.destination_congr start]
    exact ⟨second, makesSecond, freeSecond, rfl, rfl⟩

/-- No access fails exactly if the run is written. -/
theorem accessible_iff (places : generated.HasPlaces managed native tree) :
    generated.Accessible managed native tree ↔
      ∃ count after, (generated.write managed native).run tree = (.ok count, after) := by
  simp only [places.run_write_eq_ok_iff_steps, Accessible, listed, List.forall_mem_append,
    FileTree.makeDirectories_eq_iff]
  have beside (first : FileTree) := FileTree.Beside.of_writeAll first fun file
    (isFile : file ∈ GeneratedFile.below (tree.destination managed) generated.managedFiles) =>
      GeneratedFile.ne_nil_of_mem_below isFile
  have outside (file : Place × String)
      (isNative : file ∈ GeneratedFile.below (tree.destination native) generated.nativeFiles) :=
    GeneratedFile.notMem_below places.apart generated.managedFiles isNative
  constructor
  · rintro ⟨first, both, makes, makesBoth, freeManaged, freeNative⟩
    obtain ⟨second, makesSecond, besideSecond, -⟩ :=
      makesBoth.beside (beside first) (by simpa using freeManaged)
    refine ⟨_, _, first, second, makes, fun file isManaged isDirectory => ?_, makesSecond,
      fun file isNative => ?_, rfl, rfl⟩
    · exact freeManaged file isManaged (makesBoth.grows.keeps isDirectory)
    · rw [besideSecond.entry (outside file isNative)]
      exact freeNative file isNative
  · rintro ⟨_, _, first, second, makes, freeManaged, makesSecond, freeNative, -⟩
    have files (place : Place) (isPlace : place ∈ (GeneratedFile.below (tree.destination managed)
        generated.managedFiles).map Prod.fst) : second.entry? place ≠ some .directory := by
      obtain ⟨⟨_, text⟩, isManaged, rfl⟩ := List.mem_map.mp isPlace
      simp [places.entry?_of_managed makesSecond isManaged]
    obtain ⟨both, makesBoth, besideBoth, kept⟩ := makesSecond.beside (beside first).symm files
    refine ⟨first, both, makes, makesBoth, fun file isManaged => ?_, fun file isNative => ?_⟩
    · rw [kept _ (List.mem_map_of_mem isManaged)]
      exact freeManaged file isManaged
    · rw [besideBoth.entry (outside file isNative)]
      exact freeNative file isNative

section

variable (places : generated.HasPlaces managed native tree)
  (writes : (generated.write managed native).run tree = (.ok count, after))
include places writes

/-- Every listed file holds its text in the end. -/
theorem entry?_of_write (isListed : (place, text)
    ∈ generated.listed (tree.destination managed) (tree.destination native)) :
    after.entry? place = some (.file text.toUTF8) := by
  obtain ⟨first, second, -, -, makesSecond, -, -, rfl⟩ := places.run_write_eq_ok_iff_steps.mp writes
  rcases List.mem_append.mp isListed with isManaged | isNative
  · have outside := GeneratedFile.notMem_below places.apart.symm generated.nativeFiles isManaged
    rw [FileTree.entry?_writeAll_of_notMem second
      (fun _ => GeneratedFile.ne_nil_of_mem_below) outside]
    exact places.entry?_of_managed makesSecond isManaged
  · exact FileTree.entry?_writeAll_of_mem second (fun _ => GeneratedFile.ne_nil_of_mem_below)
      (GeneratedFile.nodup_below _ places.nativeDistinct) isNative

/-- Elsewhere nothing changes but that directories are new. -/
theorem entry?_of_write_of_notMem (outside : place
    ∉ (generated.listed (tree.destination managed) (tree.destination native)).map Prod.fst) :
    after.entry? place = tree.entry? place ∨
      tree.entry? place = none ∧ after.entry? place = some .directory := by
  obtain ⟨first, second, makes, -, makesSecond, -, -, rfl⟩ :=
    places.run_write_eq_ok_iff_steps.mp writes
  rw [listed, List.map_append, List.mem_append, not_or] at outside
  rw [FileTree.entry?_writeAll_of_notMem second
    (fun _ => GeneratedFile.ne_nil_of_mem_below) outside.2]
  have between := FileTree.entry?_writeAll_of_notMem first
    (fun _ => GeneratedFile.ne_nil_of_mem_below) outside.1
  rcases makesSecond.grows.entry place with same | new
  · rw [same, between]
    exact makes.grows.entry place
  · rw [between] at new
    rcases makes.grows.entry place with same | ⟨-, found⟩
    · exact .inr ⟨same ▸ new.1, new.2⟩
    · cases new.1.symm.trans found

/-- Every directory stays. -/
theorem keeps_directory (isDirectory : tree.entry? place = some .directory) :
    after.entry? place = some .directory := by
  obtain ⟨first, second, makes, freeManaged, makesSecond, freeNative, -, rfl⟩ :=
    places.run_write_eq_ok_iff_steps.mp writes
  have kept := FileTree.writeAll_keeps freeManaged (makes.grows.keeps isDirectory)
  exact FileTree.writeAll_keeps freeNative (makesSecond.grows.keeps kept)

/-- The files are counted that did not hold their text before. -/
theorem count_of_write :
    count = ((generated.listed (tree.destination managed) (tree.destination native)).filter
      fun file => !tree.holdsText file.1 file.2).length := by
  obtain ⟨first, second, makes, -, makesSecond, -, rfl, -⟩ :=
    places.run_write_eq_ok_iff_steps.mp writes
  rw [listed, List.filter_append, List.length_append]
  congr 2
  · exact List.filter_congr fun file _ => by rw [makes.grows.holdsText]
  · refine List.filter_congr fun file isNative => ?_
    have outside := GeneratedFile.notMem_below places.apart generated.managedFiles isNative
    have between := FileTree.entry?_writeAll_of_notMem first
      (fun _ => GeneratedFile.ne_nil_of_mem_below) outside
    rw [makesSecond.grows.holdsText, FileTree.holdsText_congr between, makes.grows.holdsText]

/-- In the end both directories are there, and everything has its place as before. -/
theorem of_write : after.start = tree.start ∧ after.Opens managed ∧ after.Opens native ∧
    generated.HasPlaces managed native after := by
  obtain ⟨first, second, makes, freeManaged, makesSecond, freeNative, -, rfl⟩ :=
    places.run_write_eq_ok_iff_steps.mp writes
  obtain ⟨isTree, start, opens⟩ := FileChange.isTree_of_writeFiles places.isTree
    (FileTree.makeDirectories_eq_iff.mpr makes) places.managedNamed freeManaged
  rw [← FileTree.destination_congr start] at freeNative ⊢
  obtain ⟨isTreeAfter, startAfter, opensNative⟩ := FileChange.isTree_of_writeFiles isTree
    (FileTree.makeDirectories_eq_iff.mpr makesSecond) places.nativeNamed freeNative
  have sameStart := startAfter.trans start
  refine ⟨sameStart, (makesSecond.grows.opens opens).writeAll freeNative, opensNative,
    { places with isTree := isTreeAfter, apart := ?_ }⟩
  rw [FileTree.destination_congr sameStart, FileTree.destination_congr sameStart]
  exact places.apart

/-- What is written once more does not change. -/
theorem write_again : (generated.write managed native).run after = (.ok 0, after) := by
  obtain ⟨start, opensManaged, opensNative, placesAfter⟩ := places.of_write writes
  have holds (file : Place × String) (isListed : file
      ∈ generated.listed (tree.destination managed) (tree.destination native)) :=
    places.entry?_of_write writes isListed
  simp only [listed, List.forall_mem_append] at holds
  have kept {files : List (Place × String)}
      (hold : ∀ file ∈ files, after.entry? file.1 = some (.file file.2.toUTF8)) :
      (∀ file ∈ files, after.entry? file.1 ≠ some .directory) ∧
        (files.filter fun file => !after.holdsText file.1 file.2) = [] ∧
        after.writeAll files = after := by
    have holdsText (file : Place × String) (isFile : file ∈ files) :
        after.holdsText file.1 file.2 = true := FileTree.holdsText_iff.mpr (hold file isFile)
    refine ⟨fun file isFile => by simp [hold file isFile], ?_, FileTree.writeAll_of_holds holdsText⟩
    simpa using holdsText
  obtain ⟨freeManaged, noneManaged, sameManaged⟩ := kept holds.1
  obtain ⟨freeNative, noneNative, sameNative⟩ := kept holds.2
  rw [placesAfter.run_write_eq_ok_iff_steps, FileTree.destination_congr start,
    FileTree.destination_congr start]
  refine ⟨after, after, ?_, freeManaged, ?_, freeNative, ?_, sameNative.symm⟩
  · exact FileTree.makeDirectories_eq_iff.mp (FileTree.makeDirectories_of_opens opensManaged)
  · rw [sameManaged]
    exact FileTree.makeDirectories_eq_iff.mp (FileTree.makeDirectories_of_opens opensNative)
  · rw [noneManaged, noneNative]
    rfl

end

end HasPlaces

/-- A run is written into two different directories exactly if no access fails. Every one of its
files reads as its text then and every other file is as it was; the files are counted that did not
hold their text before, and the run written once more counts none and changes nothing. -/
theorem write_leaves_files (generated : Generated) (managed native : String) (tree : FileTree)
    (places : generated.HasPlaces managed native tree) :
    (generated.Accessible managed native tree ↔
      ∃ count after, (generated.write managed native).run tree = (.ok count, after)) ∧
    ∀ count after, (generated.write managed native).run tree = (.ok count, after) →
      let listed := generated.listed (tree.destination managed) (tree.destination native)
      (∀ place text, (place, text) ∈ listed → after.entry? place = some (.file text.toUTF8)) ∧
      (∀ file ∈ generated.managedFiles,
        after.readText (join managed file.name) = .ok file.contents) ∧
      (∀ file ∈ generated.nativeFiles,
        after.readText (join native file.name) = .ok file.contents) ∧
      (∀ place, place ∉ listed.map Prod.fst → after.entry? place = tree.entry? place ∨
        tree.entry? place = none ∧ after.entry? place = some .directory) ∧
      count = (listed.filter fun file => !tree.holdsText file.1 file.2).length ∧
      (generated.write managed native).run after = (.ok 0, after) := by
  refine ⟨places.accessible_iff, fun count after writes => ?_⟩
  obtain ⟨start, opensManaged, opensNative, -⟩ := places.of_write writes
  refine ⟨fun _ _ => places.entry?_of_write writes, fun file isFile => ?_, fun file isFile => ?_,
    fun _ => places.entry?_of_write_of_notMem writes, places.count_of_write writes,
    places.write_again writes⟩
  · rw [FileTree.readText_eq_ok_iff
      (FileTree.resolve_name opensManaged (places.managedNamed file isFile)),
      FileTree.destination_congr start]
    exact places.entry?_of_write writes
      (List.mem_append_left _ (List.mem_map.mpr ⟨file, isFile, rfl⟩))
  · rw [FileTree.readText_eq_ok_iff
      (FileTree.resolve_name opensNative (places.nativeNamed file isFile)),
      FileTree.destination_congr start]
    exact places.entry?_of_write writes
      (List.mem_append_right _ (List.mem_map.mpr ⟨file, isFile, rfl⟩))

/-- A run without classes. -/
def bareRun : Generated where
  types := default
  classes := []
  managedIndex := ⟨"bindings.rs", "// Nothing is bound."⟩
  registration := ⟨"registration.cpp", "void register_script_binds() { }"⟩
  nativeIndex := ⟨"index.ixx", "export module retro.scripting:index;"⟩

/-- A tree with the managed file of the bare run. -/
def boundTree : FileTree :=
  (FileTree.empty.insert ["out"] .directory).insert ["out", "bindings.rs"]
    (.file "// Nothing is bound.".toUTF8)

theorem write_leaves_files_bareRun :
    bareRun.HasPlaces "out" "out/native" boundTree ∧
    ∃ after, (bareRun.write "out" "out/native").run boundTree = (.ok 2, after) ∧
      (bareRun.write "out" "out/native").run after = (.ok 0, after) := by
  have isTree : boundTree.IsTree :=
    (FileTree.IsTree.empty.insert [] "out" (by decide) rfl nofun).insert ["out"] "bindings.rs"
      (by decide) rfl nofun
  have places : bareRun.HasPlaces "out" "out/native" boundTree :=
    { isTree, managedNamed := by decide, nativeNamed := by decide, managedDistinct := by decide,
      nativeDistinct := by decide, apart := by decide }
  obtain ⟨succeeds, leaves⟩ := write_leaves_files bareRun "out" "out/native" boundTree places
  have accessible : bareRun.Accessible "out" "out/native" boundTree := by
    refine ⟨boundTree, boundTree.insert ["out", "native"] .directory, rfl, rfl, ?_⟩
    have isListed : bareRun.listed (boundTree.destination "out")
        (boundTree.destination "out/native")
        = [(["out", "bindings.rs"], "// Nothing is bound."),
          (["out", "native", "registration.cpp"], "void register_script_binds() { }"),
          (["out", "native", "index.ixx"], "export module retro.scripting:index;")] := rfl
    rw [isListed]
    simp only [List.forall_mem_cons]
    exact ⟨nofun, nofun, nofun, nofun⟩
  obtain ⟨count, after, writes⟩ := succeeds.mp accessible
  obtain ⟨-, -, -, -, isCount, again⟩ := leaves count after writes
  have two : count = 2 := by
    rw [isCount]
    decide +kernel
  exact ⟨places, after, two ▸ writes, again⟩

end Generated

end NativeBridge

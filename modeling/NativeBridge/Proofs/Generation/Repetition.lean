import NativeBridge.Proofs.Generation.Sources
import NativeBridge.Proofs.Generation.Writing

/-!
# A run that is repeated

What a run writes can be a source of the next one, if it is written where sources are read.
Below any other directory it leaves the sources as they are (`HasPlaces.sameFilesBelow`), so the
next run makes up the same files and finds all of them written: `FileTree.generate_again`.
-/

namespace NativeBridge

open PathText

/-- Files in a directory that is not below a place are not below it either. -/
theorem GeneratedFile.notMem_below_of_outside {directory place below : Place}
    (outside : ¬ place <+: directory) (files : List GeneratedFile) (further : below ≠ []) :
    place ++ below ∉ (GeneratedFile.below directory files).map Prod.fst := by
  intro isPlace
  obtain ⟨_, isFile, same⟩ := List.mem_map.mp isPlace
  obtain ⟨file, -, rfl⟩ := List.mem_map.mp isFile
  obtain ⟨front, last, rfl⟩ := List.eq_nil_or_concat below |>.resolve_left further
  rw [List.concat_eq_append, ← List.append_assoc] at same
  exact outside ⟨front, (List.append_inj' same rfl).1.symm⟩

namespace Generated.HasPlaces

variable {generated : Generated} {managed native path : String} {tree after : FileTree}
  {count : Nat} {place : Place} (places : generated.HasPlaces managed native tree)
  (writes : (generated.write managed native).run tree = (.ok count, after))
include places writes

/-- A path to a directory still leads there. -/
theorem stat_of_write (isDirectory : tree.stat path = .ok (place, .directory)) :
    after.stat path = .ok (place, .directory) := by
  obtain ⟨given, opens, rfl⟩ := FileTree.stat_directory_iff.mp isDirectory
  obtain ⟨start, -⟩ := places.of_write writes
  refine FileTree.stat_directory_iff.mpr
    ⟨given, fun found isOnWay => ?_, (FileTree.destination_congr start).symm⟩
  rw [FileTree.way_congr start] at isOnWay
  exact places.keeps_directory writes (opens found isOnWay)

/-- Below a place that is above neither directory the same files stand as before. -/
theorem sameFilesBelow (outsideManaged : ¬ place <+: tree.destination managed)
    (outsideNative : ¬ place <+: tree.destination native) :
    FileTree.SameFilesBelow tree after place := by
  intro below bytes further
  have outside : place ++ below ∉ (generated.listed (tree.destination managed)
      (tree.destination native)).map Prod.fst := by
    rw [listed, List.map_append, List.mem_append, not_or]
    exact ⟨GeneratedFile.notMem_below_of_outside outsideManaged _ further,
      GeneratedFile.notMem_below_of_outside outsideNative _ further⟩
  rcases places.entry?_of_write_of_notMem writes outside with same | ⟨missing, new⟩
  · rw [same]
  · simp [missing, new]

end Generated.HasPlaces

namespace FileTree

/-- Sources are read below a directory only. -/
theorem stat_of_sources {tree : FileTree} {root directory : String} {files : List SourceFile}
    (reads : tree.sources root directory = .ok files) :
    tree.stat directory = .ok (tree.destination directory, .directory) := by
  obtain ⟨place, found, -⟩ := Outcome.bind_eq_ok_iff.mp reads
  have isDirectory := directory_eq_ok_iff.mp (Outcome.mapError_eq_ok_iff.mp found)
  obtain ⟨-, -, isPlace⟩ := stat_directory_iff.mp isDirectory
  exact isPlace ▸ isDirectory

/-- Once a run is written, with no class in the name of an index and to two directories outside
that of its sources, the next run makes up the same files, writes none and changes nothing. -/
theorem generate_again {tree after : FileTree} {config : Config} {generated : Generated}
    {root directory managed native : String} {count : Nat} (lawful : tree.IsTree)
    (success : tree.generate config root directory = .ok generated)
    (spares : generated.SparesIndexNames)
    (apart : tree.destination managed ≠ tree.destination native)
    (outsideManaged : ¬ tree.destination directory <+: tree.destination managed)
    (outsideNative : ¬ tree.destination directory <+: tree.destination native)
    (writes : (generated.write managed native).run tree = (.ok count, after)) :
    after.generate config root directory = .ok generated ∧
      (generated.write managed native).run after = (.ok 0, after) := by
  obtain ⟨files, reads, makes⟩ := Outcome.bind_eq_ok_iff.mp success
  obtain ⟨declarations, -, made⟩ := Outcome.bind_eq_ok_iff.mp makes
  have places := (Generated.hasPlaces_iff_of_generate made).mpr ⟨lawful, spares, apart⟩
  obtain ⟨-, -, -, placesAfter⟩ := places.of_write writes
  have isDirectory := stat_of_sources reads
  have sameSources := sources_congr lawful placesAfter.isTree root isDirectory
    (places.stat_of_write writes isDirectory)
    (places.sameFilesBelow writes outsideManaged outsideNative)
  refine ⟨?_, places.write_again writes⟩
  rw [generate, sameSources]
  exact success

end FileTree

end NativeBridge

import Mathlib.Data.List.Nodup
import NativeBridge.Proofs.Generation.Run

/-!
# Which artifacts of a run share a name

The classes of a run have file names of their own, but nobody compares them with
the files that the run itself adds, nor with the module partitions in these files.
`Generated.artifacts_distinct_iff` says exactly when every file of a run that
succeeds, and every module partition, has a name of its own.
-/

namespace NativeBridge

/-- Texts with different last characters differ. -/
theorem append_ne_append_of_last (left first right second : String) {c d : Char}
    (firstEnds : first.toList.getLast? = some c) (secondEnds : second.toList.getLast? = some d)
    (differ : c ≠ d) : left ++ first ≠ right ++ second := by
  intro same
  have last : (left ++ first).toList.getLast? = (right ++ second).toList.getLast? := by rw [same]
  rw [String.toList_append, String.toList_append, List.getLast?_append, List.getLast?_append,
    firstEnds, secondEnds] at last
  exact differ (Option.some.inj last)

/-- Distinct names stay distinct beside some more exactly when none of them is among these. -/
theorem nodup_append_iff_notMem {names reserved : List String} (distinct : names.Nodup)
    (apart : reserved.Nodup) :
    (names ++ reserved).Nodup ↔ ∀ name ∈ names, name ∉ reserved := by
  rw [List.nodup_append]
  constructor
  · rintro ⟨-, -, differ⟩ name isName isReserved
    exact differ name isName name isReserved rfl
  · intro free
    refine ⟨distinct, apart, ?_⟩
    rintro name isName _ isReserved rfl
    exact free name isName isReserved

/-- A configured module has partitions of one name only for fragments of one name. -/
theorem Config.fragmentName_inj (config : Config) {left right : String} :
    config.fragmentName left = config.fragmentName right ↔ left = right := by
  rw [fragmentName, fragmentName]
  split
  · exact String.append_right_inj _
  · exact Iff.rfl

namespace Stub

/-- A class or a structure is a fragment of the module. -/
theorem nativeFileName_of_fragment {cls : ExportedClass} (fragment : cls.kind ≠ .record) :
    nativeFileName cls = cls.snakeName ++ ".ixx" := by
  unfold nativeFileName
  split
  · contradiction
  · rfl
  · rfl

/-- A record is a header. -/
theorem nativeFileName_of_record {cls : ExportedClass} (record : cls.kind = .record) :
    nativeFileName cls = cls.snakeName ++ ".h" := by
  rw [nativeFileName, record]

/-- Managed stubs of one name come from classes of one snake-case name. -/
theorem snakeName_of_managedFileName {left right : ExportedClass}
    (same : managedFileName left = managedFileName right) : left.snakeName = right.snakeName :=
  (String.append_left_inj _).mp same

/-- Native stubs of one name come from classes of one snake-case name. -/
theorem snakeName_of_nativeFileName {left right : ExportedClass}
    (same : nativeFileName left = nativeFileName right) : left.snakeName = right.snakeName := by
  have otherEnding : ∀ fragment record : String, fragment ++ ".ixx" ≠ record ++ ".h" :=
    fun fragment record =>
      append_ne_append_of_last fragment ".ixx" record ".h" rfl rfl (by decide)
  by_cases leftRecord : left.kind = .record
  · rw [nativeFileName_of_record leftRecord] at same
    by_cases rightRecord : right.kind = .record
    · rw [nativeFileName_of_record rightRecord] at same
      exact (String.append_left_inj _).mp same
    · rw [nativeFileName_of_fragment rightRecord] at same
      exact absurd same.symm (otherEnding _ _)
  · rw [nativeFileName_of_fragment leftRecord] at same
    by_cases rightRecord : right.kind = .record
    · rw [nativeFileName_of_record rightRecord] at same
      exact absurd same (otherEnding _ _)
    · rw [nativeFileName_of_fragment rightRecord] at same
      exact (String.append_left_inj _).mp same

/-- Only one managed stub is named like the managed index. -/
theorem managedFileName_eq_index_iff {cls : ExportedClass} :
    managedFileName cls = "bindings.rs" ↔ cls.snakeName = "bindings" :=
  @String.append_left_inj cls.snakeName "bindings" ".rs"

/-- No native stub is named like the registration unit. -/
theorem nativeFileName_ne_registration (cls : ExportedClass) :
    nativeFileName cls ≠ "registration.cpp" := by
  by_cases record : cls.kind = .record
  · rw [nativeFileName_of_record record]
    exact append_ne_append_of_last cls.snakeName ".h" "registration" ".cpp" rfl rfl (by decide)
  · rw [nativeFileName_of_fragment record]
    exact append_ne_append_of_last cls.snakeName ".ixx" "registration" ".cpp" rfl rfl (by decide)

/-- Only one fragment is named like the native index. -/
theorem nativeFileName_eq_index_iff {cls : ExportedClass} :
    nativeFileName cls = "index.ixx" ↔ cls.kind ≠ .record ∧ cls.snakeName = "index" := by
  by_cases record : cls.kind = .record
  · rw [nativeFileName_of_record record]
    have otherEnding : cls.snakeName ++ ".h" ≠ "index.ixx" :=
      append_ne_append_of_last cls.snakeName ".h" "index" ".ixx" rfl rfl (by decide)
    simp [otherEnding, record]
  · rw [nativeFileName_of_fragment record]
    have sameStem : cls.snakeName ++ ".ixx" = "index.ixx" ↔ cls.snakeName = "index" :=
      @String.append_left_inj cls.snakeName "index" ".ixx"
    simp [sameStem, record]

/-- Only without a prefix is a fragment named like the partition of the native index. -/
theorem fragmentName_eq_index_iff {config : Config} {fragment : String} :
    config.fragmentName fragment = indexPartition config ↔
      config.fragmentPrefix = none ∧ fragment = "index" := by
  rw [Config.fragmentName, indexPartition]
  cases config.fragmentPrefix with
  | none => simp
  | some leading =>
      have longer : leading ++ "." ++ fragment ≠ leading := by
        intro same
        have lengths := congrArg String.length same
        simp only [String.length_append] at lengths
        have dot : ".".length = 1 := rfl
        omega
      simp [longer]

/-- Where the snake-case names of classes differ, so do names that tell them apart. -/
theorem nodup_map_of_snakeName {classes : List ExportedClass} {name : ExportedClass → String}
    (distinct : (classes.map ExportedClass.snakeName).Nodup)
    (tells : ∀ {left right}, name left = name right → left.snakeName = right.snakeName) :
    (classes.map name).Nodup := by
  rw [List.Nodup, List.pairwise_map] at distinct ⊢
  exact distinct.imp fun differ same => differ (tells same)

/-- Managed stubs and the managed index have names of their own exactly when no class takes
the name of the index. -/
theorem managedNames_nodup_iff {classes : List ExportedClass}
    (distinct : (classes.map ExportedClass.snakeName).Nodup) :
    (classes.map managedFileName ++ ["bindings.rs"]).Nodup ↔
      ∀ cls ∈ classes, cls.snakeName ≠ "bindings" := by
  rw [nodup_append_iff_notMem (nodup_map_of_snakeName distinct snakeName_of_managedFileName)
    (by decide)]
  simp [managedFileName_eq_index_iff]

/-- Native stubs and the native files of the run have names of their own exactly when no
fragment takes the name of the index. -/
theorem nativeNames_nodup_iff {classes : List ExportedClass}
    (distinct : (classes.map ExportedClass.snakeName).Nodup) :
    (classes.map nativeFileName ++ ["registration.cpp", "index.ixx"]).Nodup ↔
      ∀ cls ∈ classes, cls.kind ≠ .record → cls.snakeName ≠ "index" := by
  rw [nodup_append_iff_notMem (nodup_map_of_snakeName distinct snakeName_of_nativeFileName)
    (by decide)]
  simp [nativeFileName_ne_registration, nativeFileName_eq_index_iff]

/-- The partitions of fragments, of the registration unit and of the index have names of
their own exactly when no fragment takes the name of one of the other two. -/
theorem partitionNames_nodup_iff (config : Config) {classes : List ExportedClass}
    (distinct : (classes.map ExportedClass.snakeName).Nodup) :
    ((fragments classes).map (fun cls => config.fragmentName cls.snakeName)
        ++ [registrationPartition config, indexPartition config]).Nodup ↔
      ∀ cls ∈ classes, cls.kind ≠ .record →
        cls.snakeName ≠ "registration" ∧
          (config.fragmentPrefix = none → cls.snakeName ≠ "index") := by
  have distinctFragments : ((fragments classes).map ExportedClass.snakeName).Nodup :=
    distinct.sublist (List.filter_sublist.map _)
  have apart : registrationPartition config ≠ indexPartition config := by
    intro same
    exact absurd (fragmentName_eq_index_iff.mp same).2 (by decide)
  rw [nodup_append_iff_notMem
    (nodup_map_of_snakeName distinctFragments config.fragmentName_inj.mp) (by simpa using apart),
    List.forall_mem_map]
  simp [fragments, registrationPartition, config.fragmentName_inj, fragmentName_eq_index_iff]

/-- A module partition that a file of the configured module declares. -/
def Declares (config : Config) (lines : List String) (partition : String) : Prop :=
  "module " ++ config.moduleName ++ ":" ++ partition ++ ";" ∈ lines ∨
    "export module " ++ config.moduleName ++ ":" ++ partition ++ ";" ∈ lines

end Stub

namespace Generated

/-- The native files that are units of the configured module, with their partitions. -/
def partitions (config : Config) (generated : Generated) : List (GeneratedFile × String) :=
  (generated.classes.filter fun entry => entry.cls.kind != .record).map
    (fun entry => (entry.native, config.fragmentName entry.cls.snakeName))
  ++ [(generated.registration, Stub.registrationPartition config),
    (generated.nativeIndex, Stub.indexPartition config)]

/-- The partitions of a run are those of its fragments and two more. -/
theorem partitions_generateFiles (config : Config) (types : TypeMap)
    (classes : List ExportedClass) :
    ((generateFiles config types classes).partitions config).map Prod.snd
      = (Stub.fragments classes).map (fun cls => config.fragmentName cls.snakeName)
        ++ [Stub.registrationPartition config, Stub.indexPartition config] := by
  simp [partitions, generateFiles, Stub.fragments, List.filter_map, Function.comp_def,
    generateClass]

/-- Each partition is declared by the file that it stands for. -/
theorem declares_partitions {config : Config} {types : TypeMap} {classes : List ExportedClass}
    {unit : GeneratedFile × String}
    (isUnit : unit ∈ (generateFiles config types classes).partitions config) :
    unit.1 ∈ (generateFiles config types classes).nativeFiles ∧
      ∃ lines, unit.1.contents = Stub.render lines ∧ Stub.Declares config lines unit.2 := by
  rcases List.mem_append.mp isUnit with isFragment | isExtra
  · obtain ⟨entry, isEntry, rfl⟩ := List.mem_map.mp isFragment
    obtain ⟨isClass, fragment⟩ := List.mem_filter.mp isEntry
    refine ⟨List.mem_append_left _ (List.mem_map_of_mem isClass), ?_⟩
    obtain ⟨cls, -, rfl⟩ := List.mem_map.mp isClass
    refine ⟨_, rfl, .inr ?_⟩
    cases kind : cls.kind with
    | «class» => simp [Stub.nativeStub, kind, Stub.fragmentLines, generateClass]
    | struct => simp [Stub.nativeStub, kind, Stub.fragmentLines, generateClass]
    | record => simp [generateClass, kind] at fragment
  · rcases List.mem_pair.mp isExtra with rfl | rfl
    · exact ⟨List.mem_append_right _ (by simp), _, rfl, .inl (by simp [Stub.registrationUnit])⟩
    · exact ⟨List.mem_append_right _ (by simp), _, rfl, .inr (by simp [Stub.nativeIndex])⟩

/-- A managed stub for every class, then the managed index. -/
theorem managedFiles_names (config : Config) (types : TypeMap) (classes : List ExportedClass) :
    (generateFiles config types classes).managedFiles.map GeneratedFile.name
      = classes.map Stub.managedFileName ++ ["bindings.rs"] := by
  simp [managedFiles, generateFiles, generateClass, Function.comp_def]

/-- A native stub for every class, then the registration unit and the native index. -/
theorem nativeFiles_names (config : Config) (types : TypeMap) (classes : List ExportedClass) :
    (generateFiles config types classes).nativeFiles.map GeneratedFile.name
      = classes.map Stub.nativeFileName ++ ["registration.cpp", "index.ixx"] := by
  simp [nativeFiles, generateFiles, generateClass, Function.comp_def]

/-- The classes of a run are those that its files are made for. -/
theorem forall_classes_generateFiles {config : Config} {types : TypeMap}
    {classes : List ExportedClass} (property : ExportedClass → Prop) :
    (∀ entry ∈ (generateFiles config types classes).classes, property entry.cls) ↔
      ∀ cls ∈ classes, property cls := by
  simp [generateFiles, generateClass]

section Success

variable {config : Config} {declarations : Declarations} {generated : Generated}
  (success : generate config declarations = .ok generated)
include success

/-- The managed files of a run have names of their own exactly when no class takes the name of
the managed index. -/
theorem managedFiles_nodup_iff :
    (generated.managedFiles.map GeneratedFile.name).Nodup ↔
      ∀ entry ∈ generated.classes, entry.cls.snakeName ≠ "bindings" := by
  obtain ⟨types, classes, -, -, distinct, rfl⟩ := generate_ok success
  rw [managedFiles_names, forall_classes_generateFiles fun cls => cls.snakeName ≠ "bindings"]
  exact Stub.managedNames_nodup_iff distinct

/-- The native files of a run have names of their own exactly when no fragment takes the name of
the native index. -/
theorem nativeFiles_nodup_iff :
    (generated.nativeFiles.map GeneratedFile.name).Nodup ↔
      ∀ entry ∈ generated.classes, entry.cls.kind ≠ .record → entry.cls.snakeName ≠ "index" := by
  obtain ⟨types, classes, -, -, distinct, rfl⟩ := generate_ok success
  rw [nativeFiles_names,
    forall_classes_generateFiles fun cls => cls.kind ≠ .record → cls.snakeName ≠ "index"]
  exact Stub.nativeNames_nodup_iff distinct

end Success

/-- In a run that succeeds the managed files have names of their own exactly when no class
takes the name of the managed index, the native files exactly when no fragment takes the name
of the native index, and the module partitions exactly when no fragment takes the name of the
registration unit or, without a prefix, that of the native index. -/
theorem artifacts_distinct_iff {config : Config} {declarations : Declarations}
    {generated : Generated} (success : generate config declarations = .ok generated) :
    ((generated.managedFiles.map GeneratedFile.name).Nodup ↔
      ∀ entry ∈ generated.classes, entry.cls.snakeName ≠ "bindings") ∧
    ((generated.nativeFiles.map GeneratedFile.name).Nodup ↔
      ∀ entry ∈ generated.classes, entry.cls.kind ≠ .record → entry.cls.snakeName ≠ "index") ∧
    (((generated.partitions config).map Prod.snd).Nodup ↔
      ∀ entry ∈ generated.classes, entry.cls.kind ≠ .record →
        entry.cls.snakeName ≠ "registration" ∧
          (config.fragmentPrefix = none → entry.cls.snakeName ≠ "index")) ∧
    ∀ unit ∈ generated.partitions config, unit.1 ∈ generated.nativeFiles ∧
      ∃ lines, unit.1.contents = Stub.render lines ∧ Stub.Declares config lines unit.2 := by
  refine ⟨managedFiles_nodup_iff success, nativeFiles_nodup_iff success, ?_⟩
  obtain ⟨types, classes, -, -, distinct, rfl⟩ := generate_ok success
  refine ⟨?_, fun unit isUnit => declares_partitions isUnit⟩
  rw [partitions_generateFiles, forall_classes_generateFiles fun cls => cls.kind ≠ .record →
    cls.snakeName ≠ "registration" ∧ (config.fragmentPrefix = none → cls.snakeName ≠ "index")]
  exact Stub.partitionNames_nodup_iff config distinct

/-- Records that have the names of the files of the run, beside a class. -/
def reservedRecordDeclarations : Declarations where
  blittables := []
  exports :=
    [⟨"Index", "retro", none, .record, none, [], .synthetic⟩,
     ⟨"Registration", "retro", none, .record, none, [], .synthetic⟩,
     ⟨"Binding", "retro", none, .class, none, [], .synthetic⟩]

/-- A header takes no name of the run, so everything in this run has a name of its own. -/
theorem artifacts_distinct_iff_records :
    ∃ generated, generate Config.standard reservedRecordDeclarations = .ok generated ∧
      generated.nativeFiles.map GeneratedFile.name
        = ["index.h", "registration.h", "binding.ixx", "registration.cpp", "index.ixx"] ∧
      (generated.managedFiles.map GeneratedFile.name).Nodup ∧
      (generated.nativeFiles.map GeneratedFile.name).Nodup ∧
      ((generated.partitions Config.standard).map Prod.snd).Nodup := by
  have computed : ∃ generated,
      generate Config.standard reservedRecordDeclarations = .ok generated ∧
        (generated.nativeFiles.map GeneratedFile.name,
          generated.classes.map fun entry => (entry.cls.kind, entry.cls.snakeName))
        = (["index.h", "registration.h", "binding.ixx", "registration.cpp", "index.ixx"],
          [(.record, "index"), (.record, "registration"), (.class, "binding")]) :=
    generate_of_computed (by decide +kernel)
  obtain ⟨generated, success, names⟩ := computed
  obtain ⟨files, classes⟩ := Prod.mk.inj names
  have entries : ∀ entry ∈ generated.classes,
      (entry.cls.kind, entry.cls.snakeName)
        ∈ [(ExportKind.record, "index"), (.record, "registration"), (.class, "binding")] := by
    intro entry isEntry
    exact classes ▸ List.mem_map_of_mem isEntry
  obtain ⟨managed, native, partitions, -⟩ := artifacts_distinct_iff success
  refine ⟨generated, success, files, managed.mpr ?_, native.mpr ?_, partitions.mpr ?_⟩
  · intro entry isEntry same
    have known := entries entry isEntry
    simp [same] at known
  · intro entry isEntry fragment same
    have known := entries entry isEntry
    simp [same, fragment] at known
  · intro entry isEntry fragment
    have known := entries entry isEntry
    constructor
    · intro same
      simp [same, fragment] at known
    · intro _ same
      simp [same, fragment] at known

/-- Classes that have the names of the files of the run. -/
def reservedClassDeclarations : Declarations where
  blittables := []
  exports :=
    [⟨"Bindings", "retro", none, .class, none, [], .synthetic⟩,
     ⟨"Index", "retro", none, .class, none, [], .synthetic⟩,
     ⟨"Registration", "retro", none, .class, none, [], .synthetic⟩]

/-- The run succeeds, but a managed stub stands in the file of the managed index, a native
stub in that of the native index, and two partitions are declared twice. -/
theorem artifacts_collide :
    ∃ generated, generate Config.standard reservedClassDeclarations = .ok generated ∧
      ¬ (generated.managedFiles.map GeneratedFile.name).Nodup ∧
      ¬ (generated.nativeFiles.map GeneratedFile.name).Nodup ∧
      ¬ ((generated.partitions Config.standard).map Prod.snd).Nodup := by
  have computed : ∃ generated,
      generate Config.standard reservedClassDeclarations = .ok generated ∧
        (generated.managedFiles.map GeneratedFile.name,
          generated.nativeFiles.map GeneratedFile.name,
          (generated.partitions Config.standard).map Prod.snd)
        = (["bindings.rs", "index.rs", "registration.rs", "bindings.rs"],
          ["bindings.ixx", "index.ixx", "registration.ixx", "registration.cpp", "index.ixx"],
          ["bindings", "index", "registration", "registration", "index"]) :=
    generate_of_computed (by decide +kernel)
  obtain ⟨generated, success, names⟩ := computed
  obtain ⟨managed, rest⟩ := Prod.mk.inj names
  obtain ⟨native, partitions⟩ := Prod.mk.inj rest
  refine ⟨generated, success, ?_, ?_, ?_⟩
  · rw [managed]
    decide
  · rw [native]
    decide
  · rw [partitions]
    decide

end Generated

end NativeBridge

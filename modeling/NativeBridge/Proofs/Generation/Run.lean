import Mathlib.Data.List.Nodup
import NativeBridge.Binding.Basic
import NativeBridge.Generation.Basic
import NativeBridge.Proofs.Export.Acceptance
import NativeBridge.Proofs.TypeMap.Table

/-!
# What a run consists of

A run that succeeds generates one class per declared export, in order, from one
type map: `generate_ok`. File names keep the classes apart and exported names
keep the methods of a class apart, so no two functions of a run share a name:
`Generated.distinct_exportNames`.
-/

namespace NativeBridge

/-- Files are without a clash exactly if their snake-case names are new and differ. -/
theorem fileNameClashes_eq_nil_iff {seen : List (String × Location)}
    {classes : List ExportedClass} :
    fileNameClashes seen classes = [] ↔
      FreshEach ExportedClass.snakeName (fun _ => True) (seen.map Prod.fst) classes := by
  induction classes generalizing seen with
  | nil => simp [fileNameClashes, FreshEach]
  | cons cls rest ih =>
      rw [freshEach_cons, ← Resolver.lookup_eq_none_iff]
      simp only [fileNameClashes]
      cases known : seen.lookup cls.snakeName with
      | none => simp [ih]
      | some first => simp

/-- The types of a run are laid out for the configured target. -/
theorem buildTypes_target {config : Config} {blittables : List Blittable} {types : TypeMap}
    (built : buildTypes config blittables = .ok types) : types.target = config.target := by
  unfold buildTypes at built
  rcases registered : (TypeTable.empty config.target).registerAll blittables with
    ⟨table, refused⟩
  have sameTarget := TypeTable.registerAll_target (TypeTable.empty config.target) blittables
  rw [registered] at sameTarget
  simp only [registered] at built
  split at built
  · rename_i map laidOut
    split at built
    · cases built
      rw [(TypeTable.build_ok laidOut).2]
      exact sameTarget
    · cases built
  · cases built

/-- The classes of a run are the declared exports, each resolved alone, if neither their
qualified names nor their file names are repeated. -/
theorem resolveClasses_eq_ok_iff {config : Config} {types : TypeMap} {exports : List ExportDecl}
    {classes : List ExportedClass} :
    resolveClasses config types exports = .ok classes ↔
      List.Forall₂ (fun decl cls => resolveExport types config.includeReturnSlot decl = .ok cls)
        exports classes ∧
      (exports.map ExportDecl.qualifiedName).Nodup ∧
      (classes.map ExportedClass.snakeName).Nodup := by
  have noClash : ∀ found, fileNameClashes [] found = [] ↔
      (found.map ExportedClass.snakeName).Nodup := fun found => by
    rw [fileNameClashes_eq_nil_iff, List.map_nil, freshEach_nil_seen]
    simp
  rw [← and_assoc, ← Resolver.resolveAll_start_eq_ok_iff, resolveClasses]
  cases (Resolver.start types config.includeReturnSlot).resolveAll exports with
  | error errors => simp
  | ok found =>
      simp only [List.isEmpty_iff, noClash, Except.ok.injEq]
      by_cases distinct : (found.map ExportedClass.snakeName).Nodup
      · rw [if_pos distinct, Except.ok.injEq, iff_self_and]
        rintro rfl
        exact distinct
      · rw [if_neg distinct]
        simp only [reduceCtorEq, false_iff, not_and]
        rintro rfl
        exact distinct

/-- A run succeeds exactly if it builds its types and resolves its classes, and then its files
are those of the classes. -/
theorem generate_eq_ok_iff {config : Config} {declarations : Declarations}
    {generated : Generated} :
    generate config declarations = .ok generated ↔
      ∃ types classes, buildTypes config declarations.blittables = .ok types ∧
        resolveClasses config types declarations.exports = .ok classes ∧
        generateFiles config types classes = generated := by
  rw [generate]
  cases buildTypes config declarations.blittables with
  | error errors => simp
  | ok types =>
      cases resolved : resolveClasses config types declarations.exports with
      | error errors => simp [resolved]
      | ok classes => simp [resolved]

/-- A run that succeeds resolves every export against the types that it built. -/
theorem generate_ok {config : Config} {declarations : Declarations} {generated : Generated}
    (success : generate config declarations = .ok generated) :
    ∃ types classes, buildTypes config declarations.blittables = .ok types ∧
      List.Forall₂ (ExportResolves types config.includeReturnSlot) declarations.exports
        classes ∧
      (classes.map ExportedClass.snakeName).Nodup ∧
      generated = generateFiles config types classes := by
  obtain ⟨types, classes, built, resolved, rfl⟩ := generate_eq_ok_iff.mp success
  obtain ⟨each, -, distinct⟩ := resolveClasses_eq_ok_iff.mp resolved
  exact ⟨types, classes, built, each.imp fun _ _ => resolveExport_ok, distinct, rfl⟩

namespace Generated

/-- Every method of a run with its class, in the order of the files. -/
def exports (generated : Generated) : List (ExportedClass × ExportedMethod) :=
  generated.classes.flatMap fun entry => entry.cls.methods.map fun method => (entry.cls, method)

/-- The methods of a run are the methods of its classes. -/
theorem exports_generateFiles (config : Config) (types : TypeMap)
    (classes : List ExportedClass) :
    (generateFiles config types classes).exports
      = classes.flatMap fun cls => cls.methods.map fun method => (cls, method) := by
  simp [exports, generateFiles, List.flatMap_map, generateClass]

/-- A method of a run stands beside its own class. -/
theorem mem_exports_generateFiles {config : Config} {types : TypeMap}
    {classes : List ExportedClass} {exported : ExportedClass × ExportedMethod} :
    exported ∈ (generateFiles config types classes).exports ↔
      exported.1 ∈ classes ∧ exported.2 ∈ exported.1.methods := by
  rw [exports_generateFiles, List.mem_flatMap]
  constructor
  · rintro ⟨cls, isClass, isPair⟩
    obtain ⟨method, isMethod, rfl⟩ := List.mem_map.mp isPair
    exact ⟨isClass, isMethod⟩
  · rintro ⟨isClass, isMethod⟩
    exact ⟨exported.1, isClass, List.mem_map_of_mem isMethod⟩

end Generated

/-- The name under which a method of a class is exported. -/
def exportNameOf (exported : ExportedClass × ExportedMethod) : Binding.ExportName :=
  ⟨exported.1.moduleName, exported.2.exportName⟩

/-- Classes whose file names differ, each with exported names that differ, export no
name twice. -/
theorem distinct_exportNameOf {classes : List ExportedClass}
    (distinctFiles : (classes.map ExportedClass.snakeName).Nodup)
    (distinctMethods : ∀ cls ∈ classes, (cls.methods.map ExportedMethod.exportName).Nodup) :
    ((classes.flatMap fun cls => cls.methods.map fun method => (cls, method)).map
      exportNameOf).Nodup := by
  simp only [List.map_flatMap, List.map_map, List.nodup_flatMap]
  constructor
  · intro cls isClass
    have named := (distinctMethods cls isClass).map (f := fun function =>
      (⟨cls.moduleName, function⟩ : Binding.ExportName)) (by
        intro left right same
        cases same
        rfl)
    rw [List.map_map] at named
    exact named
  · rw [List.Nodup, List.pairwise_map] at distinctFiles
    refine distinctFiles.imp fun {first second} differ name inFirst inSecond => ?_
    obtain ⟨method, -, rfl⟩ := List.mem_map.mp inFirst
    obtain ⟨other, -, same⟩ := List.mem_map.mp inSecond
    -- One module name would give one file name.
    have sameModule : second.name = first.name := congrArg Binding.ExportName.module same
    exact differ (by rw [ExportedClass.snakeName, ExportedClass.snakeName, sameModule])

/-- No two functions of a run share a module and a name. -/
theorem Generated.distinct_exportNames {config : Config} {declarations : Declarations}
    {generated : Generated} (success : generate config declarations = .ok generated) :
    (generated.exports.map exportNameOf).Nodup := by
  obtain ⟨types, classes, -, same, distinctFiles, rfl⟩ := generate_ok success
  rw [exports_generateFiles]
  refine distinct_exportNameOf distinctFiles fun cls isClass => ?_
  obtain ⟨decl, -, resolved⟩ := exists_of_forall₂ same isClass
  exact resolved.distinctMethods

/-- Two exports with a method of one name, and slots of every kind between them. -/
def sharedNameDeclarations : Declarations where
  blittables :=
    [⟨"Vec3", "interop", "retro::Vector3", some "retro.math",
      .record [⟨"x", .path "f32", .synthetic⟩, ⟨"y", .path "f32", .synthetic⟩,
        ⟨"z", .path "f32", .synthetic⟩], .synthetic⟩,
     ⟨"Level", "interop", "retro::Level", none, .enumeration .uint8 ["Low", "High"],
      .synthetic⟩]
  exports :=
    [⟨"MathModule", "interop", none, .class, none,
      [⟨"add", [⟨"a", .path "i32", none, .synthetic⟩, ⟨"b", .path "i32", none, .synthetic⟩],
        .path "i32", none, .synthetic⟩,
       ⟨"scale", [⟨"value", .ref false (.path "Vec3"), none, .synthetic⟩,
          ⟨"level", .path "Level", none, .synthetic⟩], .path "interop::Vec3", none,
        .synthetic⟩], .synthetic⟩,
     ⟨"EntityModule", "interop", none, .record, none,
      [⟨"add", [⟨"context", .ptr true (.path "c_void"), none, .synthetic⟩], .unit, none,
        .synthetic⟩], .synthetic⟩]

/-- A configuration that counts the return slot. -/
def countingConfig : Config :=
  { Config.standard with includeReturnSlot := true }

/-- A run of which something can be computed succeeds. -/
theorem generate_of_computed {β : Type} {config : Config} {declarations : Declarations}
    {read : Generated → β} {value : β}
    (computed : (generate config declarations).toOption.map read = some value) :
    ∃ generated, generate config declarations = .ok generated ∧ read generated = value :=
  exists_ok_of_computed computed

/-- The run succeeds, and its block sizes count the returned values. -/
theorem generate_sharedName :
    ∃ generated, generate countingConfig sharedNameDeclarations = .ok generated ∧
      generated.exports.map (fun exported => (exportNameOf exported, exported.2.blockSize))
        = [(⟨"MathModule", "Add"⟩, 12), (⟨"MathModule", "Scale"⟩, 21),
          (⟨"EntityModule", "Add"⟩, 8)] :=
  generate_of_computed (by decide +kernel)

end NativeBridge

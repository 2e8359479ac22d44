import Mathlib.Data.List.Nodup
import NativeBridge.Proofs.Generation.Emission

/-!
# No class leaks into the stubs of another

All exports of a run go through one resolver and through one comparison of file names. What
these remember decides whether a run is accepted (`exists_generate_iff`) but not what an
accepted export resolves to, so each class has the stubs that it has in a run of its own:
`Generated.stubs_alone`. Two runs over the same types then cannot disagree about an export
that both accept, whatever else they export.
-/

namespace NativeBridge

/-- The snake-case names of classes come from the names of their exports. -/
theorem map_snakeName_of_forall₂ {types : TypeMap} {countsReturn : Bool}
    {exports : List ExportDecl} {classes : List ExportedClass}
    (each : List.Forall₂ (fun decl cls => resolveExport types countsReturn decl = .ok cls) exports
      classes) :
    classes.map ExportedClass.snakeName
      = exports.map fun decl => Naming.snakeCase decl.name := by
  induction each with
  | nil => rfl
  | cons resolved _ ih =>
      rw [List.map_cons, List.map_cons, ih, ExportedClass.snakeName,
        (resolveExport_ok resolved).name]

/-- A run accepts exports over some types: each of them can be resolved, and neither their
qualified names nor their file names are repeated. -/
structure GenerateAccepts (config : Config) (types : TypeMap) (exports : List ExportDecl) :
    Prop where
  resolves : ∀ decl ∈ exports, ∃ cls, resolveExport types config.includeReturnSlot decl = .ok cls
  distinctNames : (exports.map ExportDecl.qualifiedName).Nodup
  distinctFiles : (exports.map fun decl => Naming.snakeCase decl.name).Nodup

/-- A run accepts some of the exports, in any order, of which it accepts all. -/
theorem GenerateAccepts.subperm {config : Config} {types : TypeMap}
    {exports others : List ExportDecl} (accepts : GenerateAccepts config types exports)
    (among : others.Subperm exports) : GenerateAccepts config types others := by
  have kept : ∀ name : ExportDecl → String, (exports.map name).Nodup →
      (others.map name).Nodup := by
    intro name distinct
    obtain ⟨sorted, same, isSublist⟩ := among
    have distinctSorted := distinct.sublist (isSublist.map name)
    exact (same.map name).nodup_iff.mp distinctSorted
  refine ⟨fun decl isDecl => accepts.resolves decl (among.subset isDecl), ?_, ?_⟩
  · exact kept _ accepts.distinctNames
  · exact kept _ accepts.distinctFiles

/-- Exactly the accepted exports have classes. -/
theorem exists_resolveClasses_iff {config : Config} {types : TypeMap}
    {exports : List ExportDecl} :
    (∃ classes, resolveClasses config types exports = .ok classes) ↔
      GenerateAccepts config types exports := by
  simp only [resolveClasses_eq_ok_iff]
  constructor
  · rintro ⟨classes, each, distinctNames, distinctFiles⟩
    rw [map_snakeName_of_forall₂ each] at distinctFiles
    exact ⟨exists_forall₂_iff.mp ⟨classes, each⟩, distinctNames, distinctFiles⟩
  · rintro ⟨resolves, distinctNames, distinctFiles⟩
    obtain ⟨classes, each⟩ := exists_forall₂_iff.mpr resolves
    rw [← map_snakeName_of_forall₂ each] at distinctFiles
    exact ⟨classes, each, distinctNames, distinctFiles⟩

/-- A run succeeds exactly if its types can be built and its exports are accepted over them. -/
theorem exists_generate_iff {config : Config} {declarations : Declarations} :
    (∃ generated, generate config declarations = .ok generated) ↔
      ∃ types, buildTypes config declarations.blittables = .ok types ∧
        GenerateAccepts config types declarations.exports := by
  simp only [generate_eq_ok_iff, ← exists_resolveClasses_iff]
  constructor
  · rintro ⟨_, types, classes, built, resolved, -⟩
    exact ⟨types, built, classes, resolved⟩
  · rintro ⟨types, built, classes, resolved⟩
    exact ⟨_, types, classes, built, resolved, rfl⟩

namespace Generated

/-- A class with its stubs is what a run makes of an export alone. -/
structure MadeAlone (config : Config) (blittables : List Blittable) (decl : ExportDecl)
    (entry : GeneratedClass) : Prop where
  name : entry.cls.name = decl.name
  alone : ∃ generated, generate config ⟨blittables, [decl]⟩ = .ok generated ∧
    generated.classes = [entry]

/-- What a run makes of an export alone is one class. -/
theorem MadeAlone.unique {config : Config} {blittables : List Blittable} {decl : ExportDecl}
    {entry other : GeneratedClass} (isEntry : MadeAlone config blittables decl entry)
    (isOther : MadeAlone config blittables decl other) : entry = other := by
  obtain ⟨-, generated, success, classes⟩ := isEntry
  obtain ⟨-, again, same, otherClasses⟩ := isOther
  cases success.symm.trans same
  exact List.singleton_inj.mp (classes.symm.trans otherClasses)

/-- A run makes of each of its exports, in order, what it makes of this export alone. -/
theorem madeAlone {config : Config} {declarations : Declarations} {generated : Generated}
    (success : generate config declarations = .ok generated) :
    List.Forall₂ (MadeAlone config declarations.blittables) declarations.exports
      generated.classes := by
  obtain ⟨types, classes, built, resolved, rfl⟩ := generate_eq_ok_iff.mp success
  obtain ⟨each, -⟩ := resolveClasses_eq_ok_iff.mp resolved
  refine List.forall₂_map_right_iff.mpr (each.imp fun decl cls alone => ?_)
  have resolvedAlone : resolveClasses config types [decl] = .ok [cls] :=
    resolveClasses_eq_ok_iff.mpr
      ⟨.cons alone .nil, List.nodup_singleton _, List.nodup_singleton _⟩
  exact ⟨(resolveExport_ok alone).name,
    _, generate_eq_ok_iff.mpr ⟨types, [cls], built, resolvedAlone, rfl⟩, rfl⟩

/-- The files of a run list classes in their order: the managed index all of them, the native
index those that are fragments, and the registration unit the headers of the records and the
modules of all. -/
structure ListsInOrder (config : Config) (classes : List GeneratedClass)
    (managedIndex nativeIndex registration : List String) : Prop where
  modules : managedIndex.filter (Stub.begins "pub mod ")
    = classes.map fun entry => "pub mod " ++ entry.cls.snakeName ++ " \x7b"
  includes : managedIndex.filter (Stub.begins "    include!(\"")
    = classes.map fun entry => "    include!(\"" ++ entry.managed.name ++ "\");"
  fragments : nativeIndex.filter (Stub.begins "export import :")
    = (classes.filter fun entry => entry.cls.kind != .record).map fun entry =>
      "export import :" ++ config.fragmentName entry.cls.snakeName ++ ";"
  headers : registration.filter (Stub.begins "#include \"")
    = (classes.filter fun entry => entry.cls.kind == .record).map fun entry =>
      "#include \"" ++ entry.native.name ++ "\""
  registered : ∃ modules, Stub.RegistersExactly config registration modules ∧
    modules.map Stub.RegisteredModule.moduleName = classes.map fun entry => entry.cls.moduleName

/-- The files that a run adds to the stubs list its classes in their order. -/
theorem listsInOrder (config : Config) (types : TypeMap) {classes : List ExportedClass}
    (distinct : (classes.map ExportedClass.snakeName).Nodup) :
    ListsInOrder config (classes.map (generateClass config types)) (Stub.managedIndex classes)
      (Stub.nativeIndex config classes) (Stub.registrationUnit config classes) where
  modules := by
    rw [List.map_map]
    exact Stub.filter_managedIndex (by decide +kernel) Stub.filter_indexLines_module classes
  includes := by
    rw [List.map_map]
    exact Stub.filter_managedIndex (by decide +kernel) Stub.filter_indexLines_include classes
  fragments := by
    rw [List.filter_map, List.map_map]
    exact Stub.filter_nativeIndex config classes
  headers := by
    rw [List.filter_map, List.map_map]
    exact Stub.filter_registrationUnit config classes
  registered := by
    refine ⟨_, Stub.registersExactly config distinct, ?_⟩
    rw [List.map_map, List.map_map]
    rfl

/-- In a run that succeeds each class has the stubs that it has when its export alone is run over
the same types. So every run over these types that succeeds makes the same stubs of an export,
and it does succeed with some of the exports in any order. The files of the run besides the
stubs list the classes in the order of the exports. -/
theorem stubs_alone {config : Config} {declarations : Declarations} {generated : Generated}
    (success : generate config declarations = .ok generated) :
    List.Forall₂ (MadeAlone config declarations.blittables) declarations.exports
      generated.classes ∧
    (∀ exports other, generate config ⟨declarations.blittables, exports⟩ = .ok other →
      ∀ decl entry otherEntry, (decl, entry) ∈ declarations.exports.zip generated.classes →
        (decl, otherEntry) ∈ exports.zip other.classes → otherEntry = entry) ∧
    (∀ exports, exports.Subperm declarations.exports →
      ∃ other, generate config ⟨declarations.blittables, exports⟩ = .ok other) ∧
    ∃ managedIndex nativeIndex registration,
      generated.managedIndex.contents = Stub.render managedIndex ∧
      generated.nativeIndex.contents = Stub.render nativeIndex ∧
      generated.registration.contents = Stub.render registration ∧
      ListsInOrder config generated.classes managedIndex nativeIndex registration := by
  refine ⟨madeAlone success, ?agree, ?accept, ?lists⟩
  case agree =>
    intro exports other otherSuccess decl entry otherEntry isEntry isOther
    have made := (List.forall₂_iff_zip.mp (madeAlone success)).2 isEntry
    have otherMade := (List.forall₂_iff_zip.mp (madeAlone otherSuccess)).2 isOther
    exact otherMade.unique made
  case accept =>
    intro exports among
    obtain ⟨types, built, accepts⟩ := exists_generate_iff.mp ⟨generated, success⟩
    exact exists_generate_iff.mpr ⟨types, built, accepts.subperm among⟩
  case lists =>
    obtain ⟨types, classes, -, -, distinct, rfl⟩ := generate_ok success
    exact ⟨_, _, _, rfl, rfl, rfl, listsInOrder config types distinct⟩

/-- The same exports in reverse order have the same stubs, each as when run alone. -/
theorem stubs_alone_sharedName :
    ∃ generated other, generate countingConfig sharedNameDeclarations = .ok generated ∧
      generate countingConfig
        ⟨sharedNameDeclarations.blittables, sharedNameDeclarations.exports.reverse⟩ = .ok other ∧
      List.Forall₂ (MadeAlone countingConfig sharedNameDeclarations.blittables)
        sharedNameDeclarations.exports generated.classes ∧
      ∀ decl entry otherEntry,
        (decl, entry) ∈ sharedNameDeclarations.exports.zip generated.classes →
        (decl, otherEntry) ∈ sharedNameDeclarations.exports.reverse.zip other.classes →
        otherEntry = entry := by
  obtain ⟨generated, success, -⟩ := generate_sharedName
  obtain ⟨made, agree, accept, -⟩ := stubs_alone success
  obtain ⟨other, otherSuccess⟩ :=
    accept sharedNameDeclarations.exports.reverse (List.reverse_perm _).subperm
  exact ⟨generated, other, success, otherSuccess, made, agree _ other otherSuccess⟩

end Generated

end NativeBridge

import NativeBridge.Proofs.Generation.Artifacts
import NativeBridge.Proofs.Stub.Exports
import NativeBridge.Proofs.Stub.Registration

/-!
# What the files of a run agree on

The registration unit registers the methods of all classes, and the indices list the
stubs of the classes. `Generated.emitters_agree` says of every run that succeeds that
nothing else is registered, that every method is registered once, as its stubs have it,
and that every class is listed once, where its kind belongs.
-/

namespace NativeBridge

namespace Stub

/-- The names under which the functions of a module are registered, in order. -/
def RegisteredModule.exportNames (module : RegisteredModule) : List Binding.ExportName :=
  module.functions.map fun function => ⟨module.moduleName, function.exportName⟩

/-- A class is listed once in each file that gathers classes of its kind, and in no other. -/
structure ListedOnce (config : Config) (managedIndex nativeIndex registration : List String)
    (entry : GeneratedClass) : Prop where
  managedModule : managedIndex.count ("pub mod " ++ entry.cls.snakeName ++ " \x7b") = 1
  managedFile : managedIndex.count ("    include!(\"" ++ entry.managed.name ++ "\");") = 1
  fragment : nativeIndex.count
      ("export import :" ++ config.fragmentName entry.cls.snakeName ++ ";")
    = if entry.cls.kind != .record then 1 else 0
  /-- The listed fragment is the one that the native stub of the class declares. -/
  declared : entry.cls.kind ≠ .record → ∃ lines, entry.native.contents = render lines ∧
    Declares config lines (config.fragmentName entry.cls.snakeName)
  header : registration.count ("#include \"" ++ entry.native.name ++ "\"")
    = if entry.cls.kind == .record then 1 else 0

/-- Where the lines with one beginning name some of the classes, each by a text of its own,
there is one line for each of these classes and none for the others. -/
theorem count_of_listed {classes : List ExportedClass}
    (distinct : (classes.map ExportedClass.snakeName).Nodup) {lines : List String}
    {leading : String} {select : ExportedClass → Bool} {text : ExportedClass → String}
    (listed : lines.filter (begins leading) = (classes.filter select).map text)
    (tells : ∀ {left right}, text left = text right → left.snakeName = right.snakeName)
    {cls : ExportedClass} (isClass : cls ∈ classes)
    (leads : begins leading (text cls) = true) :
    lines.count (text cls) = if select cls then 1 else 0 := by
  have distinctTexts : ((classes.filter select).map text).Nodup :=
    nodup_map_of_snakeName (distinct.sublist (List.filter_sublist.map _)) tells
  have isListed : text cls ∈ (classes.filter select).map text ↔ select cls = true := by
    constructor
    · intro isText
      obtain ⟨other, isOther, same⟩ := List.mem_map.mp isText
      obtain ⟨isClassToo, selected⟩ := List.mem_filter.mp isOther
      rwa [List.inj_on_of_nodup_map distinct isClassToo isClass (tells same)] at selected
    · intro selected
      exact List.mem_map_of_mem (List.mem_filter.mpr ⟨isClass, selected⟩)
  rw [← List.count_filter leads, listed, distinctTexts.count]
  simp only [isListed]

/-- The lines of a class in the managed index. -/
def indexLines (cls : ExportedClass) : List String :=
  ["", "pub mod " ++ cls.snakeName ++ " \x7b",
    "    include!(\"" ++ managedFileName cls ++ "\");", "\x7d",
    "pub use " ++ cls.snakeName ++ "::" ++ bindsName cls ++ ";"]

/-- A beginning that one line of every class has selects these lines of the managed index. -/
theorem filter_managedIndex {leading : String} {text : ExportedClass → String}
    (notBanner : begins leading banner = false)
    (each : ∀ cls, (indexLines cls).filter (begins leading) = [text cls])
    (classes : List ExportedClass) :
    (managedIndex classes).filter (begins leading) = classes.map text := by
  change (banner :: classes.flatMap indexLines).filter (begins leading) = _
  rw [List.filter_cons, notBanner, List.filter_flatMap, List.map_eq_flatMap]
  simp only [each]
  rfl

/-- Each class has one module in the managed index. -/
theorem filter_indexLines_module (cls : ExportedClass) :
    (indexLines cls).filter (begins "pub mod ") = ["pub mod " ++ cls.snakeName ++ " \x7b"] := by
  have module : begins "pub mod " ("pub mod " ++ (cls.snakeName ++ " \x7b")) = true :=
    begins_append _ _
  have file : ∀ rest, begins "pub mod " ("    include!(\"" ++ rest) = false :=
    begins_append_eq_false rfl
  have use : ∀ rest, begins "pub mod " ("pub use " ++ rest) = false :=
    begins_append_eq_false rfl
  have empty : begins "pub mod " "" = false := rfl
  have brace : begins "pub mod " "\x7d" = false := rfl
  simp only [indexLines, String.append_assoc, List.filter_cons, List.filter_nil, module, file,
    use, empty, brace, if_true, Bool.false_eq_true, if_false]

/-- Each class has one stub in the managed index. -/
theorem filter_indexLines_include (cls : ExportedClass) :
    (indexLines cls).filter (begins "    include!(\"")
      = ["    include!(\"" ++ managedFileName cls ++ "\");"] := by
  have file : begins "    include!(\"" ("    include!(\"" ++ (managedFileName cls ++ "\");"))
      = true := begins_append _ _
  have module : ∀ rest, begins "    include!(\"" ("pub mod " ++ rest) = false :=
    begins_append_eq_false rfl
  have use : ∀ rest, begins "    include!(\"" ("pub use " ++ rest) = false :=
    begins_append_eq_false rfl
  have empty : begins "    include!(\"" "" = false := rfl
  have brace : begins "    include!(\"" "\x7d" = false := rfl
  simp only [indexLines, String.append_assoc, List.filter_cons, List.filter_nil, module, file,
    use, empty, brace, if_true, Bool.false_eq_true, if_false]

/-- The fragments of the native index are those of the classes that are no records. -/
theorem filter_nativeIndex (config : Config) (classes : List ExportedClass) :
    (nativeIndex config classes).filter (begins "export import :")
      = (fragments classes).map fun cls =>
        "export import :" ++ config.fragmentName cls.snakeName ++ ";" := by
  have empty : begins "export import :" "" = false := rfl
  have head : [banner,
      "export module " ++ config.moduleName ++ ":" ++ indexPartition config ++ ";", ""].filter
        (begins "export import :") = [] := by
    have isBanner : begins "export import :" banner = false := rfl
    have module : ∀ rest, begins "export import :" ("export module " ++ rest) = false :=
      begins_append_eq_false rfl
    simp [String.append_assoc, isBanner, module, empty]
  have imports : ((fragments classes).map fun cls =>
        "export import :" ++ config.fragmentName cls.snakeName ++ ";").filter
          (begins "export import :")
      = (fragments classes).map fun cls =>
        "export import :" ++ config.fragmentName cls.snakeName ++ ";" := by
    refine List.filter_eq_self.mpr (List.forall_mem_map.mpr fun cls _ => ?_)
    exact begins_append_closed _ _ _
  have tail : (if config.generatedNamespace.isEmpty then
        ["export void " ++ registerFunction ++ "();"]
      else ["export namespace " ++ config.generatedNamespace, "\x7b",
        "    void " ++ registerFunction ++ "();", "\x7d"]).filter
        (begins "export import :") = [] := by
    refine filter_begins_eq_nil fun line isLine => ?_
    split at isLine
    · rw [List.mem_singleton.mp isLine]
      decide +kernel
    · simp only [List.mem_cons, List.not_mem_nil, or_false] at isLine
      rcases isLine with rfl | rfl | rfl | rfl
      · exact begins_append_eq_false rfl _
      · rfl
      · rfl
      · rfl
  simp only [nativeIndex]
  rw [List.filter_append, List.filter_append, head, tail, List.nil_append, List.append_nil]
  split
  · rename_i none
    rw [List.isEmpty_iff.mp none]
    rfl
  · rw [List.filter_append, imports]
    simp [empty]

/-- The files of a run list each of its classes once. -/
theorem listedOnce (config : Config) (types : TypeMap) {classes : List ExportedClass}
    (distinct : (classes.map ExportedClass.snakeName).Nodup) {cls : ExportedClass}
    (isClass : cls ∈ classes) :
    ListedOnce config (managedIndex classes) (nativeIndex config classes)
      (registrationUnit config classes) (generateClass config types cls) where
  managedModule := by
    have listed : (managedIndex classes).filter (begins "pub mod ")
        = (classes.filter fun _ => true).map fun cls => "pub mod " ++ cls.snakeName ++ " \x7b" := by
      rw [List.filter_true]
      exact filter_managedIndex rfl filter_indexLines_module classes
    refine count_of_listed distinct listed (fun same => ?_) isClass ?_
    · exact (String.append_right_inj _).mp ((String.append_left_inj _).mp same)
    · exact begins_append_closed _ _ _
  managedFile := by
    have listed : (managedIndex classes).filter (begins "    include!(\"")
        = (classes.filter fun _ => true).map fun cls =>
          "    include!(\"" ++ managedFileName cls ++ "\");" := by
      rw [List.filter_true]
      exact filter_managedIndex rfl filter_indexLines_include classes
    refine count_of_listed distinct listed (fun same => ?_) isClass ?_
    · exact snakeName_of_managedFileName
        ((String.append_right_inj _).mp ((String.append_left_inj _).mp same))
    · exact begins_append_closed _ _ _
  fragment := by
    refine count_of_listed distinct (filter_nativeIndex config classes) (fun same => ?_)
      isClass ?_
    · exact config.fragmentName_inj.mp
        ((String.append_right_inj _).mp ((String.append_left_inj _).mp same))
    · exact begins_append_closed _ _ _
  declared := by
    intro fragment
    have isFragment : (generateClass config types cls)
        ∈ (generateFiles config types classes).classes.filter
          fun entry => entry.cls.kind != .record :=
      List.mem_filter.mpr ⟨List.mem_map_of_mem isClass, by simpa using fragment⟩
    exact (Generated.declares_partitions
      (List.mem_append_left _ (List.mem_map_of_mem isFragment))).2
  header := by
    refine count_of_listed distinct (filter_registrationUnit config classes) (fun same => ?_)
      isClass ?_
    · exact snakeName_of_nativeFileName
        ((String.append_right_inj _).mp ((String.append_left_inj _).mp same))
    · exact begins_append_closed _ _ _

end Stub

namespace Generated

/-- In a run that succeeds the registration unit registers exactly the methods of all classes,
in order and each once; what it registers for a class is what the stubs of the class declare
and ask for; and every class is listed once where classes of its kind are listed. -/
theorem emitters_agree {config : Config} {declarations : Declarations} {generated : Generated}
    (success : generate config declarations = .ok generated) :
    ∃ managedIndex nativeIndex registration modules,
      generated.managedIndex.contents = Stub.render managedIndex ∧
      generated.nativeIndex.contents = Stub.render nativeIndex ∧
      generated.registration.contents = Stub.render registration ∧
      Stub.RegistersExactly config registration modules ∧
      modules.flatMap Stub.RegisteredModule.exportNames = generated.exports.map exportNameOf ∧
      (generated.exports.map exportNameOf).Nodup ∧
      List.Forall₂ (Stub.SameExports ⟨generated.types, config⟩) generated.classes modules ∧
      ∀ entry ∈ generated.classes,
        Stub.ListedOnce config managedIndex nativeIndex registration entry := by
  have distinctNames := distinct_exportNames success
  obtain ⟨types, classes, -, resolved, distinct, rfl⟩ := generate_ok success
  refine ⟨_, _, _, classes.map (Stub.registeredModule config), rfl, rfl, rfl,
    Stub.registersExactly config distinct, ?_, distinctNames, ?_, ?_⟩
  · rw [exports_generateFiles, List.flatMap_map, List.map_flatMap]
    simp only [Stub.RegisteredModule.exportNames, Stub.registeredModule, List.map_map]
    rfl
  · rw [List.forall₂_map_right_iff]
    refine List.forall₂_map_left_iff.mpr (List.forall₂_same.mpr fun cls isClass => ?_)
    obtain ⟨decl, -, sameClass⟩ := exists_of_forall₂ resolved isClass
    exact Stub.sameExports_of_resolves sameClass
  · refine List.forall_mem_map.mpr fun cls isClass => ?_
    exact Stub.listedOnce config types distinct isClass

/-- The emitters agree on the functions of a class and of a record. -/
theorem emitters_agree_sharedName :
    ∃ generated registration modules,
      generate countingConfig sharedNameDeclarations = .ok generated ∧
      generated.registration.contents = Stub.render registration ∧
      Stub.RegistersExactly countingConfig registration modules ∧
      modules.flatMap Stub.RegisteredModule.exportNames
        = [⟨"MathModule", "Add"⟩, ⟨"MathModule", "Scale"⟩, ⟨"EntityModule", "Add"⟩] ∧
      List.Forall₂ (Stub.SameExports ⟨generated.types, countingConfig⟩) generated.classes
        modules := by
  obtain ⟨generated, success, exports⟩ := generate_sharedName
  obtain ⟨_, _, registration, modules, -, -, unit, exactly, names, -, same, -⟩ :=
    emitters_agree success
  refine ⟨generated, registration, modules, success, unit, exactly, ?_, same⟩
  have first := congrArg (List.map Prod.fst) exports
  rw [List.map_map] at first
  rw [names]
  exact first

end Generated

end NativeBridge

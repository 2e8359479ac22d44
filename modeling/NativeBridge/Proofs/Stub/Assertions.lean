import NativeBridge.Proofs.Export.Uses
import NativeBridge.Proofs.TypeMap.Build
import NativeBridge.Stub.Managed
import NativeBridge.Stub.Native

/-!
# Both stubs assert the same layouts

Each stub ends with assertions on the registered types that its class uses, and
each passes over a type that it does not find. In a map that was built from a table
nothing is passed over, so both stubs assert one list: `AssertLayouts`. The types are
exactly those of the subject and of the positions, whatever native names these have:
`Resolver.resolve_asserts_layouts`.
-/

namespace NativeBridge

/-- The names of the fields of a structure in their order; an enumeration has none. -/
def BlittableShape.fieldNames : BlittableShape → List String
  | record fields => fields.map BlittableField.name
  | enumeration _ _ => []

/-- The fields of a layout are the declared ones, in their order. -/
theorem LaidOut.fieldNames {table : TypeTable} {managed : String} {layout : StructLayout}
    (laidOut : LaidOut table managed layout) {type : Blittable}
    (found : table.find? managed = some type) :
    layout.fields.map PlacedField.name = type.shape.fieldNames := by
  cases shape : type.shape with
  | record fields => exact laidOut.names found shape
  | enumeration repr variants =>
      cases laidOut with
      | enumeration otherFound otherShape integer => rfl
      | record otherFound otherShape each isStruct =>
          cases found.symm.trans otherFound
          cases shape.symm.trans otherShape

/-- Every type that is found in a map that was built has a layout, with its fields in order. -/
theorem TypeTable.layoutOf?_of_get? {table : TypeTable} {map : TypeMap}
    (built : table.build = .ok map) {path : String} {type : Blittable}
    (found : map.get? path = some type) :
    ∃ layout, map.layoutOf? path = some layout ∧
      layout.fields.map PlacedField.name = type.shape.fieldNames := by
  obtain ⟨noErrors, rfl⟩ := build_ok built
  obtain ⟨layout, isLayout, laidOut⟩ := layout?_run noErrors (TypeMap.mem_types_of_get? found)
  have registered : table.find? type.managed = some type := by
    rw [TypeMap.managed_of_get? found]
    exact found
  refine ⟨layout, ?_, laidOut.fieldNames registered⟩
  rw [TypeMap.layoutOf?, found]
  exact isLayout

namespace Stub

/-- What is asserted about the layout of a registered type. -/
inductive LayoutAssertion where
  /-- The type has this size. -/
  | size (type : Blittable) (bytes : Nat)
  /-- A field of the type starts here. -/
  | offset (type : Blittable) (field : String) (bytes : Nat)

/-- The assertion in the managed stub. -/
def LayoutAssertion.managedText (context : ManagedContext) : LayoutAssertion → String
  | size type bytes =>
      "    assert!(::core::mem::size_of::<" ++ context.itemPath type.managedNamespace type.managed
        ++ ">() == " ++ toString bytes ++ ");"
  | offset type field bytes =>
      "    assert!(::core::mem::offset_of!("
        ++ context.itemPath type.managedNamespace type.managed ++ ", " ++ field ++ ") == "
        ++ toString bytes ++ ");"

/-- The assertion in the native stub. -/
def LayoutAssertion.nativeText : LayoutAssertion → String
  | size type bytes =>
      "static_assert(sizeof(" ++ type.nativeName ++ ") == " ++ toString bytes ++ ", \""
        ++ type.nativeName ++ " does not match the managed layout\");"
  | offset type field bytes =>
      "static_assert(offsetof(" ++ type.nativeName ++ ", " ++ field ++ ") == " ++ toString bytes
        ++ ", \"" ++ type.nativeName ++ "::" ++ field ++ " is misplaced\");"

/-- Everything that is asserted about one type: its size, then its fields in their order. -/
def AssertedType.assertions (asserted : AssertedType) : List LayoutAssertion :=
  .size asserted.type asserted.layout.layout.size
    :: asserted.layout.fields.map fun field => .offset asserted.type field.name field.offset

/-- The managed stub without its assertions. -/
def managedCode (context : ManagedContext) (cls : ExportedClass) : List String :=
  [bannerOf cls.qualifiedName, ""]
  ++ structLines context cls
  ++ ["", "impl " ++ bindsName cls ++ " \x7b"]
  ++ spaced [constLines context cls, newLines context cls, resolveAllLines context cls,
    callSitesLines context cls]
  ++ ["\x7d", "",
    "impl " ++ context.itemPath cls.managedNamespace cls.name ++ " for " ++ bindsName cls
      ++ " \x7b"]
  ++ spaced (cls.methods.map (methodLines context cls))
  ++ ["\x7d"]

/-- The native stub without its assertions. -/
def nativeCode (config : Config) (cls : ExportedClass) : List String :=
  bannerOf cls.qualifiedName
  :: match cls.kind with
    | .«class» | .struct => fragmentLines config cls
    | .record => headerLines config cls

/-- The assertions on the block sizes of a class. -/
def blockAssertions (cls : ExportedClass) : List String :=
  cls.methods.map fun method =>
    "    assert!(" ++ bindsName cls ++ "::" ++ blockConst method ++ " == "
      ++ toString method.blockSize ++ ");"

/-- The layouts of some types, and nothing else about layouts, are asserted in both stubs of a
class. -/
structure AssertLayouts (context : ManagedContext) (cls : ExportedClass)
    (asserted : List AssertedType) : Prop where
  managed : managedStub context cls = managedCode context cls ++ blittableLines context cls
    ++ ["", "#[cfg(target_pointer_width = \"" ++ toString (context.config.pointerWidth * 8)
        ++ "\")]", "const _: () = \x7b"]
    ++ blockAssertions cls
    ++ (asserted.flatMap AssertedType.assertions).map (LayoutAssertion.managedText context)
    ++ ["\x7d;"]
  native : nativeStub context.types context.config cls = nativeCode context.config cls
    ++ if asserted.isEmpty then []
      else "" :: (asserted.flatMap AssertedType.assertions).map LayoutAssertion.nativeText

/-- The types that a class uses, one by one: each with the layout that the type map has for
it and with its declared fields in their order. -/
structure AreUsedTypes (types : TypeMap) (cls : ExportedClass) (asserted : List AssertedType) :
    Prop where
  names : asserted.map (fun entry => entry.type.managed) = cls.usedTypes
  registered : ∀ entry ∈ asserted, types.get? entry.type.managed = some entry.type
  layouts : ∀ entry ∈ asserted, types.layoutOf? entry.type.managed = some entry.layout
  fields : ∀ entry ∈ asserted,
    entry.layout.fields.map PlacedField.name = entry.type.shape.fieldNames

/-- The native assertions on a type. -/
theorem assertedLines_eq_map :
    assertedLines = fun asserted => asserted.assertions.map LayoutAssertion.nativeText := by
  funext asserted
  rw [assertedLines, AssertedType.assertions, List.map_cons, List.map_map]
  rfl

/-- The last part of the managed stub. -/
theorem layoutLines_eq (context : ManagedContext) (cls : ExportedClass) :
    layoutLines context cls
      = ["", "#[cfg(target_pointer_width = \"" ++ toString (context.config.pointerWidth * 8)
          ++ "\")]", "const _: () = \x7b"]
        ++ blockAssertions cls
        ++ ((assertedTypes context.types cls).flatMap AssertedType.assertions).map
          (LayoutAssertion.managedText context)
        ++ ["\x7d;"] := by
  have written : ∀ asserted : AssertedType,
      asserted.assertions.map (LayoutAssertion.managedText context)
        = LayoutAssertion.managedText context (.size asserted.type asserted.layout.layout.size)
          :: asserted.layout.fields.map fun field => LayoutAssertion.managedText context
            (.offset asserted.type field.name field.offset) := by
    intro asserted
    rw [AssertedType.assertions, List.map_cons, List.map_map]
    rfl
  rw [List.map_flatMap]
  simp only [written]
  rfl

/-- Both stubs assert whatever is found of the used types. -/
theorem assertLayouts_assertedTypes (context : ManagedContext) (cls : ExportedClass) :
    AssertLayouts context cls (assertedTypes context.types cls) where
  managed := by
    rw [managedStub, layoutLines_eq, managedCode]
    simp only [List.append_assoc]
  native := by
    have lines : (assertedTypes context.types cls).flatMap assertedLines
        = ((assertedTypes context.types cls).flatMap AssertedType.assertions).map
          LayoutAssertion.nativeText := by
      rw [assertedLines_eq_map, List.map_flatMap]
    exact congrArg (fun lines => nativeCode context.config cls
      ++ if (assertedTypes context.types cls).isEmpty then [] else "" :: lines) lines

/-- What is asserted was found under the name of a used type. -/
theorem found_of_mem_assertedTypes {types : TypeMap} {cls : ExportedClass}
    {asserted : AssertedType} (isAsserted : asserted ∈ assertedTypes types cls) :
    ∃ name ∈ cls.usedTypes, types.get? name = some asserted.type ∧
      types.layoutOf? name = some asserted.layout := by
  obtain ⟨name, isUsed, found⟩ := List.mem_filterMap.mp isAsserted
  refine ⟨name, isUsed, ?_⟩
  split at found
  · rename_i type layout foundType foundLayout
    cases found
    exact ⟨foundType, foundLayout⟩
  · cases found

/-- Where every used type is found with a layout, nothing is passed over. -/
theorem areUsedTypes_assertedTypes {types : TypeMap} {cls : ExportedClass}
    (found : ∀ name ∈ cls.usedTypes, ∃ type layout, types.get? name = some type ∧
      type.managed = name ∧ types.layoutOf? name = some layout ∧
      layout.fields.map PlacedField.name = type.shape.fieldNames) :
    AreUsedTypes types cls (assertedTypes types cls) := by
  have each : ∀ entry ∈ assertedTypes types cls,
      types.get? entry.type.managed = some entry.type ∧
        types.layoutOf? entry.type.managed = some entry.layout ∧
        entry.layout.fields.map PlacedField.name = entry.type.shape.fieldNames := by
    intro entry isEntry
    obtain ⟨name, isUsed, isType, isLayout⟩ := found_of_mem_assertedTypes isEntry
    obtain ⟨type, layout, foundType, named, foundLayout, fields⟩ := found name isUsed
    cases isType.symm.trans foundType
    cases isLayout.symm.trans foundLayout
    rw [named]
    exact ⟨isType, isLayout, fields⟩
  refine ⟨?_, fun entry isEntry => (each entry isEntry).1,
    fun entry isEntry => (each entry isEntry).2.1, fun entry isEntry => (each entry isEntry).2.2⟩
  rw [assertedTypes]
  clear each
  revert found
  generalize cls.usedTypes = names
  intro found
  induction names with
  | nil => rfl
  | cons name rest ih =>
      obtain ⟨type, layout, foundType, named, foundLayout, -⟩ := found name List.mem_cons_self
      have later := ih fun other isOther => found other (List.mem_cons_of_mem _ isOther)
      simp [foundType, foundLayout, named, later]

end Stub

/-- Every name among the used types of an export finds a type of that name. -/
theorem ExportDraws.get?_usedType {types : TypeMap} {decl : ExportDecl} {cls : ExportedClass}
    (draws : ExportDraws types decl cls) {name : String} (isUsed : name ∈ cls.usedTypes) :
    ∃ type, types.get? name = some type ∧ type.managed = name := by
  obtain ⟨type, uses, rfl⟩ := (draws.usedTypes name).mp isUsed
  exact ⟨type, uses.get?_managed, rfl⟩

/-- For every class that is resolved against a type map that was built and written for the
same map, both stubs assert the layouts of exactly the used types, each once: the registered
types that are the subject or stand at a position, whatever their native names are. -/
theorem Resolver.resolve_asserts_layouts {target : Target} {registered : List Blittable}
    {resolver : Resolver}
    (built : (TypeTable.ofTypes target registered).build = .ok resolver.types)
    {decl : ExportDecl} {cls : ExportedClass} (config : Config)
    (ok : (resolver.resolve decl).1 = .ok cls) :
    cls.usedTypes.Nodup ∧
      (∀ type, type.managed ∈ cls.usedTypes ∧ resolver.types.get? type.managed = some type ↔
        decl.UsesType resolver.types type) ∧
      ∃ asserted, Stub.AreUsedTypes resolver.types cls asserted ∧
        Stub.AssertLayouts ⟨resolver.types, config⟩ cls asserted := by
  have draws := exportDraws_of_resolveExport (resolve_ok ok)
  refine ⟨draws.distinct, fun type => ?_, _, ?_, Stub.assertLayouts_assertedTypes _ cls⟩
  · constructor
    · rintro ⟨isUsed, found⟩
      exact draws.uses_of_found isUsed found
    · intro uses
      exact ⟨(draws.usedTypes _).mpr ⟨type, uses, rfl⟩, uses.get?_managed⟩
  · refine Stub.areUsedTypes_assertedTypes fun name isUsed => ?_
    obtain ⟨type, found, named⟩ := draws.get?_usedType isUsed
    obtain ⟨layout, laidOut, fields⟩ := TypeTable.layoutOf?_of_get? built found
    exact ⟨type, layout, found, named, laidOut, fields⟩

/-- An export of a registered structure that uses others under their own and under other
names, by value and behind references and pointers, some of them twice. -/
def bodyExport : ExportDecl :=
  ⟨"BodyModule", "interop", some "retro::bodies", .record, some "interop::Body",
    [⟨"drag", [⟨"body", .ref true (.path "Body"), none, .synthetic⟩,
        ⟨"force", .path "interop::Vec3", some ⟨some "retro::Force", none, false, false⟩,
          .synthetic⟩,
        ⟨"context", .ptr true (.path "c_void"), none, .synthetic⟩], .path "Level",
        some ⟨some "retro::Drag", none, false, false⟩, .synthetic⟩,
     ⟨"place", [⟨"at", .ptr false (.path "Vec3"), none, .synthetic⟩,
        ⟨"mass", .path "f64", none, .synthetic⟩], .unit, none, .synthetic⟩], .synthetic⟩

/-- The assertions of the export are about the three types that it uses. -/
theorem Resolver.resolve_asserts_layouts_body :
    ∃ (resolver : Resolver) (cls : ExportedClass) (asserted : List Stub.AssertedType),
      (TypeTable.ofTypes ⟨8, 4⟩ TypeTable.bodyTypes).build = .ok resolver.types ∧
      (resolver.resolve bodyExport).1 = .ok cls ∧ cls.usedTypes = ["Body", "Vec3", "Level"] ∧
      Stub.AreUsedTypes resolver.types cls asserted ∧
      Stub.AssertLayouts ⟨resolver.types, Config.standard⟩ cls asserted := by
  have computed : (TypeTable.ofTypes ⟨8, 4⟩ TypeTable.bodyTypes).build.toOption.map
      (fun map => ((start map false).resolve bodyExport).1.toOption.map ExportedClass.usedTypes)
      = some (some ["Body", "Vec3", "Level"]) := by
    decide +kernel
  obtain ⟨map, built, resolves⟩ := exists_ok_of_computed computed
  obtain ⟨cls, accepted, used⟩ := exists_ok_of_computed resolves
  obtain ⟨-, -, asserted, areUsed, written⟩ :=
    @resolve_asserts_layouts _ _ (start map false) built _ _ Config.standard accepted
  exact ⟨start map false, cls, asserted, built, accepted, used, areUsed, written⟩

end NativeBridge

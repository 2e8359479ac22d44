import NativeBridge.Proofs.Export.Acceptance
import NativeBridge.Proofs.Stub.Exports

/-!
# The kind of an export is a matter of names

A class, a structure or a record may stand behind an export. Its kind passes through
resolution untouched (`Resolver.resolve_ofKind`) and decides in the stubs only where native
functions live and what they are called. So an export of any other kind is accepted as well,
with the same parameter blocks, and the files say the same about it besides the names of
native functions: `Resolver.kind_keeps_contract`.
-/

namespace NativeBridge

/-- The same export with another kind. -/
def ExportDecl.ofKind (decl : ExportDecl) (kind : ExportKind) : ExportDecl :=
  { decl with kind := kind }

/-- The same class with another kind. -/
def ExportedClass.ofKind (cls : ExportedClass) (kind : ExportKind) : ExportedClass :=
  { cls with kind := kind }

/-- Resolution hands the kind on. -/
theorem resolveExport_ofKind (types : TypeMap) (countsReturn : Bool) (decl : ExportDecl)
    (kind : ExportKind) :
    resolveExport types countsReturn (decl.ofKind kind)
      = (resolveExport types countsReturn decl).map (·.ofKind kind) := by
  have sameSubject : resolveSubject types (decl.ofKind kind) = resolveSubject types decl := rfl
  have sameMethods : resolveMethods types countsReturn (decl.ofKind kind).name []
      (decl.ofKind kind).methods = resolveMethods types countsReturn decl.name [] decl.methods :=
    rfl
  rw [resolveExport, resolveExport, sameSubject, sameMethods]
  rcases resolveSubject types decl with ⟨mapped, uses, subjectFaults⟩
  rcases resolveMethods types countsReturn decl.name [] decl.methods with
    ⟨methods, methodUses, methodFaults⟩
  cases subjectFaults <;> cases methodFaults <;> rfl

/-- A resolver hands the kind on, and remembers the same. -/
theorem Resolver.resolve_ofKind (resolver : Resolver) (decl : ExportDecl) (kind : ExportKind) :
    resolver.resolve (decl.ofKind kind)
      = ((resolver.resolve decl).1.map (·.ofKind kind), (resolver.resolve decl).2) := by
  have sameName : (decl.ofKind kind).qualifiedName = decl.qualifiedName := rfl
  simp only [resolve, sameName, resolveExport_ofKind]
  cases resolver.seen.lookup decl.qualifiedName with
  | none => rfl
  | some first => cases resolveExport resolver.types resolver.countsReturn decl <;> rfl

namespace Stub

/-- The line of a managed stub that tells the native side of a method. -/
def nativeLine (cls : ExportedClass) (method : ExportedMethod) : String :=
  "    /// Native: `" ++ (signature cls method).text ++ "`"

/-- Lines of the managed stubs of two classes are equal, or tell the native side of one method. -/
def SameBesidesNative (cls other : ExportedClass) (line otherLine : String) : Prop :=
  line = otherLine ∨
    ∃ method ∈ cls.methods, line = nativeLine cls method ∧ otherLine = nativeLine other method

/-- Two functions have the same result and the same parameters. -/
structure NativeFunction.SameBesidesName (function other : NativeFunction) : Prop where
  result : function.result = other.result
  params : function.params = other.params

/-- Two functions are registered under the same name with the same size. -/
structure RegisteredFunction.SameBesidesPath (function other : RegisteredFunction) : Prop where
  exportName : function.exportName = other.exportName
  size : sumText nativeSizeText function.slots = sumText nativeSizeText other.slots

/-- Two classes have the same parameter blocks and need the same types and modules; their stubs
and what is registered for them differ in the names of native functions at most. -/
structure SameContract (context : ManagedContext) (cls other : ExportedClass) : Prop where
  methods : cls.methods = other.methods
  imports : cls.imports = other.imports
  usedTypes : cls.usedTypes = other.usedTypes
  managedName : (generateClass context.config context.types cls).managed.name
    = (generateClass context.config context.types other).managed.name
  managed : ∃ lines otherLines,
    (generateClass context.config context.types cls).managed.contents = render lines ∧
    (generateClass context.config context.types other).managed.contents = render otherLines ∧
    List.Forall₂ (SameBesidesNative cls other) lines otherLines
  native : ∃ lines otherLines functions others,
    (generateClass context.config context.types cls).native.contents = render lines ∧
    (generateClass context.config context.types other).native.contents = render otherLines ∧
    DeclaredIn lines cls.kind (functionNamespace cls) functions ∧
    DeclaredIn otherLines other.kind (functionNamespace other) others ∧
    List.Forall₂ NativeFunction.SameBesidesName functions others
  handle : (registeredModule context.config cls).handle
    = (registeredModule context.config other).handle
  moduleName : (registeredModule context.config cls).moduleName
    = (registeredModule context.config other).moduleName
  functions : List.Forall₂ RegisteredFunction.SameBesidesPath
    (registeredModule context.config cls).functions
    (registeredModule context.config other).functions

variable (context : ManagedContext) (cls : ExportedClass) (kind : ExportKind)

/-- The managed side of a type does not depend on the kind. -/
@[simp]
theorem typeText_ofKind (type : ManagedType) :
    context.typeText (cls.ofKind kind) type = context.typeText cls type := by
  induction type with
  | unit => rfl
  | path path => rfl
  | ref mutable target ih => simp only [ManagedContext.typeText, ih]
  | ptr mutable target ih => simp only [ManagedContext.typeText, ih]

/-- The native signatures do not depend on the kind. -/
@[simp]
theorem foreignType_ofKind (type : ManagedType) :
    context.foreignType (cls.ofKind kind) type = context.foreignType cls type := by
  cases type <;> simp only [ManagedContext.foreignType, typeText_ofKind]

/-- The slots of a method do not depend on the kind. -/
@[simp]
theorem slots_ofKind (method : ExportedMethod) :
    context.slots (cls.ofKind kind) method = context.slots cls method := by
  simp only [ManagedContext.slots, typeText_ofKind]

/-- The constants of the managed stub do not depend on the kind. -/
theorem constLines_ofKind : constLines context (cls.ofKind kind) = constLines context cls := by
  simp only [constLines, slots_ofKind]
  rfl

/-- A method of the managed stub depends on the kind in its first line only. -/
theorem methodLines_ofKind {method : ExportedMethod} (isMethod : method ∈ cls.methods) :
    List.Forall₂ (SameBesidesNative (cls.ofKind kind) cls)
      (methodLines context (cls.ofKind kind) method) (methodLines context cls method) := by
  simp only [methodLines, typeText_ofKind, foreignType_ofKind]
  refine .cons (.inr ⟨method, isMethod, rfl, rfl⟩) ?_
  exact List.forall₂_same.mpr fun _ _ => .inl rfl

/-- The managed stub depends on the kind in the lines on native functions only. -/
theorem managedStub_ofKind :
    List.Forall₂ (SameBesidesNative (cls.ofKind kind) cls) (managedStub context (cls.ofKind kind))
      (managedStub context cls) := by
  have same : ∀ lines, List.Forall₂ (SameBesidesNative (cls.ofKind kind) cls) lines lines :=
    fun lines => List.forall₂_same.mpr fun _ _ => .inl rfl
  have methods : List.Forall₂ (SameBesidesNative (cls.ofKind kind) cls)
      (spaced (cls.methods.map (methodLines context (cls.ofKind kind))))
      (spaced (cls.methods.map (methodLines context cls))) := by
    refine forall₂_spaced (.inl rfl) ?_
    rw [List.forall₂_map_left_iff, List.forall₂_map_right_iff]
    exact List.forall₂_same.mpr fun method => methodLines_ofKind context cls kind
  rw [managedStub, managedStub, constLines_ofKind]
  exact List.rel_append (List.rel_append (List.rel_append (List.rel_append (same _) methods)
    (same _)) (same _)) (same _)

/-- A class with another kind has the same contract. -/
theorem sameContract_ofKind : SameContract context (cls.ofKind kind) cls where
  methods := rfl
  imports := rfl
  usedTypes := rfl
  managedName := by
    -- stated on the names, since comparing the generated classes would render both stubs
    change managedFileName (cls.ofKind kind) = managedFileName cls
    rfl
  managed := ⟨_, _, rfl, rfl, managedStub_ofKind context cls kind⟩
  native := by
    refine ⟨_, _, _, _, rfl, rfl, declaredIn_nativeStub context.types context.config _,
      declaredIn_nativeStub context.types context.config cls, ?_⟩
    rw [List.forall₂_map_left_iff, List.forall₂_map_right_iff]
    exact List.forall₂_same.mpr fun method _ => ⟨rfl, rfl⟩
  handle := rfl
  moduleName := rfl
  functions := by
    refine List.forall₂_map_left_iff.mpr (List.forall₂_map_right_iff.mpr ?_)
    exact List.forall₂_same.mpr fun method _ => ⟨rfl, rfl⟩

end Stub

namespace Resolver

/-- After any exports, an export is accepted with one kind exactly if it is accepted with another.
Its methods, its imports and the types that it uses are then the same, and its stubs and what is
registered for it differ in the names of native functions and in the scope of their declarations
only. -/
theorem kind_keeps_contract (config : Config) (types : TypeMap) (earlier : List ExportDecl)
    (decl : ExportDecl) (first second : ExportKind) :
    ((∃ cls, (((start types config.includeReturnSlot).after earlier).resolve
        (decl.ofKind first)).1 = .ok cls) ↔
      ∃ cls, (((start types config.includeReturnSlot).after earlier).resolve
        (decl.ofKind second)).1 = .ok cls) ∧
    ∀ cls other,
      (((start types config.includeReturnSlot).after earlier).resolve (decl.ofKind first)).1
        = .ok cls →
      (((start types config.includeReturnSlot).after earlier).resolve (decl.ofKind second)).1
        = .ok other →
      cls.kind = first ∧ other.kind = second ∧ Stub.SameContract ⟨types, config⟩ cls other := by
  simp only [resolve_ofKind]
  cases (((start types config.includeReturnSlot).after earlier).resolve decl).1 with
  | error faults => simp [Except.map]
  | ok base =>
      refine ⟨⟨fun _ => ⟨_, rfl⟩, fun _ => ⟨_, rfl⟩⟩, ?_⟩
      rintro _ _ ⟨⟩ ⟨⟩
      exact ⟨rfl, rfl, Stub.sameContract_ofKind ⟨types, config⟩ (base.ofKind second) first⟩

/-- The shapes of a class and of a record have the same contract, though their functions have
other names. -/
theorem kind_keeps_contract_shapes :
    ∃ cls other,
      (((start ⟨⟨8, 8⟩, [], []⟩ Config.standard.includeReturnSlot).after []).resolve
        (shapesExport.ofKind .class)).1 = .ok cls ∧
      (((start ⟨⟨8, 8⟩, [], []⟩ Config.standard.includeReturnSlot).after []).resolve
        (shapesExport.ofKind .record)).1 = .ok other ∧
      Stub.functionPath cls "grow" = "interop::shapes::grow" ∧
      Stub.functionPath other "grow" = "interop::shapes_grow" ∧
      Stub.SameContract ⟨⟨⟨8, 8⟩, [], []⟩, Config.standard⟩ cls other := by
  have asClass : (((start ⟨⟨8, 8⟩, [], []⟩ Config.standard.includeReturnSlot).after []).resolve
      (shapesExport.ofKind .class)).1 = .ok _ := rfl
  have asRecord : (((start ⟨⟨8, 8⟩, [], []⟩ Config.standard.includeReturnSlot).after []).resolve
      (shapesExport.ofKind .record)).1 = .ok _ := rfl
  obtain ⟨-, -, same⟩ := (kind_keeps_contract Config.standard ⟨⟨8, 8⟩, [], []⟩ [] shapesExport
    .class .record).2 _ _ asClass asRecord
  exact ⟨_, _, asClass, asRecord, by decide +kernel, by decide +kernel, same⟩

end Resolver

end NativeBridge

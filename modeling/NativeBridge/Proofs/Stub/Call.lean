import NativeBridge.Proofs.Export.Resolution
import NativeBridge.Proofs.Stub.Lines
import NativeBridge.Proofs.TypeMap.Lookup
import NativeBridge.Stub.Managed
import NativeBridge.Stub.Native

/-!
# Both stubs describe one call

The parameters of a native function are listed four times: in its declaration, in
the signature that the managed stub shows, in the function type that managed code
calls through and in the arguments of that call. The lists are built apart, from
resolved positions. `Resolver.resolve_describes_one_call` says that they agree
entry by entry, whatever the export and the configuration are.
-/

namespace NativeBridge

/-- A raw pointer. -/
def ManagedType.isPointer : ManagedType → Bool
  | ptr _ _ => true
  | _ => false

/-- The type of a parameter in the function type: a reference becomes a raw pointer. -/
def ManagedType.foreign : ManagedType → ManagedType
  | ref mutable target => ptr mutable target
  | type => type

/-- Exactly what is behind an indirection becomes or stays a raw pointer. -/
theorem ManagedType.isPointer_foreign (type : ManagedType) :
    type.foreign.isPointer = type.isIndirect := by
  cases type <;> rfl

namespace Stub

/-- The leading part and the rest make up the text. -/
theorem eq_append_of_afterLeading? {leading text rest : List Char}
    (found : afterLeading? leading text = some rest) : text = leading ++ rest := by
  induction leading generalizing text with
  | nil =>
      cases found
      rfl
  | cons l leading ih =>
      cases text with
      | nil => cases found
      | cons c text =>
          rw [afterLeading?] at found
          split at found
          · rename_i same
            rw [same, ih found, List.cons_append]
          · cases found

/-- Inside a namespace a name is written as it is, or only without that namespace. -/
theorem eq_or_eq_append_relativeTo (name space : String) :
    name = relativeTo name space ∨ name = space ++ "::" ++ relativeTo name space := by
  rw [relativeTo]
  split
  · exact .inl rfl
  · split
    · rename_i rest found
      refine .inr (String.toList_inj.mp ?_)
      rw [eq_append_of_afterLeading? found]
      simp
    · exact .inl rfl

/-- The type that is written for a parameter of the function type. -/
theorem foreignType_eq_typeText (context : ManagedContext) (cls : ExportedClass)
    (type : ManagedType) : context.foreignType cls type = context.typeText cls type.foreign := by
  cases type <;> rfl

/-- A raw pointer of the function type has the mutability of the managed type. -/
theorem typeText_foreign (context : ManagedContext) (cls : ExportedClass) {type : ManagedType}
    (pointer : type.foreign.isPointer = true) :
    ∃ target, context.typeText cls type.foreign
      = (if type.isWritable then "*mut " else "*const ") ++ context.typeText cls target := by
  cases type with
  | unit => cases pointer
  | path path => cases pointer
  | ref mutable target => exact ⟨target, rfl⟩
  | ptr mutable target => exact ⟨target, rfl⟩

/-- How the managed call passes a parameter: a reference as the pointer of its own
mutability, anything else as it is. -/
inductive PassedAs (name : String) : ManagedType → String → Prop where
  | shared (target : ManagedType) :
      PassedAs name (.ref false target) ("::core::ptr::from_ref(" ++ name ++ ")")
  | mutable (target : ManagedType) :
      PassedAs name (.ref true target) ("::core::ptr::from_mut(" ++ name ++ ")")
  | itself {type : ManagedType} (notReference : ∀ mutable target, type ≠ .ref mutable target) :
      PassedAs name type name

/-- How a type without indirection is written: a primitive under its own name, a registered
type under its full path. -/
inductive WrittenByValue (context : ManagedContext) : ManagedType → String → Prop where
  | primitive (primitive : Primitive) :
      WrittenByValue context (.path primitive.managedName) primitive.managedName
  | registered {path : String} {mapped : Blittable}
      (found : context.types.get? path = some mapped) :
      WrittenByValue context (.path path)
        (context.itemPath mapped.managedNamespace mapped.managed)

/-- The result of a method in its function type; nothing is written for methods that return
nothing. -/
def resultText (context : ManagedContext) (cls : ExportedClass) (method : ExportedMethod) :
    String :=
  if method.result.isVoid then "" else " -> " ++ context.typeText cls method.result.managed

/-- One parameter of a call in each of the four lists. -/
structure CallEntry where
  /-- Type and name in the native declaration. -/
  declared : NativeType × String
  /-- Type and name in the signature that the managed stub shows. -/
  signed : NativeType × String
  /-- The type in the function type that managed code calls through. -/
  foreign : ManagedType
  /-- The argument of the managed call. -/
  argument : String

/-- The four lists of a method in the stubs of its class, each with these entries; all but
the declaration stand in the one body that the managed stub has for the method. -/
structure CallWritten (context : ManagedContext) (cls : ExportedClass)
    (method : ExportedMethod) (entries : List CallEntry) : Prop where
  declaration : (declaration cls method).params = entries.map CallEntry.declared ∧
    ∃ indent ∈ ["    ", "        "], indent ++ (declaration cls method).text ++ ";"
      ∈ nativeStub context.types context.config cls
  body : methodLines context cls method <:+: managedStub context cls
  signature : (signature cls method).params = entries.map CallEntry.signed ∧
    "    /// Native: `" ++ (signature cls method).text ++ "`" ∈ methodLines context cls method
  function : "            let __f: unsafe extern \"C\" fn("
      ++ commaList (entries.map fun entry => context.typeText cls entry.foreign) ++ ")"
      ++ resultText context cls method ++ " = __bound.as_fn();"
    ∈ methodLines context cls method
  call : "            __f(" ++ commaList (entries.map CallEntry.argument) ++ ")"
    ∈ methodLines context cls method

/-- The entries of one declared parameter fit together. -/
structure CallEntry.Fits (context : ManagedContext) (cls : ExportedClass) (param : ParamDecl)
    (entry : CallEntry) : Prop where
  declaredName : entry.declared.2 = param.name
  signedName : entry.signed.2 = param.name
  argument : PassedAs param.name param.type entry.argument
  foreign : entry.foreign = param.type.foreign
  /-- Managed code passes a raw pointer exactly where native code expects an indirection. -/
  pointer : entry.foreign.isPointer = entry.declared.1.isIndirect
  /-- The raw pointer is written with the mutability of the managed type. -/
  indirect : entry.foreign.isPointer = true → ∃ target, context.typeText cls entry.foreign
    = (if param.type.isWritable then "*mut " else "*const ") ++ context.typeText cls target
  byValue : entry.foreign.isPointer = false →
    WrittenByValue context entry.foreign (context.typeText cls entry.foreign)
  isConst : entry.signed.1.isConst = entry.declared.1.isConst
  indirection : entry.signed.1.indirection = entry.declared.1.indirection
  base : entry.signed.1.base = entry.declared.1.base ∨
    entry.signed.1.base = cls.nativeNamespace ++ "::" ++ entry.declared.1.base
  /-- Native code may change only what managed code handed over as mutable. -/
  writable : entry.declared.1.isIndirect = true → entry.declared.1.isConst = false →
    param.type.isWritable = true

/-- The managed and the native stub of a class describe one call of a declared method. -/
def SameCall (context : ManagedContext) (cls : ExportedClass) (decl : MethodDecl)
    (method : ExportedMethod) : Prop :=
  ∃ entries, CallWritten context cls method entries ∧
    List.Forall₂ (CallEntry.Fits context cls) decl.params entries

/-- The entry of a resolved parameter. -/
def CallEntry.of (cls : ExportedClass) (param : Parameter) : CallEntry where
  declared := (typeWithin cls.nativeNamespace param.native, param.name)
  signed := (param.native, param.name)
  foreign := param.managed.foreign
  argument := argumentText param

/-- The managed stub holds the body of every method. -/
theorem infix_managedStub (context : ManagedContext) {cls : ExportedClass}
    {method : ExportedMethod} (isMethod : method ∈ cls.methods) :
    methodLines context cls method <:+: managedStub context cls := by
  have written := infix_spaced (List.mem_map_of_mem (f := methodLines context cls) isMethod)
  have bodies : spaced (cls.methods.map (methodLines context cls))
      <:+: managedStub context cls := by
    rw [managedStub]
    exact (List.suffix_append _ _).isInfix.trans ((List.prefix_append _ _).trans
      ((List.prefix_append _ _).trans (List.prefix_append _ _))).isInfix
  exact written.trans bodies

/-- The declaration of a method is a line of its own. -/
theorem mem_declarationLines {cls : ExportedClass} {method : ExportedMethod}
    (isMethod : method ∈ cls.methods) (indent : String) :
    indent ++ (declaration cls method).text ++ ";" ∈ declarationLines cls indent :=
  List.mem_map.mpr ⟨method, isMethod, rfl⟩

/-- The native stub holds the declaration of every method. -/
theorem mem_nativeStub (types : TypeMap) (config : Config) {cls : ExportedClass}
    {method : ExportedMethod} (isMethod : method ∈ cls.methods) :
    ∃ indent ∈ ["    ", "        "],
      indent ++ (declaration cls method).text ++ ";" ∈ nativeStub types config cls := by
  have declared := mem_declarationLines isMethod
  have inFragment : "    " ++ (declaration cls method).text ++ ";" ∈ fragmentLines config cls := by
    simp [fragmentLines, declared]
  have inHeader : ∃ indent ∈ ["    ", "        "],
      indent ++ (declaration cls method).text ++ ";" ∈ headerLines config cls := by
    by_cases unnamed : functionNamespace cls = ""
    · exact ⟨"    ", by simp, by simp [headerLines, unnamed, declared]⟩
    · exact ⟨"        ", by simp, by simp [headerLines, unnamed, declared]⟩
  cases kind : cls.kind with
  | «class» => exact ⟨"    ", by simp, by simp [nativeStub, kind, inFragment]⟩
  | struct => exact ⟨"    ", by simp, by simp [nativeStub, kind, inFragment]⟩
  | record =>
      obtain ⟨indent, isIndent, isLine⟩ := inHeader
      exact ⟨indent, isIndent, by simp [nativeStub, kind, isLine]⟩

/-- Every method of a class is written with one entry per parameter, in order. -/
theorem callWritten (context : ManagedContext) {cls : ExportedClass} {method : ExportedMethod}
    (isMethod : method ∈ cls.methods) :
    CallWritten context cls method (method.params.map (CallEntry.of cls)) where
  declaration := ⟨by simp [declaration, CallEntry.of, Function.comp_def],
    mem_nativeStub context.types context.config isMethod⟩
  body := infix_managedStub context isMethod
  signature := ⟨by simp [signature, CallEntry.of, Function.comp_def], by simp [methodLines]⟩
  function := by
    simp [methodLines, resultText, CallEntry.of, Function.comp_def, foreignType_eq_typeText]
  call := by simp [methodLines, CallEntry.of, Function.comp_def]

/-- A resolved parameter is passed by its type. -/
theorem passedAs_argumentText (param : Parameter) :
    PassedAs param.name param.managed (argumentText param) := by
  unfold argumentText
  cases param.managed with
  | unit => exact .itself (by simp)
  | path path => exact .itself (by simp)
  | ref mutable target =>
      cases mutable with
      | false => exact .shared target
      | true => exact .mutable target
  | ptr mutable target => exact .itself (by simp)

/-- What resolves by value is written as a primitive or as a registered type. -/
theorem writtenByValue_typeText {context : ManagedContext} (cls : ExportedClass)
    {path : String} (typed : (ManagedType.path path).isUntyped = false)
    (laidOut : (context.types.layoutOfType? (.path path)).isSome = true) :
    WrittenByValue context (.path path) (context.typeText cls (.path path)) := by
  rw [ManagedContext.typeText, ManagedContext.namedType]
  simp only [typed, Bool.false_eq_true, if_false]
  cases named : (ManagedType.path path).primitive? with
  | some primitive =>
      have same : primitive.managedName = path := by
        simpa using List.find?_some named
      rw [← same]
      exact .primitive primitive
  | none =>
      simp only [TypeMap.layoutOfType?, named, TypeMap.layoutOf?] at laidOut
      cases found : context.types.get? path with
      | none => simp [found] at laidOut
      | some mapped =>
          simp only [ManagedType.ident?, Option.bind_some, TypeMap.get?_lastSegment, found]
          exact .registered found

/-- The entries of a parameter fit what it was resolved from. -/
theorem fits_of_resolves {context : ManagedContext} (cls : ExportedClass) {decl : ParamDecl}
    {param : Parameter} (resolved : ParamResolves context.types decl param) :
    CallEntry.Fits context cls decl (.of cls param) := by
  obtain ⟨-, place, position, ok, rfl⟩ := resolved
  have indirect := Position.isIndirect_native ok
  have pointer : decl.type.foreign.isPointer = position.native.isIndirect :=
    (ManagedType.isPointer_foreign decl.type).trans indirect.symm
  refine
    { declaredName := rfl
      signedName := rfl
      argument := passedAs_argumentText (.ofPosition decl position)
      foreign := rfl
      pointer := pointer
      indirect := typeText_foreign context cls
      byValue := fun value => ?_
      isConst := rfl
      indirection := rfl
      base := eq_or_eq_append_relativeTo position.native.base cls.nativeNamespace
      writable := Position.isWritable_of_resolve ok }
  have direct : decl.type.isIndirect = false := by
    rw [← indirect, ← pointer]
    exact value
  obtain ⟨path, isPath, typed, laidOut⟩ := Position.path_of_resolve ok direct
  have same : (CallEntry.of cls (.ofPosition decl position)).foreign = .path path := by
    simp [CallEntry.of, Parameter.ofPosition, isPath, ManagedType.foreign]
  rw [same]
  rw [isPath] at typed laidOut
  exact writtenByValue_typeText cls typed laidOut

/-- Every method of a resolved export is described as one call. -/
theorem sameCall_of_resolves {context : ManagedContext} {countsReturn : Bool}
    {cls : ExportedClass} {decl : MethodDecl} {method : ExportedMethod}
    (isMethod : method ∈ cls.methods)
    (resolved : MethodResolves context.types countsReturn decl method) :
    SameCall context cls decl method := by
  refine ⟨_, callWritten context isMethod, ?_⟩
  rw [List.forall₂_map_right_iff]
  exact resolved.params.imp fun _ _ same => fits_of_resolves cls same

end Stub

/-- For every class that a resolver accepts and every configuration, both stubs describe one
call of each declared method. -/
theorem Resolver.resolve_describes_one_call {resolver : Resolver} {decl : ExportDecl}
    {cls : ExportedClass} (config : Config) (ok : (resolver.resolve decl).1 = .ok cls) :
    List.Forall₂ (Stub.SameCall ⟨resolver.types, config⟩ cls) decl.methods cls.methods := by
  have resolved := (resolveExport_ok (resolve_ok ok)).methods
  rw [List.forall₂_iff_get] at resolved ⊢
  refine ⟨resolved.1, fun index isDecl isMethod => ?_⟩
  exact Stub.sameCall_of_resolves (List.get_mem _ _) (resolved.2 index isDecl isMethod)

/-- A vector that lives in the namespace of its module. -/
def vectorTypes : TypeMap :=
  ⟨⟨8, 8⟩,
    [⟨"Vec3", "interop", "retro::math::Vector3", some "retro.math",
      .record [⟨"x", .path "f32", .synthetic⟩, ⟨"y", .path "f32", .synthetic⟩,
        ⟨"z", .path "f32", .synthetic⟩], .synthetic⟩],
    [("Vec3", .ofFields [("x", ⟨4, 4⟩), ("y", ⟨4, 4⟩), ("z", ⟨4, 4⟩)])]⟩

/-- An export with a parameter of every shape, two of them with a native side of their own. -/
def blendExport : ExportDecl :=
  ⟨"VectorModule", "interop", some "retro::math", .class, none,
    [⟨"blend", [⟨"start", .ref false (.path "Vec3"), none, .synthetic⟩,
        ⟨"into", .ref true (.path "interop::Vec3"), none, .synthetic⟩,
        ⟨"trace", .ptr true (.path "Vec3"), some ⟨none, none, true, true⟩, .synthetic⟩,
        ⟨"mean", .path "Vec3", none, .synthetic⟩,
        ⟨"weight", .path "f32", some ⟨some "retro::Weight", none, false, false⟩, .synthetic⟩],
      .unit, none, .synthetic⟩], .synthetic⟩

/-- The blend is declared in the namespace of the vector and called with raw pointers. -/
theorem Resolver.resolve_describes_one_call_blend :
    ∃ cls, ((start vectorTypes false).resolve blendExport).1 = .ok cls ∧
      cls.methods.map (fun method => (Stub.declaration cls method).text)
        = ["void blend(const Vector3& start, Vector3& into, const Vector3& trace, "
          ++ "Vector3 mean, retro::Weight weight)"] ∧
      List.Forall₂ (Stub.SameCall ⟨vectorTypes, Config.standard⟩ cls) blendExport.methods
        cls.methods := by
  have accepted : ((start vectorTypes false).resolve blendExport).1 = .ok _ := rfl
  exact ⟨_, accepted, by decide +kernel, resolve_describes_one_call Config.standard accepted⟩

end NativeBridge

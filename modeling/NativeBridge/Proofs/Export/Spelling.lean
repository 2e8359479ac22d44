import NativeBridge.Proofs.Export.Position
import NativeBridge.Proofs.Export.Uses
import NativeBridge.Proofs.TypeMap.Build

/-!
# How positions are spelled on the native side

Which types can stand at a position is `Position.Passes`; the native side of one that does is
`Position.Spells`, field by field. `Position.resolve_spells` says that resolving follows these
two for every type, override and type map. A type map that was built knows the layouts of the
primitive spellings and of the registered names (`TypeMap.knowsLayout_iff`).
-/

namespace NativeBridge

namespace ManagedType

/-- A path stands for the untyped target of pointers if that is its last segment. -/
theorem isUntyped_path_iff {path : String} :
    (ManagedType.path path).isUntyped = true ↔ Path.lastSegment path = "c_void" := by
  simp [isUntyped, ident?]

/-- Every other path is typed. -/
theorem isUntyped_path_eq_false_iff {path : String} :
    (ManagedType.path path).isUntyped = false ↔ Path.lastSegment path ≠ "c_void" := by
  rw [← Bool.not_eq_true, isUntyped_path_iff]

end ManagedType

namespace TypeMap

/-- A named type can be passed by value. -/
def KnowsLayout (types : TypeMap) (path : String) : Prop :=
  (types.layoutOfType? (.path path)).isSome = true

/-- Something is known under a path: it is the spelling of a primitive type, or its last segment
is registered. -/
def Knows (types : TypeMap) (path : String) : Prop :=
  (Primitive.ofManagedName? path).isSome = true ∨ types.contains path = true

/-- What has a layout is known. -/
theorem KnowsLayout.knows {types : TypeMap} {path : String} (sized : types.KnowsLayout path) :
    types.Knows path := by
  cases isPrimitive : Primitive.ofManagedName? path with
  | some primitive => exact .inl (by simp [isPrimitive])
  | none =>
      cases found : types.get? path with
      | some type => exact .inr (by simp [contains, found])
      | none =>
          simp [KnowsLayout, layoutOfType?, ManagedType.primitive?, isPrimitive, layoutOf?,
            found] at sized

/-- A type map that was built has a layout for everything that is known to it. -/
theorem knowsLayout_iff {table : TypeTable} {types : TypeMap} (built : table.build = .ok types)
    (path : String) : types.KnowsLayout path ↔ types.Knows path := by
  refine ⟨KnowsLayout.knows, ?_⟩
  intro known
  cases isPrimitive : Primitive.ofManagedName? path with
  | some primitive => simp [KnowsLayout, layoutOfType?, ManagedType.primitive?, isPrimitive]
  | none =>
      have registered : types.contains path = true := by simpa [Knows, isPrimitive] using known
      obtain ⟨type, found⟩ := Option.isSome_iff_exists.mp registered
      obtain ⟨noErrors, rfl⟩ := TypeTable.build_ok built
      obtain ⟨layout, isLayout, -⟩ := TypeTable.layout?_run noErrors (mem_types_of_get? found)
      have sized : (LayoutPass.run table).layouts.lookup type.managed = some layout := isLayout
      simp [KnowsLayout, layoutOfType?, ManagedType.primitive?, isPrimitive, layoutOf?, found,
        sized]

end TypeMap

namespace Position

/-- The types that can stand at a position: by value what has a layout, behind one reference or
pointer what has a native name, and the untyped target behind pointers that stay pointers. -/
inductive Passes (types : TypeMap) (override : NativeOverride) : ManagedType → Prop where
  | value {path : String} (typed : Path.lastSegment path ≠ "c_void")
      (sized : types.KnowsLayout path) : Passes types override (.path path)
  | reference {mutable : Bool} {path : String} (typed : Path.lastSegment path ≠ "c_void")
      (named : override.name.isSome = true ∨ types.Knows path) :
      Passes types override (.ref mutable (.path path))
  | pointer {mutable : Bool} {path : String} (typed : Path.lastSegment path ≠ "c_void")
      (named : override.name.isSome = true ∨ types.Knows path) :
      Passes types override (.ptr mutable (.path path))
  | untyped {mutable : Bool} {path : String} (untyped : Path.lastSegment path = "c_void")
      (byPointer : override.byRef = false) : Passes types override (.ptr mutable (.path path))

/-- The native base name of a path: the one that is given, else that of the untyped target, of
the registered type or of the primitive one. -/
def baseName? (types : TypeMap) (override : NativeOverride) (path : String) : Option String :=
  override.name
    |>.or (if Path.lastSegment path = "c_void" then some "void" else none)
    |>.or ((types.get? path).map Blittable.nativeName)
    |>.or ((Primitive.ofManagedName? path).map Primitive.nativeName)

/-- How the native side of a type reaches its value. -/
def indirectionOf (override : NativeOverride) : ManagedType → Indirection
  | .unit | .path _ => .value
  | .ref _ _ => .reference
  | .ptr _ _ => if override.byRef then .reference else .pointer

/-- The native side of a position of some type. -/
structure Spells (types : TypeMap) (override : NativeOverride) (type : ManagedType)
    (position : Position) : Prop where
  base : ∃ path, type.namedPath? = some path ∧
    baseName? types override path = some position.native.base
  indirection : position.native.indirection = indirectionOf override type
  passing : position.passing.indirection = position.native.indirection
  isConst : position.native.isConst = true ↔
    type.isIndirect = true ∧ (type.isWritable = false ∨ override.isConst = true)
  valueSize : type.isIndirect = false →
    (types.layoutOfType? type).map Layout.size = some position.size
  pointerSize : type.isIndirect = true → position.size = types.target.pointerSize

variable {types : TypeMap} {override : NativeOverride}

/-- The base name of a typed path is the one that it resolves to. -/
theorem map_base? {path : String} (typed : Path.lastSegment path ≠ "c_void") :
    (base? types override (.path path)).map Prod.fst = baseName? types override path := by
  have sameType : (ManagedType.path path).ident?.bind types.get? = types.get? path :=
    types.get?_lastSegment path
  simp only [base?, baseName?, sameType, if_neg typed]
  cases override.name with
  | some name => rfl
  | none =>
      cases types.get? path with
      | some type => rfl
      | none => cases isPrimitive : Primitive.ofManagedName? path <;>
          simp [ManagedType.primitive?, isPrimitive]

/-- A typed path has a base name if one is given or something is known under it. -/
theorem isSome_base?_iff {path : String} (typed : Path.lastSegment path ≠ "c_void") :
    (base? types override (.path path)).isSome = true ↔
      override.name.isSome = true ∨ types.Knows path := by
  rw [← Option.isSome_map, map_base? typed, baseName?, if_neg typed]
  simp [TypeMap.Knows, TypeMap.contains, or_comm, or_left_comm]

/-- A named position has the base name of its path. -/
theorem baseName?_of_named? {path : String} {passing : Passing} {base : String}
    {imports : List String} {usedType : Option String}
    (named : named? types override (.path path) passing = some (base, imports, usedType)) :
    baseName? types override path = some base := by
  by_cases typed : Path.lastSegment path = "c_void"
  · have untyped := ManagedType.isUntyped_path_iff.mpr typed
    cases passing with
    | value => simp [named?, untyped] at named
    | reference => simp [named?, untyped] at named
    | pointer =>
        have isBase : override.name.getD "void" = base := by
          simpa [named?, untyped] using congrArg (Option.map Prod.fst) named
        rw [baseName?, if_pos typed, ← isBase]
        cases override.name <;> rfl
  · have isTyped := ManagedType.isUntyped_path_eq_false_iff.mpr typed
    have isBase : (base? types override (.path path)).map Prod.fst = some base := by
      simpa [named?, isTyped] using congrArg (Option.map Prod.fst) named
    rw [← isBase, map_base? typed]

/-- A position resolves exactly if its type reaches a path that has a native name there and a
size. -/
theorem exists_resolve_iff {type : ManagedType} {declared : Option NativeOverride}
    {context : String} {location : Location} :
    (∃ position, resolve types type declared context location = .ok position) ↔
      ∃ path passing isConst, reach (declared.getD .none) type = some (.path path, passing, isConst) ∧
        (named? types (declared.getD .none) (.path path) passing).isSome = true ∧
        (slotSize? types (.path path) passing).isSome = true := by
  simp only [resolve_eq_ok_iff]
  constructor
  · rintro ⟨_, target, passing, isConst, base, imports, usedType, size, reached, isPath, named,
      sized, -⟩
    obtain ⟨path, rfl, -⟩ := DeclaredPosition.namedPath?_of_reach reached isPath
    exact ⟨path, passing, isConst, reached, by simp [named], by simp [sized]⟩
  · rintro ⟨path, passing, isConst, reached, named, sized⟩
    obtain ⟨⟨base, imports, usedType⟩, isNamed⟩ := Option.isSome_iff_exists.mp named
    obtain ⟨size, isSize⟩ := Option.isSome_iff_exists.mp sized
    exact ⟨_, _, _, _, _, _, _, _, reached, rfl, isNamed, isSize, rfl⟩

/-- A path is named behind a pointer if it is untyped, or else where it has a base name. -/
theorem isSome_named?_iff {path : String} {passing : Passing} :
    (named? types override (.path path) passing).isSome = true ↔
      if Path.lastSegment path = "c_void" then passing = .pointer
      else override.name.isSome = true ∨ types.Knows path := by
  by_cases typed : Path.lastSegment path = "c_void"
  · have untyped := ManagedType.isUntyped_path_iff.mpr typed
    rw [if_pos typed, named?, if_pos untyped]
    split <;> simp [*]
  · have isTyped := ManagedType.isUntyped_path_eq_false_iff.mpr typed
    rw [if_neg typed, ← isSome_base?_iff typed, named?, isTyped]
    simp

/-- A path by value is named and sized if it is typed and has a layout. -/
theorem passes_path_iff {path : String} :
    Passes types override (.path path) ↔
      (named? types override (.path path) .value).isSome = true ∧
        (slotSize? types (.path path) .value).isSome = true := by
  rw [isSome_named?_iff, slotSize?, Option.isSome_map]
  constructor
  · rintro ⟨typed, sized⟩
    rw [if_neg typed]
    exact ⟨.inr sized.knows, sized⟩
  · rintro ⟨named, sized⟩
    refine .value (fun untyped => ?_) sized
    rw [if_pos untyped] at named
    cases named

/-- A path behind a reference is named if it is typed and has a name. -/
theorem passes_ref_iff {mutable : Bool} {path : String} :
    Passes types override (.ref mutable (.path path)) ↔
      (named? types override (.path path) .reference).isSome = true := by
  rw [isSome_named?_iff]
  constructor
  · rintro ⟨⟩
    rename_i typed named
    rw [if_neg typed]
    exact named
  · intro named
    by_cases typed : Path.lastSegment path = "c_void"
    · rw [if_pos typed] at named
      cases named
    · rw [if_neg typed] at named
      exact .reference typed named

/-- A path behind a pointer is named if it is untyped and stays behind a pointer, or is typed
and has a name. -/
theorem passes_ptr_iff {mutable : Bool} {path : String} :
    Passes types override (.ptr mutable (.path path)) ↔
      (named? types override (.path path)
        (if override.byRef then .reference else .pointer)).isSome = true := by
  rw [isSome_named?_iff]
  constructor
  · rintro ⟨⟩
    case pointer typed named =>
      rw [if_neg typed]
      exact named
    case untyped untyped byPointer =>
      simp [untyped, byPointer]
  · intro named
    by_cases typed : Path.lastSegment path = "c_void"
    · rw [if_pos typed] at named
      refine .untyped typed ?_
      cases byRef : override.byRef with
      | false => rfl
      | true => simp [byRef] at named
    · rw [if_neg typed] at named
      exact .pointer typed named

/-- Exactly the types resolve that can stand at a position. -/
theorem exists_resolve_iff_passes {type : ManagedType} {declared : Option NativeOverride}
    {context : String} {location : Location} :
    (∃ position, resolve types type declared context location = .ok position) ↔
      Passes types (declared.getD .none) type := by
  rw [exists_resolve_iff]
  cases type with
  | unit =>
      constructor
      · rintro ⟨path, passing, isConst, reached, -⟩
        cases reached
      · rintro ⟨⟩
  | path path =>
      rw [passes_path_iff]
      constructor
      · rintro ⟨_, _, _, ⟨⟩, named, sized⟩
        exact ⟨named, sized⟩
      · rintro ⟨named, sized⟩
        exact ⟨_, _, _, rfl, named, sized⟩
  | ref mutable target =>
      constructor
      · rintro ⟨_, _, _, ⟨⟩, named, -⟩
        exact passes_ref_iff.mpr named
      · intro passes
        have isPath : ∃ path, target = .path path := by
          cases passes with
          | reference => exact ⟨_, rfl⟩
        obtain ⟨path, rfl⟩ := isPath
        exact ⟨path, _, _, rfl, passes_ref_iff.mp passes, rfl⟩
  | ptr mutable target =>
      have sized : ∀ path, (slotSize? types (.path path)
          (if (declared.getD .none).byRef then .reference else .pointer)).isSome = true := by
        intro path
        split <;> rfl
      constructor
      · rintro ⟨_, _, _, reached, named, -⟩
        simp only [reach, Option.some.injEq, Prod.mk.injEq] at reached
        obtain ⟨rfl, rfl, -⟩ := reached
        exact passes_ptr_iff.mpr named
      · intro passes
        have isPath : ∃ path, target = .path path := by
          cases passes <;> exact ⟨_, rfl⟩
        obtain ⟨path, rfl⟩ := isPath
        exact ⟨path, _, _, rfl, passes_ptr_iff.mp passes, sized path⟩

/-- What is reached is passed as the type says. -/
theorem indirection_of_reach {type target : ManagedType} {passing : Passing} {isConst : Bool}
    (reached : reach override type = some (target, passing, isConst)) :
    passing.indirection = indirectionOf override type ∧
      (type.isIndirect = true →
        (isConst = true ↔ type.isWritable = false ∨ override.isConst = true)) := by
  cases type with
  | unit => cases reached
  | path path =>
      cases reached
      exact ⟨rfl, by simp [ManagedType.isIndirect]⟩
  | ref mutable inner =>
      cases reached
      exact ⟨rfl, by simp [ManagedType.isWritable]⟩
  | ptr mutable inner =>
      simp only [reach, Option.some.injEq, Prod.mk.injEq] at reached
      obtain ⟨-, rfl, rfl⟩ := reached
      refine ⟨?_, by simp [ManagedType.isWritable]⟩
      cases isRef : override.byRef <;> simp [indirectionOf, isRef, Passing.indirection]

/-- What resolves is spelled as its type, the override and the type map say. -/
theorem spells_of_resolve {type : ManagedType} {declared : Option NativeOverride}
    {context : String} {location : Location} {position : Position}
    (ok : resolve types type declared context location = .ok position) :
    Spells types (declared.getD .none) type position := by
  have indirect := isIndirect_native ok
  obtain ⟨layout, laidOut, isSize⟩ := layoutOfType?_of_resolve ok
  obtain ⟨target, passing, isConst, base, imports, usedType, size, reached, isPath, named, sized,
    rfl⟩ := resolve_eq_ok_iff.mp ok
  obtain ⟨path, rfl, isNamed⟩ := DeclaredPosition.namedPath?_of_reach reached isPath
  obtain ⟨indirection, const⟩ := indirection_of_reach reached
  refine ⟨⟨path, isNamed, baseName?_of_named? named⟩, indirection, rfl, ?const, ?value, ?pointer⟩
  case const =>
    have isConstBehind : (NativeType.make base passing.indirection isConst).isConst
        = (isConst && type.isIndirect) := by
      rw [← indirect]
      rfl
    rw [isConstBehind, Bool.and_eq_true, and_comm]
    exact and_congr_right const
  case value =>
    intro _
    rw [laidOut, Option.map_some, isSize]
  case pointer =>
    intro behind
    rw [← isSize]
    cases type with
    | unit => cases behind
    | path path => cases behind
    | ref mutable inner => exact congrArg Layout.size (Option.some.inj laidOut).symm
    | ptr mutable inner => exact congrArg Layout.size (Option.some.inj laidOut).symm

/-- A position resolves exactly if its type can stand there, and then its native side is spelled
by the rules; where the type map was built, what can be passed by value are the primitive
spellings and the paths with a registered last segment. -/
theorem resolve_spells (types : TypeMap) (type : ManagedType) (declared : Option NativeOverride)
    (context : String) (location : Location) :
    ((∃ position, resolve types type declared context location = .ok position) ↔
      Passes types (declared.getD .none) type) ∧
    (∀ position, resolve types type declared context location = .ok position →
      Spells types (declared.getD .none) type position) ∧
    ∀ table : TypeTable, table.build = .ok types →
      ∀ path, types.KnowsLayout path ↔ types.Knows path :=
  ⟨exists_resolve_iff_passes, fun _ ok => spells_of_resolve ok,
    fun _ built path => TypeMap.knowsLayout_iff built path⟩

/-- A shared pointer that is asked to be a reference is a constant one. -/
example : (resolve ⟨⟨8, 8⟩, [], []⟩ (.ptr false (.path "f32"))
    (some { NativeOverride.none with byRef := true }) "parameter" .synthetic).toOption.map
      (fun position => (position.native.text, position.size)) = some ("const float&", 8) := by
  decide +kernel

end Position

end NativeBridge

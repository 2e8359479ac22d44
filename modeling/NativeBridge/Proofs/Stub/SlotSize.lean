import NativeBridge.Proofs.Export.Uses
import NativeBridge.Proofs.Stub.BlockSize

/-!
# Sizes of slots and of the types in them

The native name of a position comes from a registered type before it comes from a
primitive; the size of its slot is looked up in the other order. A path has one size
either way unless a registered type of another size is spelled like a primitive:
`TypeMap.Shadowed`. `Resolver.slot_sizes_iff` says of every position that is passed by
value, under no name of its own, which name it gets, which size is counted, and that
the two belong together exactly when its path is not shadowed.
-/

namespace NativeBridge

/-- What gives its native name to a type that is passed under no other name. -/
inductive NativeSource where
  /-- A registered type. -/
  | registered (type : Blittable)
  /-- A primitive type. -/
  | primitive (scalar : Primitive)

namespace NativeSource

/-- The native name. -/
def nativeName : NativeSource → String
  | registered type => type.nativeName
  | primitive scalar => scalar.nativeName

/-- The size of what has that name; a registered type has that of its layout. -/
def size? (types : TypeMap) : NativeSource → Option Nat
  | registered type => (types.layoutOf? type.managed).map fun layout => layout.layout.size
  | primitive scalar => some (scalar.size types.target)

end NativeSource

namespace TypeMap

/-- Registered types go before primitives. -/
def nativeSource? (types : TypeMap) (path : String) : Option NativeSource :=
  match types.get? path with
  | some type => some (.registered type)
  | none => (Primitive.ofManagedName? path).map .primitive

/-- A registered type of another size is spelled like a primitive. -/
def Shadowed (types : TypeMap) (path : String) : Prop :=
  ∃ type primitive, types.get? path = some type ∧
    Primitive.ofManagedName? path = some primitive ∧
    (NativeSource.registered type).size? types ≠ some (primitive.size types.target)

end TypeMap

namespace TypeMap

variable {types : TypeMap} {path : String} {size : Nat}

/-- The size that is counted for a path: that of the primitive that it spells, else that of
its registered type. -/
def Counts (types : TypeMap) (path : String) (size : Nat) : Prop :=
  match Primitive.ofManagedName? path with
  | some primitive => size = primitive.size types.target
  | none => ∃ type, types.get? path = some type ∧
    (NativeSource.registered type).size? types = some size

/-- The layout of a path has the size that is counted for it. -/
theorem counts_of_layoutOfType?
    (sized : (types.layoutOfType? (.path path)).map Layout.size = some size) :
    types.Counts path size := by
  simp only [layoutOfType?, ManagedType.primitive?] at sized
  unfold Counts
  split
  · rename_i primitive spelled
    rw [spelled] at sized
    exact (Option.some.inj sized).symm
  · rename_i spelled
    simp only [spelled, Option.map_map] at sized
    cases found : types.get? path with
    | none => simp [layoutOf?, found] at sized
    | some type =>
        refine ⟨type, rfl, ?_⟩
        rw [NativeSource.size?, layoutOf?_managed found]
        exact sized

/-- The source of a name has the size that is counted for its path unless that is shadowed. -/
theorem size?_iff_not_shadowed {source : NativeSource}
    (isSource : types.nativeSource? path = some source) (counts : types.Counts path size) :
    source.size? types = some size ↔ ¬ types.Shadowed path := by
  unfold nativeSource? at isSource
  unfold Counts at counts
  -- Only a path that spells a primitive can be looked up in two ways.
  cases spelled : Primitive.ofManagedName? path with
  | some primitive =>
      simp only [spelled] at counts
      cases found : types.get? path with
      | some type =>
          simp only [found, Option.some.injEq] at isSource
          simp [counts, ← isSource, Shadowed, found, spelled]
      | none =>
          simp only [found, spelled, Option.map_some, Option.some.injEq] at isSource
          subst isSource
          simp [counts, NativeSource.size?, Shadowed, found]
  | none =>
      simp only [spelled] at counts
      obtain ⟨type, found, laidOut⟩ := counts
      simp only [found, Option.some.injEq] at isSource
      simp [← isSource, laidOut, Shadowed, spelled]

end TypeMap

/-- The slot of a path that is passed by value under no name of its own: it has the counted
size, and its name comes from a source of that size exactly when the path is not shadowed. -/
structure ValueSlot (types : TypeMap) (path : String) (native : NativeType) (size : Nat) :
    Prop where
  counted : types.Counts path size
  named : ∃ source, types.nativeSource? path = some source ∧
    native = .make source.nativeName .value false ∧
    (source.size? types = some size ↔ ¬ types.Shadowed path)

namespace Position

variable {types : TypeMap} {path : String} {native : Option NativeOverride} {context : String}
  {location : Location} {position : Position}

/-- The base name of a path under no other name comes from its source. -/
theorem base?_of_unnamed {override : NativeOverride} (unnamed : override.name = none) :
    (base? types override (.path path)).map Prod.fst
      = (types.nativeSource? path).map NativeSource.nativeName := by
  have found : (ManagedType.path path).ident?.bind types.get? = types.get? path :=
    types.get?_lastSegment path
  simp only [base?, unnamed, found, TypeMap.nativeSource?]
  cases types.get? path with
  | some type => rfl
  | none =>
      simp only [ManagedType.primitive?, Option.map_map]
      rfl

/-- The name and the size of a path that is passed by value under no name of its own. -/
theorem valueSlot_of_resolve (unnamed : (DeclaredPosition.mk (.path path) native).name? = none)
    (ok : resolve types (.path path) native context location = .ok position) :
    ValueSlot types path position.native position.size := by
  obtain ⟨target, passing, isConst, base, imports, usedType, size, reached, -, named, sized,
    rfl⟩ := resolve_eq_ok_iff.mp ok
  cases reached
  have unnamed : (native.getD .none).name = none := by
    cases native with
    | none => rfl
    | some override => exact unnamed
  have fromSource : (types.nativeSource? path).map NativeSource.nativeName = some base := by
    rw [← base?_of_unnamed unnamed]
    unfold named? at named
    split at named
    · split at named
      · rename_i byPointer
        cases byPointer
      · cases named
    · obtain ⟨found, isBase, made⟩ := Option.map_eq_some_iff.mp named
      cases made
      rw [isBase]
      rfl
  obtain ⟨source, isSource, rfl⟩ := Option.map_eq_some_iff.mp fromSource
  have counts : types.Counts path size := TypeMap.counts_of_layoutOfType? sized
  exact ⟨counts, source, isSource, rfl, TypeMap.size?_iff_not_shadowed isSource counts⟩

end Position

/-- A declared position and its slot. -/
structure SlotOf (types : TypeMap) (declared : DeclaredPosition) (slot : SlotPosition) :
    Prop where
  managed : slot.managed = declared.type
  byValue : ∀ path, declared.type = .path path → declared.name? = none →
    ValueSlot types path slot.native slot.size

/-- A position has the slot that it resolves to. -/
theorem SlotOf.of_resolve {types : TypeMap} {type : ManagedType}
    {native : Option NativeOverride} {context : String} {location : Location}
    {position : Position}
    (ok : Position.resolve types type native context location = .ok position) :
    SlotOf types ⟨type, native⟩ ⟨type, position.native, position.size⟩ where
  managed := rfl
  byValue := by
    rintro path rfl unnamed
    exact Position.valueSlot_of_resolve unnamed ok

/-- The positions of a method have its slots, one for one. -/
theorem MethodResolves.slotsOf {types : TypeMap} {countsReturn : Bool} {decl : MethodDecl}
    {method : ExportedMethod} (resolved : MethodResolves types countsReturn decl method) :
    List.Forall₂ (SlotOf types) decl.positions (method.slotPositions true) := by
  have params : List.Forall₂ (SlotOf types)
      (decl.params.map fun param => ⟨param.type, param.native⟩)
      (method.params.map fun param => ⟨param.managed, param.native, param.size⟩) := by
    rw [List.forall₂_map_left_iff, List.forall₂_map_right_iff]
    refine resolved.params.imp fun declared param same => ?_
    obtain ⟨-, context, position, ok, rfl⟩ := same
    exact .of_resolve ok
  refine List.rel_append params ?_
  have result := resolved.result
  generalize method.result = slot at result ⊢
  cases result with
  | void unit =>
      rw [unit]
      exact .nil
  | position notUnit notReference ok =>
      simp only [notUnit, ReturnSlot.isVoid]
      exact .cons (.of_resolve ok) .nil

namespace Resolver

/-- In every accepted class the slots follow the declared positions, and the size of a block
is the sum of its slots. A position that is passed by value under no name of its own has the
size of the type whose native name it gets exactly when its path is not shadowed; else the
size of the primitive that the path spells is counted. -/
theorem slot_sizes_iff {resolver : Resolver} {decl : ExportDecl} {cls : ExportedClass}
    (ok : (resolver.resolve decl).1 = .ok cls) :
    List.Forall₂ (fun declared method =>
        List.Forall₂ (SlotOf resolver.types) declared.positions (method.slotPositions true) ∧
        method.blockSize
          = ((method.slotPositions resolver.countsReturn).map SlotPosition.size).sum)
      decl.methods cls.methods :=
  (resolveExport_ok (resolve_ok ok)).methods.imp fun _ _ resolved =>
    ⟨resolved.slotsOf, resolved.blockSize_eq_sum⟩

/-- The slots of methods that pass primitives and registered types by value. -/
theorem slot_sizes_iff_sharedName :
    ∃ (resolver : Resolver) (cls : ExportedClass),
      (TypeTable.ofTypes ⟨8, 4⟩ sharedNameDeclarations.blittables).build = .ok resolver.types ∧
      (resolver.resolve (sharedNameDeclarations.exports[0])).1 = .ok cls ∧
      cls.methods.map ExportedMethod.blockSize = [12, 21] ∧
      List.Forall₂ (fun declared method =>
          List.Forall₂ (SlotOf resolver.types) declared.positions (method.slotPositions true) ∧
          method.blockSize
            = ((method.slotPositions resolver.countsReturn).map SlotPosition.size).sum)
        (sharedNameDeclarations.exports[0]).methods cls.methods := by
  have computed : (TypeTable.ofTypes ⟨8, 4⟩
      sharedNameDeclarations.blittables).build.toOption.map (fun map =>
        ((start map true).resolve (sharedNameDeclarations.exports[0])).1.toOption.map
          fun cls => cls.methods.map ExportedMethod.blockSize)
      = some (some [12, 21]) := by
    decide +kernel
  obtain ⟨map, built, resolves⟩ := exists_ok_of_computed computed
  obtain ⟨cls, accepted, sizes⟩ := exists_ok_of_computed resolves
  exact ⟨start map true, cls, built, accepted, sizes, slot_sizes_iff accepted⟩

/-- A type of eight bytes that is spelled like a primitive of four. -/
def wideTypes : List Blittable :=
  [⟨"i32", "interop", "retro::Wide", none,
    .record [⟨"low", .path "u32", .synthetic⟩, ⟨"high", .path "u32", .synthetic⟩], .synthetic⟩]

/-- An export that passes the spelling by value. -/
def counterExport : ExportDecl :=
  ⟨"Counter", "interop", none, .class, none,
    [⟨"push", [⟨"step", .path "i32", none, .synthetic⟩], .unit, none, .synthetic⟩], .synthetic⟩

/-- The slot has the name of the type, but the size of the primitive. -/
theorem slot_size_differs :
    ∃ (resolver : Resolver) (cls : ExportedClass) (method : ExportedMethod)
      (slot : SlotPosition) (source : NativeSource),
      (TypeTable.ofTypes ⟨8, 4⟩ wideTypes).build = .ok resolver.types ∧
      (resolver.resolve counterExport).1 = .ok cls ∧
      cls.methods = [method] ∧ method.slotPositions true = [slot] ∧
      slot.managed = .path "i32" ∧
      resolver.types.nativeSource? "i32" = some source ∧
      slot.native = .make source.nativeName .value false ∧
      source.nativeName = "retro::Wide" ∧ source.size? resolver.types = some 8 ∧
      slot.size = 4 ∧ method.blockSize = 4 := by
  have computed : (TypeTable.ofTypes ⟨8, 4⟩ wideTypes).build.toOption.map (fun map =>
        ((map.nativeSource? "i32").map fun source => (source.nativeName, source.size? map),
          ((start map false).resolve counterExport).1.toOption.map fun cls =>
            cls.methods.map ExportedMethod.blockSize))
      = some (some ("retro::Wide", some 8), some [4]) := by
    decide +kernel
  obtain ⟨map, built, values⟩ := exists_ok_of_computed computed
  obtain ⟨named, resolves⟩ := Prod.mk.inj values
  obtain ⟨wide, isWide, wideIs⟩ := Option.map_eq_some_iff.mp named
  obtain ⟨wideName, wideSize⟩ := Prod.mk.inj wideIs
  obtain ⟨cls, accepted, sizes⟩ := exists_ok_of_computed resolves
  obtain ⟨method, _, resolved, none, isMethod⟩ := List.forall₂_cons_left_iff.mp
    (resolveExport_ok (resolve_ok accepted)).methods
  cases none
  obtain ⟨slot, _, slotOf, none, isSlot⟩ := List.forall₂_cons_left_iff.mp resolved.slotsOf
  cases none
  obtain ⟨size, source, isSource, native, -⟩ := slotOf.byValue "i32" rfl rfl
  cases isSource.symm.trans isWide
  rw [isMethod] at sizes
  exact ⟨start map false, cls, method, slot, wide, built, accepted, isMethod, isSlot,
    slotOf.managed, isSource, native, wideName, wideSize, size, (List.cons.inj sizes).1⟩

end Resolver

end NativeBridge

import NativeBridge.Export.Resolution

/-!
# When a position resolves

A position resolves when it reaches a named type with one indirection at most,
when that type has a native name and when its slot has a size. These are three
separate questions; `Position.resolve_eq_ok_iff` answers the whole by them.
-/

namespace NativeBridge

/-- A reference or a pointer through which the target may be changed. -/
def ManagedType.isWritable : ManagedType → Bool
  | ref mutable _ | ptr mutable _ => mutable
  | _ => false

namespace Position

/-- The native base name of a reached type, the modules that it needs and the
registered type that it uses. The untyped target has a name behind pointers only. -/
def named? (types : TypeMap) (override : NativeOverride) (target : ManagedType)
    (passing : Passing) : Option (String × List String × Option String) :=
  if target.isUntyped then
    if passing = .pointer then
      some (override.name.getD "void", override.module.toList, none)
    else none
  else
    (base? types override target).map fun (base, module, usedType) =>
      (base, override.module.toList ++ module.toList, usedType)

/-- The size of the slot of a reached type. -/
def slotSize? (types : TypeMap) (target : ManagedType) : Passing → Option Nat
  | .value => (types.layoutOfType? target).map Layout.size
  | .reference | .pointer => some types.target.pointerSize

/-- A position resolves exactly when its type is reached, named and sized. -/
theorem resolve_eq_ok_iff {types : TypeMap} {type : ManagedType}
    {declared : Option NativeOverride} {context : String} {location : Location}
    {position : Position} :
    resolve types type declared context location = .ok position ↔
      ∃ target passing isConst base imports usedType size,
        reach (declared.getD .none) type = some (target, passing, isConst) ∧
        target.isPath = true ∧
        named? types (declared.getD .none) target passing = some (base, imports, usedType) ∧
        slotSize? types target passing = some size ∧
        position = ⟨NativeType.make base passing.indirection isConst, passing, size, imports,
          usedType⟩ := by
  constructor
  · intro ok
    unfold resolve at ok
    cases reached : reach (declared.getD .none) type with
    | none => simp [reached] at ok
    | some goal =>
        obtain ⟨target, passing, isConst⟩ := goal
        cases path : target.isPath with
        | false => simp [reached, path] at ok
        | true =>
            cases untyped : target.isUntyped with
            | true =>
                cases passing with
                | value => simp [reached, path, untyped] at ok
                | reference => simp [reached, path, untyped] at ok
                | pointer =>
                    simp [reached, path, untyped] at ok
                    have named : named? types (declared.getD .none) target .pointer
                        = some ((declared.getD .none).name.getD "void",
                          (declared.getD .none).module.toList, none) := by
                      simp [named?, untyped]
                    exact ⟨target, _, isConst, _, _, _, _, rfl, path, named, rfl, ok.symm⟩
            | false =>
                cases foundBase : base? types (declared.getD .none) target with
                | none => simp [reached, path, untyped, foundBase] at ok
                | some found =>
                    obtain ⟨base, module, usedType⟩ := found
                    have named : named? types (declared.getD .none) target passing
                        = some (base, (declared.getD .none).module.toList ++ module.toList,
                          usedType) := by
                      simp [named?, untyped, foundBase]
                    cases passing with
                    | value =>
                        cases sized : types.layoutOfType? target with
                        | none => simp [reached, path, untyped, foundBase, sized] at ok
                        | some layout =>
                            simp [reached, path, untyped, foundBase, sized] at ok
                            have slot : slotSize? types target .value = some layout.size := by
                              simp [slotSize?, sized]
                            exact ⟨target, _, isConst, _, _, _, _, rfl, path, named, slot, ok.symm⟩
                    | reference =>
                        simp [reached, path, untyped, foundBase] at ok
                        exact ⟨target, _, isConst, _, _, _, _, rfl, path, named, rfl, ok.symm⟩
                    | pointer =>
                        simp [reached, path, untyped, foundBase] at ok
                        exact ⟨target, _, isConst, _, _, _, _, rfl, path, named, rfl, ok.symm⟩
  · rintro ⟨target, passing, isConst, base, imports, usedType, size, reached, path, named, sized,
      rfl⟩
    unfold resolve
    simp only [reached, path]
    unfold named? at named
    split at named
    · rename_i untyped
      split at named
      · rename_i behind
        subst behind
        cases named
        cases sized
        simp [untyped]
      · cases named
    · rename_i typed
      obtain ⟨found, foundBase, made⟩ := Option.map_eq_some_iff.mp named
      obtain ⟨_, module, _⟩ := found
      cases made
      cases passing with
      | value =>
          obtain ⟨layout, found, rfl⟩ := Option.map_eq_some_iff.mp sized
          simp [typed, foundBase, found]
      | reference => cases sized; simp [typed, foundBase]
      | pointer => cases sized; simp [typed, foundBase]

/-- A reached type by value is the type itself, and any other is behind one indirection. -/
theorem isIndirect_of_reach {override : NativeOverride} {type target : ManagedType}
    {passing : Passing} {isConst : Bool}
    (reached : reach override type = some (target, passing, isConst)) :
    (passing = .value ∧ target = type ∧ type.isIndirect = false) ∨
      (passing ≠ .value ∧ type.isIndirect = true) := by
  cases type with
  | unit => simp [reach] at reached
  | path path =>
      cases reached
      exact .inl ⟨rfl, rfl, rfl⟩
  | ref mutable inner =>
      cases reached
      exact .inr ⟨Passing.noConfusion, rfl⟩
  | ptr mutable inner =>
      simp only [reach, Option.some.injEq, Prod.mk.injEq] at reached
      obtain ⟨-, rfl, -⟩ := reached
      refine .inr ⟨?_, rfl⟩
      split <;> exact Passing.noConfusion

variable {types : TypeMap} {type : ManagedType} {declared : Option NativeOverride}
  {context : String} {location : Location} {position : Position}

/-- Exactly the references and the pointers are not passed by value. -/
theorem passing_eq_value_iff
    (ok : resolve types type declared context location = .ok position) :
    position.passing = .value ↔ type.isIndirect = false := by
  obtain ⟨target, passing, isConst, base, imports, usedType, size, reached, -, -, -, rfl⟩ :=
    resolve_eq_ok_iff.mp ok
  rcases isIndirect_of_reach reached with ⟨byValue, -, direct⟩ | ⟨notValue, indirect⟩
  · simp [byValue, direct]
  · simp [notValue, indirect]

/-- The native side of a position is indirect exactly when the managed side is. -/
theorem isIndirect_native
    (ok : resolve types type declared context location = .ok position) :
    position.native.isIndirect = type.isIndirect := by
  obtain ⟨target, passing, isConst, base, imports, usedType, size, reached, -, -, -, rfl⟩ :=
    resolve_eq_ok_iff.mp ok
  rcases isIndirect_of_reach reached with ⟨rfl, -, direct⟩ | ⟨notValue, indirect⟩
  · rw [direct]
    rfl
  · rw [indirect]
    cases passing with
    | value => exact absurd rfl notValue
    | reference => rfl
    | pointer => rfl

/-- A native side through which the value may be changed stands for a managed side that
allows it. -/
theorem isWritable_of_resolve
    (ok : resolve types type declared context location = .ok position)
    (indirect : position.native.isIndirect = true)
    (mutable : position.native.isConst = false) : type.isWritable = true := by
  have behind := isIndirect_native ok
  rw [indirect] at behind
  obtain ⟨target, passing, isConst, base, imports, usedType, size, reached, -, -, -, rfl⟩ :=
    resolve_eq_ok_iff.mp ok
  have reachesMutable : isConst = false := by
    have direct : (passing.indirection != .value) = true := indirect
    simpa [NativeType.make, direct] using mutable
  cases type with
  | unit => cases behind
  | path path => cases behind
  | ref mutable inner =>
      simp only [reach, Option.some.injEq, Prod.mk.injEq] at reached
      have allowed := (Bool.or_eq_false_iff.mp (reached.2.2.trans reachesMutable)).1
      simpa [ManagedType.isWritable] using allowed
  | ptr mutable inner =>
      simp only [reach, Option.some.injEq, Prod.mk.injEq] at reached
      have allowed := (Bool.or_eq_false_iff.mp (reached.2.2.trans reachesMutable)).1
      simpa [ManagedType.isWritable] using allowed

/-- What is passed by value is a named type that has a layout. -/
theorem path_of_resolve
    (ok : resolve types type declared context location = .ok position)
    (direct : type.isIndirect = false) :
    ∃ path, type = .path path ∧ type.isUntyped = false ∧
      (types.layoutOfType? type).isSome = true := by
  obtain ⟨target, passing, isConst, base, imports, usedType, size, reached, isPath, named,
    sized, rfl⟩ := resolve_eq_ok_iff.mp ok
  rcases isIndirect_of_reach reached with ⟨rfl, rfl, -⟩ | ⟨-, indirect⟩
  · cases target with
    | path path =>
        refine ⟨path, rfl, ?_, ?_⟩
        · cases untyped : (ManagedType.path path).isUntyped with
          | false => rfl
          | true => simp [named?, untyped] at named
        · obtain ⟨layout, laidOut, -⟩ := Option.map_eq_some_iff.mp sized
          rw [laidOut]
          rfl
    | unit => cases isPath
    | ref mutable inner => cases isPath
    | ptr mutable inner => cases isPath
  · rw [direct] at indirect
    cases indirect

/-- The slot of a position has the size that the type map gives to its managed type. -/
theorem layoutOfType?_of_resolve
    (ok : resolve types type declared context location = .ok position) :
    ∃ layout, types.layoutOfType? type = some layout ∧ layout.size = position.size := by
  obtain ⟨target, passing, isConst, base, imports, usedType, size, reached, -, -, sized, rfl⟩ :=
    resolve_eq_ok_iff.mp ok
  rcases isIndirect_of_reach reached with ⟨rfl, rfl, -⟩ | ⟨notValue, indirect⟩
  · exact Option.map_eq_some_iff.mp sized
  · have pointerSized : size = types.target.pointerSize := by
      cases passing with
      | value => exact absurd rfl notValue
      | reference => exact (Option.some.inj sized).symm
      | pointer => exact (Option.some.inj sized).symm
    cases type with
    | unit => cases indirect
    | path path => cases indirect
    | ref mutable inner => exact ⟨.pointer types.target, rfl, pointerSized.symm⟩
    | ptr mutable inner => exact ⟨.pointer types.target, rfl, pointerSized.symm⟩

end Position

end NativeBridge

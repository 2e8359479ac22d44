import NativeBridge.Proofs.Generation.Run

/-!
# Sizes of parameter blocks

The size of a parameter block is found three times: as a number when a method is
resolved, and as a sum of terms in the managed stub and in the registration
unit. `block_sizes_agree` says that the three go by the same positions: term by
term both sums hold a pointer or the value of one position, and the managed sum
comes to the number.
-/

namespace NativeBridge

/-- A position that takes a slot: its type on both sides and the size of the slot. -/
structure SlotPosition where
  managed : ManagedType
  native : NativeType
  size : Nat

/-- The positions of a method that take a slot of its parameter block, in order. -/
def ExportedMethod.slotPositions (method : ExportedMethod) (countsReturn : Bool) :
    List SlotPosition :=
  (method.params.map fun param => ⟨param.managed, param.native, param.size⟩)
    ++ if countsReturn && !method.result.isVoid then
        [⟨method.result.managed, method.result.native, method.result.size⟩]
      else []

/-- The declared types that take a slot, in order. -/
def MethodDecl.slotTypes (decl : MethodDecl) (countsReturn : Bool) : List ManagedType :=
  decl.params.map ParamDecl.type
    ++ if countsReturn && !decl.result.isUnit then [decl.result] else []

/-- A declared type and the position that it resolves to. -/
structure SlotResolves (types : TypeMap) (type : ManagedType) (position : SlotPosition) :
    Prop where
  managed : position.managed = type
  native : position.native.isIndirect = type.isIndirect
  size : ∃ layout, types.layoutOfType? type = some layout ∧ layout.size = position.size

/-- What a position resolves to takes a slot of its size. -/
theorem SlotResolves.of_resolve {types : TypeMap} {type : ManagedType}
    {declared : Option NativeOverride} {context : String} {location : Location}
    {position : Position}
    (ok : Position.resolve types type declared context location = .ok position) :
    SlotResolves types type ⟨type, position.native, position.size⟩ where
  managed := rfl
  native := Position.isIndirect_native ok
  size := Position.layoutOfType?_of_resolve ok

/-- A return is void on both sides, or a position that its declared type resolves to. -/
theorem ReturnResolves.slot {types : TypeMap} {decl : MethodDecl} {slot : ReturnSlot}
    (resolved : ReturnResolves types decl slot) :
    (decl.result.isUnit = true ∧ slot = .void) ∨
      (decl.result.isUnit = false ∧ slot.isVoid = false ∧
        SlotResolves types decl.result ⟨slot.managed, slot.native, slot.size⟩) := by
  cases resolved with
  | void unit =>
      rw [unit]
      exact .inl ⟨rfl, rfl⟩
  | position notUnit notReference ok => exact .inr ⟨notUnit, notUnit, .of_resolve ok⟩

/-- The positions of a method are those of its declaration, one for one. -/
theorem MethodResolves.slotPositions {types : TypeMap} {countsReturn : Bool}
    {decl : MethodDecl} {method : ExportedMethod}
    (resolved : MethodResolves types countsReturn decl method) :
    List.Forall₂ (SlotResolves types) (decl.slotTypes countsReturn)
      (method.slotPositions countsReturn) := by
  have params : List.Forall₂ (SlotResolves types) (decl.params.map ParamDecl.type)
      (method.params.map fun param => ⟨param.managed, param.native, param.size⟩) := by
    rw [List.forall₂_map_left_iff, List.forall₂_map_right_iff]
    refine resolved.params.imp fun declared param same => ?_
    obtain ⟨-, context, position, ok, rfl⟩ := same
    exact .of_resolve ok
  refine List.rel_append params ?_
  cases countsReturn with
  | false => exact .nil
  | true =>
      rcases resolved.result.slot with ⟨unit, void⟩ | ⟨notUnit, notVoid, slot⟩
      · rw [unit, void]
        exact .nil
      · simp only [notUnit, notVoid, Bool.not_false, Bool.and_self, if_true]
        exact .cons slot .nil

/-- The size of a block is the size of its slots. -/
theorem MethodResolves.blockSize_eq_sum {types : TypeMap} {countsReturn : Bool}
    {decl : MethodDecl} {method : ExportedMethod}
    (resolved : MethodResolves types countsReturn decl method) :
    method.blockSize = ((method.slotPositions countsReturn).map SlotPosition.size).sum := by
  have params : method.params.map Parameter.size = (method.params.map fun param =>
      (⟨param.managed, param.native, param.size⟩ : SlotPosition)).map SlotPosition.size := by
    simp [Function.comp_def]
  rw [resolved.blockSize, ExportedMethod.slotPositions, List.map_append, List.sum_append,
    params]
  congr 1
  cases countsReturn with
  | false => rfl
  | true =>
      rcases resolved.result.slot with ⟨-, void⟩ | ⟨-, notVoid, -⟩
      · rw [void]
        rfl
      · simp [notVoid]

namespace Stub

/-- The slot of a position that is named on one side: a pointer for references and
pointers, else the named value. -/
def SlotTerm.ofPosition (typeName : SlotPosition → String) (position : SlotPosition) :
    SlotTerm :=
  if position.managed.isIndirect then .pointer else .value (typeName position)

/-- The bytes that a term of a managed sum stands for, when it is read for a position:
a pointer has the configured width, a value the layout of the position. -/
def SlotTerm.bytes? (config : Config) (types : TypeMap) (position : SlotPosition) :
    SlotTerm → Option Nat
  | .pointer => some config.pointerWidth
  | .value _ => (types.layoutOfType? position.managed).map Layout.size

/-- The bytes that a managed sum comes to, read term by term. -/
def sumBytes? (config : Config) (types : TypeMap) (positions : List SlotPosition)
    (slots : List SlotTerm) : Option Nat :=
  ((positions.zip slots).mapM fun (position, slot) =>
    SlotTerm.bytes? config types position slot).map List.sum

/-- The three ways to find the size of the parameter block of a method agree. -/
structure BlockSizesAgree (config : Config) (types : TypeMap) (cls : ExportedClass)
    (decl : MethodDecl) (method : ExportedMethod) : Prop where
  /-- The number is the sum of the layouts of the declared types. -/
  declared : ∃ layouts : List Layout,
    (decl.slotTypes config.includeReturnSlot).map types.layoutOfType? = layouts.map some ∧
      method.blockSize = (layouts.map Layout.size).sum
  /-- The positions of the method are those of the declaration. -/
  positions : (method.slotPositions config.includeReturnSlot).map SlotPosition.managed
    = decl.slotTypes config.includeReturnSlot
  /-- The managed sum has one term for each position. -/
  managed : ManagedContext.slots ⟨types, config⟩ cls method
    = (method.slotPositions config.includeReturnSlot).map
      (SlotTerm.ofPosition fun position => ManagedContext.typeText ⟨types, config⟩ cls
        position.managed)
  /-- The native sum has one term for each position. -/
  native : registrationSlots config method
    = (method.slotPositions config.includeReturnSlot).map
      (SlotTerm.ofPosition fun position => relativeTo position.native.base
        config.generatedNamespace)
  /-- The managed sum comes to the number. -/
  value : sumBytes? config types (method.slotPositions config.includeReturnSlot)
    (ManagedContext.slots ⟨types, config⟩ cls method) = some method.blockSize
  /-- A block without slots has size zero, and both sums say so. -/
  zero : method.slotPositions config.includeReturnSlot = [] → method.blockSize = 0 ∧
    sumText managedSizeText (ManagedContext.slots ⟨types, config⟩ cls method) = "0" ∧
    sumText nativeSizeText (registrationSlots config method) = "0"

/-- How a parameter is handed over and whether its type is indirect give the same slot. -/
theorem SlotTerm.ofPassing_eq_ofPosition {types : TypeMap} {decl : ParamDecl}
    {param : Parameter} (resolved : ParamResolves types decl param)
    (typeName : SlotPosition → String) :
    SlotTerm.ofPassing param.passing (typeName ⟨param.managed, param.native, param.size⟩)
      = SlotTerm.ofPosition typeName ⟨param.managed, param.native, param.size⟩ := by
  obtain ⟨-, context, position, ok, rfl⟩ := resolved
  have byValue := Position.passing_eq_value_iff ok
  change SlotTerm.ofPassing position.passing _ = if decl.type.isIndirect then _ else _
  cases indirect : decl.type.isIndirect with
  | false =>
      rw [byValue.mpr indirect]
      rfl
  | true =>
      rw [indirect] at byValue
      cases passing : position.passing with
      | value => exact absurd (byValue.mp passing) Bool.noConfusion
      | reference => rfl
      | pointer => rfl

/-- Terms by parameter, with a term for a counted return, are the terms by position. -/
theorem terms_eq_map_ofPosition {types : TypeMap} {config : Config} {decl : MethodDecl}
    {method : ExportedMethod}
    (resolved : MethodResolves types config.includeReturnSlot decl method)
    (typeName : SlotPosition → String) {result : SlotTerm}
    (sameResult : method.result.isVoid = false → result = SlotTerm.ofPosition typeName
      ⟨method.result.managed, method.result.native, method.result.size⟩) :
    (if countsReturn config method then
        (method.params.map fun param => SlotTerm.ofPassing param.passing
          (typeName ⟨param.managed, param.native, param.size⟩)) ++ [result]
      else method.params.map fun param => SlotTerm.ofPassing param.passing
        (typeName ⟨param.managed, param.native, param.size⟩))
      = (method.slotPositions config.includeReturnSlot).map
        (SlotTerm.ofPosition typeName) := by
  have params : (method.params.map fun param => SlotTerm.ofPassing param.passing
      (typeName ⟨param.managed, param.native, param.size⟩))
      = method.params.map fun param =>
        SlotTerm.ofPosition typeName ⟨param.managed, param.native, param.size⟩ := by
    refine List.map_congr_left fun param isParam => ?_
    obtain ⟨declared, -, same⟩ := exists_of_forall₂ resolved.params isParam
    exact SlotTerm.ofPassing_eq_ofPosition same typeName
  rw [params, ExportedMethod.slotPositions, countsReturn]
  split
  · rename_i counted
    have returned : method.result.isVoid = false := by
      simpa using (Bool.and_eq_true_iff.mp counted).2
    simp [sameResult returned, Function.comp_def]
  · simp [Function.comp_def]

/-- A return that is not void has the same indirection on both sides. -/
theorem isIndirect_result {types : TypeMap} {countsReturn : Bool} {decl : MethodDecl}
    {method : ExportedMethod} (resolved : MethodResolves types countsReturn decl method)
    (returned : method.result.isVoid = false) :
    method.result.native.isIndirect = method.result.managed.isIndirect := by
  rcases resolved.result.slot with ⟨-, void⟩ | ⟨-, -, slot⟩
  · rw [void] at returned
    cases returned
  · exact slot.native.trans (congrArg ManagedType.isIndirect slot.managed.symm)

/-- The term of a position in a managed sum stands for the size of its slot. -/
theorem SlotTerm.bytes?_ofPosition {config : Config} {types : TypeMap}
    (sameTarget : types.target = config.target) {type : ManagedType}
    {position : SlotPosition} (resolved : SlotResolves types type position)
    (typeName : SlotPosition → String) :
    SlotTerm.bytes? config types position (SlotTerm.ofPosition typeName position)
      = some position.size := by
  obtain ⟨layout, laidOut, sized⟩ := resolved.size
  rw [← resolved.managed] at laidOut
  simp only [ofPosition]
  split
  · rename_i indirect
    have pointer : layout = .pointer types.target := by
      cases managed : position.managed with
      | unit => simp [managed, ManagedType.isIndirect] at indirect
      | path path => simp [managed, ManagedType.isIndirect] at indirect
      | ref mutable target =>
          rw [managed] at laidOut
          exact (Option.some.inj laidOut).symm
      | ptr mutable target =>
          rw [managed] at laidOut
          exact (Option.some.inj laidOut).symm
    rw [← sized, pointer, sameTarget]
    rfl
  · simp [bytes?, laidOut, sized]

/-- Terms by position come to the sizes of the positions. -/
theorem sumBytes?_ofPosition {config : Config} {types : TypeMap}
    (sameTarget : types.target = config.target) {declared : List ManagedType}
    {positions : List SlotPosition}
    (resolved : List.Forall₂ (SlotResolves types) declared positions)
    (typeName : SlotPosition → String) :
    sumBytes? config types positions (positions.map (SlotTerm.ofPosition typeName))
      = some (positions.map SlotPosition.size).sum := by
  induction resolved with
  | nil => rfl
  | cons first _ ih =>
      obtain ⟨sizes, rest, same⟩ := Option.map_eq_some_iff.mp ih
      simp [sumBytes?, SlotTerm.bytes?_ofPosition sameTarget first, rest, same]

/-- Resolved slots have layouts, and the layouts have the sizes of the slots. -/
theorem layouts_of_slots {types : TypeMap} {declared : List ManagedType}
    {positions : List SlotPosition}
    (resolved : List.Forall₂ (SlotResolves types) declared positions) :
    ∃ layouts : List Layout, declared.map types.layoutOfType? = layouts.map some ∧
      layouts.map Layout.size = positions.map SlotPosition.size := by
  induction resolved with
  | nil => exact ⟨[], rfl, rfl⟩
  | cons first _ ih =>
      obtain ⟨layout, laidOut, sized⟩ := first.size
      obtain ⟨layouts, rest, sizes⟩ := ih
      exact ⟨layout :: layouts, by simp [laidOut, rest], by simp [sized, sizes]⟩

/-- The block sizes of a resolved method agree. -/
theorem blockSizesAgree_of_resolves {config : Config} {types : TypeMap}
    (sameTarget : types.target = config.target) (cls : ExportedClass) {decl : MethodDecl}
    {method : ExportedMethod}
    (resolved : MethodResolves types config.includeReturnSlot decl method) :
    BlockSizesAgree config types cls decl method := by
  have slots := resolved.slotPositions
  have size := resolved.blockSize_eq_sum
  have managed : ManagedContext.slots ⟨types, config⟩ cls method
      = (method.slotPositions config.includeReturnSlot).map
        (SlotTerm.ofPosition fun position => ManagedContext.typeText ⟨types, config⟩ cls
          position.managed) := by
    refine terms_eq_map_ofPosition resolved
      (fun position : SlotPosition => ManagedContext.typeText ⟨types, config⟩ cls
        position.managed) fun _ => ?_
    simp only [SlotTerm.ofPosition]
    split <;> rfl
  have native : registrationSlots config method
      = (method.slotPositions config.includeReturnSlot).map
        (SlotTerm.ofPosition fun position => relativeTo position.native.base
          config.generatedNamespace) := by
    refine terms_eq_map_ofPosition resolved
      (fun position : SlotPosition => relativeTo position.native.base
        config.generatedNamespace) fun returned => ?_
    rw [SlotTerm.ofPosition, isIndirect_result resolved returned]
    split <;> rfl
  obtain ⟨layouts, laidOut, sizes⟩ := layouts_of_slots slots
  refine
    { declared := ⟨layouts, laidOut, by rw [size, sizes]⟩
      positions := ?_
      managed := managed
      native := native
      value := by rw [managed, size, sumBytes?_ofPosition sameTarget slots]
      zero := fun empty => ?_ }
  · have same := slots.imp fun type position slot => slot.managed.symm
    rw [← List.forall₂_map_right_iff, List.forall₂_eq_eq_eq] at same
    exact same.symm
  · rw [managed, native, size, empty]
    exact ⟨rfl, rfl, rfl⟩

end Stub

end NativeBridge

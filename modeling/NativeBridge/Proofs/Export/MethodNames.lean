import NativeBridge.Proofs.Export.Batch
import NativeBridge.Proofs.Naming.Idiomatic
import NativeBridge.Proofs.Stub.Members

/-!
# Repeated methods

Methods are told apart by their pascal case, which forgets underscores and the case of the
letters behind them. `duplicateMethod_mem_faults_iff` says of which methods of a declaration the
resolver reports this. Among idiomatic names pascal case, snake case and upper case tell apart
what is different, so that only a method that is really there twice is reported, and accepted
methods have different names wherever one of the three is used.
-/

namespace NativeBridge

section Faults

variable {types : TypeMap} {countsReturn : Bool} {className owner name : String} {place : Location}

/-- No position is a repeated method. -/
theorem Position.resolve_ne_duplicateMethod {type : ManagedType} {declared : Option NativeOverride}
    {context : String} {location : Location} :
    Position.resolve types type declared context location
      ≠ .error (.duplicateMethod owner name place) := by
  intro failed
  simp only [Position.resolve] at failed
  split at failed
  · cases failed
  · split at failed
    · cases failed
    · split at failed
      -- Untyped and typed targets may lack a name, and values a layout.
      all_goals
        split at failed
        · cases failed
        · split at failed
          · split at failed
            · cases failed
            · cases failed
          · cases failed
          · cases failed

/-- No parameter is. -/
theorem resolveParam_ne_duplicateMethod {method : String} {seen : List String} {decl : ParamDecl} :
    resolveParam types className method seen decl
      ≠ .error (.duplicateMethod owner name place) := by
  simp only [resolveParam]
  split
  · simp
  · split
    · simp
    · exact Position.resolve_ne_duplicateMethod

theorem duplicateMethod_notMem_resolveParams {method : String} {seen : List String}
    {decls : List ParamDecl} :
    .duplicateMethod owner name place ∉ (resolveParams types className method seen decls).2.2 := by
  induction decls generalizing seen with
  | nil => exact List.not_mem_nil
  | cons decl rest ih =>
      rw [resolveParams_cons]
      cases own : resolveParam types className method seen decl with
      | ok position => exact ih
      | error fault =>
          rw [List.mem_cons, not_or]
          exact ⟨fun same => resolveParam_ne_duplicateMethod (same ▸ own), ih⟩

/-- No return is. -/
theorem resolveReturn_ne_duplicateMethod {decl : MethodDecl} :
    resolveReturn types className decl ≠ .error (.duplicateMethod owner name place) := by
  intro failed
  simp only [resolveReturn] at failed
  split at failed
  · cases failed
  · cases failed
  all_goals
    split at failed
    · rename_i unresolved
      cases failed
      exact Position.resolve_ne_duplicateMethod unresolved
    · cases failed

/-- A method by itself is none. -/
theorem duplicateMethod_notMem_resolveMethod {decl : MethodDecl} :
    .duplicateMethod owner name place
      ∉ faultsOf (resolveMethod types countsReturn className decl) := by
  have params : .duplicateMethod owner name place
      ∉ (resolveParams types className decl.name [] decl.params).2.2 :=
    duplicateMethod_notMem_resolveParams
  unfold resolveMethod
  rcases resolved : resolveParams types className decl.name [] decl.params with
    ⟨positions, uses, faults⟩
  rw [resolved] at params
  cases result : resolveReturn types className decl with
  | error fault =>
      simp only [faultsOf, List.mem_append, List.mem_singleton, not_or]
      exact ⟨params, fun same => resolveReturn_ne_duplicateMethod (same ▸ result)⟩
  | ok slot =>
      cases faults with
      | nil => exact List.not_mem_nil
      | cons fault faults => exact params

/-- The next method is one if it is not reserved and its exported name is taken. -/
theorem duplicateMethod_mem_resolveNextMethod_iff {seen : List String} {decl : MethodDecl} :
    .duplicateMethod owner name place
        ∈ faultsOf (resolveNextMethod types countsReturn className seen decl) ↔
      (owner = className ∧ name = decl.name ∧ place = decl.location) ∧
        decl.name ∉ reservedMethodNames ∧ Naming.pascalCase decl.name ∈ seen := by
  rw [resolveNextMethod]
  by_cases reserved : decl.name ∈ reservedMethodNames
  · simp [reserved, faultsOf]
  · by_cases taken : Naming.pascalCase decl.name ∈ seen
    · simp [reserved, taken, faultsOf]
    · simp [reserved, taken, duplicateMethod_notMem_resolveMethod]

/-- The faults of methods are those of the first and then those of the others. -/
theorem faults_resolveMethods_cons {seen : List String} {decl : MethodDecl}
    {rest : List MethodDecl} :
    (resolveMethods types countsReturn className seen (decl :: rest)).2.2
      = faultsOf (resolveNextMethod types countsReturn className seen decl)
        ++ (resolveMethods types countsReturn className (seenAfter seen decl) rest).2.2 := by
  rw [resolveMethods_cons]
  cases resolveNextMethod types countsReturn className seen decl <;> rfl

/-- A method takes its exported name unless it is reserved. -/
theorem mem_seenAfter_iff {seen : List String} {decl : MethodDecl} {exported : String} :
    exported ∈ seenAfter seen decl ↔
      exported ∈ seen ∨
        decl.name ∉ reservedMethodNames ∧ exported = Naming.pascalCase decl.name := by
  by_cases reserved : decl.name ∈ reservedMethodNames
  · simp [seenAfter, reserved]
  · by_cases taken : Naming.pascalCase decl.name ∈ seen
    · have known : exported = Naming.pascalCase decl.name → exported ∈ seen :=
        fun same => same ▸ taken
      simpa [seenAfter, reserved, taken] using known
    · simp [seenAfter, reserved, taken, or_comm]

/-- After some methods the exported names of those are taken that are not reserved. -/
theorem mem_foldl_seenAfter_iff {seen : List String} {before : List MethodDecl}
    {exported : String} :
    exported ∈ before.foldl seenAfter seen ↔
      exported ∈ seen ∨ ∃ earlier ∈ before,
        earlier.name ∉ reservedMethodNames ∧ exported = Naming.pascalCase earlier.name := by
  induction before generalizing seen with
  | nil => simp
  | cons decl rest ih =>
      rw [List.foldl_cons, ih, mem_seenAfter_iff, List.exists_mem_cons_iff, or_assoc]

/-- Reported are the methods that are not reserved and whose exported name the ones before have
taken. -/
theorem duplicateMethod_mem_resolveMethods_iff {seen : List String} {decls : List MethodDecl} :
    .duplicateMethod owner name place
        ∈ (resolveMethods types countsReturn className seen decls).2.2 ↔
      ∃ before method after, decls = before ++ method :: after ∧
        (owner = className ∧ name = method.name ∧ place = method.location) ∧
        method.name ∉ reservedMethodNames ∧
        Naming.pascalCase method.name ∈ before.foldl seenAfter seen := by
  induction decls generalizing seen with
  | nil => simp [resolveMethods]
  | cons decl rest ih =>
      rw [faults_resolveMethods_cons, List.mem_append, duplicateMethod_mem_resolveNextMethod_iff,
        ih]
      constructor
      · rintro (first | ⟨before, method, after, rfl, reported⟩)
        · exact ⟨[], decl, rest, rfl, first⟩
        · exact ⟨decl :: before, method, after, rfl, reported⟩
      · rintro ⟨before, method, after, same, reported⟩
        cases before with
        | nil =>
            obtain ⟨rfl, rfl⟩ := List.cons.inj same
            exact .inl reported
        | cons first before =>
            obtain ⟨rfl, rfl⟩ := List.cons.inj same
            exact .inr ⟨before, method, after, rfl, reported⟩

/-- No subject is a repeated method. -/
theorem duplicateMethod_notMem_resolveSubject {decl : ExportDecl} :
    .duplicateMethod owner name place ∉ (resolveSubject types decl).2.2 := by
  unfold resolveSubject
  split
  · exact List.not_mem_nil
  · split
    · exact List.not_mem_nil
    · simp

/-- The repeated methods of an export are those among its methods. -/
theorem duplicateMethod_mem_resolveExport_iff {decl : ExportDecl} :
    .duplicateMethod owner name place ∈ faultsOf (resolveExport types countsReturn decl) ↔
      .duplicateMethod owner name place
        ∈ (resolveMethods types countsReturn decl.name [] decl.methods).2.2 := by
  have subject : .duplicateMethod owner name place ∉ (resolveSubject types decl).2.2 :=
    duplicateMethod_notMem_resolveSubject
  unfold resolveExport
  rcases resolved : resolveSubject types decl with ⟨mapped, uses, faults⟩
  rw [resolved] at subject
  rcases resolveMethods types countsReturn decl.name [] decl.methods with
    ⟨methods, methodUses, methodFaults⟩
  have found : .duplicateMethod owner name place ∈ faults ++ methodFaults ↔
      .duplicateMethod owner name place ∈ methodFaults := by
    rw [List.mem_append, or_iff_right subject]
  rw [← found]
  simp only
  split
  · rename_i noFault
    rw [List.isEmpty_iff.mp noFault]
    rfl
  · rfl

end Faults

/-- A method of this name at this place comes after another one of the name; reserved names are
refused before that is asked. -/
def ExportDecl.RepeatsMethod (decl : ExportDecl) (name : String) (place : Location) : Prop :=
  name ∉ reservedMethodNames ∧
    ∃ before method after, decl.methods = before ++ method :: after ∧
      method.name = name ∧ method.location = place ∧ ∃ earlier ∈ before, earlier.name = name

namespace Resolver

open Naming Stub

variable {resolver : Resolver} {decl : ExportDecl} {owner name : String} {place : Location}

/-- Which methods a resolver reports as repeated does not depend on the exports before. -/
theorem duplicateMethod_mem_faults_iff :
    .duplicateMethod owner name place ∈ faultsOf (resolver.resolve decl).1 ↔
      ∃ before method after, decl.methods = before ++ method :: after ∧
        (owner = decl.name ∧ name = method.name ∧ place = method.location) ∧
        method.name ∉ reservedMethodNames ∧
        ∃ earlier ∈ before, earlier.name ∉ reservedMethodNames ∧
          pascalCase method.name = pascalCase earlier.name := by
  have ownFaults : .duplicateMethod owner name place ∈ faultsOf (resolver.resolve decl).1 ↔
      .duplicateMethod owner name place
        ∈ faultsOf (resolveExport resolver.types resolver.countsReturn decl) := by
    rw [faultsOf_resolve, List.mem_append, or_iff_right]
    cases resolver.seen.lookup decl.qualifiedName <;> simp
  rw [ownFaults, duplicateMethod_mem_resolveExport_iff, duplicateMethod_mem_resolveMethods_iff]
  simp [mem_foldl_seenAfter_iff]

/-- Of idiomatic methods a resolver reports those that are there twice. -/
theorem duplicateMethod_mem_faults_iff_repeatsMethod
    (idiomatic : ∀ method ∈ decl.methods, IsIdiomatic method.name) :
    .duplicateMethod owner name place ∈ faultsOf (resolver.resolve decl).1 ↔
      owner = decl.name ∧ decl.RepeatsMethod name place := by
  rw [duplicateMethod_mem_faults_iff]
  constructor
  · rintro ⟨before, method, after, methods, ⟨rfl, rfl, rfl⟩, free, earlier, isEarlier, -, same⟩
    have isMethod : method ∈ decl.methods := by simp [methods]
    have wasMethod : earlier ∈ decl.methods := by simp [methods, isEarlier]
    have equal := pascalCase_injective_of_isIdiomatic (idiomatic method isMethod)
      (idiomatic earlier wasMethod) same
    exact ⟨rfl, free, before, method, after, methods, rfl, rfl, earlier, isEarlier, equal.symm⟩
  · rintro ⟨rfl, free, before, method, after, methods, rfl, rfl, earlier, isEarlier, same⟩
    refine ⟨before, method, after, methods, ⟨rfl, rfl, rfl⟩, free, earlier, isEarlier, ?_, ?_⟩
    · rwa [same]
    · rw [same]

/-- What tells apart accepted methods as their exported names do tells all of them apart. -/
theorem nodup_of_exportName {cls : ExportedClass} {label : ExportedMethod → String}
    (ok : (resolver.resolve decl).1 = .ok cls)
    (apart : ∀ first ∈ cls.methods, ∀ second ∈ cls.methods, label first = label second →
      first.exportName = second.exportName) : (cls.methods.map label).Nodup := by
  have distinct := (resolveExport_ok (resolve_ok ok)).distinctMethods
  refine List.Nodup.map_on (fun first isFirst second isSecond same => ?_) distinct.of_map
  exact List.inj_on_of_nodup_map distinct isFirst isSecond
    (apart first isFirst second isSecond same)

/-- Idiomatic names are their own snake case, and no two of them have one pascal case. So of
idiomatic methods a resolver reports those that are there twice, after whatever exports, and the
methods that it accepts have different names on both sides and different constants. -/
theorem idiomatic_methods_told_apart :
    (∀ name, IsIdiomatic name → snakeCase name = name) ∧
    (∀ left right, IsIdiomatic left → IsIdiomatic right → pascalCase left = pascalCase right →
      left = right) ∧
    ∀ (resolver : Resolver) (decl : ExportDecl),
      (∀ method ∈ decl.methods, IsIdiomatic method.name) →
      (∀ owner name place,
        .duplicateMethod owner name place ∈ faultsOf (resolver.resolve decl).1 ↔
          owner = decl.name ∧ decl.RepeatsMethod name place) ∧
      ∀ cls, (resolver.resolve decl).1 = .ok cls →
        (cls.methods.map ExportedMethod.exportName).Nodup ∧
        (cls.methods.map ExportedMethod.nativeName).Nodup ∧
        (cls.methods.map blockConst).Nodup := by
  refine ⟨fun _ => snakeCase_of_isIdiomatic,
    fun _ _ => pascalCase_injective_of_isIdiomatic, fun resolver decl idiomatic =>
      ⟨fun _ _ _ => duplicateMethod_mem_faults_iff_repeatsMethod idiomatic, fun cls ok => ?_⟩⟩
  have resolves : ∀ method ∈ cls.methods, IsIdiomatic method.name ∧
      method.exportName = pascalCase method.name ∧ method.nativeName = method.name := by
    intro method isMethod
    obtain ⟨source, isSource, resolved⟩ :=
      exists_of_forall₂ (resolveExport_ok (resolve_ok ok)).methods isMethod
    have named := idiomatic source isSource
    have native := resolved.nativeName
    rw [snakeCase_of_isIdiomatic named, ← resolved.name] at native
    rw [← resolved.name] at named
    exact ⟨named, resolved.name ▸ resolved.exportName, native⟩
  refine ⟨(resolveExport_ok (resolve_ok ok)).distinctMethods, ?_, ?_⟩
  · refine nodup_of_exportName ok fun first isFirst second isSecond same => ?_
    obtain ⟨-, exported, native⟩ := resolves first isFirst
    obtain ⟨-, exported', native'⟩ := resolves second isSecond
    rw [exported, exported', ← native, same, native']
  · refine nodup_of_exportName ok fun first isFirst second isSecond same => ?_
    obtain ⟨idiomatic, exported, -⟩ := resolves first isFirst
    obtain ⟨idiomatic', exported', -⟩ := resolves second isSecond
    have upper : Text.upperText first.name = Text.upperText second.name :=
      (String.append_left_inj _).mp same
    rw [exported, exported',
      upperText_injective_of_isSnake idiomatic.isSnake idiomatic'.isSnake upper]

/-- An export of idiomatic methods, two of which differ by an underscore. -/
def doorExport : ExportDecl :=
  ⟨"Door", "interop", none, .class, none,
    [⟨"get_url", [], .unit, none, .synthetic⟩, ⟨"geturl", [], .unit, none, .synthetic⟩,
      ⟨"move_to_v2", [], .unit, none, .synthetic⟩], .synthetic⟩

theorem isIdiomatic_of_doorExport : ∀ method ∈ doorExport.methods, IsIdiomatic method.name := by
  have isWord : ∀ word ∈ ["get", "url", "geturl", "move", "to", "v2"], IsWord word.toList := by
    simp only [List.forall_mem_cons]
    exact ⟨⟨'g', ['e', 't'], rfl, rfl, List.all_eq_true.mp rfl⟩,
      ⟨'u', ['r', 'l'], rfl, rfl, List.all_eq_true.mp rfl⟩,
      ⟨'g', ['e', 't', 'u', 'r', 'l'], rfl, rfl, List.all_eq_true.mp rfl⟩,
      ⟨'m', ['o', 'v', 'e'], rfl, rfl, List.all_eq_true.mp rfl⟩,
      ⟨'t', ['o'], rfl, rfl, List.all_eq_true.mp rfl⟩,
      ⟨'v', ['2'], rfl, rfl, List.all_eq_true.mp rfl⟩, nofun⟩
  simp only [doorExport, List.forall_mem_cons]
  refine ⟨⟨"get".toList, ["url".toList], isWord _ (by simp), ?_, rfl⟩,
    ⟨"geturl".toList, [], isWord _ (by simp), nofun, rfl⟩,
    ⟨"move".toList, ["to".toList, "v2".toList], isWord _ (by simp), ?_, rfl⟩, nofun⟩
  · simp only [List.forall_mem_cons]
    exact ⟨isWord "url" (by simp), nofun⟩
  · simp only [List.forall_mem_cons]
    exact ⟨isWord "to" (by simp), isWord "v2" (by simp), nofun⟩

/-- A door is accepted, and a second `get_url` of it is reported. -/
theorem idiomatic_methods_told_apart_door :
    (∃ cls, ((start vectorTypes false).resolve doorExport).1 = .ok cls ∧
      cls.methods.map ExportedMethod.exportName = ["GetUrl", "Geturl", "MoveToV2"] ∧
      (cls.methods.map ExportedMethod.nativeName).Nodup ∧ (cls.methods.map blockConst).Nodup) ∧
    .duplicateMethod "Door" "get_url" .synthetic ∈ faultsOf ((start vectorTypes false).resolve
      { doorExport with methods := doorExport.methods ++ doorExport.methods.take 1 }).1 := by
  obtain ⟨-, -, resolves⟩ := idiomatic_methods_told_apart
  obtain ⟨-, accepts⟩ := resolves (start vectorTypes false) doorExport isIdiomatic_of_doorExport
  have accepted : ((start vectorTypes false).resolve doorExport).1 = .ok _ := rfl
  obtain ⟨-, native, constants⟩ := accepts _ accepted
  have twice : ∀ method ∈ doorExport.methods ++ doorExport.methods.take 1,
      IsIdiomatic method.name := by
    intro method isMethod
    rcases List.mem_append.mp isMethod with first | second
    · exact isIdiomatic_of_doorExport method first
    · exact isIdiomatic_of_doorExport method (List.mem_of_mem_take second)
  obtain ⟨reports, -⟩ := resolves (start vectorTypes false)
    { doorExport with methods := doorExport.methods ++ doorExport.methods.take 1 } twice
  refine ⟨⟨_, accepted, by decide +kernel, native, constants⟩, (reports _ _ _).mpr ?_⟩
  exact ⟨rfl, by decide, doorExport.methods, _, [], rfl, rfl, rfl, _, List.mem_cons_self, rfl⟩

end Resolver

end NativeBridge

import Mathlib.Algebra.GroupWithZero.Nat
import NativeBridge.Proofs.Export.Position
import NativeBridge.Proofs.Outcome

/-!
# What a resolved export consists of

A method or an export that resolves keeps every declared part, in the declared
order: nothing is lost, repeated or moved. `ParamResolves`, `MethodResolves` and
`ExportResolves` say what belongs to one part; the theorems derive them from an
empty list of faults.
-/

namespace NativeBridge

/-- The parameter of a declaration whose position is resolved. -/
def Parameter.ofPosition (decl : ParamDecl) (position : Position) : Parameter :=
  ⟨decl.name, decl.type, position.native, position.passing, position.size⟩

/-- A declared parameter and what it resolves to. -/
structure ParamResolves (types : TypeMap) (decl : ParamDecl) (param : Parameter) : Prop where
  notUnit : decl.type.isUnit = false
  position : ∃ context position,
    Position.resolve types decl.type decl.native context decl.location = .ok position ∧
      param = .ofPosition decl position

/-- A declared return and the slot that it resolves to. -/
inductive ReturnResolves (types : TypeMap) (decl : MethodDecl) : ReturnSlot → Prop where
  /-- A method that returns nothing. -/
  | void (unit : decl.result = .unit) : ReturnResolves types decl .void
  /-- A method that returns a value or a pointer. -/
  | position {context : String} {position : Position} (notUnit : decl.result.isUnit = false)
      (notReference : ∀ mutable target, decl.result ≠ .ref mutable target)
      (resolved : Position.resolve types decl.result decl.nativeReturn context decl.location
        = .ok position) :
      ReturnResolves types decl ⟨decl.result, position.native, position.size⟩

/-- A declared method and what it resolves to. -/
structure MethodResolves (types : TypeMap) (countsReturn : Bool) (decl : MethodDecl)
    (method : ExportedMethod) : Prop where
  name : method.name = decl.name
  exportName : method.exportName = Naming.pascalCase decl.name
  nativeName : method.nativeName = Naming.snakeCase decl.name
  params : List.Forall₂ (ParamResolves types) decl.params method.params
  distinctParams : (decl.params.map ParamDecl.name).Nodup
  result : ReturnResolves types decl method.result
  blockSize : method.blockSize = (method.params.map Parameter.size).sum
    + if countsReturn then method.result.size else 0
  location : method.location = decl.location

/-- A declared export and what it resolves to. -/
structure ExportResolves (types : TypeMap) (countsReturn : Bool) (decl : ExportDecl)
    (cls : ExportedClass) : Prop where
  name : cls.name = decl.name
  managedNamespace : cls.managedNamespace = decl.managedNamespace
  nativeNamespaceOverride : cls.nativeNamespaceOverride = decl.nativeNamespace
  kind : cls.kind = decl.kind
  methods : List.Forall₂ (MethodResolves types countsReturn) decl.methods cls.methods
  notReserved : ∀ method ∈ decl.methods, method.name ∉ reservedMethodNames
  distinctMethods : (cls.methods.map ExportedMethod.exportName).Nodup
  location : cls.location = decl.location

/-- One parameter, given the names before it. -/
def resolveParam (types : TypeMap) (className method : String) (seen : List String)
    (decl : ParamDecl) : Except BindingError Position :=
  let context := "parameter `" ++ decl.name ++ "` of `" ++ className ++ "::" ++ method ++ "`"
  if seen.contains decl.name then
    .error (.duplicateParameter className method decl.name decl.location)
  else if decl.type.isUnit then
    .error (.unsupportedType "()" context "parameters cannot be unit" decl.location)
  else Position.resolve types decl.type decl.native context decl.location

/-- The first parameter and the others are resolved apart. -/
theorem resolveParams_cons (types : TypeMap) (className method : String) (seen : List String)
    (decl : ParamDecl) (rest : List ParamDecl) :
    resolveParams types className method seen (decl :: rest)
      = match resolveParam types className method seen decl,
          resolveParams types className method (decl.name :: seen) rest with
        | .error fault, (params, uses, faults) => (params, uses, fault :: faults)
        | .ok position, (params, uses, faults) =>
            (.ofPosition decl position :: params, (Uses.ofPosition position).append uses,
              faults) := by
  simp only [resolveParams, resolveParam]
  split
  · rfl
  · split
    · rfl
    · cases Position.resolve types decl.type decl.native _ decl.location with
      | error fault => rfl
      | ok position => rfl

/-- A parameter resolves when its name is new, it is not unit and its position resolves. -/
theorem resolveParam_ok {types : TypeMap} {className method : String} {seen : List String}
    {decl : ParamDecl} {position : Position}
    (ok : resolveParam types className method seen decl = .ok position) :
    decl.name ∉ seen ∧ ParamResolves types decl (.ofPosition decl position) := by
  simp only [resolveParam] at ok
  split at ok
  · cases ok
  · rename_i fresh
    split at ok
    · cases ok
    · rename_i typed
      exact ⟨by simpa using fresh, ⟨by simpa using typed, ⟨_, position, ok, rfl⟩⟩⟩

/-- Parameters without a fault correspond one to one, and their names differ. -/
theorem resolveParams_ok {types : TypeMap} {className method : String} {seen : List String}
    {decls : List ParamDecl} {params : List Parameter} {uses : Uses}
    (ok : resolveParams types className method seen decls = (params, uses, [])) :
    List.Forall₂ (ParamResolves types) decls params ∧
      (decls.map ParamDecl.name).Nodup ∧ ∀ decl ∈ decls, decl.name ∉ seen := by
  induction decls generalizing seen params uses with
  | nil =>
      cases ok
      exact ⟨.nil, .nil, by simp⟩
  | cons decl rest ih =>
      rw [resolveParams_cons] at ok
      rcases tail : resolveParams types className method (decl.name :: seen) rest with
        ⟨params', uses', faults⟩
      rw [tail] at ok
      cases own : resolveParam types className method seen decl with
      | error fault => simp [own] at ok
      | ok position =>
          simp only [own, Prod.mk.injEq] at ok
          obtain ⟨rfl, -, rfl⟩ := ok
          obtain ⟨fresh, first⟩ := resolveParam_ok own
          obtain ⟨others, distinct, later⟩ := ih tail
          refine ⟨.cons first others, ?_, ?_⟩
          · rw [List.map_cons, List.nodup_cons, List.mem_map]
            refine ⟨?_, distinct⟩
            rintro ⟨other, isOther, same⟩
            exact later other isOther (same ▸ List.mem_cons_self)
          · intro other isOther
            rcases List.mem_cons.mp isOther with rfl | isLater
            · exact fresh
            · exact fun before => later other isLater (List.mem_cons_of_mem _ before)

/-- A return that resolves is nothing, or a position that is no reference. -/
theorem resolveReturn_ok {types : TypeMap} {className : String} {decl : MethodDecl}
    {result : ReturnSlot} {uses : Uses}
    (ok : resolveReturn types className decl = .ok (result, uses)) :
    ReturnResolves types decl result := by
  simp only [resolveReturn] at ok
  split at ok
  · rename_i unit
    cases ok
    exact .void unit
  · cases ok
  all_goals
    rename_i type
    split at ok
    · cases ok
    · rename_i position resolved
      cases ok
      refine .position ?_ ?_ resolved
      · rw [type]
        rfl
      · intro mutable target reference
        rw [type] at reference
        cases reference

/-- A method that resolves keeps its names, its parameters and its return. -/
theorem resolveMethod_ok {types : TypeMap} {countsReturn : Bool} {className : String}
    {decl : MethodDecl} {method : ExportedMethod} {uses : Uses}
    (ok : resolveMethod types countsReturn className decl = .ok (method, uses)) :
    MethodResolves types countsReturn decl method := by
  unfold resolveMethod at ok
  rcases params : resolveParams types className decl.name [] decl.params with
    ⟨resolved, paramUses, faults⟩
  rw [params] at ok
  cases result : resolveReturn types className decl with
  | error fault => simp [result] at ok
  | ok pair =>
      obtain ⟨slot, resultUses⟩ := pair
      simp only [result] at ok
      split at ok
      · rename_i noFault
        rw [List.isEmpty_iff.mp noFault] at params
        cases ok
        obtain ⟨same, distinct, -⟩ := resolveParams_ok params
        refine ⟨rfl, rfl, rfl, same, distinct, resolveReturn_ok result, ?_, rfl⟩
        have slots : resolved.foldl (fun size param => size + param.size) 0
            = (resolved.map Parameter.size).sum := by
          rw [List.sum_eq_foldl, List.foldl_map]
        rw [slots]
        cases countsReturn <;> simp
      · cases ok

/-- A method that does not resolve has a fault. -/
theorem resolveMethod_error_ne_nil {types : TypeMap} {countsReturn : Bool}
    {className : String} {decl : MethodDecl} {faults : List BindingError}
    (failed : resolveMethod types countsReturn className decl = .error faults) :
    faults ≠ [] := by
  unfold resolveMethod at failed
  rcases resolveParams types className decl.name [] decl.params with
    ⟨params, uses, paramFaults⟩
  cases result : resolveReturn types className decl with
  | error fault =>
      simp only [result, Except.error.injEq] at failed
      simp [← failed]
  | ok pair =>
      simp only [result] at failed
      split at failed
      · cases failed
      · rename_i some
        cases failed
        simpa using some

/-- One method, given the exported names before it. -/
def resolveNextMethod (types : TypeMap) (countsReturn : Bool) (className : String)
    (seen : List String) (decl : MethodDecl) :
    Except (List BindingError) (ExportedMethod × Uses) :=
  if reservedMethodNames.contains decl.name then
    .error [.invalidDeclaration
      ("method `" ++ decl.name ++ "` of `" ++ className ++ "` clashes with the generated `"
        ++ className ++ "Binds::" ++ decl.name ++ "`") decl.location]
  else if seen.contains (Naming.pascalCase decl.name) then
    .error [.duplicateMethod className decl.name decl.location]
  else resolveMethod types countsReturn className decl

/-- The exported names that are taken after a method; a reserved name takes none. -/
def seenAfter (seen : List String) (decl : MethodDecl) : List String :=
  if reservedMethodNames.contains decl.name || seen.contains (Naming.pascalCase decl.name) then
    seen
  else Naming.pascalCase decl.name :: seen

/-- The first method and the others are resolved apart. -/
theorem resolveMethods_cons (types : TypeMap) (countsReturn : Bool) (className : String)
    (seen : List String) (decl : MethodDecl) (rest : List MethodDecl) :
    resolveMethods types countsReturn className seen (decl :: rest)
      = match resolveNextMethod types countsReturn className seen decl,
          resolveMethods types countsReturn className (seenAfter seen decl) rest with
        | .error found, (methods, uses, faults) => (methods, uses, found ++ faults)
        | .ok (method, own), (methods, uses, faults) =>
            (method :: methods, own.append uses, faults) := by
  simp only [resolveMethods, resolveNextMethod, seenAfter]
  split
  · rename_i reserved
    simp only [reserved, Bool.true_or, if_true]
  · rename_i free
    split
    · rename_i taken
      simp only [taken, Bool.or_true, if_true]
    · rename_i new
      simp only [free, new, Bool.or_false]
      cases resolveMethod types countsReturn className decl with
      | error faults => rfl
      | ok resolved => rfl

/-- A method that does not resolve among others has a fault. -/
theorem resolveNextMethod_error_ne_nil {types : TypeMap} {countsReturn : Bool}
    {className : String} {seen : List String} {decl : MethodDecl}
    {faults : List BindingError}
    (failed : resolveNextMethod types countsReturn className seen decl = .error faults) :
    faults ≠ [] := by
  simp only [resolveNextMethod] at failed
  split at failed
  · cases failed
    exact List.cons_ne_nil _ _
  · split at failed
    · cases failed
      exact List.cons_ne_nil _ _
    · exact resolveMethod_error_ne_nil failed

/-- A method that resolves among others has a name that is free and new. -/
theorem resolveNextMethod_ok {types : TypeMap} {countsReturn : Bool} {className : String}
    {seen : List String} {decl : MethodDecl} {method : ExportedMethod} {uses : Uses}
    (ok : resolveNextMethod types countsReturn className seen decl = .ok (method, uses)) :
    decl.name ∉ reservedMethodNames ∧ Naming.pascalCase decl.name ∉ seen ∧
      MethodResolves types countsReturn decl method ∧
      seenAfter seen decl = Naming.pascalCase decl.name :: seen := by
  simp only [resolveNextMethod] at ok
  split at ok
  · cases ok
  · rename_i free
    split at ok
    · cases ok
    · rename_i new
      refine ⟨by simpa using free, by simpa using new, resolveMethod_ok ok, ?_⟩
      simp only [seenAfter, free, new, Bool.or_false]
      rfl

/-- Methods without a fault correspond one to one, and their exported names differ. -/
theorem resolveMethods_ok {types : TypeMap} {countsReturn : Bool} {className : String}
    {seen : List String} {decls : List MethodDecl} {methods : List ExportedMethod}
    {uses : Uses}
    (ok : resolveMethods types countsReturn className seen decls = (methods, uses, [])) :
    List.Forall₂ (MethodResolves types countsReturn) decls methods ∧
      (∀ decl ∈ decls, decl.name ∉ reservedMethodNames) ∧
      (methods.map ExportedMethod.exportName).Nodup ∧
      ∀ method ∈ methods, method.exportName ∉ seen := by
  induction decls generalizing seen methods uses with
  | nil =>
      cases ok
      exact ⟨.nil, by simp, .nil, by simp⟩
  | cons decl rest ih =>
      rw [resolveMethods_cons] at ok
      rcases tail : resolveMethods types countsReturn className (seenAfter seen decl) rest with
        ⟨methods', uses', faults⟩
      rw [tail] at ok
      cases own : resolveNextMethod types countsReturn className seen decl with
      | error found =>
          simp only [own, Prod.mk.injEq, List.append_eq_nil_iff] at ok
          exact absurd ok.2.2.1 (resolveNextMethod_error_ne_nil own)
      | ok resolved =>
          obtain ⟨method, ownUses⟩ := resolved
          simp only [own, Prod.mk.injEq] at ok
          obtain ⟨rfl, -, rfl⟩ := ok
          obtain ⟨free, new, first, taken⟩ := resolveNextMethod_ok own
          obtain ⟨others, allFree, distinct, later⟩ := ih tail
          rw [taken, ← first.exportName] at later
          refine ⟨.cons first others, ?_, ?_, ?_⟩
          · exact List.forall_mem_cons.mpr ⟨free, allFree⟩
          · rw [List.map_cons, List.nodup_cons, List.mem_map]
            refine ⟨?_, distinct⟩
            rintro ⟨other, isOther, same⟩
            exact later other isOther (same ▸ List.mem_cons_self)
          · intro other isOther
            rcases List.mem_cons.mp isOther with rfl | isLater
            · rw [first.exportName]
              exact new
            · exact fun before => later other isLater (List.mem_cons_of_mem _ before)

/-- An export that resolves keeps its names and its methods. -/
theorem resolveExport_ok {types : TypeMap} {countsReturn : Bool} {decl : ExportDecl}
    {cls : ExportedClass} (ok : resolveExport types countsReturn decl = .ok cls) :
    ExportResolves types countsReturn decl cls := by
  unfold resolveExport at ok
  rcases resolveSubject types decl with ⟨mapped, subjectUses, subjectFaults⟩
  rcases methods : resolveMethods types countsReturn decl.name [] decl.methods with
    ⟨resolved, uses, faults⟩
  simp only [methods] at ok
  split at ok
  · rename_i noFault
    have noneFailed : faults = [] :=
      (List.append_eq_nil_iff.mp (List.isEmpty_iff.mp noFault)).2
    rw [noneFailed] at methods
    cases ok
    obtain ⟨same, free, distinct, -⟩ := resolveMethods_ok methods
    exact ⟨rfl, rfl, rfl, rfl, same, free, distinct, rfl⟩
  · cases ok

/-- An export that does not resolve has a fault. -/
theorem resolveExport_error_ne_nil {types : TypeMap} {countsReturn : Bool}
    {decl : ExportDecl} {faults : List BindingError}
    (failed : resolveExport types countsReturn decl = .error faults) : faults ≠ [] := by
  unfold resolveExport at failed
  rcases resolveSubject types decl with ⟨mapped, subjectUses, subjectFaults⟩
  rcases resolveMethods types countsReturn decl.name [] decl.methods with
    ⟨resolved, uses, methodFaults⟩
  simp only at failed
  split at failed
  · cases failed
  · rename_i some
    cases failed
    simpa using some

namespace Resolver

/-- What a resolver accepts, it resolves as if alone. -/
theorem resolve_ok {resolver : Resolver} {decl : ExportDecl} {cls : ExportedClass}
    (ok : (resolver.resolve decl).1 = .ok cls) :
    resolveExport resolver.types resolver.countsReturn decl = .ok cls := by
  cases known : resolver.seen.lookup decl.qualifiedName with
  | none => simpa only [resolve, known] using ok
  | some first =>
      simp only [resolve, known] at ok
      split at ok
      · cases ok
      · cases ok

/-- What a resolver refuses has a fault. -/
theorem resolve_error_ne_nil {resolver : Resolver} {decl : ExportDecl}
    {faults : List BindingError} (failed : (resolver.resolve decl).1 = .error faults) :
    faults ≠ [] := by
  cases known : resolver.seen.lookup decl.qualifiedName with
  | none =>
      simp only [resolve, known] at failed
      exact resolveExport_error_ne_nil failed
  | some first =>
      simp only [resolve, known] at failed
      split at failed
      · cases failed
        exact List.cons_ne_nil _ _
      · cases failed
        exact List.cons_ne_nil _ _

/-- No export changes the type map or the policy of a resolver. -/
theorem resolve_settings (resolver : Resolver) (decl : ExportDecl) :
    (resolver.resolve decl).2.types = resolver.types ∧
      (resolver.resolve decl).2.countsReturn = resolver.countsReturn := by
  cases known : resolver.seen.lookup decl.qualifiedName with
  | none => simp [resolve, known]
  | some first =>
      simp only [resolve, known]
      split <;> exact ⟨rfl, rfl⟩

end Resolver

end NativeBridge

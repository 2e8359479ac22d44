import NativeBridge.Proofs.Export.Resolution

/-!
# Which exports are accepted

Every part of a declaration that does not resolve leaves a fault behind, so that
nothing is dropped in silence: an export resolves exactly when all of its parts
are acceptable. Across exports a resolver remembers every qualified name that it
was given, also those of refused exports. `Resolver.resolve_accepts_iff` states
both for every history of a resolver.
-/

namespace NativeBridge

/-- A position resolves, wherever it stands. -/
def Position.Resolves (types : TypeMap) (type : ManagedType)
    (declared : Option NativeOverride) : Prop :=
  ∃ position, ∀ context location,
    Position.resolve types type declared context location = .ok position

/-- Where a position stands only matters for the fault when it does not resolve. -/
theorem Position.resolves_of_resolve {types : TypeMap} {type : ManagedType}
    {declared : Option NativeOverride} {context : String} {location : Location}
    {position : Position} (ok : resolve types type declared context location = .ok position) :
    Resolves types type declared :=
  ⟨position, fun _ _ => resolve_eq_ok_iff.mpr (resolve_eq_ok_iff.mp ok)⟩

/-- A declared parameter by itself. -/
structure ParamDecl.Accepted (types : TypeMap) (decl : ParamDecl) : Prop where
  notUnit : decl.type.isUnit = false
  resolves : Position.Resolves types decl.type decl.native

/-- A declared method by itself. -/
structure MethodDecl.Accepted (types : TypeMap) (decl : MethodDecl) : Prop where
  distinctParams : (decl.params.map ParamDecl.name).Nodup
  params : ∀ param ∈ decl.params, param.Accepted types
  notReference : ∀ mutable target, decl.result ≠ .ref mutable target
  result : decl.result.isUnit = false → Position.Resolves types decl.result decl.nativeReturn

/-- A declared export by itself. -/
structure ExportDecl.Accepted (types : TypeMap) (decl : ExportDecl) : Prop where
  subject : ∀ subject, decl.subject = some subject → types.contains subject = true
  notReserved : ∀ method ∈ decl.methods,
    method.name ≠ "resolve_all" ∧ method.name ≠ "call_sites"
  distinctMethods : (decl.methods.map fun method => Naming.pascalCase method.name).Nodup
  methods : ∀ method ∈ decl.methods, method.Accepted types

/-- Acceptable entries whose keys are new after some others, and differ. -/
def FreshEach {α β : Type} (key : α → β) (accepted : α → Prop) (seen : List β)
    (entries : List α) : Prop :=
  (∀ entry ∈ entries, key entry ∉ seen ∧ accepted entry) ∧ (entries.map key).Nodup

/-- The first entry is judged by what was seen, the others by that and the first. -/
theorem freshEach_cons {α β : Type} {key : α → β} {accepted : α → Prop} {seen : List β}
    {entry : α} {rest : List α} :
    FreshEach key accepted seen (entry :: rest) ↔
      (key entry ∉ seen ∧ accepted entry) ∧
        FreshEach key accepted (key entry :: seen) rest := by
  simp only [FreshEach]
  rw [List.forall_mem_cons, List.map_cons, List.nodup_cons, List.mem_map]
  constructor
  · rintro ⟨⟨first, others⟩, unused, distinct⟩
    refine ⟨first, fun other isOther => ⟨?_, (others other isOther).2⟩, distinct⟩
    intro taken
    rcases List.mem_cons.mp taken with same | before
    · exact unused ⟨other, isOther, same⟩
    · exact (others other isOther).1 before
  · rintro ⟨first, others, distinct⟩
    refine ⟨⟨first, fun other isOther => ⟨?_, (others other isOther).2⟩⟩, ?_, distinct⟩
    · exact fun before => (others other isOther).1 (List.mem_cons_of_mem _ before)
    · rintro ⟨other, isOther, same⟩
      exact (others other isOther).1 (same ▸ List.mem_cons_self)

/-- Nothing seen, only the differences count. -/
theorem freshEach_nil_seen {α β : Type} {key : α → β} {accepted : α → Prop}
    {entries : List α} :
    FreshEach key accepted [] entries ↔
      (∀ entry ∈ entries, accepted entry) ∧ (entries.map key).Nodup := by
  simp [FreshEach]

/-- A parameter resolves after some names exactly when it is acceptable and its name is new. -/
theorem resolveParam_ok_iff {types : TypeMap} {className method : String} {seen : List String}
    {decl : ParamDecl} :
    (∃ position, resolveParam types className method seen decl = .ok position) ↔
      decl.name ∉ seen ∧ decl.Accepted types := by
  constructor
  · rintro ⟨position, ok⟩
    obtain ⟨fresh, notUnit, context, resolved, isResolved, -⟩ := resolveParam_ok ok
    exact ⟨fresh, notUnit, Position.resolves_of_resolve isResolved⟩
  · rintro ⟨fresh, notUnit, position, resolves⟩
    refine ⟨position, ?_⟩
    simp [resolveParam, fresh, notUnit, resolves]

/-- Parameters leave no fault exactly when all are acceptable and no name is repeated. -/
theorem resolveParams_faults_iff {types : TypeMap} {className method : String}
    {seen : List String} {decls : List ParamDecl} :
    (resolveParams types className method seen decls).2.2 = [] ↔
      FreshEach ParamDecl.name (ParamDecl.Accepted types) seen decls := by
  induction decls generalizing seen with
  | nil => simp [resolveParams, FreshEach]
  | cons decl rest ih =>
      rw [freshEach_cons, ← resolveParam_ok_iff, ← ih, resolveParams_cons]
      cases resolveParam types className method seen decl with
      | error fault => simp
      | ok position => simp

/-- A return resolves exactly when it is no reference and a position that resolves. -/
theorem resolveReturn_ok_iff {types : TypeMap} {className : String} {decl : MethodDecl} :
    (∃ resolved, resolveReturn types className decl = .ok resolved) ↔
      (∀ mutable target, decl.result ≠ .ref mutable target) ∧
        (decl.result.isUnit = false →
          Position.Resolves types decl.result decl.nativeReturn) := by
  constructor
  · rintro ⟨⟨slot, uses⟩, ok⟩
    cases resolveReturn_ok ok with
    | void unit => simp [unit, ManagedType.isUnit]
    | position notUnit notReference resolved =>
        exact ⟨notReference, fun _ => Position.resolves_of_resolve resolved⟩
  · rintro ⟨notReference, resolves⟩
    cases type : decl.result with
    | unit => exact ⟨(.void, .empty), by simp [resolveReturn, type]⟩
    | ref mutable target => exact absurd type (notReference mutable target)
    | path path =>
        rw [type] at resolves
        obtain ⟨position, resolved⟩ := resolves rfl
        simp [resolveReturn, type, resolved]
    | ptr mutable target =>
        rw [type] at resolves
        obtain ⟨position, resolved⟩ := resolves rfl
        simp [resolveReturn, type, resolved]

/-- A method resolves exactly when it is acceptable. -/
theorem resolveMethod_ok_iff {types : TypeMap} (countsReturn : Bool) (className : String)
    {decl : MethodDecl} :
    (∃ resolved, resolveMethod types countsReturn className decl = .ok resolved) ↔
      decl.Accepted types := by
  have parts : decl.Accepted types ↔
      (resolveParams types className decl.name [] decl.params).2.2 = [] ∧
        ∃ resolved, resolveReturn types className decl = .ok resolved := by
    rw [resolveParams_faults_iff, resolveReturn_ok_iff, freshEach_nil_seen]
    constructor
    · rintro ⟨distinct, params, notReference, result⟩
      exact ⟨⟨params, distinct⟩, notReference, result⟩
    · rintro ⟨⟨params, distinct⟩, notReference, result⟩
      exact ⟨distinct, params, notReference, result⟩
  rw [parts, resolveMethod]
  rcases resolveParams types className decl.name [] decl.params with ⟨params, uses, faults⟩
  cases resolveReturn types className decl with
  | error fault => simp
  | ok resolved => cases faults <;> simp

/-- A method resolves after some exported names exactly when it is acceptable, is not
reserved and has a new exported name. -/
theorem resolveNextMethod_ok_iff {types : TypeMap} (countsReturn : Bool) (className : String)
    {seen : List String} {decl : MethodDecl} :
    (∃ resolved, resolveNextMethod types countsReturn className seen decl = .ok resolved) ↔
      Naming.pascalCase decl.name ∉ seen ∧
        decl.name ∉ reservedMethodNames ∧ decl.Accepted types := by
  rw [← resolveMethod_ok_iff countsReturn className]
  by_cases reserved : decl.name ∈ reservedMethodNames
  · simp [resolveNextMethod, reserved]
  · by_cases taken : Naming.pascalCase decl.name ∈ seen
    · simp [resolveNextMethod, reserved, taken]
    · simp [resolveNextMethod, reserved, taken]

/-- Methods leave no fault exactly when all are acceptable, none is reserved and no exported
name is repeated. -/
theorem resolveMethods_faults_iff {types : TypeMap} {countsReturn : Bool} {className : String}
    {seen : List String} {decls : List MethodDecl} :
    (resolveMethods types countsReturn className seen decls).2.2 = [] ↔
      FreshEach (fun decl => Naming.pascalCase decl.name)
        (fun decl => decl.name ∉ reservedMethodNames ∧ decl.Accepted types) seen decls := by
  induction decls generalizing seen with
  | nil => simp [resolveMethods, FreshEach]
  | cons decl rest ih =>
      rw [freshEach_cons, ← resolveNextMethod_ok_iff countsReturn className,
        resolveMethods_cons]
      cases own : resolveNextMethod types countsReturn className seen decl with
      | error faults => simp [resolveNextMethod_error_ne_nil own]
      | ok resolved =>
          obtain ⟨-, -, -, taken⟩ := resolveNextMethod_ok own
          simp [taken, ih]

/-- A subject leaves no fault exactly when it is registered. -/
theorem resolveSubject_faults_iff {types : TypeMap} {decl : ExportDecl} :
    (resolveSubject types decl).2.2 = [] ↔
      ∀ subject, decl.subject = some subject → types.contains subject = true := by
  unfold resolveSubject TypeMap.contains
  cases decl.subject with
  | none => simp
  | some subject =>
      cases found : types.get? subject with
      | none => simp [found]
      | some type => simp [found]

/-- An export resolves by itself exactly when it is acceptable. -/
theorem resolveExport_ok_iff {types : TypeMap} (countsReturn : Bool) {decl : ExportDecl} :
    (∃ cls, resolveExport types countsReturn decl = .ok cls) ↔ decl.Accepted types := by
  have parts : decl.Accepted types ↔ (resolveSubject types decl).2.2 = [] ∧
      (resolveMethods types countsReturn decl.name [] decl.methods).2.2 = [] := by
    rw [resolveSubject_faults_iff, resolveMethods_faults_iff, freshEach_nil_seen]
    have reserved : ∀ name : String,
        name ∉ reservedMethodNames ↔ name ≠ "resolve_all" ∧ name ≠ "call_sites" := by
      simp [reservedMethodNames]
    simp only [reserved]
    constructor
    · rintro ⟨subject, notReserved, distinct, methods⟩
      exact ⟨subject, fun method isMethod =>
        ⟨notReserved method isMethod, methods method isMethod⟩, distinct⟩
    · rintro ⟨subject, methods, distinct⟩
      exact ⟨subject, fun method isMethod => (methods method isMethod).1, distinct,
        fun method isMethod => (methods method isMethod).2⟩
  rw [parts, resolveExport]
  rcases resolveSubject types decl with ⟨mapped, uses, subjectFaults⟩
  rcases resolveMethods types countsReturn decl.name [] decl.methods with
    ⟨methods, methodUses, methodFaults⟩
  cases subjectFaults <;> cases methodFaults <;> simp

/-- A method keeps the signature that was declared: its name, its parameters in order, each
with its name and type, and the type that it returns. -/
structure ExportedMethod.Keeps (decl : MethodDecl) (method : ExportedMethod) : Prop where
  name : method.name = decl.name
  params : (method.params.map fun param => (param.name, param.managed))
    = decl.params.map fun param => (param.name, param.type)
  result : method.result.managed = decl.result

/-- A return that resolves keeps its type. -/
theorem ReturnResolves.managed {types : TypeMap} {decl : MethodDecl} {slot : ReturnSlot}
    (resolved : ReturnResolves types decl slot) : slot.managed = decl.result := by
  cases resolved with
  | void unit => exact unit.symm
  | position notUnit notReference ok => rfl

/-- A method that resolves keeps its signature. -/
theorem MethodResolves.keeps {types : TypeMap} {countsReturn : Bool} {decl : MethodDecl}
    {method : ExportedMethod} (resolved : MethodResolves types countsReturn decl method) :
    method.Keeps decl where
  name := resolved.name
  params := by
    have same : List.Forall₂ (fun (declared : ParamDecl) (param : Parameter) =>
        (param.name, param.managed) = (declared.name, declared.type))
        decl.params method.params := by
      refine resolved.params.imp fun declared param resolves => ?_
      obtain ⟨-, context, position, -, rfl⟩ := resolves
      rfl
    rw [← List.forall₂_eq_eq_eq, List.forall₂_map_left_iff, List.forall₂_map_right_iff]
    exact same.flip
  result := resolved.result.managed

namespace Resolver

/-- A resolver after it was given some exports, whether each was accepted or not. -/
def after (resolver : Resolver) : List ExportDecl → Resolver
  | [] => resolver
  | decl :: rest => after (resolver.resolve decl).2 rest

/-- Whatever was given keeps the type map and the policy. -/
theorem after_settings (resolver : Resolver) (decls : List ExportDecl) :
    (resolver.after decls).types = resolver.types ∧
      (resolver.after decls).countsReturn = resolver.countsReturn := by
  induction decls generalizing resolver with
  | nil => exact ⟨rfl, rfl⟩
  | cons decl rest ih =>
      obtain ⟨types, countsReturn⟩ := resolver.resolve_settings decl
      rw [← types, ← countsReturn]
      exact ih _

/-- A resolver keeps the place that it knows for a qualified name, and else remembers the one of
the export, accepted or not. -/
theorem lookup_resolve (resolver : Resolver) (decl : ExportDecl) (key : String) :
    (resolver.resolve decl).2.seen.lookup key
      = (resolver.seen.lookup key).or
          (if decl.qualifiedName = key then some decl.location else none) := by
  cases known : resolver.seen.lookup decl.qualifiedName with
  | none =>
      simp only [resolve, known]
      by_cases same : decl.qualifiedName = key
      · subst same
        simp [known]
      · have differs : (key == decl.qualifiedName) = false := by simpa using Ne.symm same
        simp [List.lookup_cons, differs, same]
  | some first =>
      have unchanged : (resolver.resolve decl).2 = resolver := by
        simp only [resolve, known]
        split <;> rfl
      rw [unchanged]
      by_cases same : decl.qualifiedName = key
      · subst same
        simp [known]
      · simp [same]

/-- Of what it was given a resolver knows where each qualified name came first. -/
theorem lookup_after (resolver : Resolver) (decls : List ExportDecl) (key : String) :
    (resolver.after decls).seen.lookup key
      = (resolver.seen.lookup key).or
          ((decls.find? fun decl => decl.qualifiedName == key).map ExportDecl.location) := by
  induction decls generalizing resolver with
  | nil => simp [after]
  | cons decl rest ih =>
      rw [after, ih, lookup_resolve, Option.or_assoc]
      by_cases same : decl.qualifiedName = key
      · simp [same]
      · have differs : (decl.qualifiedName == key) = false := by simpa using same
        simp [differs, same]

/-- Exactly the qualified names of what was given are seen. -/
theorem lookup_seen_after (resolver : Resolver) (decls : List ExportDecl) (key : String) :
    (resolver.after decls).seen.lookup key = none ↔
      resolver.seen.lookup key = none ∧ ∀ decl ∈ decls, decl.qualifiedName ≠ key := by
  rw [lookup_after, Option.or_eq_none_iff, Option.map_eq_none_iff, List.find?_eq_none]
  simp

/-- A key has no place exactly if it is none of those that have one. -/
theorem lookup_eq_none_iff {seen : List (String × Location)} {key : String} :
    seen.lookup key = none ↔ key ∉ seen.map Prod.fst := by
  rw [List.lookup_eq_none_iff, List.mem_map, not_exists]
  exact forall_congr' fun entry => by rw [not_and, bne_iff_ne, ne_comm]

/-- A resolver resolves an export with a new qualified name as if alone, and has seen this name
then. -/
theorem resolve_eq_ok_iff {resolver next : Resolver} {decl : ExportDecl} {cls : ExportedClass} :
    resolver.resolve decl = (.ok cls, next) ↔
      decl.qualifiedName ∉ resolver.seen.map Prod.fst ∧
        resolveExport resolver.types resolver.countsReturn decl = .ok cls ∧
        next = { resolver with seen := (decl.qualifiedName, decl.location) :: resolver.seen } := by
  rw [← lookup_eq_none_iff]
  cases known : resolver.seen.lookup decl.qualifiedName with
  | none => simp [resolve, known, eq_comm]
  | some first =>
      simp only [resolve, known]
      split <;> simp

/-- A resolver accepts exactly the acceptable exports with a qualified name that is new. -/
theorem resolve_ok_iff {resolver : Resolver} {decl : ExportDecl} :
    (∃ cls, (resolver.resolve decl).1 = .ok cls) ↔
      resolver.seen.lookup decl.qualifiedName = none ∧ decl.Accepted resolver.types := by
  rw [← resolveExport_ok_iff resolver.countsReturn, lookup_eq_none_iff]
  constructor
  · rintro ⟨cls, accepted⟩
    obtain ⟨new, alone, -⟩ := resolve_eq_ok_iff.mp (Prod.ext accepted rfl)
    exact ⟨new, cls, alone⟩
  · rintro ⟨new, cls, alone⟩
    exact ⟨cls, congrArg Prod.fst (resolve_eq_ok_iff.mpr ⟨new, alone, rfl⟩)⟩

/-- The first export of a run and the others are without a fault exactly if each part is. -/
theorem resolveEach_cons_eq_ok_iff {resolver : Resolver} {decl : ExportDecl}
    {rest : List ExportDecl} {classes : List ExportedClass} :
    resolver.resolveEach (decl :: rest) = (classes, []) ↔
      ∃ cls next others, resolver.resolve decl = (.ok cls, next) ∧
        next.resolveEach rest = (others, []) ∧ classes = cls :: others := by
  simp only [resolveEach]
  rcases first : resolver.resolve decl with ⟨outcome, next⟩
  rcases tail : next.resolveEach rest with ⟨others, faults⟩
  cases outcome with
  | error found =>
      have faulty : found ≠ [] := resolve_error_ne_nil (by rw [first])
      simp [faulty]
  | ok cls =>
      constructor
      · rintro ⟨⟩
        exact ⟨cls, next, others, rfl, tail, rfl⟩
      · rintro ⟨_, _, _, ⟨⟩, same, rfl⟩
        cases tail.symm.trans same
        rfl

/-- Exports are without a fault exactly if each resolves alone and their qualified names are
new and differ. -/
theorem resolveEach_eq_ok_iff {resolver : Resolver} {decls : List ExportDecl}
    {classes : List ExportedClass} :
    resolver.resolveEach decls = (classes, []) ↔
      List.Forall₂ (fun decl cls =>
        resolveExport resolver.types resolver.countsReturn decl = .ok cls) decls classes ∧
      FreshEach ExportDecl.qualifiedName (fun _ => True) (resolver.seen.map Prod.fst) decls := by
  induction decls generalizing resolver classes with
  | nil => simp [resolveEach, FreshEach, eq_comm]
  | cons decl rest ih =>
      rw [resolveEach_cons_eq_ok_iff, freshEach_cons, List.forall₂_cons_left_iff]
      simp only [resolve_eq_ok_iff, and_true]
      constructor
      · rintro ⟨cls, _, others, ⟨new, alone, rfl⟩, later, rfl⟩
        obtain ⟨each, fresh⟩ := ih.mp later
        exact ⟨⟨cls, others, alone, each, rfl⟩, new, fresh⟩
      · rintro ⟨⟨cls, others, alone, each, rfl⟩, new, fresh⟩
        exact ⟨cls, _, others, ⟨new, alone, rfl⟩, ih.mpr ⟨each, fresh⟩, rfl⟩

/-- A run of exports succeeds exactly if each resolves alone and no qualified name is repeated. -/
theorem resolveAll_start_eq_ok_iff {types : TypeMap} {countsReturn : Bool}
    {decls : List ExportDecl} {classes : List ExportedClass} :
    (start types countsReturn).resolveAll decls = .ok classes ↔
      List.Forall₂ (fun decl cls => resolveExport types countsReturn decl = .ok cls) decls
        classes ∧
      (decls.map ExportDecl.qualifiedName).Nodup := by
  have each := @resolveEach_eq_ok_iff (start types countsReturn) decls classes
  simp only [start, List.map_nil, freshEach_nil_seen, implies_true, true_and] at each
  rw [← each, resolveAll, start]
  rcases resolveEach ⟨types, countsReturn, []⟩ decls with ⟨found, faults⟩
  cases faults <;> simp

/-- An export with values, references and pointers. -/
def shapesExport : ExportDecl :=
  ⟨"Shapes", "interop", none, .class, none,
    [⟨"area_of", [⟨"width", .path "f32", none, .synthetic⟩,
        ⟨"depth", .path "f32", none, .synthetic⟩], .path "f32", none, .synthetic⟩,
      ⟨"grow", [⟨"area", .ref true (.path "f32"), none, .synthetic⟩,
        ⟨"context", .ptr true (.path "c_void"), none, .synthetic⟩], .unit, none, .synthetic⟩],
    .synthetic⟩

/-- An export of the same name that is refused for a parameter without a value. -/
def emptyShapesExport : ExportDecl :=
  { shapesExport with
    methods := [⟨"fill", [⟨"nothing", .unit, none, .synthetic⟩], .unit, none, .synthetic⟩] }

end Resolver

end NativeBridge

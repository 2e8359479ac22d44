import NativeBridge.Proofs.Export.Resolution
import NativeBridge.Proofs.TypeMap.Lookup

/-!
# What an export draws in

Every resolved position draws in modules and at most one registered type; the
subject of an export draws in its own. Nothing else does, and nothing gets lost on
the way from a position over its method to the class: `exportDraws_of_resolveExport`
says of a resolved export what its declaration draws in.
-/

namespace NativeBridge

/-- The path that a type names, itself or behind one reference or pointer. -/
def ManagedType.namedPath? : ManagedType → Option String
  | path name | ref _ (path name) | ptr _ (path name) => some name
  | _ => none

/-- A position as it is declared: its type and what is said about its native side. -/
structure DeclaredPosition where
  type : ManagedType
  native : Option NativeOverride

namespace DeclaredPosition

/-- The native name that the declaration gives to the position. -/
def name? (declared : DeclaredPosition) : Option String :=
  declared.native.bind NativeOverride.name

/-- The native module that the declaration names for the position. -/
def module? (declared : DeclaredPosition) : Option String :=
  declared.native.bind NativeOverride.module

/-- A registered type stands at the position, itself or behind one reference or pointer. -/
def Reaches (types : TypeMap) (declared : DeclaredPosition) (type : Blittable) : Prop :=
  ∃ path, declared.type.namedPath? = some path ∧ (ManagedType.path path).isUntyped = false ∧
    types.get? path = some type

/-- The position resolves. -/
def ResolvesTo (types : TypeMap) (declared : DeclaredPosition) (position : Position) : Prop :=
  ∃ context location,
    Position.resolve types declared.type declared.native context location = .ok position

/-- A reached type that is a path is the one that the type names. -/
theorem namedPath?_of_reach {override : NativeOverride} {type target : ManagedType}
    {passing : Passing} {isConst : Bool}
    (reached : Position.reach override type = some (target, passing, isConst))
    (isPath : target.isPath = true) :
    ∃ path, target = .path path ∧ type.namedPath? = some path := by
  cases target with
  | unit => cases isPath
  | ref mutable inner => cases isPath
  | ptr mutable inner => cases isPath
  | path path =>
      refine ⟨path, rfl, ?_⟩
      cases type with
      | unit => cases reached
      | path name =>
          cases reached
          rfl
      | ref mutable inner =>
          cases reached
          rfl
      | ptr mutable inner =>
          simp only [Position.reach, Option.some.injEq, Prod.mk.injEq] at reached
          rw [reached.1]
          rfl

/-- What a resolved position draws in: the named module, and unless a name is given the
module of the registered type; that type is used in any case. -/
theorem ResolvesTo.named {types : TypeMap} {declared : DeclaredPosition} {position : Position}
    (resolved : ResolvesTo types declared position) :
    (∀ name, position.usedType = some name ↔
      ∃ type, declared.Reaches types type ∧ type.managed = name) ∧
    ∀ module, module ∈ position.imports ↔ declared.module? = some module ∨
      declared.name? = none ∧
        ∃ type, declared.Reaches types type ∧ type.nativeModule = some module := by
  obtain ⟨context, location, ok⟩ := resolved
  obtain ⟨target, passing, isConst, base, imports, usedType, size, reached, isPath, named, -,
    rfl⟩ := Position.resolve_eq_ok_iff.mp ok
  obtain ⟨path, rfl, isNamed⟩ := namedPath?_of_reach reached isPath
  have nameOf : (declared.native.getD .none).name = declared.name? := by
    cases native : declared.native <;> simp [name?, native, NativeOverride.none]
  have moduleOf : (declared.native.getD .none).module = declared.module? := by
    cases native : declared.native <;> simp [module?, native, NativeOverride.none]
  have reaches : ∀ type, declared.Reaches types type ↔
      (ManagedType.path path).isUntyped = false ∧ types.get? path = some type := by
    simp [Reaches, isNamed]
  simp only [reaches]
  unfold Position.named? at named
  -- The untyped target uses no registered type, even if one has its name.
  split at named
  · rename_i untyped
    split at named
    · cases named
      simp [untyped, moduleOf]
    · cases named
  · rename_i typed
    have found : (ManagedType.path path).ident?.bind types.get? = types.get? path :=
      types.get?_lastSegment path
    simp only [Position.base?, found, nameOf] at named
    cases given : declared.name? with
    | some name =>
        rw [given] at named
        cases named
        cases types.get? path <;> simp [typed, moduleOf]
    | none =>
        cases mapped : types.get? path with
        | some type =>
            rw [given, mapped] at named
            cases named
            simp [typed, moduleOf]
        | none =>
            rw [given, mapped] at named
            obtain ⟨_, isPrimitive, made⟩ := Option.map_eq_some_iff.mp named
            obtain ⟨_, _, rfl⟩ := Option.map_eq_some_iff.mp isPrimitive
            cases made
            simp [moduleOf]

end DeclaredPosition

/-- The positions of a method: its parameters, and its return unless it returns nothing. -/
def MethodDecl.positions (decl : MethodDecl) : List DeclaredPosition :=
  decl.params.map (fun param => ⟨param.type, param.native⟩)
    ++ if decl.result.isUnit then [] else [⟨decl.result, decl.nativeReturn⟩]

namespace ExportDecl

/-- The positions of all methods. -/
def positions (decl : ExportDecl) : List DeclaredPosition :=
  decl.methods.flatMap MethodDecl.positions

/-- The subject of the export is a registered type. -/
def HasSubject (types : TypeMap) (decl : ExportDecl) (type : Blittable) : Prop :=
  ∃ subject, decl.subject = some subject ∧ types.get? subject = some type

/-- A registered type is the subject or stands at a position. -/
def UsesType (types : TypeMap) (decl : ExportDecl) (type : Blittable) : Prop :=
  decl.HasSubject types type ∨ ∃ position ∈ decl.positions, position.Reaches types type

/-- A registered type gives its native name to the export: it is the subject or stands at a
position without a native name of its own. -/
def MapsType (types : TypeMap) (decl : ExportDecl) (type : Blittable) : Prop :=
  decl.HasSubject types type ∨
    ∃ position ∈ decl.positions, position.name? = none ∧ position.Reaches types type

/-- A used type is found under its own name. -/
theorem UsesType.get?_managed {types : TypeMap} {decl : ExportDecl} {type : Blittable}
    (uses : decl.UsesType types type) : types.get? type.managed = some type := by
  rcases uses with ⟨subject, -, found⟩ | ⟨position, -, path, -, -, found⟩
  · exact TypeMap.get?_managed found
  · exact TypeMap.get?_managed found

/-- A position names a native module. -/
def NamesModule (decl : ExportDecl) (module : String) : Prop :=
  ∃ position ∈ decl.positions, position.module? = some module

end ExportDecl

namespace Uses

/-- Some positions draw in exactly these modules and types, each type once. -/
structure Collects (uses : Uses) (positions : List Position) : Prop where
  imports : ∀ module, module ∈ uses.imports ↔ ∃ position ∈ positions, module ∈ position.imports
  types : ∀ name, name ∈ uses.types ↔ ∃ position ∈ positions, position.usedType = some name
  distinct : uses.types.Nodup

/-- Types are added after those before them. -/
theorem mem_types_append {first second : Uses} {name : String} :
    name ∈ (first.append second).types ↔ name ∈ first.types ∨ name ∈ second.types := by
  obtain ⟨imports, types⟩ := first
  simp only [append]
  induction second.types generalizing types with
  | nil => simp
  | cons type rest ih =>
      rw [List.foldl_cons, ih, List.mem_cons]
      split
      · rename_i known
        have known : type ∈ types := by simpa using known
        constructor
        · rintro (before | later)
          · exact .inl before
          · exact .inr (.inr later)
        · rintro (before | rfl | later)
          · exact .inl before
          · exact .inl known
          · exact .inr later
      · rw [List.mem_append, List.mem_singleton, or_assoc]

/-- No type is added twice. -/
theorem nodup_types_append {first : Uses} (second : Uses) (distinct : first.types.Nodup) :
    (first.append second).types.Nodup := by
  obtain ⟨imports, types⟩ := first
  simp only [append]
  induction second.types generalizing types with
  | nil => exact distinct
  | cons type rest ih =>
      rw [List.foldl_cons]
      apply ih
      split
      · exact distinct
      · rename_i unknown
        have unknown : type ∉ types := by simpa using unknown
        exact List.nodup_append.mpr ⟨distinct, by simp,
          fun other isOther _ isType same => unknown (by simp_all)⟩

/-- No position draws nothing in. -/
theorem Collects.nil : empty.Collects [] where
  imports := by simp [empty]
  types := by simp [empty]
  distinct := List.nodup_nil

/-- One position draws in what is its own. -/
theorem Collects.single (position : Position) : (ofPosition position).Collects [position] where
  imports := by simp [ofPosition]
  types := by simp [ofPosition]
  distinct := by cases usedType : position.usedType <;> simp [ofPosition, usedType]

/-- Positions one after the other draw in what each of them does. -/
theorem Collects.append {first second : Uses} {before after : List Position}
    (collectsFirst : first.Collects before) (collectsSecond : second.Collects after) :
    (first.append second).Collects (before ++ after) where
  imports := by
    intro module
    simp only [Uses.append, List.mem_append, or_and_right, exists_or]
    rw [collectsFirst.imports, collectsSecond.imports]
  types := by
    intro name
    simp only [mem_types_append, List.mem_append, or_and_right, exists_or]
    rw [collectsFirst.types, collectsSecond.types]
  distinct := nodup_types_append second collectsFirst.distinct

end Uses

/-- What resolved declarations draw in is what the positions they resolve to draw in. -/
def DrawsIn (types : TypeMap) (declared : List DeclaredPosition) (uses : Uses) : Prop :=
  ∃ positions, List.Forall₂ (DeclaredPosition.ResolvesTo types) declared positions ∧
    uses.Collects positions

namespace DrawsIn

variable {types : TypeMap} {declared : List DeclaredPosition} {uses : Uses}

/-- Nothing declared draws nothing in. -/
theorem empty : DrawsIn types [] .empty :=
  ⟨[], .nil, .nil⟩

/-- A declared position draws in what it resolves to does. -/
theorem single {position : DeclaredPosition} {resolved : Position}
    (resolves : position.ResolvesTo types resolved) :
    DrawsIn types [position] (.ofPosition resolved) :=
  ⟨[resolved], .cons resolves .nil, .single resolved⟩

/-- Declarations one after the other draw in what each of them does. -/
theorem append {later : List DeclaredPosition} {laterUses : Uses}
    (first : DrawsIn types declared uses) (second : DrawsIn types later laterUses) :
    DrawsIn types (declared ++ later) (uses.append laterUses) := by
  obtain ⟨before, resolved, collects⟩ := first
  obtain ⟨after, resolvedLater, collectsLater⟩ := second
  exact ⟨before ++ after, List.rel_append resolved resolvedLater, collects.append collectsLater⟩

/-- A property of what is drawn in, said of the declared positions. -/
theorem exists_iff {property : Position → Prop} {declaredProperty : DeclaredPosition → Prop}
    {positions : List Position}
    (resolved : List.Forall₂ (DeclaredPosition.ResolvesTo types) declared positions)
    (same : ∀ declared position, DeclaredPosition.ResolvesTo types declared position →
      (property position ↔ declaredProperty declared)) :
    (∃ position ∈ positions, property position) ↔
      ∃ position ∈ declared, declaredProperty position := by
  induction resolved with
  | nil => simp
  | cons first _ ih => simp only [List.exists_mem_cons_iff, same _ _ first, ih]

/-- The types that are drawn in are those that stand at the positions. -/
theorem mem_types_iff (drawsIn : DrawsIn types declared uses) (name : String) :
    name ∈ uses.types ↔
      ∃ position ∈ declared, ∃ type, position.Reaches types type ∧ type.managed = name := by
  obtain ⟨positions, resolved, collects⟩ := drawsIn
  rw [collects.types]
  exact exists_iff resolved fun _ _ resolves => resolves.named.1 name

/-- The modules that are drawn in are those that positions name, and those of the types that
stand at a position without a native name of its own. -/
theorem mem_imports_iff (drawsIn : DrawsIn types declared uses) (module : String) :
    module ∈ uses.imports ↔
      ∃ position ∈ declared, position.module? = some module ∨ position.name? = none ∧
        ∃ type, position.Reaches types type ∧ type.nativeModule = some module := by
  obtain ⟨positions, resolved, collects⟩ := drawsIn
  rw [collects.imports]
  exact exists_iff resolved fun _ _ resolves => resolves.named.2 module

end DrawsIn

/-- A parameter draws in what its position does. -/
theorem resolvesTo_of_resolveParam {types : TypeMap} {className method : String}
    {seen : List String} {decl : ParamDecl} {position : Position}
    (ok : resolveParam types className method seen decl = .ok position) :
    DeclaredPosition.ResolvesTo types ⟨decl.type, decl.native⟩ position := by
  simp only [resolveParam] at ok
  split at ok
  · cases ok
  · split at ok
    · cases ok
    · exact ⟨_, _, ok⟩

/-- Parameters without a fault draw in what their positions do. -/
theorem drawsIn_of_resolveParams {types : TypeMap} {className method : String}
    {seen : List String} {decls : List ParamDecl} {params : List Parameter} {uses : Uses}
    (ok : resolveParams types className method seen decls = (params, uses, [])) :
    DrawsIn types (decls.map fun param => ⟨param.type, param.native⟩) uses := by
  induction decls generalizing seen params uses with
  | nil =>
      cases ok
      exact .empty
  | cons decl rest ih =>
      rw [resolveParams_cons] at ok
      rcases tail : resolveParams types className method (decl.name :: seen) rest with
        ⟨params', uses', faults⟩
      rw [tail] at ok
      cases own : resolveParam types className method seen decl with
      | error fault => simp [own] at ok
      | ok position =>
          simp only [own, Prod.mk.injEq] at ok
          obtain ⟨-, rfl, rfl⟩ := ok
          exact (DrawsIn.single (resolvesTo_of_resolveParam own)).append (ih tail)

/-- A return draws in what its position does, and nothing if nothing is returned. -/
theorem drawsIn_of_resolveReturn {types : TypeMap} {className : String} {decl : MethodDecl}
    {result : ReturnSlot} {uses : Uses}
    (ok : resolveReturn types className decl = .ok (result, uses)) :
    DrawsIn types (if decl.result.isUnit then [] else [⟨decl.result, decl.nativeReturn⟩])
      uses := by
  simp only [resolveReturn] at ok
  split at ok
  · rename_i unit
    cases ok
    rw [unit]
    exact .empty
  · cases ok
  all_goals
    rename_i type
    split at ok
    · cases ok
    · rename_i position resolved
      cases ok
      rw [type] at resolved ⊢
      exact .single ⟨_, _, resolved⟩

/-- A method draws in what its positions do. -/
theorem drawsIn_of_resolveMethod {types : TypeMap} {countsReturn : Bool} {className : String}
    {decl : MethodDecl} {method : ExportedMethod} {uses : Uses}
    (ok : resolveMethod types countsReturn className decl = .ok (method, uses)) :
    DrawsIn types decl.positions uses := by
  unfold resolveMethod at ok
  rcases params : resolveParams types className decl.name [] decl.params with
    ⟨resolved, paramUses, faults⟩
  rw [params] at ok
  cases result : resolveReturn types className decl with
  | error fault => simp [result] at ok
  | ok pair =>
      obtain ⟨slot, resultUses⟩ := pair
      simp only [result] at ok
      split at ok
      · rename_i noFault
        rw [List.isEmpty_iff.mp noFault] at params
        cases ok
        exact (drawsIn_of_resolveParams params).append (drawsIn_of_resolveReturn result)
      · cases ok

/-- A method that resolves among others resolves by itself. -/
theorem resolveMethod_of_resolveNextMethod {types : TypeMap} {countsReturn : Bool}
    {className : String} {seen : List String} {decl : MethodDecl}
    {resolved : ExportedMethod × Uses}
    (ok : resolveNextMethod types countsReturn className seen decl = .ok resolved) :
    resolveMethod types countsReturn className decl = .ok resolved := by
  simp only [resolveNextMethod] at ok
  split at ok
  · cases ok
  · split at ok
    · cases ok
    · exact ok

/-- Methods without a fault draw in what their positions do. -/
theorem drawsIn_of_resolveMethods {types : TypeMap} {countsReturn : Bool} {className : String}
    {seen : List String} {decls : List MethodDecl} {methods : List ExportedMethod}
    {uses : Uses}
    (ok : resolveMethods types countsReturn className seen decls = (methods, uses, [])) :
    DrawsIn types (decls.flatMap MethodDecl.positions) uses := by
  induction decls generalizing seen methods uses with
  | nil =>
      cases ok
      exact .empty
  | cons decl rest ih =>
      rw [resolveMethods_cons] at ok
      rcases tail : resolveMethods types countsReturn className (seenAfter seen decl) rest with
        ⟨methods', uses', faults⟩
      rw [tail] at ok
      cases own : resolveNextMethod types countsReturn className seen decl with
      | error found =>
          simp only [own, Prod.mk.injEq, List.append_eq_nil_iff] at ok
          exact absurd ok.2.2.1 (resolveNextMethod_error_ne_nil own)
      | ok resolved =>
          obtain ⟨method, ownUses⟩ := resolved
          simp only [own, Prod.mk.injEq] at ok
          obtain ⟨-, rfl, rfl⟩ := ok
          exact (drawsIn_of_resolveMethod (resolveMethod_of_resolveNextMethod own)).append
            (ih tail)

/-- A subject draws in its own type and module. -/
theorem resolveSubject_uses (types : TypeMap) (decl : ExportDecl) :
    (resolveSubject types decl).2.1.types.Nodup ∧
    (∀ name, name ∈ (resolveSubject types decl).2.1.types ↔
      ∃ type, decl.HasSubject types type ∧ type.managed = name) ∧
    ∀ module, module ∈ (resolveSubject types decl).2.1.imports ↔
      ∃ type, decl.HasSubject types type ∧ type.nativeModule = some module := by
  unfold resolveSubject ExportDecl.HasSubject
  cases decl.subject with
  | none => simp [Uses.empty]
  | some subject =>
      cases found : types.get? subject with
      | none => simp [Uses.empty, found]
      | some type => simp [found, eq_comm]

/-- What a resolved export draws in: every registered type that it uses, once, and every
module that a position names or that a mapped type lives in. -/
structure ExportDraws (types : TypeMap) (decl : ExportDecl) (cls : ExportedClass) : Prop where
  distinct : cls.usedTypes.Nodup
  usedTypes : ∀ name, name ∈ cls.usedTypes ↔
    ∃ type, decl.UsesType types type ∧ type.managed = name
  imports : ∃ modules, cls.imports = sortedDistinct modules ∧ ∀ module, module ∈ modules ↔
    decl.NamesModule module ∨ ∃ type, decl.MapsType types type ∧ type.nativeModule = some module

/-- What is found under the name of a used type is used by the declaration. -/
theorem ExportDraws.uses_of_found {types : TypeMap} {decl : ExportDecl} {cls : ExportedClass}
    (draws : ExportDraws types decl cls) {name : String} (isUsed : name ∈ cls.usedTypes)
    {type : Blittable} (found : types.get? name = some type) : decl.UsesType types type := by
  obtain ⟨used, uses, named⟩ := (draws.usedTypes name).mp isUsed
  have foundUsed : types.get? name = some used := named ▸ uses.get?_managed
  cases foundUsed.symm.trans found
  exact uses

/-- The parts of an export draw in what the export does. -/
theorem exportDraws_of_resolveExport {types : TypeMap} {countsReturn : Bool}
    {decl : ExportDecl} {cls : ExportedClass}
    (ok : resolveExport types countsReturn decl = .ok cls) : ExportDraws types decl cls := by
  obtain ⟨distinct, subjectTypes, subjectImports⟩ := resolveSubject_uses types decl
  unfold resolveExport at ok
  rcases subject : resolveSubject types decl with ⟨mapped, subjectUses, subjectFaults⟩
  rcases methods : resolveMethods types countsReturn decl.name [] decl.methods with
    ⟨resolved, uses, faults⟩
  rw [subject] at distinct subjectTypes subjectImports
  simp only [subject, methods] at ok
  split at ok
  · rename_i noFault
    rw [(List.append_eq_nil_iff.mp (List.isEmpty_iff.mp noFault)).2] at methods
    have drawsIn := drawsIn_of_resolveMethods methods
    cases ok
    refine ⟨Uses.nodup_types_append uses distinct, fun name => ?_, _, rfl, fun module => ?_⟩
    · rw [Uses.mem_types_append, subjectTypes, drawsIn.mem_types_iff]
      constructor
      · rintro (⟨type, isSubject, named⟩ | ⟨position, isPosition, type, reaches, named⟩)
        · exact ⟨type, .inl isSubject, named⟩
        · exact ⟨type, .inr ⟨position, isPosition, reaches⟩, named⟩
      · rintro ⟨type, isSubject | ⟨position, isPosition, reaches⟩, named⟩
        · exact .inl ⟨type, isSubject, named⟩
        · exact .inr ⟨position, isPosition, type, reaches, named⟩
    · rw [Uses.append, List.mem_append, subjectImports, drawsIn.mem_imports_iff]
      constructor
      · rintro (⟨type, isSubject, lives⟩ |
          ⟨position, isPosition, names | ⟨unnamed, type, reaches, lives⟩⟩)
        · exact .inr ⟨type, .inl isSubject, lives⟩
        · exact .inl ⟨position, isPosition, names⟩
        · exact .inr ⟨type, .inr ⟨position, isPosition, unnamed, reaches⟩, lives⟩
      · rintro (⟨position, isPosition, names⟩ |
          ⟨type, isSubject | ⟨position, isPosition, unnamed, reaches⟩, lives⟩)
        · exact .inr ⟨position, isPosition, .inl names⟩
        · exact .inl ⟨type, isSubject, lives⟩
        · exact .inr ⟨position, isPosition, .inr ⟨unnamed, type, reaches, lives⟩⟩
  · cases ok

end NativeBridge

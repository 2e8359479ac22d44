import NativeBridge.BindingError
import NativeBridge.Export.ExportedClass
import NativeBridge.TypeMap.Basic

/-!
# Resolving exports

Every position of a declaration is resolved on its own against the type map; a
method and an export collect the faults of their parts in order. Across exports
only the qualified names seen so far matter.
-/

namespace NativeBridge

/-- Method names that the generated stubs need for themselves. -/
def reservedMethodNames : List String :=
  ["resolve_all", "call_sites"]

/-- What resolving one position settles: the native type, the passing, the slot
size, the modules it needs and the registered type it uses. -/
structure Position where
  native : NativeType
  passing : Passing
  size : Nat
  imports : List String
  usedType : Option String

namespace Position

/-- The type that is passed, how, and whether the native side is const. -/
def reach (override : NativeOverride) : ManagedType → Option (ManagedType × Passing × Bool)
  | .unit => none
  | .path path => some (.path path, .value, false)
  | .ref mutable target => some (target, .reference, !mutable || override.isConst)
  | .ptr mutable target =>
      some (target, if override.byRef then .reference else .pointer,
        !mutable || override.isConst)

/-- The native base name of a passed type, with the module and the registered
type that it draws in. -/
def base? (types : TypeMap) (override : NativeOverride) (target : ManagedType) :
    Option (String × Option String × Option String) :=
  let mapped := target.ident?.bind types.get?
  match override.name with
  | some name => some (name, none, mapped.map Blittable.managed)
  | none =>
      match mapped with
      | some type => some (type.nativeName, type.nativeModule, some type.managed)
      | none => target.primitive?.map fun primitive => (primitive.nativeName, none, none)

/-- Resolves one position of type `type`. -/
def resolve (types : TypeMap) (type : ManagedType) (declared : Option NativeOverride)
    (context : String) (location : Location) : Except BindingError Position :=
  let override := declared.getD .none
  let unsupported (reason : String) : Except BindingError Position :=
    .error (.unsupportedType type.text context reason location)
  match reach override type with
  | none => unsupported "unit cannot be passed"
  | some (target, passing, isConst) =>
      let finish (base : String) (imports : List String) (usedType : Option String) :
          Except BindingError Position :=
        let native := NativeType.make base passing.indirection isConst
        match passing with
        | .value =>
            match types.layoutOfType? target with
            | some layout => .ok ⟨native, passing, layout.size, imports, usedType⟩
            | none =>
                .error (.unregisteredType target.text (context ++ " (by-value size unknown)")
                  location)
        | .reference | .pointer =>
            .ok ⟨native, passing, types.target.pointerSize, imports, usedType⟩
      if !target.isPath then unsupported "only one level of indirection is supported"
      else if target.isUntyped then
        if passing != .pointer then unsupported "`c_void` can only be passed by pointer"
        else finish (override.name.getD "void") override.module.toList none
      else
        match base? types override target with
        | none => .error (.unregisteredType target.text context location)
        | some (base, module, usedType) =>
            finish base (override.module.toList ++ module.toList) usedType

end Position

/-- The modules and registered types that a class draws in. -/
structure Uses where
  imports : List String
  types : List String

namespace Uses

/-- Nothing drawn in. -/
def empty : Uses :=
  ⟨[], []⟩

/-- What one position draws in. -/
def ofPosition (position : Position) : Uses :=
  ⟨position.imports, position.usedType.toList⟩

/-- One after the other; a type counts at its first use. -/
def append (first second : Uses) : Uses :=
  ⟨first.imports ++ second.imports,
    second.types.foldl (fun types type => if types.contains type then types else types ++ [type])
      first.types⟩

end Uses

/-- The parameters that resolve and every fault of the others. A repeated name is
reported and not resolved. -/
def resolveParams (types : TypeMap) (className method : String) (seen : List String) :
    List ParamDecl → List Parameter × Uses × List BindingError
  | [] => ([], .empty, [])
  | param :: rest =>
      let context := "parameter `" ++ param.name ++ "` of `" ++ className ++ "::" ++ method ++ "`"
      let fault (error : BindingError) : List Parameter × Uses × List BindingError :=
        let (params, uses, errors) :=
          resolveParams types className method (param.name :: seen) rest
        (params, uses, error :: errors)
      if seen.contains param.name then
        fault (.duplicateParameter className method param.name param.location)
      else if param.type.isUnit then
        fault (.unsupportedType "()" context "parameters cannot be unit" param.location)
      else
        match Position.resolve types param.type param.native context param.location with
        | .error error => fault error
        | .ok position =>
            let (params, uses, errors) :=
              resolveParams types className method (param.name :: seen) rest
            (⟨param.name, param.type, position.native, position.passing, position.size⟩
                :: params,
              (Uses.ofPosition position).append uses, errors)

/-- The return slot of a method. -/
def resolveReturn (types : TypeMap) (className : String) (method : MethodDecl) :
    Except BindingError (ReturnSlot × Uses) :=
  let context := "return type of `" ++ className ++ "::" ++ method.name ++ "`"
  match method.result with
  | .unit => .ok (.void, .empty)
  | .ref _ _ =>
      .error (.unsupportedType method.result.text context
        "references cannot be returned across the boundary, return a pointer" method.location)
  | .path _ | .ptr _ _ =>
      match Position.resolve types method.result method.nativeReturn context method.location with
      | .error error => .error error
      | .ok position =>
          .ok (⟨method.result, position.native, position.size⟩, Uses.ofPosition position)

/-- Resolves a method; the return slot counts into the block only if asked for. -/
def resolveMethod (types : TypeMap) (countsReturn : Bool) (className : String)
    (method : MethodDecl) : Except (List BindingError) (ExportedMethod × Uses) :=
  let (params, uses, errors) := resolveParams types className method.name [] method.params
  match resolveReturn types className method with
  | .error error => .error (errors ++ [error])
  | .ok (result, resultUses) =>
      if errors.isEmpty then
        let slots := params.foldl (fun size param => size + param.size) 0
        .ok (⟨method.name, Naming.pascalCase method.name, Naming.snakeCase method.name, params,
          result, if countsReturn then slots + result.size else slots, method.location⟩,
          uses.append resultUses)
      else .error errors

/-- The methods that resolve and every fault of the others; `seen` holds the
exported names taken so far. -/
def resolveMethods (types : TypeMap) (countsReturn : Bool) (className : String)
    (seen : List String) : List MethodDecl → List ExportedMethod × Uses × List BindingError
  | [] => ([], .empty, [])
  | method :: rest =>
      let exportName := Naming.pascalCase method.name
      let fault (seen : List String) (found : List BindingError) :
          List ExportedMethod × Uses × List BindingError :=
        let (methods, uses, errors) := resolveMethods types countsReturn className seen rest
        (methods, uses, found ++ errors)
      if reservedMethodNames.contains method.name then
        fault seen [.invalidDeclaration
          ("method `" ++ method.name ++ "` of `" ++ className ++ "` clashes with the generated `"
            ++ className ++ "Binds::" ++ method.name ++ "`") method.location]
      else if seen.contains exportName then
        fault seen [.duplicateMethod className method.name method.location]
      else
        match resolveMethod types countsReturn className method with
        | .error errors => fault (exportName :: seen) errors
        | .ok (resolved, own) =>
            let (methods, uses, errors) :=
              resolveMethods types countsReturn className (exportName :: seen) rest
            (resolved :: methods, own.append uses, errors)

/-- What the subject of an export settles: the native namespace that it maps to
and what it draws in. -/
def resolveSubject (types : TypeMap) (decl : ExportDecl) :
    Option String × Uses × List BindingError :=
  match decl.subject with
  | none => (none, .empty, [])
  | some subject =>
      match types.get? subject with
      | some type => (type.nativeNamespace?, ⟨type.nativeModule.toList, [type.managed]⟩, [])
      | none =>
          (none, .empty, [.unregisteredType subject ("subject of export `" ++ decl.name ++ "`")
            decl.location])

/-- Resolves an export on its own. -/
def resolveExport (types : TypeMap) (countsReturn : Bool) (decl : ExportDecl) :
    Except (List BindingError) ExportedClass :=
  let (mappedNamespace, subjectUses, subjectErrors) := resolveSubject types decl
  let (methods, methodUses, methodErrors) :=
    resolveMethods types countsReturn decl.name [] decl.methods
  let errors := subjectErrors ++ methodErrors
  if errors.isEmpty then
    let uses := subjectUses.append methodUses
    .ok ⟨decl.name, decl.managedNamespace, decl.nativeNamespace, mappedNamespace, decl.kind,
      methods, sortedDistinct uses.imports, uses.types, decl.location⟩
  else .error errors

/-- The qualified names seen so far, each with the place of its first declaration. -/
structure Resolver where
  types : TypeMap
  countsReturn : Bool
  seen : List (String × Location)

namespace Resolver

/-- A resolver that has seen no export. -/
def start (types : TypeMap) (countsReturn : Bool) : Resolver :=
  ⟨types, countsReturn, []⟩

/-- Resolves the next export; a qualified name seen before is a fault of its own. -/
def resolve (resolver : Resolver) (decl : ExportDecl) :
    Except (List BindingError) ExportedClass × Resolver :=
  let key := decl.qualifiedName
  let outcome := resolveExport resolver.types resolver.countsReturn decl
  match resolver.seen.lookup key with
  | none => (outcome, { resolver with seen := (key, decl.location) :: resolver.seen })
  | some first =>
      let duplicate := BindingError.duplicateExport key first decl.location
      match outcome with
      | .ok _ => (.error [duplicate], resolver)
      | .error errors => (.error (duplicate :: errors), resolver)

/-- The classes and the faults of a run of exports, in order. -/
def resolveEach (resolver : Resolver) :
    List ExportDecl → List ExportedClass × List BindingError
  | [] => ([], [])
  | decl :: rest =>
      let (outcome, next) := resolver.resolve decl
      let (classes, errors) := next.resolveEach rest
      match outcome with
      | .ok cls => (cls :: classes, errors)
      | .error found => (classes, found ++ errors)

/-- All classes of a run of exports, or every fault. -/
def resolveAll (resolver : Resolver) (decls : List ExportDecl) :
    Except (List BindingError) (List ExportedClass) :=
  let (classes, errors) := resolver.resolveEach decls
  if errors.isEmpty then .ok classes else .error errors

end Resolver

end NativeBridge

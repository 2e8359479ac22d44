import NativeBridge.Config.Basic
import NativeBridge.Export.ExportedClass

/-!
# Native functions behind exported methods

The kind of an export decides where its functions live: those of a class in a
namespace of their own, the others beside the class under a longer name.
-/

namespace NativeBridge.Stub

/-- The module that owns the registration of functions; fragments of other modules import it. -/
def scriptingModule : String :=
  "retro.scripting"

/-- The rest of a text after a leading part, if it begins with it. -/
def afterLeading? : List Char → List Char → Option (List Char)
  | [], rest => some rest
  | _ :: _, [] => none
  | l :: leading, c :: rest => if l = c then afterLeading? leading rest else none

/-- A native name as it may be written inside a namespace. -/
def relativeTo (name namespaceName : String) : String :=
  if namespaceName.isEmpty then name
  else match afterLeading? (namespaceName ++ "::").toList name.toList with
    | some rest => String.ofList rest
    | none => name

/-- A native type as it may be written inside a namespace. -/
def typeWithin (namespaceName : String) (type : NativeType) : NativeType :=
  type.withBase (relativeTo type.base namespaceName)

/-- The native function of a method, without its namespace. -/
def functionName (cls : ExportedClass) (nativeName : String) : String :=
  match cls.kind with
  | .«class» => nativeName
  | .struct | .record => cls.snakeName ++ "_" ++ nativeName

/-- The namespace that directly holds the native functions of a class. -/
def functionNamespace (cls : ExportedClass) : String :=
  match cls.kind with
  | .«class» => Path.qualify cls.nativeNamespace cls.snakeName
  | .struct | .record => cls.nativeNamespace

/-- The native function of a method with its namespace. -/
def functionPath (cls : ExportedClass) (nativeName : String) : String :=
  Path.qualify (functionNamespace cls) (functionName cls nativeName)

/-- A native function as it is declared: result, name and named parameters. -/
structure NativeFunction where
  result : NativeType
  name : String
  params : List (NativeType × String)

/-- The written declaration. -/
def NativeFunction.text (function : NativeFunction) : String :=
  function.result.text ++ " " ++ function.name ++ "("
    ++ ", ".intercalate (function.params.map fun (type, name) => type.declarator name) ++ ")"

/-- The declaration of a method inside the native namespace of its class. -/
def declaration (cls : ExportedClass) (method : ExportedMethod) : NativeFunction where
  result := typeWithin cls.nativeNamespace method.result.native
  name := functionName cls method.nativeName
  params := method.params.map fun param =>
    (typeWithin cls.nativeNamespace param.native, param.name)

/-- The signature of a method as seen from outside every namespace. -/
def signature (cls : ExportedClass) (method : ExportedMethod) : NativeFunction where
  result := method.result.native
  name := functionPath cls method.nativeName
  params := method.params.map fun param => (param.native, param.name)

/-- The file that holds the native stub of a class. -/
def nativeFileName (cls : ExportedClass) : String :=
  match cls.kind with
  | .record => cls.snakeName ++ ".h"
  | .«class» | .struct => cls.snakeName ++ ".ixx"

/-- The file that holds the managed stub of a class. -/
def managedFileName (cls : ExportedClass) : String :=
  cls.snakeName ++ ".rs"

/-- The structure that implements an exported trait. -/
def bindsName (cls : ExportedClass) : String :=
  cls.name ++ "Binds"

/-- Modules that a unit of the configured module imports, in ascending order: the
modules it needs other than its own, and the scripting module. -/
def unitImports (config : Config) (needed : List String) : List String :=
  let others := needed.filter fun module => module != config.moduleName
  let all := if config.moduleName == scriptingModule then others else others ++ [scriptingModule]
  sortedDistinct all

end NativeBridge.Stub

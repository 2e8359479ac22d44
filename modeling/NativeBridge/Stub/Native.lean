import NativeBridge.Stub.Asserted
import NativeBridge.Stub.Lines
import NativeBridge.Stub.NativeFunction

/-!
# The native stub of a class

Classes and structures are declared in a fragment of the configured module,
records in a header with C linkage. Every stub ends with assertions on the
layouts of the registered types that the class uses.
-/

namespace NativeBridge.Stub

/-- The declarations of a class, one per method, after an indentation. -/
def declarationLines (cls : ExportedClass) (indent : String) : List String :=
  cls.methods.map fun method => indent ++ (declaration cls method).text ++ ";"

/-- A fragment of the configured module. -/
def fragmentLines (config : Config) (cls : ExportedClass) : List String :=
  let imports := unitImports config cls.imports
  let space := functionNamespace cls
  ["module;", "", "#include <cstddef>", "",
    "export module " ++ config.moduleName ++ ":" ++ config.fragmentName cls.snakeName ++ ";"]
  ++ (if imports.isEmpty then [] else "" :: imports.map fun module => "import " ++ module ++ ";")
  ++ ["", if space.isEmpty then "export" else "export namespace " ++ space, "\x7b"]
  ++ declarationLines cls "    "
  ++ ["\x7d"]

/-- A header with C linkage. -/
def headerLines (config : Config) (cls : ExportedClass) : List String :=
  let imports := unitImports config cls.imports
  let space := functionNamespace cls
  let linkage (indent : String) : List String :=
    [indent ++ "extern \"C\"", indent ++ "\x7b"]
    ++ declarationLines cls (indent ++ "    ") ++ [indent ++ "\x7d"]
  ["#pragma once", "", "#include <cstddef>"]
  ++ (if imports.isEmpty then [] else ["", "// Requires modules: " ++ commaList imports])
  ++ [""]
  ++ (if space.isEmpty then linkage ""
    else ["namespace " ++ space, "\x7b"] ++ linkage "    " ++ ["\x7d"])

/-- The assertions on one type. -/
def assertedLines (asserted : AssertedType) : List String :=
  let name := asserted.type.nativeName
  ("static_assert(sizeof(" ++ name ++ ") == " ++ toString asserted.layout.layout.size ++ ", \""
    ++ name ++ " does not match the managed layout\");")
  :: asserted.layout.fields.map fun field =>
    "static_assert(offsetof(" ++ name ++ ", " ++ field.name ++ ") == " ++ toString field.offset
      ++ ", \"" ++ name ++ "::" ++ field.name ++ " is misplaced\");"

/-- The native stub of a class. -/
def nativeStub (types : TypeMap) (config : Config) (cls : ExportedClass) : List String :=
  let asserted := assertedTypes types cls
  bannerOf cls.qualifiedName
  :: (match cls.kind with
    | .«class» | .struct => fragmentLines config cls
    | .record => headerLines config cls)
  ++ (if asserted.isEmpty then [] else "" :: asserted.flatMap assertedLines)

end NativeBridge.Stub

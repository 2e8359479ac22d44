import NativeBridge.Stub.BlockSize
import NativeBridge.Stub.Lines
import NativeBridge.Stub.NativeFunction

/-!
# Files of a whole run

The registration unit hands every exported function to the host, the native
index gathers the fragments, and the managed index gathers the managed stubs.
-/

namespace NativeBridge.Stub

/-- The function that registers everything. -/
def registerFunction : String :=
  "register_script_binds"

/-- The module partition of the native index. -/
def indexPartition (config : Config) : String :=
  config.fragmentPrefix.getD "index"

/-- The module partition of the registration unit. -/
def registrationPartition (config : Config) : String :=
  config.fragmentName "registration"

/-- The size of one slot in native code. -/
def nativeSizeText : SlotTerm → String
  | .pointer => "sizeof(void*)"
  | .value typeName => "sizeof(" ++ typeName ++ ")"

/-- The slots of the parameter block of a method, as the registration unit writes them. -/
def registrationSlots (config : Config) (method : ExportedMethod) : List SlotTerm :=
  let within (type : NativeType) : String := relativeTo type.base config.generatedNamespace
  let params := method.params.map fun param =>
    SlotTerm.ofPassing param.passing (within param.native)
  let result := SlotTerm.ofPassing
    (if method.result.native.isIndirect then .pointer else .value) (within method.result.native)
  if countsReturn config method then params ++ [result] else params

/-- One function handed to the host. -/
structure RegisteredFunction where
  exportName : String
  functionPath : String
  slots : List SlotTerm

/-- The functions of one class, registered under its module name. -/
structure RegisteredModule where
  handle : String
  moduleName : String
  functions : List RegisteredFunction

/-- What the registration unit registers for a class. -/
def registeredModule (config : Config) (cls : ExportedClass) : RegisteredModule where
  handle := cls.snakeName ++ "_name"
  moduleName := cls.moduleName
  functions := cls.methods.map fun method =>
    ⟨method.exportName, functionPath cls method.nativeName, registrationSlots config method⟩

/-- The statements that register one module. -/
def RegisteredModule.lines (entry : RegisteredModule) : List String :=
  ("    const Name " ++ entry.handle ++ " = u\"" ++ entry.moduleName ++ "\";")
  :: entry.functions.map fun function =>
    "    BindsManager::register_exported_function(" ++ entry.handle ++ ", ExportedFunction(u\""
      ++ function.exportName ++ "\", &" ++ function.functionPath ++ ", "
      ++ sumText nativeSizeText function.slots ++ "));"

/-- The statements of all modules; an indentation does not reach empty lines. -/
def registrationBody (config : Config) (indent : String) (classes : List ExportedClass) :
    List String :=
  spaced (classes.map fun cls =>
    (registeredModule config cls).lines.map fun line => indent ++ line)

/-- The headers of the records among the classes. -/
def recordHeaders (classes : List ExportedClass) : List String :=
  (classes.filter fun cls => cls.kind == .record).map nativeFileName

/-- The registration unit. -/
def registrationUnit (config : Config) (classes : List ExportedClass) : List String :=
  let headers := recordHeaders classes
  let space := config.generatedNamespace
  let indent := if space.isEmpty then "" else "    "
  banner
  :: (if headers.isEmpty then []
    else ["module;", ""] ++ headers.map (fun header => "#include \"" ++ header ++ "\"") ++ [""])
  ++ ["module " ++ config.moduleName ++ ":" ++ registrationPartition config ++ ";", "",
    "import :" ++ indexPartition config ++ ";"]
  ++ (unitImports config (classes.flatMap ExportedClass.imports)).map
    (fun module => "import " ++ module ++ ";")
  ++ [""]
  ++ (if space.isEmpty then [] else ["namespace " ++ space, "\x7b"])
  ++ [indent ++ "void " ++ registerFunction ++ "()", indent ++ "\x7b"]
  ++ registrationBody config indent classes
  ++ [indent ++ "\x7d"]
  ++ (if space.isEmpty then [] else ["\x7d"])

/-- The classes that are fragments of the module. -/
def fragments (classes : List ExportedClass) : List ExportedClass :=
  classes.filter fun cls => cls.kind != .record

/-- The partition that gathers the fragments. -/
def nativeIndex (config : Config) (classes : List ExportedClass) : List String :=
  let imports := (fragments classes).map fun cls =>
    "export import :" ++ config.fragmentName cls.snakeName ++ ";"
  let space := config.generatedNamespace
  [banner, "export module " ++ config.moduleName ++ ":" ++ indexPartition config ++ ";", ""]
  ++ (if imports.isEmpty then [] else imports ++ [""])
  ++ (if space.isEmpty then ["export void " ++ registerFunction ++ "();"]
    else ["export namespace " ++ space, "\x7b", "    void " ++ registerFunction ++ "();", "\x7d"])

/-- The managed module that gathers the managed stubs. -/
def managedIndex (classes : List ExportedClass) : List String :=
  banner :: classes.flatMap fun cls =>
    ["", "pub mod " ++ cls.snakeName ++ " \x7b",
      "    include!(\"" ++ managedFileName cls ++ "\");", "\x7d",
      "pub use " ++ cls.snakeName ++ "::" ++ bindsName cls ++ ";"]

end NativeBridge.Stub

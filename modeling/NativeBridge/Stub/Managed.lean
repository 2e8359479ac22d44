import NativeBridge.Stub.Asserted
import NativeBridge.Stub.BlockSize
import NativeBridge.Stub.Lines
import NativeBridge.Stub.NativeFunction

/-!
# The managed stub of a class

The managed stub is a structure that implements the declared trait: every method
resolves its call site once and forwards its arguments to the native function.
Block sizes and layouts are asserted against the values of the type map.
-/

namespace NativeBridge.Stub

/-- The type map and the configuration that a managed stub is written for. -/
structure ManagedContext where
  types : TypeMap
  config : Config

namespace ManagedContext

/-- An item of a scanned module as generated code reaches it. -/
def itemPath (context : ManagedContext) (namespaceName item : String) : String :=
  Path.qualify context.config.cratePath (Path.qualify namespaceName item)

/-- Beginnings of paths that mean the same everywhere. -/
def absoluteBeginnings : List String :=
  ["::", "crate::", "std::", "core::", "alloc::"]

/-- A path that means the same everywhere. -/
def isAbsolute (path : String) : Bool :=
  absoluteBeginnings.any fun beginning => (afterLeading? beginning.toList path.toList).isSome

/-- A named type as generated code for a class reaches it. -/
def namedType (context : ManagedContext) (cls : ExportedClass) (path : String) : String :=
  let type := ManagedType.path path
  if type.isUntyped then type.text
  else if type.primitive?.isSome then path
  else match type.ident?.bind context.types.get? with
    | some mapped => context.itemPath mapped.managedNamespace mapped.managed
    | none => if isAbsolute path then path else context.itemPath cls.managedNamespace path

/-- A managed type as generated code for a class writes it. -/
def typeText (context : ManagedContext) (cls : ExportedClass) : ManagedType → String
  | .unit => "()"
  | .path path => context.namedType cls path
  | .ref mutable target => (if mutable then "&mut " else "&") ++ context.typeText cls target
  | .ptr mutable target => (if mutable then "*mut " else "*const ") ++ context.typeText cls target

/-- A managed type in the signature of the native function, where references are raw pointers. -/
def foreignType (context : ManagedContext) (cls : ExportedClass) : ManagedType → String
  | .ref mutable target => context.typeText cls (.ptr mutable target)
  | type => context.typeText cls type

/-- The slots of the parameter block of a method, in order. -/
def slots (context : ManagedContext) (cls : ExportedClass) (method : ExportedMethod) :
    List SlotTerm :=
  let params := method.params.map fun param =>
    SlotTerm.ofPassing param.passing (context.typeText cls param.managed)
  let result := SlotTerm.ofPassing
    (if method.result.managed.isIndirect then .pointer else .value)
    (context.typeText cls method.result.managed)
  if countsReturn context.config method then params ++ [result] else params

end ManagedContext

/-- The size of one slot in managed code. -/
def managedSizeText : SlotTerm → String
  | .pointer => "::core::mem::size_of::<*const ()>()"
  | .value typeName => "::core::mem::size_of::<" ++ typeName ++ ">()"

/-- The field that holds the call site of a method. -/
def siteField (method : ExportedMethod) : String :=
  "__site_" ++ method.name

/-- The constant that holds the block size of a method. -/
def blockConst (method : ExportedMethod) : String :=
  Text.upperText method.name ++ "_BLOCK_SIZE"

/-- The structure with the registry and one call site per method. -/
def structLines (context : ManagedContext) (cls : ExportedClass) : List String :=
  let runtime := context.config.runtimePath
  ["/// Managed call stubs for the native `" ++ cls.moduleName ++ "` exports.",
    "pub struct " ++ bindsName cls ++ " \x7b",
    "    __registry: ::std::sync::Arc<" ++ runtime ++ "::BindingRegistry>,"]
  ++ cls.methods.map (fun method => "    " ++ siteField method ++ ": " ++ runtime ++ "::CallSite,")
  ++ ["\x7d"]

/-- The constants of the structure: the module name and the block sizes. -/
def constLines (context : ManagedContext) (cls : ExportedClass) : List String :=
  ["    /// Registry module name.",
    "    pub const MODULE: &'static str = \"" ++ cls.moduleName ++ "\";"]
  ++ cls.methods.flatMap fun method =>
    ["",
      "    /// Parameter block of `" ++ method.exportName ++ "`.",
      "    pub const " ++ blockConst method ++ ": usize = "
        ++ sumText managedSizeText (context.slots cls method) ++ ";"]

/-- The constructor. -/
def newLines (context : ManagedContext) (cls : ExportedClass) : List String :=
  let runtime := context.config.runtimePath
  ["    pub fn new(registry: ::std::sync::Arc<" ++ runtime ++ "::BindingRegistry>) -> Self \x7b",
    "        Self \x7b",
    "            __registry: registry,"]
  ++ cls.methods.map (fun method =>
    "            " ++ siteField method ++ ": " ++ runtime ++ "::CallSite::new(Self::MODULE, \""
      ++ method.exportName ++ "\", Self::" ++ blockConst method ++ "),")
  ++ ["        \x7d", "    \x7d"]

/-- The function that resolves every call site at once. -/
def resolveAllLines (context : ManagedContext) (cls : ExportedClass) : List String :=
  ["    /// Resolve every export now instead of on first call.",
    "    pub fn resolve_all(&self) -> ::core::result::Result<(), " ++ context.config.runtimePath
      ++ "::BindError> \x7b"]
  ++ cls.methods.map (fun method =>
    "        self." ++ siteField method ++ ".get_or_resolve(&self.__registry)?;")
  ++ ["        ::core::result::Result::Ok(())", "    \x7d"]

/-- The function that lists the call sites. -/
def callSitesLines (context : ManagedContext) (cls : ExportedClass) : List String :=
  ["    /// Call sites in declaration order.",
    "    pub fn call_sites(&self) -> [&" ++ context.config.runtimePath ++ "::CallSite; "
      ++ toString cls.methods.length ++ "] \x7b",
    "        [" ++ commaList (cls.methods.map fun method => "&self." ++ siteField method) ++ "]",
    "    \x7d"]

/-- An argument of the native call for a parameter. -/
def argumentText (param : Parameter) : String :=
  match param.managed with
  | .ref false _ => "::core::ptr::from_ref(" ++ param.name ++ ")"
  | .ref true _ => "::core::ptr::from_mut(" ++ param.name ++ ")"
  | _ => param.name

/-- The implementation of one method. -/
def methodLines (context : ManagedContext) (cls : ExportedClass) (method : ExportedMethod) :
    List String :=
  let params := "&self" :: method.params.map fun param =>
    param.name ++ ": " ++ context.typeText cls param.managed
  let result :=
    if method.result.isVoid then "" else " -> " ++ context.typeText cls method.result.managed
  ["    /// Native: `" ++ (signature cls method).text ++ "`",
    "    fn " ++ method.name ++ "(" ++ commaList params ++ ")" ++ result ++ " \x7b",
    "        let __bound = match self." ++ siteField method
      ++ ".get_or_resolve(&self.__registry) \x7b",
    "            ::core::result::Result::Ok(bound) => bound,",
    "            ::core::result::Result::Err(err) => panic!(\"\x7berr\x7d\"),",
    "        \x7d;",
    "        // SAFETY: the host resolved this export for the same parameter block.",
    "        unsafe \x7b",
    "            let __f: unsafe extern \"C\" fn("
      ++ commaList (method.params.map fun param => context.foreignType cls param.managed) ++ ")"
      ++ result ++ " = __bound.as_fn();",
    "            __f(" ++ commaList (method.params.map argumentText) ++ ")",
    "        \x7d",
    "    \x7d"]

/-- The assertions that every used type is blittable. -/
def blittableLines (context : ManagedContext) (cls : ExportedClass) : List String :=
  if cls.usedTypes.isEmpty then []
  else
    ["", "const _: () = \x7b"]
    ++ (cls.usedTypes.filterMap context.types.get?).map (fun type =>
      "    " ++ context.config.runtimePath ++ "::assert_blittable::<"
        ++ context.itemPath type.managedNamespace type.managed ++ ">();")
    ++ ["\x7d;"]

/-- The assertions on block sizes and layouts, which hold for one pointer width. -/
def layoutLines (context : ManagedContext) (cls : ExportedClass) : List String :=
  ["",
    "#[cfg(target_pointer_width = \"" ++ toString (context.config.pointerWidth * 8) ++ "\")]",
    "const _: () = \x7b"]
  ++ cls.methods.map (fun method =>
    "    assert!(" ++ bindsName cls ++ "::" ++ blockConst method ++ " == "
      ++ toString method.blockSize ++ ");")
  ++ (assertedTypes context.types cls).flatMap (fun asserted =>
    let path := context.itemPath asserted.type.managedNamespace asserted.type.managed
    ("    assert!(::core::mem::size_of::<" ++ path ++ ">() == "
      ++ toString asserted.layout.layout.size ++ ");")
    :: asserted.layout.fields.map fun field =>
      "    assert!(::core::mem::offset_of!(" ++ path ++ ", " ++ field.name ++ ") == "
        ++ toString field.offset ++ ");")
  ++ ["\x7d;"]

/-- The managed stub of a class. -/
def managedStub (context : ManagedContext) (cls : ExportedClass) : List String :=
  [bannerOf cls.qualifiedName, ""]
  ++ structLines context cls
  ++ ["", "impl " ++ bindsName cls ++ " \x7b"]
  ++ spaced [constLines context cls, newLines context cls, resolveAllLines context cls,
    callSitesLines context cls]
  ++ ["\x7d", "",
    "impl " ++ context.itemPath cls.managedNamespace cls.name ++ " for " ++ bindsName cls
      ++ " \x7b"]
  ++ spaced (cls.methods.map (methodLines context cls))
  ++ ["\x7d"]
  ++ blittableLines context cls
  ++ layoutLines context cls

end NativeBridge.Stub

import NativeBridge.Location
import NativeBridge.ManagedType

/-!
# Declared exports

An export declares the functions of one native class as methods with managed
types, each position open to an override of its native side.
-/

namespace NativeBridge

/-- What kind of native entity stands behind an export. -/
inductive ExportKind where
  | «class» | struct | record
  deriving DecidableEq, Repr, Inhabited

namespace ExportKind

/-- The written name of a kind. -/
def name : ExportKind → String
  | «class» => "class"
  | struct => "struct"
  | record => "record"

/-- The kind with a written name. -/
def ofName? : String → Option ExportKind
  | "class" => some «class»
  | "struct" => some struct
  | "record" => some record
  | _ => none

end ExportKind

/-- What a declaration says about the native side of a position. -/
structure NativeOverride where
  name : Option String
  module : Option String
  byRef : Bool
  isConst : Bool
  deriving DecidableEq, Repr, Inhabited

namespace NativeOverride

/-- An override that changes nothing. -/
def none : NativeOverride :=
  ⟨.none, .none, false, false⟩

end NativeOverride

/-- A declared parameter. -/
structure ParamDecl where
  name : String
  type : ManagedType
  native : Option NativeOverride
  location : Location
  deriving DecidableEq, Repr, Inhabited

/-- A declared method. -/
structure MethodDecl where
  name : String
  params : List ParamDecl
  result : ManagedType
  nativeReturn : Option NativeOverride
  location : Location
  deriving DecidableEq, Repr, Inhabited

/-- A declared export. -/
structure ExportDecl where
  name : String
  managedNamespace : String
  nativeNamespace : Option String
  kind : ExportKind
  subject : Option String
  methods : List MethodDecl
  location : Location
  deriving DecidableEq, Repr, Inhabited

namespace ExportDecl

/-- The name below the managed namespace, by which exports are told apart. -/
def qualifiedName (decl : ExportDecl) : String :=
  Path.qualify decl.managedNamespace decl.name

end ExportDecl

end NativeBridge

import NativeBridge.Export.Declaration
import NativeBridge.Naming
import NativeBridge.NativeType

/-!
# Resolved exports

A resolved export knows for every position its native type and the size of its
slot in the parameter block.
-/

namespace NativeBridge

/-- How a parameter is handed over. -/
inductive Passing where
  | value | reference | pointer
  deriving DecidableEq, Repr, Inhabited

/-- The indirection of native positions that are passed this way. -/
def Passing.indirection : Passing → Indirection
  | value => .value
  | reference => .reference
  | pointer => .pointer

/-- A resolved parameter. -/
structure Parameter where
  name : String
  managed : ManagedType
  native : NativeType
  passing : Passing
  size : Nat
  deriving DecidableEq

/-- A resolved return. -/
structure ReturnSlot where
  managed : ManagedType
  native : NativeType
  size : Nat
  deriving DecidableEq

namespace ReturnSlot

/-- The return of methods that return nothing. -/
def void : ReturnSlot :=
  ⟨.unit, .void, 0⟩

/-- Nothing is returned. -/
def isVoid (slot : ReturnSlot) : Bool :=
  slot.managed.isUnit

end ReturnSlot

/-- The entries in ascending order, each once. -/
def sortedDistinct (entries : List String) : List String :=
  (entries.mergeSort fun left right => !(right < left)).eraseReps

/-- A resolved method. -/
structure ExportedMethod where
  name : String
  exportName : String
  nativeName : String
  params : List Parameter
  result : ReturnSlot
  blockSize : Nat
  location : Location
  deriving DecidableEq

/-- A resolved export. -/
structure ExportedClass where
  name : String
  managedNamespace : String
  nativeNamespaceOverride : Option String
  mappedNamespace : Option String
  kind : ExportKind
  methods : List ExportedMethod
  imports : List String
  usedTypes : List String
  location : Location
  deriving DecidableEq

namespace ExportedClass

/-- The declared native namespace, else that of the subject, else the managed one. -/
def nativeNamespace (cls : ExportedClass) : String :=
  (cls.nativeNamespaceOverride.or cls.mappedNamespace).getD cls.managedNamespace

/-- The name under which the host registers the methods. -/
def moduleName (cls : ExportedClass) : String :=
  cls.name

/-- The snake-case name, used for files. -/
def snakeName (cls : ExportedClass) : String :=
  Naming.snakeCase cls.name

/-- The name below the managed namespace. -/
def qualifiedName (cls : ExportedClass) : String :=
  Path.qualify cls.managedNamespace cls.name

end ExportedClass

end NativeBridge

/-!
# Native functions at run time

A native function is known by the module and the name under which a host exports
it, and by the size of its parameter block. Binding gives it an address.
-/

namespace NativeBridge.Binding

/-- The module and the name under which a function is exported. -/
structure ExportName where
  module : String
  function : String
  deriving DecidableEq, Repr, Inhabited

/-- An address of native code, which is never zero. -/
structure Address where
  word : UInt64
  ne_zero : word ≠ 0
  deriving DecidableEq, Repr

/-- The address in a word; zero holds none. -/
def Address.ofWord? (word : UInt64) : Option Address :=
  if ne_zero : word ≠ 0 then some ⟨word, ne_zero⟩ else none

/-- The word for an address that may be missing. -/
def Address.toWord : Option Address → UInt64
  | some address => address.word
  | none => 0

/-- A function whose address is known for a size of its parameter block. -/
structure Bound where
  address : Address
  name : ExportName
  size : Nat
  deriving DecidableEq, Repr

/-- Why a function cannot be bound or a host not be set up. -/
inductive Fault where
  /-- A registry has a host already. -/
  | alreadyInitialized
  /-- A registry has no host yet. -/
  | notInitialized (name : ExportName)
  /-- The host has no such function with a block of that size. -/
  | notFound (name : ExportName) (size : Nat)
  /-- The size is larger than a host can be asked for. -/
  | blockTooLarge (name : ExportName) (size : Nat)
  /-- A table of exports has two functions of one name. -/
  | duplicateExport (name : ExportName)
  /-- A table of exports has a function without an address. -/
  | nullExport (name : ExportName)
  /-- The process has a table of exports already. -/
  | alreadyInstalled
  deriving DecidableEq, Repr, Inhabited

/-- The text of a fault. -/
def Fault.message : Fault → String
  | alreadyInitialized => "binding registry is already initialized"
  | notInitialized name =>
      "binding registry is not initialized (resolving " ++ name.function ++ " in " ++ name.module
        ++ ")"
  | notFound name size =>
      "Failed to find bound function " ++ name.function ++ " in " ++ name.module
        ++ " (expected parameter block of " ++ toString size ++ " bytes)"
  | blockTooLarge name size =>
      "parameter block of " ++ toString size ++ " bytes for " ++ name.module ++ "::"
        ++ name.function ++ " exceeds the host limit"
  | duplicateExport name =>
      "native export " ++ name.function ++ " in " ++ name.module ++ " is registered more than once"
  | nullExport name =>
      "native export " ++ name.function ++ " in " ++ name.module ++ " has a null address"
  | alreadyInstalled => "a native export table is already installed"

end NativeBridge.Binding

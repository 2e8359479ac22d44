import NativeBridge.Binding.Basic

/-!
# What the engine exports

Three modules, with the size of the parameter block of every function. A block
holds the arguments one after another: 4 bytes for a word or a single float, 8 for an
entity, a pointer, 16 for a color, 24 for a transform and 1 for a log level.
-/

namespace NativeBridge.Engine

open NativeBridge.Binding

/-- A module of the engine: its functions with the sizes of their blocks. -/
structure Interface where
  module : String
  functions : List (String × Nat)
  deriving Repr

/-- The functions of a module with their full names. -/
def Interface.exports (interface : Interface) : List (ExportName × Nat) :=
  interface.functions.map fun (function, size) => (⟨interface.module, function⟩, size)

/-- Arithmetic. -/
def mathModule : Interface :=
  ⟨"MathModule", [("Add", 4 + 4), ("Lerp", 4 + 4 + 4), ("Sum", 8 + 4)]⟩

/-- Entities. -/
def entityModule : Interface :=
  ⟨"EntityExporter",
    [("Spawn", 24), ("Despawn", 8), ("GetTransform", 8 + 8), ("Translate", 8 + 8),
      ("SetTint", 8 + 16), ("Tint", 8)]⟩

/-- The log. -/
def logModule : Interface :=
  ⟨"LogExporter", [("Write", 1 + 8 + 4), ("SetMinLevel", 1)]⟩

/-- Everything that the engine exports. -/
def exports : List (ExportName × Nat) :=
  mathModule.exports ++ entityModule.exports ++ logModule.exports

end NativeBridge.Engine

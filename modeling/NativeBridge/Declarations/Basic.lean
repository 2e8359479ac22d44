import NativeBridge.Blittable
import NativeBridge.Export.Declaration

/-!
# Declarations

A run starts from what its source files declare.
-/

namespace NativeBridge

/-- What source files declare: blittable types and exports, in source order. -/
structure Declarations where
  blittables : List Blittable
  exports : List ExportDecl
  deriving DecidableEq, Repr, Inhabited

namespace Declarations

/-- No declarations. -/
def empty : Declarations :=
  ⟨[], []⟩

/-- Nothing is declared. -/
def isEmpty (declarations : Declarations) : Bool :=
  declarations.blittables.isEmpty && declarations.exports.isEmpty

/-- The declarations of one place after those of another. -/
def append (first second : Declarations) : Declarations :=
  ⟨first.blittables ++ second.blittables, first.exports ++ second.exports⟩

end Declarations

end NativeBridge

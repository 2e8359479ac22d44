import NativeBridge.Export.ExportedClass
import NativeBridge.TypeMap.Basic

/-!
# Layouts that both stubs assert

Each side of a class states the size and the field offsets of the registered
types that the class uses, taken from the same type map.
-/

namespace NativeBridge.Stub

/-- A used type with the layout that is asserted of it. -/
structure AssertedType where
  type : Blittable
  layout : StructLayout

/-- The used types of a class with their layouts, in the order of first use. -/
def assertedTypes (types : TypeMap) (cls : ExportedClass) : List AssertedType :=
  cls.usedTypes.filterMap fun name =>
    match types.get? name, types.layoutOf? name with
    | some type, some layout => some ⟨type, layout⟩
    | _, _ => none

end NativeBridge.Stub

import NativeBridge.Config.Basic
import NativeBridge.Export.ExportedClass

/-!
# Sizes of parameter blocks as sums

Both sides spell the size of a parameter block as a sum with one term per slot:
the size of a pointer or the size of a type passed by value.
-/

namespace NativeBridge.Stub

/-- One slot of a parameter block. -/
inductive SlotTerm where
  /-- A slot that holds a pointer. -/
  | pointer
  /-- A slot that holds a value of a named type. -/
  | value (typeName : String)
  deriving DecidableEq, Repr, Inhabited

/-- The slot of a position that is passed this way. -/
def SlotTerm.ofPassing (passing : Passing) (typeName : String) : SlotTerm :=
  match passing with
  | .value => .value typeName
  | .reference | .pointer => .pointer

/-- The written sum; an empty block has size zero. -/
def sumText (term : SlotTerm → String) (slots : List SlotTerm) : String :=
  if slots.isEmpty then "0" else " + ".intercalate (slots.map term)

/-- The return of a method takes a slot only if the configuration counts it. -/
def countsReturn (config : Config) (method : ExportedMethod) : Bool :=
  config.includeReturnSlot && !method.result.isVoid

end NativeBridge.Stub

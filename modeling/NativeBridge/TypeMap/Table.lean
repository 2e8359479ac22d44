import NativeBridge.Blittable

/-!
# The table of registered types

Types are registered one by one under their managed name. Registering the same
mapping again changes nothing; another mapping for a known name is refused.
-/

namespace NativeBridge

/-- The blittable types registered so far, in order. -/
structure TypeTable where
  target : Target
  types : List Blittable
  deriving Repr, Inhabited

namespace TypeTable

/-- A table without types. -/
def empty (target : Target) : TypeTable :=
  ⟨target, []⟩

/-- The type registered under exactly this name. -/
def find? (table : TypeTable) (managed : String) : Option Blittable :=
  table.types.find? fun type => type.managed == managed

/-- Some type has this name. -/
def contains (table : TypeTable) (managed : String) : Bool :=
  (table.find? managed).isSome

/-- The table with one more type. -/
def register (table : TypeTable) (type : Blittable) : Except BindingError TypeTable :=
  match table.find? type.managed with
  | none => .ok { table with types := table.types ++ [type] }
  | some existing =>
      if existing.sameMapping type then .ok table
      else .error (.conflictingMapping type.managed existing.nativeName existing.location
        type.location)

/-- Registers types in turn; a refused one is reported and left out. -/
def registerAll (table : TypeTable) : List Blittable → TypeTable × List BindingError
  | [] => (table, [])
  | type :: rest =>
      match table.register type with
      | .ok next => next.registerAll rest
      | .error error =>
          let (next, errors) := table.registerAll rest
          (next, error :: errors)

end TypeTable

end NativeBridge

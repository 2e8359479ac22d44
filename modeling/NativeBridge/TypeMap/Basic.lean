import NativeBridge.TypeMap.LayoutPass

/-!
# The type map

A table becomes a type map when every registered type has a layout. Look-ups go
by the last segment of a path.
-/

namespace NativeBridge

/-- The registered types, each with its layout. -/
structure TypeMap where
  target : Target
  types : List Blittable
  layouts : List (String × StructLayout)
  deriving Repr, Inhabited

/-- The type map of a table, or every fault that the layout pass found. -/
def TypeTable.build (table : TypeTable) : Except (List BindingError) TypeMap :=
  let pass := LayoutPass.run table
  if pass.errors.isEmpty then .ok ⟨table.target, table.types, pass.layouts⟩
  else .error pass.errors

namespace TypeMap

/-- The type registered under the last segment of a path. -/
def get? (map : TypeMap) (path : String) : Option Blittable :=
  let ident := Path.lastSegment path
  map.types.find? fun type => type.managed == ident

/-- The native name of a registered type. -/
def nativeName? (map : TypeMap) (path : String) : Option String :=
  (map.get? path).map Blittable.nativeName

/-- Some registered type answers to the path. -/
def contains (map : TypeMap) (path : String) : Bool :=
  (map.get? path).isSome

/-- The layout of a registered type. -/
def layoutOf? (map : TypeMap) (path : String) : Option StructLayout :=
  (map.get? path).bind fun type => map.layouts.lookup type.managed

/-- The layout of any managed type; a primitive spelling goes before a registered name. -/
def layoutOfType? (map : TypeMap) (type : ManagedType) : Option Layout :=
  match type with
  | .unit => none
  | .ref _ _ | .ptr _ _ => some (.pointer map.target)
  | .path path =>
      match type.primitive? with
      | some primitive => some (primitive.layout map.target)
      | none => (map.layoutOf? path).map StructLayout.layout

end TypeMap

end NativeBridge

import NativeBridge.BindingError

/-!
# Blittable types

A blittable type is copied across the boundary bit by bit: a structure with C
layout or an enumeration over an integer.
-/

namespace NativeBridge

/-- A field of a blittable structure. -/
structure BlittableField where
  name : String
  type : ManagedType
  location : Location
  deriving DecidableEq, Repr, Inhabited

/-- What a blittable type consists of. -/
inductive BlittableShape where
  /-- A structure with its fields in order. -/
  | record (fields : List BlittableField)
  /-- An enumeration, its representation and its variants in order. -/
  | enumeration (repr : Primitive) (variants : List String)
  deriving DecidableEq, Repr, Inhabited

namespace BlittableShape

/-- The names and types of a structure, without the places. -/
def signature (fields : List BlittableField) : List (String × ManagedType) :=
  fields.map fun field => (field.name, field.type)

/-- Equality up to the places of fields. -/
def sameAs : BlittableShape → BlittableShape → Bool
  | record fields, record others => signature fields == signature others
  | enumeration repr variants, enumeration otherRepr otherVariants =>
      repr == otherRepr && variants == otherVariants
  | _, _ => false

end BlittableShape

/-- A managed type with its native counterpart. -/
structure Blittable where
  managed : String
  managedNamespace : String
  nativeName : String
  nativeModule : Option String
  shape : BlittableShape
  location : Location
  deriving DecidableEq, Repr, Inhabited

namespace Blittable

/-- The managed name below its namespace. -/
def managedPath (type : Blittable) : String :=
  Path.qualify type.managedNamespace type.managed

/-- The namespace part of the native name. -/
def nativeNamespace? (type : Blittable) : Option String :=
  (Path.splitLast type.nativeName).map Prod.fst

/-- An enumeration. -/
def isEnumeration (type : Blittable) : Bool :=
  match type.shape with
  | .enumeration _ _ => true
  | .record _ => false

/-- The same native side and shape, wherever declared. -/
def sameMapping (type other : Blittable) : Bool :=
  type.nativeName == other.nativeName && type.nativeModule == other.nativeModule
    && type.shape.sameAs other.shape

end Blittable

end NativeBridge

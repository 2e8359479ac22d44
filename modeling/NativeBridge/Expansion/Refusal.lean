import NativeBridge.Source.Fault

/-!
# Why an annotated item is refused

The compiler refuses an annotated item that the generator could not use.
-/

namespace NativeBridge.Expansion

open Source

/-- What is wrong with an annotated item. -/
inductive Cause where
  /-- The annotations cannot be read. -/
  | unreadable (fault : Fault)
  /-- An export with generic parameters. -/
  | genericExport
  /-- A member of an export that is no method. -/
  | notMethod
  /-- A method with generic parameters. -/
  | genericMethod
  /-- A method that runs later. -/
  | asyncMethod
  /-- A method with a body. -/
  | methodBody
  /-- A method without its receiver by reference. -/
  | missingReceiver
  /-- A parameter that is more than a name. -/
  | patternParameter
  /-- A blittable type with generic parameters. -/
  | genericType
  /-- A structure without the layout of C. -/
  | structLayout (name : String)
  /-- A structure without named fields. -/
  | structFields
  /-- An enumeration without an integer. -/
  | enumInteger (name : String)
  /-- An enumeration that carries more than its variants. -/
  | enumFields
  /-- A union. -/
  | union
  deriving DecidableEq, Repr, Inhabited

/-- The text of a cause. -/
def Cause.message : Cause → String
  | unreadable fault => fault.message
  | genericExport => "exported traits cannot be generic"
  | notMethod => "exported traits may only contain methods"
  | genericMethod => "exported methods cannot be generic"
  | asyncMethod => "exported methods cannot be async"
  | methodBody => "exported methods are implemented natively and cannot have a body"
  | missingReceiver => "exported methods must take `&self`"
  | patternParameter => "exported parameters must be plain identifiers"
  | genericType => "blittable types cannot be generic"
  | structLayout name => "blittable struct `" ++ name ++ "` must be #[repr(C)]"
  | structFields => "blittable structs must have named fields"
  | enumInteger name =>
      "blittable enum `" ++ name ++ "` needs an integer #[repr(..)] or #[repr(C)]"
  | enumFields => "blittable enums must be fieldless"
  | union => "unions cannot be blittable"

/-- A cause with its place. -/
structure Refusal where
  cause : Cause
  region : Region
  deriving DecidableEq, Repr, Inhabited

namespace Refusal

/-- An annotation that cannot be read. -/
def ofFault (fault : Fault) : Refusal :=
  ⟨.unreadable fault, fault.region⟩

/-- A value read from an annotation, its fault as a refusal. -/
def lift {α : Type} (result : Except Fault α) : Except Refusal α :=
  result.mapError ofFault

end Refusal

/-- The parts of a text with single blanks between them. -/
def words (text : String) : List String :=
  text.splitOn " "

/-- The check that a type is blittable, by the parts of the type. -/
def blittableCheck (type : List String) : List String :=
  words ": : retro_binds_core : : assert_blittable : : <" ++ type ++ words "> ( ) ;"

end NativeBridge.Expansion

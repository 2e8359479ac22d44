import NativeBridge.Annotation.Blittable
import NativeBridge.Declarations.Basic

/-!
# Declared types

Structures and enumerations that derive a blittable mapping are declared types.
A type that derives none is no concern of the generator.
-/

namespace NativeBridge

open Source

/-- A fault of the form of a declaration at a region of a file. -/
def BindingError.ofForm (file message : String) (region : Region) : BindingError :=
  .invalidDeclaration message (region.location file)

/-- A fault in the text of an annotation. -/
def BindingError.ofFault (file : String) (fault : Fault) : BindingError :=
  .ofForm file fault.message fault.region

/-- A value read from an annotation, its fault as a fault of the declaration. -/
def declared {α : Type} (file : String) (result : Except Fault α) : Except BindingError α :=
  result.mapError (.ofFault file)

/-- The managed type that is written; whatever cannot cross the boundary is refused. -/
def ManagedType.ofForm (file : String) : TypeForm → Except BindingError ManagedType
  | .path leading segments isGeneric region =>
      if isGeneric then .error (.ofForm file "generic types cannot cross the boundary" region)
      else .ok (.path ((if leading then "::" else "") ++ "::".intercalate segments))
  | .reference hasLifetime mutable target region =>
      if hasLifetime then
        .error (.ofForm file "references in exports cannot name a lifetime" region)
      else (.ref mutable) <$> ofForm file target
  | .pointer mutable target _ => (.ptr mutable) <$> ofForm file target
  | .unit _ => .ok .unit
  | .enclosed inner _ => ofForm file inner
  | .other region =>
      .error (.ofForm file "unsupported type syntax in a binding declaration" region)

/-- What a declared type says about itself besides its shape. -/
structure TypeHeader where
  naming : NativeNaming
  repr : Representation
  deriving DecidableEq, Repr, Inhabited

/-- What a type says about itself, if it is a declared type. -/
def typeHeader (file : String) (attrs : List Attribute) (name : Parser.Name)
    (generics : GenericsForm) : Except BindingError (Option TypeHeader) := do
  if !(← declared file (derives "Blittable" attrs)) then return none
  if generics.hasParams then
    throw (.ofForm file ("blittable type `" ++ name.text ++ "` cannot be generic") generics.region)
  let naming ← declared file (NativeNaming.ofAttributes attrs)
  let repr ← declared file (Representation.ofAttributes attrs)
  return some ⟨naming, repr⟩

/-- A declared type of a shape. Without a name of its own the native type is called the same. -/
def TypeHeader.blittable (header : TypeHeader) (file space : String) (name : Parser.Name)
    (shape : BlittableShape) : Blittable where
  managed := name.text
  managedNamespace := space
  nativeName := header.naming.name.getD name.text
  nativeModule := header.naming.module
  shape := shape
  location := name.region.location file

/-- A field of a declared structure. -/
def declaredField (file : String) (field : FieldForm) : Except BindingError BlittableField := do
  let type ← ManagedType.ofForm file field.type
  return ⟨field.name.text, type, field.name.region.location file⟩

/-- The declared type that a structure is, if it is one. -/
def declaredStruct (file space : String) (form : StructForm) :
    Except BindingError (Option Blittable) := do
  let some header ← typeHeader file form.attrs form.name form.generics | return none
  let label := "blittable struct `" ++ form.name.text ++ "` must "
  if !header.repr.isC then throw (.ofForm file (label ++ "be #[repr(C)]") form.name.region)
  match form.fields with
  | .named fields =>
      let fields ← fields.mapM (declaredField file)
      return some (header.blittable file space form.name (.record fields))
  | _ => throw (.ofForm file (label ++ "have named fields") form.name.region)

/-- The name of a variant of a declared enumeration, which carries nothing. -/
def declaredVariant (file : String) (owner : Parser.Name) (variant : VariantForm) :
    Except BindingError String :=
  if variant.hasFields then
    .error (.ofForm file
      ("variant `" ++ owner.text ++ "::" ++ variant.name.text
        ++ "` carries data; blittable enums must be fieldless")
      variant.name.region)
  else .ok variant.name.text

/-- The declared type that an enumeration is, if it is one. -/
def declaredEnum (file space : String) (form : EnumForm) :
    Except BindingError (Option Blittable) := do
  let some header ← typeHeader file form.attrs form.name form.generics | return none
  let some repr := header.repr.enumeration?
    | throw (.ofForm file
        ("blittable enum `" ++ form.name.text ++ "` needs an integer #[repr(..)] or #[repr(C)]")
        form.name.region)
  let variants ← form.variants.mapM (declaredVariant file form.name)
  return some (header.blittable file space form.name (.enumeration repr variants))

end NativeBridge

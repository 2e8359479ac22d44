import NativeBridge.Annotation.Blittable
import NativeBridge.Expansion.Refusal
import NativeBridge.Source.ArgumentOrder
import NativeBridge.Text.Escaped

/-!
# Expansion of blittable types

A blittable type is followed by its mapping and by a check that all its fields
are blittable.
-/

namespace NativeBridge.Expansion

open Source

/-- The fields of a structure that can be blittable. -/
def blittableFields (form : StructForm) (repr : Representation) :
    Except Refusal (List FieldForm) := do
  if !repr.isC then throw ⟨.structLayout form.name.text, form.name.region⟩
  match form.fields with
  | .named fields => return fields
  | .positional region => throw ⟨.structFields, region⟩
  | .none => throw ⟨.structFields, .origin⟩

/-- Refuses an enumeration that cannot be blittable. -/
def checkEnum (form : EnumForm) (repr : Representation) : Except Refusal Unit := do
  if repr.enumeration?.isNone then throw ⟨.enumInteger form.name.text, form.name.region⟩
  match form.variants.find? VariantForm.hasFields with
  | some variant => throw ⟨.enumFields, variant.region⟩
  | none => return

/-- The mapping of a type with a name, as the parts of its implementation. -/
def mapping (name : String) (naming : NativeNaming) : List String :=
  words "unsafe impl : : retro_binds_core : : Blittable for" ++ [name, "\x7b"]
    ++ words "const NATIVE_NAME : & ' static str ="
    ++ [Text.quoted (naming.name.getD name), ";"]
    ++ words "const NATIVE_MODULE : : : core : : option : : Option < & ' static str > ="
    ++ words ": : core : : option : : Option : :"
    ++ (match naming.module with
      | some module => ["Some", "(", Text.quoted module, ")"]
      | none => ["None"])
    ++ [";", "\x7d"]

/-- The check of the types of some fields. -/
def fieldChecks (fields : List FieldForm) : List String :=
  words "const _ : ( ) =" ++ ["\x7b"]
    ++ fields.flatMap (fun field => blittableCheck (Tree.typeParts field.typeTrees))
    ++ ["\x7d", ";"]

/-- The attributes, the name and the generic parameters of an item. -/
def derivedHead : DerivedForm → List Attribute × Parser.Name × GenericsForm
  | .struct form => (form.attrs, form.name, form.generics)
  | .enumeration form => (form.attrs, form.name, form.generics)
  | .union attrs name generics _ => (attrs, name, generics)

/-- The fields whose types have to be checked. -/
def checkedFields (form : DerivedForm) (repr : Representation) :
    Except Refusal (List FieldForm) :=
  match form with
  | .struct form => blittableFields form repr
  | .enumeration form => (fun () => []) <$> checkEnum form repr
  | .union _ _ _ keyword => throw ⟨.union, keyword⟩

/-- What a blittable type says about its native side, and the fields to be checked. -/
def derivedMapping (form : DerivedForm) : Except Refusal (NativeNaming × List FieldForm) := do
  let (attrs, _, generics) := derivedHead form
  if generics.hasParams then throw ⟨.genericType, generics.region⟩
  let naming ← Refusal.lift (NativeNaming.ofAttributes attrs)
  let repr ← Refusal.lift (Representation.ofAttributes attrs)
  return (naming, ← checkedFields form repr)

/-- The parts that follow a blittable type. -/
def expandBlittable (form : DerivedForm) : Except Refusal (List String) := do
  let (naming, fields) ← derivedMapping form
  return mapping (derivedHead form).2.1.text naming ++ fieldChecks fields

/-- The parts that follow the type of a text; nothing if it cannot be read. -/
def expandBlittableText (item : String) : Option (Except Refusal (List String)) :=
  (readText? derivedRule item).map expandBlittable

end NativeBridge.Expansion

import NativeBridge.Source.ArgumentOrder
import NativeBridge.Source.Form

/-!
# The written parts of traits

A trait is written again from its form, part by part. Angle brackets without
parameters are left out.
-/

namespace NativeBridge.Source

/-- The written parts of some attributes. -/
def Attribute.partsAll (attrs : List Attribute) : List String :=
  attrs.flatMap fun attr => Tree.partsAll attr.trees

/-- The written parts of generic parameters. -/
def GenericsForm.parts (generics : GenericsForm) : List String :=
  if generics.hasParams then Tree.partsAll generics.trees else []

/-- The attributes of an argument. -/
def ArgumentForm.attrs : ArgumentForm → List Attribute
  | receiver attrs _ _ _ | typed attrs _ _ _ | variadic attrs _ => attrs

/-- The trees of an argument after its attributes. -/
def ArgumentForm.trees : ArgumentForm → List Tree
  | receiver _ _ _ trees | typed _ _ _ trees | variadic _ trees => trees

/-- The written parts of an argument. -/
def ArgumentForm.parts (argument : ArgumentForm) : List String :=
  Attribute.partsAll argument.attrs ++ Tree.typeParts argument.trees

namespace MethodForm

/-- The written parts of the arguments with what follows each of them. -/
def argumentParts (method : MethodForm) : List String :=
  method.arguments.flatMap fun (argument, separator) =>
    argument.parts ++ Tree.partsAll separator

/-- The written parts of a method. -/
def parts (method : MethodForm) : List String :=
  Attribute.partsAll method.attrs ++ Tree.partsAll method.head ++ method.generics.parts
    ++ ["("] ++ method.argumentParts ++ [")"] ++ Tree.typeParts method.result
    ++ Tree.typeParts method.conditions ++ Tree.partsAll method.ending

end MethodForm

/-- The written parts of a member of a trait. -/
def TraitItemForm.parts : TraitItemForm → List String
  | method form => form.parts
  | other trees _ => Tree.partsAll trees

/-- The written parts of a trait. -/
def TraitForm.parts (form : TraitForm) : List String :=
  Attribute.partsAll form.attrs ++ Tree.partsAll form.head ++ form.generics.parts
    ++ Tree.typeParts form.bounds ++ Tree.typeParts form.conditions
    ++ ["\x7b"] ++ Attribute.partsAll form.innerAttrs
    ++ form.items.flatMap TraitItemForm.parts ++ ["\x7d"]

end NativeBridge.Source

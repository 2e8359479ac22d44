import NativeBridge.Source.Attribute

/-!
# Forms of items

Items are kept as far as declarations need them: names, attributes, the shape of
types, and for traits the trees between the parts that may be taken out. All
other items are read and forgotten.
-/

namespace NativeBridge.Source

open NativeBridge.Source.Parser (Name)

/-- A type as written. -/
inductive TypeForm where
  /-- A path of names; `isGeneric` tells that some segment has arguments. -/
  | path (leading : Bool) (segments : List String) (isGeneric : Bool) (region : Region)
  /-- A reference. -/
  | reference (hasLifetime mutable : Bool) (target : TypeForm) (region : Region)
  /-- A raw pointer. -/
  | pointer (mutable : Bool) (target : TypeForm) (region : Region)
  /-- The empty tuple. -/
  | unit (region : Region)
  /-- A type in parentheses. -/
  | enclosed (inner : TypeForm) (region : Region)
  /-- Any other type. -/
  | other (region : Region)
  deriving Repr, Inhabited

/-- The whole region of a type. -/
def TypeForm.region : TypeForm → Region
  | path _ _ _ region | reference _ _ _ region | pointer _ _ region | unit region
  | enclosed _ region | other region => region

/-- The generic parameters of an item, between angle brackets. -/
structure GenericsForm where
  /-- There is a parameter. -/
  hasParams : Bool
  trees : List Tree
  region : Region
  deriving Repr, Inhabited

/-- The pattern of a parameter; only a plain one names it. -/
structure PatternForm where
  name : Option Name
  region : Region
  deriving Repr, Inhabited

/-- A named field with its type. -/
structure FieldForm where
  name : Name
  type : TypeForm
  typeTrees : List Tree
  deriving Repr, Inhabited

/-- The fields of a structure. -/
inductive FieldsForm where
  /-- Fields with names. -/
  | named (fields : List FieldForm)
  /-- Fields by position. -/
  | positional (region : Region)
  /-- No fields. -/
  | none
  deriving Repr, Inhabited

/-- A structure. -/
structure StructForm where
  attrs : List Attribute
  name : Name
  generics : GenericsForm
  fields : FieldsForm
  deriving Repr, Inhabited

/-- A variant of an enumeration; its region begins at its attributes. -/
structure VariantForm where
  name : Name
  hasFields : Bool
  region : Region
  deriving Repr, Inhabited

/-- An enumeration. -/
structure EnumForm where
  attrs : List Attribute
  name : Name
  generics : GenericsForm
  variants : List VariantForm
  deriving Repr, Inhabited

/-- An argument of a method, with the trees after its attributes. -/
inductive ArgumentForm where
  /-- The receiver. -/
  | receiver (attrs : List Attribute) (byReference mutable : Bool) (trees : List Tree)
  /-- A pattern with a type. -/
  | typed (attrs : List Attribute) (pattern : PatternForm) (type : TypeForm) (trees : List Tree)
  /-- The dots of a variable number of arguments. -/
  | variadic (attrs : List Attribute) (trees : List Tree)
  deriving Repr, Inhabited

/-- A method of a trait. Its trees are those of the attributes, `head`, the
generic parameters, the arguments in parentheses with what follows each of them,
`result`, the conditions and `ending`. -/
structure MethodForm where
  attrs : List Attribute
  name : Name
  head : List Tree
  generics : GenericsForm
  asyncRegion : Option Region
  arguments : List (ArgumentForm × List Tree)
  resultType : Option TypeForm
  result : List Tree
  conditions : List Tree
  body : Option Region
  ending : List Tree
  deriving Repr, Inhabited

/-- What stands in a trait. -/
inductive TraitItemForm where
  /-- A method. -/
  | method (method : MethodForm)
  /-- Anything else. -/
  | other (trees : List Tree) (region : Region)
  deriving Repr, Inhabited

/-- A trait. Its trees are those of the attributes, `head`, the generic
parameters, the bounds, the conditions and the body in braces. -/
structure TraitForm where
  attrs : List Attribute
  head : List Tree
  name : Name
  generics : GenericsForm
  bounds : List Tree
  conditions : List Tree
  innerAttrs : List Attribute
  items : List TraitItemForm
  deriving Repr, Inhabited

/-- An item of a source file. -/
inductive ItemForm where
  | struct (form : StructForm)
  | enumeration (form : EnumForm)
  | trait (form : TraitForm)
  /-- A module with its items. -/
  | module (name : Name) (items : List ItemForm)
  /-- Anything else. -/
  | other
  deriving Repr, Inhabited

/-- An item that a derivation can stand on. -/
inductive DerivedForm where
  | struct (form : StructForm)
  | enumeration (form : EnumForm)
  /-- A union, with the region of its keyword. -/
  | union (attrs : List Attribute) (name : Name) (generics : GenericsForm) (keyword : Region)
  deriving Repr, Inhabited

end NativeBridge.Source

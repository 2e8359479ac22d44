import NativeBridge.Source.Parser

/-!
# Attributes

An attribute has a path and, after it, nothing, a group of arguments or a value.
Comments for documentation are attributes too.
-/

namespace NativeBridge.Source

open NativeBridge.Source.Parser (Name)

/-- What follows the path of an attribute. -/
inductive AttributeInput where
  /-- Nothing. -/
  | bare
  /-- Arguments in a group, whose end is reported at the closing delimiter. -/
  | arguments (trees : List Tree) (closing : Region)
  /-- A value after an equals sign. -/
  | value (equals : Region)
  deriving Repr, Inhabited

/-- An attribute as written. -/
structure Attribute where
  /-- It stands inside what it belongs to. -/
  inner : Bool
  /-- The path begins with a separator. -/
  leading : Bool
  /-- The segments of the path. -/
  path : List Name
  input : AttributeInput
  /-- All trees of the attribute. -/
  trees : List Tree
  deriving Repr, Inhabited

namespace Attribute

/-- The last segment of the path is this name. -/
def endsWith (attr : Attribute) (name : String) : Bool :=
  attr.path.getLast?.any fun segment => segment.text == name

/-- The path is this name alone. -/
def isNamed (attr : Attribute) (name : String) : Bool :=
  !attr.leading && attr.path.map Name.text == [name]

/-- The path as written, without blanks. -/
def pathText (attr : Attribute) : String :=
  (if attr.leading then "::" else "") ++ "::".intercalate (attr.path.map Name.text)

/-- The region of the path, a leading separator apart. -/
def pathRegion (attr : Attribute) : Region :=
  match attr.path.head?, attr.path.getLast? with
  | some first, some last => first.region.through last.region
  | _, _ => .origin

end Attribute

namespace Parser

/-- Names joined by separators, keywords of paths allowed. -/
def plainPath : Parser (Bool × List Name) := do
  let leading ← punct? "::"
  let start (trees : List Tree) : Bool := Look.name trees || Look.pathWord trees
  let segments ← loop (fun (found : List Name) => do
    if ← peek start then
      let segment ← anyWord
      if ← punct? "::" then return .again (segment :: found)
      else return .done (segment :: found).reverse
    else if found.isEmpty then do
      let _ ← name
      malformed
    else malformed) []
  return (leading, segments)

/-- What stands between the brackets of an attribute; `expression` reads a value
that is no single literal. -/
def attributeBody (expression : Parser Unit) : Parser (Bool × List Name × AttributeInput) := do
  let (leading, path) ←
    if ← peek (Look.word "unsafe") then do
      let word ← anyWord
      pure (false, [word])
    else plainPath
  match ← look with
  | .group _ inner _ closing :: _ =>
      let _ ← tree
      return (leading, path, .arguments inner closing)
  | trees =>
      if Look.punct "=" trees && !Look.punct "==" trees then
        let equals ← front
        punct "="
        let isLiteral ← ahead do
          literal
          if !(← isEmpty) then malformed
        if isLiteral.isSome then literal
        else if ← peek fun trees =>
            Look.punct "#" trees && Look.group .bracket (Look.next trees) then malformed
        else expression
        return (leading, path, .value equals)
      else return (leading, path, .bare)

/-- An attribute for what follows. -/
def outerAttribute (expression : Parser Unit) : Parser Attribute := do
  let ((leading, path, input), trees) ← sliced do
    punct "#"
    inGroup .bracket (attributeBody expression)
  return ⟨false, leading, path, input, trees⟩

/-- The attributes before something. -/
def outerAttributes (expression : Parser Unit) : Parser (List Attribute) :=
  whileLooking (Look.punct "#") (outerAttribute expression)

/-- An attribute inside what it belongs to. -/
def innerAttribute (expression : Parser Unit) : Parser Attribute := do
  let ((leading, path, input), trees) ← sliced do
    punct "#"
    punct "!"
    inGroup .bracket (attributeBody expression)
  return ⟨true, leading, path, input, trees⟩

/-- The attributes at the start of a body. -/
def innerAttributes (expression : Parser Unit) : Parser (List Attribute) :=
  whileLooking (fun trees => Look.punct "#" trees && Look.punct "!" (Look.next trees))
    (innerAttribute expression)

end Parser

end NativeBridge.Source

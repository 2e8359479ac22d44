import NativeBridge.Source.Grammar.Members

/-!
# Items

Structures, enumerations, traits and modules are kept with their parts; all
other items are read and forgotten.
-/

namespace NativeBridge.Source.Grammar

open NativeBridge.Source.Parser

/-- A field with a name. The type of an unnamed one may be written as a structure. -/
def namedField (grammar : Grammar) : Parser FieldForm := do
  let _ ← grammar.attrs
  let _ ← visibility
  let isUnnamed ← peek (Look.word "_")
  let found ← if isUnnamed then anyWord else name
  punct ":"
  let trees ← look
  if isUnnamed && (Look.word "struct" trees
      || (Look.word "union" trees && Look.group .brace (Look.next trees))) then
    let ((region), trees) ← sliced do
      let ((), region) ← located do
        let _ ← anyWord
        let _ ← anyGroup
      return region
    return ⟨found, .other region, trees⟩
  else
    let (type, trees) ← sliced (grammar.type true)
    return ⟨found, type, trees⟩

/-- The fields of a structure in braces. -/
def namedFields (grammar : Grammar) : Parser (List FieldForm) :=
  inGroup .brace (commaSeparated (namedField grammar))

/-- The fields of a structure in parentheses. -/
def positionalFields (grammar : Grammar) : Parser Unit := do
  let _ ← inGroup .parenthesis (commaSeparated do
    let _ ← grammar.attrs
    let _ ← visibility
    let _ ← grammar.type true)

/-- The fields of a structure with the conditions before or after them. -/
def structFields (grammar : Grammar) : Parser FieldsForm := do
  let hasConditions ← peek (Look.word "where")
  let _ ← conditions grammar
  let trees ← look
  if !hasConditions && Look.group .parenthesis trees then
    let ((), region) ← located (positionalFields grammar)
    let _ ← conditions grammar
    punct ";"
    return .positional region
  else if Look.group .brace trees then return .named (← namedFields grammar)
  else
    punct ";"
    return .none

/-- A structure, after its visibility. -/
def structBody (grammar : Grammar) (attrs : List Attribute) : Parser StructForm := do
  word "struct"
  let found ← name
  let generics ← generics grammar
  return ⟨attrs, found, generics, ← structFields grammar⟩

/-- A variant of an enumeration. -/
def variantForm (grammar : Grammar) : Parser VariantForm := do
  let (attrs, before) ← located grammar.attrs
  let _ ← visibility
  let found ← name
  let trees ← look
  let hasFields := Look.group .brace trees || Look.group .parenthesis trees
  if Look.group .brace trees then let _ ← namedFields grammar
  else if Look.group .parenthesis trees then positionalFields grammar
  if ← punct? "=" then let _ ← grammar.expr true
  return ⟨found, hasFields, if attrs.isEmpty then found.region else before⟩

/-- An enumeration, after its visibility. -/
def enumBody (grammar : Grammar) (attrs : List Attribute) : Parser EnumForm := do
  word "enum"
  let found ← name
  let generics ← generics grammar
  let _ ← conditions grammar
  let variants ← inGroup .brace (commaSeparated (variantForm grammar))
  return ⟨attrs, found, generics, variants⟩

/-- A union, after its visibility: its name, its generic parameters and its keyword. -/
def unionBody (grammar : Grammar) : Parser (Name × GenericsForm × Region) := do
  let keyword ← front
  word "union"
  let found ← name
  let generics ← generics grammar
  let _ ← conditions grammar
  let _ ← namedFields grammar
  return (found, generics, keyword)

/-- What ends the bounds of a trait. -/
def endsTraitBounds (trees : List Tree) : Bool :=
  Look.word "where" trees || Look.group .brace trees

/-- The words before a trait, and its name. -/
def traitHead : Parser Name := do
  let _ ← visibility
  let _ ← word? "unsafe"
  let _ ← word? "auto"
  word "trait"
  name

/-- The bounds of a trait, without their trees if there are none. -/
def traitBounds (grammar : Grammar) : Parser (List Tree) := do
  let (count, trees) ← sliced do
    if ← punct? ":" then bounds grammar endsTraitBounds else return 0
  return if count = 0 then [] else trees

/-- A trait after its attributes. -/
def traitBody (grammar : Grammar) (attrs : List Attribute) : Parser TraitForm := do
  let (found, head) ← sliced traitHead
  let generics ← generics grammar
  let bounds ← traitBounds grammar
  let conditions ← conditions grammar
  let (innerAttrs, items) ← inGroup .brace do
    let innerAttrs ← grammar.innerAttrs
    return (innerAttrs, ← toEnd (traitMember grammar))
  return ⟨attrs, head, found, generics, bounds, conditions, innerAttrs, items⟩

/-- What ends the bounds of another name for traits. -/
def endsAliasBounds (trees : List Tree) : Bool :=
  Look.word "where" trees || Look.punct ";" trees

/-- Another name for some traits. -/
def traitAlias (grammar : Grammar) : Parser Unit := do
  let _ ← traitHead
  let _ ← generics grammar
  punct "="
  let _ ← bounds grammar endsAliasBounds
  let _ ← conditions grammar
  punct ";"

/-- The trait that follows is only another name. -/
def aliasFollows (grammar : Grammar) : Parser Bool := do
  let found ← ahead do
    let _ ← traitHead
    let _ ← generics grammar
    peek (Look.punct "=")
  return found == some true

/-- An implementation after its attributes. -/
def implementation (grammar : Grammar) : Parser Unit := do
  let _ ← visibility
  let _ ← word? "default"
  let _ ← word? "unsafe"
  word "impl"
  if ← peek genericsFollow then let _ ← generics grammar
  let isConst ← peek fun trees =>
    Look.word "const" trees || (Look.punct "?" trees && Look.word "const" (Look.next trees))
  if isConst then
    let _ ← punct? "?"
    word "const"
  let isNegative ← peek fun trees =>
    Look.punct "!" trees && !Look.group .brace (Look.next trees)
  if isNegative then punct "!"
  let _ ← grammar.type true
  if ← word? "for" then let _ ← grammar.type true
  let _ ← conditions grammar
  inGroup .brace do
    let _ ← grammar.innerAttrs
    let _ ← toEnd (implementationMember grammar)

/-- A block of foreign members. -/
def foreignBlock (grammar : Grammar) : Parser Unit := do
  let _ ← word? "unsafe"
  word "extern"
  if ← peek Look.string then let _ ← string
  inGroup .brace do
    let _ ← grammar.innerAttrs
    let _ ← toEnd (foreignMember grammar)

/-- The declaration of another library. -/
def foreignCrate : Parser Unit := do
  let _ ← visibility
  word "extern"
  word "crate"
  let _ ← if ← peek (Look.word "self") then anyWord else name
  if ← word? "as" then
    if !(← word? "_") then let _ ← name
  punct ";"

/-- What a declaration of use names. -/
def useTreeRule (grammar : Grammar) (allowRoot : Bool) : Parser Unit := do
  let trees ← look
  if Look.name trees || Look.word "self" trees || Look.word "super" trees
      || Look.word "crate" trees || Look.word "try" trees then
    let _ ← anyWord
    if ← punct? "::" then grammar.useTree false
    else if ← word? "as" then
      if !(← word? "_") then let _ ← name
  else if Look.punct "*" trees then punct "*"
  else if Look.group .brace trees then
    let _ ← inGroup .brace (commaSeparated do
      let isRoot ← if allowRoot then punct? "::" else pure false
      grammar.useTree (allowRoot && !isRoot))
  else malformed

/-- A declaration of use. -/
def useDeclaration (grammar : Grammar) : Parser Unit := do
  let _ ← visibility
  word "use"
  let isRoot ← punct? "::"
  grammar.useTree (!isRoot)
  punct ";"

/-- A variable. -/
def staticDefinition (grammar : Grammar) : Parser Unit := do
  let _ ← visibility
  word "static"
  let _ ← word? "mut"
  let _ ← name
  if ← punct? "=" then let _ ← grammar.expr true
  else
    punct ":"
    let _ ← grammar.type true
    if !(← peek (Look.punct ";")) then
      punct "="
      let _ ← grammar.expr true
  punct ";"

/-- A module, possibly with its items. -/
def moduleDefinition (grammar : Grammar) : Parser ItemForm := do
  let _ ← visibility
  let _ ← word? "unsafe"
  word "mod"
  let found ← if ← peek (Look.word "try") then anyWord else name
  if ← punct? ";" then return .other
  else inGroup .brace do
    let _ ← grammar.innerAttrs
    return .module found (← toEnd grammar.item)

/-- The definition of an invocation by its pattern and its text. -/
def patternDefinition : Parser Unit := do
  let _ ← visibility
  word "macro"
  let _ ← name
  if ← peek (Look.group .parenthesis) then let _ ← tree
  inGroup .brace do
    let _ ← toEnd tree

/-- An invocation as an item, possibly with a name after its mark. -/
def itemInvocation : Parser Unit := do
  let _ ← plainPath
  punct "!"
  if ← peek (Look.word "try") then let _ ← anyWord
  else if ← peek Look.name then let _ ← name
  if (← anyGroup) != .brace then punct ";"

/-- A function with its body, or a signature alone. -/
def functionDefinition (grammar : Grammar) : Parser Unit := do
  let _ ← visibility
  let _ ← signature grammar false
  if !(← punct? ";") then grammar.body

/-- An item that is forgotten. -/
def forgotten (parser : Parser Unit) : Parser ItemForm := do
  parser
  return .other

/-- An item that begins with a mark for foreign code, by the trees after that mark. -/
def foreignItem (grammar : Grammar) (trees : List Tree) : Parser ItemForm := do
  let after := Look.next trees
  if Look.word "crate" trees then forgotten foreignCrate
  else if Look.group .brace trees then forgotten (foreignBlock grammar)
  else if Look.string trees then
    if Look.group .brace after then forgotten (foreignBlock grammar) else malformedBefore after
  else malformedBefore trees

/-- An item that begins with a mark for unsafe code, by the trees after that mark. -/
def unsafeItem (grammar : Grammar) (attrs : List Attribute) (trees : List Tree) :
    Parser ItemForm := do
  if Look.word "trait" trees || (Look.word "auto" trees && Look.word "trait" (Look.next trees)) then
    return .trait (← traitBody grammar attrs)
  else if Look.word "impl" trees then forgotten (implementation grammar)
  else if Look.word "extern" trees then forgotten (foreignBlock grammar)
  else if Look.word "mod" trees then moduleDefinition grammar
  else malformedBefore trees

/-- An item. -/
def itemRule (grammar : Grammar) : Parser ItemForm := do
  let attrs ← grammar.attrs
  let (isPublic, trees) ← foreseen visibility
  let after := Look.next trees
  if signatureFollows trees false then forgotten (functionDefinition grammar)
  else if Look.word "extern" trees then foreignItem grammar after
  else if Look.word "use" trees then forgotten (useDeclaration grammar)
  else if Look.word "static" trees then forgotten (staticDefinition grammar)
  else if Look.word "const" trees then
    let _ ← visibility
    forgotten (constantDefinition grammar)
  else if Look.word "unsafe" trees then unsafeItem grammar attrs after
  else if Look.word "mod" trees then moduleDefinition grammar
  else if Look.word "type" trees then forgotten (typeDefinition grammar false .beforeDefinition)
  else if Look.word "struct" trees then
    let _ ← visibility
    return .struct (← structBody grammar attrs)
  else if Look.word "enum" trees then
    let _ ← visibility
    return .enumeration (← enumBody grammar attrs)
  else if Look.word "union" trees && Look.name after then
    let _ ← visibility
    let _ ← unionBody grammar
    return .other
  else if Look.word "trait" trees then
    if ← aliasFollows grammar then forgotten (traitAlias grammar)
    else return .trait (← traitBody grammar attrs)
  else if Look.word "auto" trees && Look.word "trait" after then
    return .trait (← traitBody grammar attrs)
  else if Look.word "impl" trees || (Look.word "default" trees && !Look.punct "!" after) then
    forgotten (implementation grammar)
  else if Look.word "macro" trees then forgotten patternDefinition
  else if !isPublic && invocationFollows trees then forgotten itemInvocation
  else malformedBefore trees

end NativeBridge.Source.Grammar

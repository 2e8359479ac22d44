import NativeBridge.Source.Grammar.Functions

/-!
# Members of traits, implementations and foreign blocks
-/

namespace NativeBridge.Source.Grammar

open NativeBridge.Source.Parser

/-- An invocation may begin here. -/
def invocationFollows (trees : List Tree) : Bool :=
  Look.name trees || Look.word "self" trees || Look.word "super" trees || Look.word "crate" trees
    || Look.punct "::" trees

/-- An invocation as a member, with a semicolon unless it has braces. -/
def invocation : Parser Unit := do
  let _ ← plainPath
  punct "!"
  if (← anyGroup) != .brace then punct ";"

/-- Where the conditions of a type definition may stand. -/
inductive ConditionsPlace where
  | beforeDefinition | afterDefinition | either
  deriving DecidableEq, Repr

/-- What ends the bounds of a type definition. -/
def endsTypeBounds (trees : List Tree) : Bool :=
  Look.word "where" trees || Look.punct "=" trees || Look.punct ";" trees

/-- The definition of a type. -/
def typeDefinition (grammar : Grammar) (allowDefault : Bool) (place : ConditionsPlace) :
    Parser Unit := do
  let _ ← visibility
  if allowDefault then let _ ← word? "default"
  word "type"
  let _ ← name
  let _ ← generics grammar
  if ← punct? ":" then let _ ← bounds grammar endsTypeBounds
  let hadConditions ←
    if place = .afterDefinition then pure false else do
      let start ← peek (Look.word "where")
      let _ ← conditions grammar
      pure start
  if ← punct? "=" then let _ ← grammar.type true
  if place != .beforeDefinition && !hadConditions then let _ ← conditions grammar
  punct ";"

/-- The definition of a constant, after what may stand before it. -/
def constantDefinition (grammar : Grammar) : Parser Unit := do
  word "const"
  if ← peek fun trees => Look.name trees || Look.word "_" trees then let _ ← anyWord
  else malformed
  let _ ← generics grammar
  punct ":"
  let _ ← grammar.type true
  if ← punct? "=" then let _ ← grammar.expr true
  let _ ← conditions grammar
  punct ";"

/-- The body of a function in braces, or a semicolon. -/
def bodyOrSemicolon (grammar : Grammar) : Parser Unit := do
  if ← peek (Look.group .brace) then grammar.body else punct ";"

/-- A method of a trait, after its attributes. -/
def traitMethod (grammar : Grammar) (attrs : List Attribute) : Parser MethodForm := do
  let found ← signature grammar false
  let start ← here
  let hasBody ← peek (Look.group .brace)
  let ((), ending) ← sliced (bodyOrSemicolon grammar)
  return {
    attrs := attrs
    name := found.name
    head := found.head
    generics := found.generics
    asyncRegion := found.asyncRegion
    arguments := found.arguments
    resultType := found.resultType
    result := found.result
    conditions := found.conditions
    body := if hasBody then start else none
    ending := ending }

/-- A word that goes on with the signature of a function follows the first one. -/
def signatureGoesOn (trees : List Tree) : Bool :=
  Look.word "const" trees
    && ["async", "unsafe", "extern", "fn"].any (Look.word · (Look.next trees))

/-- A member of a trait after its attributes; one with marks before it counts as no method. -/
def traitMemberBody (grammar : Grammar) (attrs : List Attribute) : Parser (Option MethodForm) := do
  let (isMarked, trees) ← foreseen do
    let isPublic ← visibility
    return (← word? "default") || isPublic
  let readMarks : Parser Unit := do
    let _ ← visibility
    let _ ← word? "default"
  if signatureFollows trees false || signatureGoesOn trees then
    readMarks
    let method ← traitMethod grammar attrs
    return if isMarked then none else some method
  else if Look.word "const" trees then
    readMarks
    constantDefinition grammar
    return none
  else if Look.word "type" trees then
    readMarks
    typeDefinition grammar false .afterDefinition
    return none
  else if !isMarked && invocationFollows trees then
    invocation
    return none
  else malformedBefore trees

/-- A member of a trait. -/
def traitMember (grammar : Grammar) : Parser TraitItemForm := do
  let ((found, trees), region) ← located (sliced do
    let attrs ← grammar.attrs
    traitMemberBody grammar attrs)
  return match found with
    | some method => .method method
    | none => .other trees region

/-- A member of an implementation. -/
def implementationMember (grammar : Grammar) : Parser Unit := do
  let _ ← grammar.attrs
  let ((isPublic, isDefault), trees) ← foreseen do
    let isPublic ← visibility
    let isDefault ← peek fun trees =>
      Look.word "default" trees && !Look.punct "!" (Look.next trees)
    if isDefault then word "default"
    return (isPublic, isDefault)
  if signatureFollows trees false then
    let _ ← visibility
    let _ ← word? "default"
    let _ ← signature grammar false
    bodyOrSemicolon grammar
  else if Look.word "const" trees then
    let _ ← visibility
    if isDefault then word "default"
    constantDefinition grammar
  else if Look.word "type" trees then typeDefinition grammar true .afterDefinition
  else if !isPublic && !isDefault && invocationFollows trees then invocation
  else malformedBefore trees

/-- A variable of a foreign block, after its visibility. -/
def foreignStatic (grammar : Grammar) : Parser Unit := do
  if !(← word? "unsafe") then let _ ← word? "safe"
  word "static"
  let _ ← word? "mut"
  let _ ← name
  punct ":"
  let _ ← grammar.type true
  if ← punct? "=" then let _ ← grammar.expr true
  punct ";"

/-- A member of a foreign block. -/
def foreignMember (grammar : Grammar) : Parser Unit := do
  let _ ← grammar.attrs
  let (isPublic, trees) ← foreseen visibility
  if signatureFollows trees true then
    let _ ← visibility
    let _ ← signature grammar true
    bodyOrSemicolon grammar
  else if Look.word "static" trees
      || ((Look.word "unsafe" trees || Look.word "safe" trees)
        && Look.word "static" (Look.next trees)) then
    let _ ← visibility
    foreignStatic grammar
  else if Look.word "type" trees then typeDefinition grammar false .either
  else if !isPublic && invocationFollows trees then invocation
  else malformedBefore trees

end NativeBridge.Source.Grammar

import NativeBridge.Source.Grammar.Statements

/-!
# Functions

The signature of a function keeps the names and types of its arguments.
-/

namespace NativeBridge.Source.Grammar

open NativeBridge.Source.Parser

/-- Who may name an item; true if that is written. A group that holds more than a
word does not belong to it. -/
def visibility : Parser Bool := do
  if !(← word? "pub") then return false
  match ← look with
  | .group .parenthesis inner _ _ :: _ =>
      if Look.word "crate" inner || Look.word "self" inner || Look.word "super" inner then
        if (Look.next inner).isEmpty then let _ ← tree
      else if Look.word "in" inner then
        inGroup .parenthesis do
          word "in"
          let _ ← plainPath
      return true
  | _ => return true

/-- A result together with the trees after it, without reading anything. -/
def foreseen {α : Type} (parser : Parser α) : Parser (α × List Tree) := do
  let before ← get
  let found ← parser
  let trees ← look
  set before
  return (found, trees)

/-- Gives up at the front of trees that are still ahead. -/
def malformedBefore {α : Type} (trees : List Tree) : Parser α := do
  match trees with
  | tree :: _ => failAt .malformed tree.mark
  | [] => failAt .malformed (← get).scope

/-- The trees after a word, if they begin with it. -/
def afterWord (text : String) (trees : List Tree) : List Tree :=
  if Look.word text trees then Look.next trees else trees

/-- The signature of a function follows. -/
def signatureFollows (trees : List Tree) (allowSafe : Bool) : Bool :=
  let trees := afterWord "async" (afterWord "const" trees)
  let trees :=
    if allowSafe && Look.word "safe" trees then Look.next trees else afterWord "unsafe" trees
  let trees :=
    if Look.word "extern" trees then
      let after := Look.next trees
      if Look.string after then Look.next after else after
    else trees
  Look.word "fn" trees

/-- A receiver: whether it is taken by reference, and whether it may change. -/
def receiver (grammar : Grammar) : Parser (Bool × Bool) := do
  let isReference ← punct? "&"
  if isReference then let _ ← lifetime?
  let isMutable ← word? "mut"
  word "self"
  if !isReference then
    if ← punct? ":" then let _ ← grammar.type true
  return (isReference, isMutable)

/-- An argument written by its pattern and its type or dots. -/
def patternArgument (grammar : Grammar) (attrs : List Attribute) : Parser ArgumentForm := do
  let ((shape, region, type), trees) ← sliced do
    let (shape, region) ← located grammar.pattern
    punct ":"
    let type ← if ← punct? "..." then pure none else some <$> grammar.type true
    return (shape, region, type)
  let name := match shape with
    | .name found => some found
    | _ => none
  return match type with
    | some type => .typed attrs ⟨name, region⟩ type trees
    | none => .variadic attrs trees

/-- An argument after its attributes. A type with arguments may stand without a pattern. -/
def argument (grammar : Grammar) (attrs : List Attribute) : Parser ArgumentForm := do
  if ← peek (Look.punct "...") then
    let ((), trees) ← sliced (punct "...")
    return .variadic attrs trees
  match ← attempt (sliced (receiver grammar)) with
  | some ((isReference, isMutable), trees) => return .receiver attrs isReference isMutable trees
  | none =>
      if ← peek fun trees => Look.name trees && Look.punct "<" (Look.next trees) then
        let start ← front
        let (type, trees) ← sliced (grammar.type true)
        return .typed attrs ⟨none, start⟩ type trees
      else patternArgument grammar attrs

/-- Refuses a receiver that is not the first argument. -/
def checkPlace (form : ArgumentForm) (isFirst : Bool) : Parser Unit := do
  match form with
  | .receiver _ _ _ trees =>
      if !isFirst then
        malformedBefore (trees.dropWhile fun tree => !Look.word "self" [tree])
  | _ => return

/-- The arguments of a function with what follows each; dots can only stand last. -/
def functionArguments (grammar : Grammar) : Parser (List (ArgumentForm × List Tree)) :=
  loop (fun (found : List (ArgumentForm × List Tree)) => do
    if ← isEmpty then return .done found.reverse
    let attrs ← grammar.attrs
    let form ← argument grammar attrs
    checkPlace form found.isEmpty
    if ← isEmpty then return .done ((form, []) :: found).reverse
    let ((), separator) ← sliced (punct ",")
    match form with
    | .variadic _ _ => return .done ((form, separator) :: found).reverse
    | _ => return .again ((form, separator) :: found)) []

/-- The signature of a function. -/
structure Signature where
  name : Name
  head : List Tree
  asyncRegion : Option Region
  generics : GenericsForm
  arguments : List (ArgumentForm × List Tree)
  resultType : Option TypeForm
  result : List Tree
  conditions : List Tree
  deriving Repr, Inhabited

/-- The words before a function and its name; in foreign blocks a function may be called safe. -/
def signatureHead (allowSafe : Bool) : Parser (Option Region × Name) := do
  let _ ← word? "const"
  let start ← here
  let isAsync ← word? "async"
  let isSafe ← if allowSafe then word? "safe" else pure false
  if !isSafe then let _ ← word? "unsafe"
  convention?
  word "fn"
  return (if isAsync then start else none, ← name)

/-- The signature of a function. -/
def signature (grammar : Grammar) (allowSafe : Bool) : Parser Signature := do
  let ((asyncRegion, found), head) ← sliced (signatureHead allowSafe)
  let generics ← generics grammar
  let arguments ← inGroup .parenthesis (functionArguments grammar)
  let (resultType, result) ← sliced (result grammar true)
  let conditions ← conditions grammar
  return ⟨found, head, asyncRegion, generics, arguments, resultType, result, conditions⟩

end NativeBridge.Source.Grammar

import NativeBridge.Source.Grammar.Items
import NativeBridge.Source.Lexeme

/-!
# Source files

The rules of the grammar are tied to as many levels as the text can be deep, so
that reading a text ends on every input.
-/

namespace NativeBridge.Source

namespace Grammar

/-- The grammar with one more level. -/
def deepen (inner : Grammar) : Grammar where
  type := typeRule inner
  bound := boundRule inner false
  expr := exprRule inner
  unary := unaryRule inner
  climb := climbRule inner
  boundary := boundaryRule inner
  pattern := patternRule inner
  statements := statementsRule inner
  useTree := useTreeRule inner
  item := itemRule inner

/-- The grammar with a number of levels. -/
def levels (count : Nat) : Grammar :=
  count.repeat deepen nothing

/-- The grammar with enough levels for some trees: no rule goes further inside more
than three times before it reads a tree. -/
def forTrees (trees : List Tree) : Grammar :=
  levels (3 * Tree.sizeAll trees + 16)

end Grammar

open NativeBridge.Source.Parser

/-- Reads some trees as a whole by a rule of the grammar. -/
def readTrees {α : Type} (rule : Grammar → Parser α) (trees : List Tree) (scope : Region) :
    Except Fault α :=
  runOn (rule (.forTrees trees)) trees scope

/-- The items of a source file after its attributes. -/
def fileRule (grammar : Grammar) : Parser (List ItemForm) := do
  let _ ← grammar.innerAttrs
  toEnd grammar.item

/-- The items of a source file, or the position of the first token that cannot go on. -/
def readFile (text : String) : Except Position (List ItemForm) := do
  let trees ← trees (withoutInterpreter text)
  match readTrees fileRule trees .origin with
  | .ok items => return items
  | .error fault => throw fault.region.start

/-- A text as a whole by a rule of the grammar, if it can be read. -/
def readText? {α : Type} (rule : Grammar → Parser α) (text : String) : Option α := do
  let trees ← (trees text).toOption
  (readTrees rule trees .origin).toOption

/-- An item that a derivation can stand on. -/
def derivedRule (grammar : Grammar) : Parser DerivedForm := do
  let attrs ← grammar.attrs
  let (_, trees) ← Grammar.foreseen Grammar.visibility
  let _ ← Grammar.visibility
  if Look.word "struct" trees then return .struct (← grammar.structBody attrs)
  else if Look.word "enum" trees then return .enumeration (← grammar.enumBody attrs)
  else
    let (name, generics, keyword) ← grammar.unionBody
    return .union attrs name generics keyword

/-- A trait by itself. -/
def traitRule (grammar : Grammar) : Parser TraitForm := do
  grammar.traitBody (← grammar.attrs)

end NativeBridge.Source

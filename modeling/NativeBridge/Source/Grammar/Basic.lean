import NativeBridge.Source.Form

/-!
# The recursive parts of the grammar

Types, patterns, expressions, statements and items contain each other. Every
rule of the grammar is written over the parsers of a `Grammar`, which stand for
the parts one level further inside; tying the rules to a finite number of levels
gives a total parser.
-/

namespace NativeBridge.Source

open NativeBridge.Source.Parser (Name)

/-- What matters of an expression for what may follow it. -/
inductive ExprForm where
  /-- A range. -/
  | range
  /-- Two operands compared. -/
  | comparison
  /-- An expression that ends a statement by its closing brace. -/
  | block
  /-- An invocation with braces. -/
  | bracedCall
  /-- Anything else. -/
  | plain
  deriving DecidableEq, Repr, Inhabited

namespace ExprForm

/-- The expression must be separated from what follows in a list of alternatives. -/
def needsComma (form : ExprForm) : Bool :=
  form != .block

/-- The expression must be followed by a semicolon unless it ends its block. -/
def needsSemicolon (form : ExprForm) : Bool :=
  form != .block && form != .bracedCall

end ExprForm

/-- What matters of a pattern for what it may name and where it may stand. -/
inductive PatternShape where
  /-- A name, possibly with marks and a pattern that it binds. -/
  | name (name : Name)
  /-- A range that lacks an end, with the region of its dots. -/
  | openRange (dots : Region)
  /-- Anything else. -/
  | other
  deriving Repr, Inhabited

/-- The parsers of the parts one level further inside. -/
structure Grammar where
  /-- A type; sums of bounds only if allowed. -/
  type : Bool → Parser TypeForm
  /-- A bound of a type. -/
  bound : Parser Unit
  /-- An expression; structure literals only if allowed. -/
  expr : Bool → Parser ExprForm
  /-- An expression without operators between operands. -/
  unary : Bool → Parser ExprForm
  /-- The operators from a strength on that follow a first operand. -/
  climb : Bool → Nat → ExprForm → Parser ExprForm
  /-- An expression where it may end with its block. -/
  boundary : Parser ExprForm
  /-- A pattern without alternatives. -/
  pattern : Parser PatternShape
  /-- The statements of a block. -/
  statements : Parser Unit
  /-- What a declaration of use names. -/
  useTree : Bool → Parser Unit
  /-- An item. -/
  item : Parser ItemForm

namespace Grammar

/-- The grammar without any level. -/
def nothing : Grammar where
  type := fun _ => Parser.malformed
  bound := Parser.malformed
  expr := fun _ => Parser.malformed
  unary := fun _ => Parser.malformed
  climb := fun _ _ _ => Parser.malformed
  boundary := Parser.malformed
  pattern := Parser.malformed
  statements := Parser.malformed
  useTree := fun _ => Parser.malformed
  item := Parser.malformed

/-- A value of an attribute. -/
def attributeValue (grammar : Grammar) : Parser Unit := do
  let _ ← grammar.expr true

/-- The attributes before something. -/
def attrs (grammar : Grammar) : Parser (List Attribute) :=
  Parser.outerAttributes grammar.attributeValue

/-- The attributes at the start of a body. -/
def innerAttrs (grammar : Grammar) : Parser (List Attribute) :=
  Parser.innerAttributes grammar.attributeValue

/-- A block in braces. -/
def block (grammar : Grammar) : Parser Unit :=
  Parser.inGroup .brace grammar.statements

/-- A block in braces that may begin with attributes. -/
def body (grammar : Grammar) : Parser Unit :=
  Parser.inGroup .brace do
    let _ ← grammar.innerAttrs
    grammar.statements

end Grammar

end NativeBridge.Source

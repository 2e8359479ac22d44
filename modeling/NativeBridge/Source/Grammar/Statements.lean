import NativeBridge.Source.Grammar.Expressions

/-!
# Statements

A block is a sequence of declarations, items, invocations and expressions, which
are read for their extent.
-/

namespace NativeBridge.Source.Grammar

open NativeBridge.Source.Parser

/-- How an invocation stands as a statement. -/
inductive Invocation where
  /-- It defines an item. -/
  | item
  /-- It stands by itself with braces. -/
  | braced
  deriving DecidableEq, Repr

/-- An invocation that begins a statement and cannot be part of an expression. -/
def invocation? : Parser (Option Invocation) := do
  let after ← ahead do
    let _ ← plainPath
    look
  return match after with
    | none => none
    | some trees =>
        let second := Look.next trees
        let third := Look.next second
        if !Look.punct "!" trees then none
        else if Look.name second || Look.word "try" second then some .item
        else if Look.group .brace second && !dotFollows third && !Look.punct "?" third then
          some .braced
        else none

/-- An item follows, and not an expression or a declaration of a variable. -/
def itemFollows (trees : List Tree) : Bool :=
  let second := Look.next trees
  let third := Look.next second
  ["pub", "extern", "use", "fn", "mod", "type", "struct", "enum", "trait", "impl", "macro"].any
      (Look.word · trees)
    || (Look.word "crate" trees && !Look.punct "::" second)
    || (Look.word "static" trees
      && (Look.word "mut" second
        || (Look.name second
          && !(Look.word "async" second && (Look.word "move" third || Look.punct "|" third)))))
    || (Look.word "const" trees
      && !(Look.group .brace second || Look.word "static" second
        || (Look.word "async" second
          && !(Look.word "unsafe" third || Look.word "extern" third || Look.word "fn" third))
        || Look.word "move" second || Look.punct "|" second))
    || (Look.word "unsafe" trees && !Look.group .brace second)
    || (Look.word "async" trees
      && (Look.word "unsafe" second || Look.word "extern" second || Look.word "fn" second))
    || (Look.word "union" trees && Look.name second)
    || (Look.word "auto" trees && Look.word "trait" second)
    || (Look.word "default" trees && (Look.word "unsafe" second || Look.word "impl" second))

/-- The declaration of a variable. -/
def declaration (grammar : Grammar) : Parser Unit := do
  word "let"
  let _ ← grammar.pattern
  if ← punct? ":" then let _ ← grammar.type true
  if ← punct? "=" then
    let (_, trees) ← sliced (grammar.expr true)
    let endsWithBrace := trees.getLast?.any fun tree => Look.group .brace [tree]
    if !endsWithBrace && (← peek (Look.word "else")) then
      word "else"
      grammar.block
  punct ";"

/-- A statement; true if something may follow it. -/
def statement (grammar : Grammar) : Parser Bool := do
  let _ ← grammar.attrs
  let found ← invocation?
  if found = some .braced then
    let _ ← plainPath
    punct "!"
    let _ ← anyGroup
    let _ ← punct? ";"
    return true
  else
    let trees ← look
    if Look.word "let" trees then
      declaration grammar
      return true
    else if itemFollows trees || found = some .item then
      let _ ← grammar.item
      return true
    else
      let form ← grammar.boundary
      return (← punct? ";") || !form.needsSemicolon

/-- The statements of a block. -/
def statementsRule (grammar : Grammar) : Parser Unit :=
  loop (fun (_ : Unit) => do
    if ← punct? ";" then return .again ()
    if ← isEmpty then return .done ()
    let mayGoOn ← statement grammar
    if !mayGoOn && !(← isEmpty) then malformed
    return .again ()) ()

end NativeBridge.Source.Grammar

import NativeBridge.Source.Grammar.Patterns

/-!
# Expressions

Expressions are read for their extent. Operators are read by their strength; an
expression that ends with a block may end a statement by itself.
-/

namespace NativeBridge.Source.Grammar

open NativeBridge.Source.Parser

/-- The strength of assignments. -/
def assignment : Nat := 1

/-- The strength of ranges. -/
def ranging : Nat := 2

/-- The strength of comparisons. -/
def comparing : Nat := 6

/-- The strength of conversions. -/
def converting : Nat := 13

/-- The operators between two operands with their strengths; of two that fit, the first counts. -/
def operators : List (String × Nat) :=
  [("+=", assignment), ("-=", assignment), ("*=", assignment), ("/=", assignment),
    ("%=", assignment), ("^=", assignment), ("&=", assignment), ("|=", assignment),
    ("<<=", assignment), (">>=", assignment), ("&&", 4), ("||", 3), ("<<", 10), (">>", 10),
    ("==", comparing), ("<=", comparing), ("!=", comparing), (">=", comparing), ("+", 11),
    ("-", 11), ("*", 12), ("/", 12), ("%", 12), ("^", 8), ("&", 9), ("|", 7), ("<", comparing),
    (">", comparing)]

/-- The operator at the front of the input. -/
def operator? (trees : List Tree) : Option (String × Nat) :=
  operators.find? fun (token, _) => Look.punct token trees

/-- An equals sign follows that assigns. -/
def assignFollows (trees : List Tree) : Bool :=
  Look.punct "=" trees && !Look.punct "=>" trees

/-- The strength of what follows; zero if it is no operator. -/
def strength (trees : List Tree) : Nat :=
  match operator? trees with
  | some (_, found) => found
  | none =>
      if assignFollows trees then assignment
      else if Look.punct ".." trees then ranging
      else if Look.word "as" trees then converting
      else 0

/-- Generic parameters follow an introducing word, and not a path that begins with a type. -/
def genericsFollow (trees : List Tree) : Bool :=
  let second := Look.next trees
  let third := Look.next second
  Look.punct "<" trees
    && (Look.punct ">" second || Look.punct "#" second || Look.word "const" second
      || ((Look.lifetime second || Look.name second)
        && (colonFollows third || Look.punct "," third || Look.punct ">" third
          || Look.punct "=" third)))

/-- Lifetimes that a closure ranges over follow. -/
def closureLifetimesFollow (trees : List Tree) : Bool :=
  Look.word "for" trees && genericsFollow (Look.next trees)

/-- An expression may begin here. -/
def exprFollows (trees : List Tree) : Bool :=
  Look.anyWord trees || Look.anyGroup trees || Look.literal trees || bangFollows trees
    || (Look.punct "-" trees && !Look.punct "-=" trees && !Look.punct "->" trees)
    || (Look.punct "*" trees && !Look.punct "*=" trees)
    || (Look.punct "|" trees && !Look.punct "|=" trees)
    || (Look.punct "&" trees && !Look.punct "&=" trees)
    || Look.punct ".." trees
    || (Look.punct "<" trees && !Look.punct "<=" trees && !Look.punct "<<=" trees)
    || Look.punct "::" trees || Look.lifetime trees || Look.punct "#" trees

/-- An operand together with all stronger operators after it. -/
def operand (grammar : Grammar) (allowStruct : Bool) (bound : Nat) : Parser Unit := do
  let first ← grammar.unary allowStruct
  loop (fun (form : ExprForm) => do
    let next := strength (← look)
    if next > bound || (next == bound && bound == assignment) then
      let before := (← look).length
      let form ← grammar.climb allowStruct next form
      return if (← look).length = before then .done () else .again form
    else return .done ()) first

/-- The dots of a range; true if it includes its end. -/
def rangeDots : Parser Bool := do
  let trees ← look
  if Look.punct "..=" trees then
    punct "..="
    return true
  else if Look.punct ".." trees && !Look.punct "..." trees then
    punct ".."
    return false
  else malformed

/-- What ends a range without an upper bound. -/
def endsRange (allowStruct : Bool) (trees : List Tree) : Bool :=
  trees.isEmpty || dotFollows trees || (!allowStruct && Look.group .brace trees)
    || Look.word "as" trees
    || [",", ";", "?", "=>", "=", "+", "/", "%", "^", ">", "<=", "!=", "-=", "*=", "&=", "|=",
      "<<="].any fun token => Look.punct token trees

/-- A range after its lower bound. -/
def rangeRest (grammar : Grammar) (allowStruct : Bool) : Parser Unit := do
  let isClosed ← rangeDots
  if isClosed || !(← peek (endsRange allowStruct)) then operand grammar allowStruct ranging

/-- What may not follow a conversion. -/
def followsConversion (trees : List Tree) : Bool :=
  dotFollows trees || Look.punct "?" trees || Look.group .bracket trees
    || Look.group .parenthesis trees

/-- The operators from a strength on that follow a first operand. -/
def climbRule (grammar : Grammar) (allowStruct : Bool) (base : Nat) (first : ExprForm) :
    Parser ExprForm :=
  loop (fun (form : ExprForm) => do
    let trees ← look
    if form = .range then return .done form
    match operator? trees with
    | some (token, found) =>
        if found < base then return .done form
        if found = comparing && form = .comparison then malformed
        punct token
        operand grammar allowStruct found
        return .again (if found = comparing then .comparison else .plain)
    | none =>
        if base ≤ assignment && assignFollows trees then
          punct "="
          operand grammar allowStruct assignment
          return .again .plain
        else if base ≤ ranging && Look.punct ".." trees then
          rangeRest grammar allowStruct
          return .again .range
        else if base ≤ converting && Look.word "as" trees then
          word "as"
          let _ ← grammar.type false
          if ← peek followsConversion then malformed
          return .again .plain
        else return .done form) first

/-- A condition with its branches. -/
def conditional (grammar : Grammar) : Parser Unit :=
  loop (fun (_ : Unit) => do
    word "if"
    let _ ← grammar.expr false
    grammar.block
    if ← word? "else" then
      if ← peek (Look.word "if") then return .again ()
      grammar.block
    return .done ()) ()

/-- A loop under a condition. -/
def conditionalLoop (grammar : Grammar) : Parser Unit := do
  word "while"
  let _ ← grammar.expr false
  grammar.body

/-- A loop over the values of an expression. -/
def valuesLoop (grammar : Grammar) : Parser Unit := do
  word "for"
  let _ ← alternatives grammar
  word "in"
  let _ ← grammar.expr false
  grammar.body

/-- A loop without a condition. -/
def endlessLoop (grammar : Grammar) : Parser Unit := do
  word "loop"
  grammar.body

/-- A loop or a block after its label. -/
def labeled (grammar : Grammar) : Parser Unit := do
  lifetime
  punct ":"
  let trees ← look
  if Look.word "while" trees then conditionalLoop grammar
  else if Look.word "for" trees then valuesLoop grammar
  else if Look.word "loop" trees then endlessLoop grammar
  else grammar.body

/-- The cases of a choice. -/
def choice (grammar : Grammar) : Parser Unit := do
  word "match"
  let _ ← grammar.expr false
  inGroup .brace do
    let _ ← grammar.innerAttrs
    let _ ← toEnd do
      let _ ← grammar.attrs
      let _ ← alternatives grammar
      if ← word? "if" then let _ ← grammar.expr true
      punct "=>"
      let form ← grammar.boundary
      if form.needsComma && !(← isEmpty) then punct ","
      else let _ ← punct? ","

/-- The expressions that end with a block and may end a statement. -/
def blockExpr? (grammar : Grammar) (trees : List Tree) : Option (Parser Unit) :=
  let after := Look.next trees
  if Look.word "if" trees then some (conditional grammar)
  else if Look.word "while" trees then some (conditionalLoop grammar)
  else if Look.word "for" trees && !closureLifetimesFollow trees then some (valuesLoop grammar)
  else if Look.word "loop" trees then some (endlessLoop grammar)
  else if Look.word "match" trees then some (choice grammar)
  else if Look.word "try" trees && Look.group .brace after then some do
    word "try"
    grammar.block
  else if Look.word "unsafe" trees then some do
    word "unsafe"
    grammar.body
  else if Look.word "const" trees && Look.group .brace after then some (constantBlock grammar)
  else if Look.group .brace trees then some grammar.body
  else if Look.lifetime trees then some (labeled grammar)
  else none

/-- An argument of a closure. -/
def closureArgument (grammar : Grammar) : Parser Unit := do
  let _ ← grammar.attrs
  let _ ← grammar.pattern
  if ← punct? ":" then let _ ← grammar.type true

/-- A closure. -/
def closure (grammar : Grammar) (allowStruct : Bool) : Parser Unit := do
  let _ ← boundLifetimes grammar
  let _ ← word? "const"
  let _ ← word? "static"
  let _ ← word? "async"
  let _ ← word? "move"
  punct "|"
  let _ ← separatedUntil "," (Look.punct "|") (closureArgument grammar)
  punct "|"
  if ← punct? "->" then
    let _ ← grammar.type true
    grammar.block
  else let _ ← grammar.expr allowStruct

/-- A field of a structure literal. -/
def fieldValue (grammar : Grammar) : Parser Unit := do
  let _ ← grammar.attrs
  let found ← member
  if found.isNone || (← peek (Look.punct ":")) then
    punct ":"
    let _ ← grammar.expr true

/-- The fields of a structure literal, possibly with a value for all others at the end. -/
def fieldValues (grammar : Grammar) : Parser Unit :=
  loop (fun (_ : Unit) => do
    if ← isEmpty then return .done ()
    if ← punct? ".." then
      if !(← isEmpty) then let _ ← grammar.expr true
      return .done ()
    fieldValue grammar
    if ← isEmpty then return .done ()
    punct ","
    return .again ()) ()

/-- An expression that begins with a path. -/
def pathExpr (grammar : Grammar) (allowStruct : Bool) : Parser ExprForm := do
  let found ← qualifiedPath grammar true
  let trees ← look
  if found.isPlain && bangFollows trees then
    punct "!"
    return if (← anyGroup) = .brace then .bracedCall else .plain
  else
    if allowStruct && Look.group .brace trees then inGroup .brace (fieldValues grammar)
    return .plain

/-- What is inside the brackets of an array. -/
def arrayContent (grammar : Grammar) : Parser Unit := do
  if !(← isEmpty) then
    let _ ← grammar.expr true
    if ← punct? ";" then let _ ← grammar.expr true
    else if !(← isEmpty) then
      punct ","
      let _ ← commaSeparated (grammar.expr true)

/-- A jump out of a loop, possibly with a label and a value. -/
def leave (grammar : Grammar) (allowStruct : Bool) : Parser Unit := do
  word "break"
  let start ← here
  if ← peek fun trees => Look.lifetime trees && Look.punct ":" (Look.next trees) then
    let _ ← grammar.expr true
    failAt .malformed start
  let _ ← lifetime?
  if ← peek fun trees => exprFollows trees && (allowStruct || !Look.group .brace trees) then
    let _ ← grammar.expr true

/-- A word with an optional value. -/
def withValue (grammar : Grammar) (text : String) : Parser Unit := do
  word text
  if ← peek exprFollows then let _ ← grammar.expr true

/-- A closure follows. -/
def closureFollows (trees : List Tree) : Bool :=
  let after := Look.next trees
  Look.punct "|" trees || Look.word "move" trees || closureLifetimesFollow trees
    || (Look.word "const" trees && !Look.group .brace after) || Look.word "static" trees
    || (Look.word "async" trees && (Look.punct "|" after || Look.word "move" after))

/-- A block that runs later follows. -/
def laterBlockFollows (trees : List Tree) : Bool :=
  let after := Look.next trees
  Look.word "async" trees
    && (Look.group .brace after
      || (Look.word "move" after && Look.group .brace (Look.next after)))

/-- A path follows. -/
def pathFollows (trees : List Tree) : Bool :=
  let after := Look.next trees
  Look.name trees || Look.punct "::" trees || Look.punct "<" trees || Look.pathWord trees
    || (Look.word "try" trees && (Look.punct "!" after || Look.punct "::" after))

/-- An expression without operators and without what may be appended to it. -/
def atom (grammar : Grammar) (allowStruct : Bool) : Parser ExprForm := do
  let trees ← look
  if Look.literal trees then
    literal
    return .plain
  else if laterBlockFollows trees then
    word "async"
    let _ ← word? "move"
    grammar.block
    return .plain
  else if closureFollows trees then
    closure grammar allowStruct
    return .plain
  else if let some parser := blockExpr? grammar trees then
    parser
    return .block
  else if Look.word "builtin" trees && Look.punct "#" (Look.next trees) then
    word "builtin"
    punct "#"
    let _ ← name
    inGroup .parenthesis do
      let _ ← toEnd tree
    return .plain
  else if pathFollows trees then pathExpr grammar allowStruct
  else if Look.group .parenthesis trees then
    let _ ← inGroup .parenthesis (commaSeparated (grammar.expr true))
    return .plain
  else if Look.word "break" trees then
    leave grammar allowStruct
    return .plain
  else if Look.word "continue" trees then
    word "continue"
    let _ ← lifetime?
    return .plain
  else if Look.word "return" trees then
    withValue grammar "return"
    return .plain
  else if Look.word "become" trees then
    word "become"
    let _ ← grammar.expr true
    return .plain
  else if Look.group .bracket trees then
    inGroup .bracket (arrayContent grammar)
    return .plain
  else if Look.word "let" trees then
    word "let"
    let _ ← alternatives grammar
    punct "="
    let form ← grammar.unary allowStruct
    let _ ← grammar.climb allowStruct comparing form
    return .plain
  else if Look.word "yield" trees then
    withValue grammar "yield"
    return .plain
  else if Look.punct ".." trees then
    rangeRest grammar allowStruct
    return .range
  else if Look.word "_" trees then
    word "_"
    return .plain
  else malformed

/-- The positions that a number with a point selects one after the other; true if
it ends with its point. -/
def positions? (text : String) : Option Bool :=
  let chars := text.toList
  let endsOpen := chars.getLast? == some '.'
  let parts := (String.ofList (if endsOpen then chars.dropLast else chars)).splitOn "."
  if parts.all Literal.isIndex then some endsOpen else none

/-- A member selected after its point, possibly a method with arguments. -/
def selection (grammar : Grammar) : Parser Unit := do
  if ← word? "await" then return
  let found ← member
  let hasArguments ←
    if found.isSome && (← peek (Look.punct "::")) then do
      punct "::"
      genericArguments grammar
      pure true
    else pure false
  if hasArguments || (found.isSome && (← peek (Look.group .parenthesis))) then
    let _ ← inGroup .parenthesis (commaSeparated (grammar.expr true))

/-- What is appended to an expression: calls, selections, indices and question marks. -/
def trailers (grammar : Grammar) (first : ExprForm) : Parser ExprForm :=
  loop (fun (form : ExprForm) => do
    let trees ← look
    if Look.group .parenthesis trees then
      let _ ← inGroup .parenthesis (commaSeparated (grammar.expr true))
      return .again .plain
    else if dotFollows trees && form != .range then
      punct "."
      match ← look with
      | .literal .float text _ :: _ =>
          match positions? text with
          | none => malformed
          | some endsOpen =>
              let _ ← tree
              if endsOpen then selection grammar
      | _ => selection grammar
      return .again .plain
    else if Look.group .bracket trees then
      inGroup .bracket do
        let _ ← grammar.expr true
      return .again .plain
    else if Look.punct "?" trees && form != .range then
      punct "?"
      return .again .plain
    else return .done form) first

/-- An expression without operators between operands. -/
def unaryRule (grammar : Grammar) (allowStruct : Bool) : Parser ExprForm := do
  let _ ← grammar.attrs
  let trees ← look
  if Look.punct "&" trees then
    punct "&"
    let isRaw ← peek fun trees =>
      Look.word "raw" trees
        && (Look.word "mut" (Look.next trees) || Look.word "const" (Look.next trees))
    if isRaw then word "raw"
    let isMutable ← word? "mut"
    if isRaw && !isMutable then word "const"
    let _ ← grammar.unary allowStruct
    return .plain
  else if Look.punct "*" trees || Look.punct "!" trees || Look.punct "-" trees then
    let _ ← tree
    let _ ← grammar.unary allowStruct
    return .plain
  else trailers grammar (← atom grammar allowStruct)

/-- An expression as a statement or as the result of a case: one that ends with a
block ends there, unless a member or a question mark follows. -/
def boundaryRule (grammar : Grammar) : Parser ExprForm := do
  let _ ← grammar.attrs
  match blockExpr? grammar (← look) with
  | some parser =>
      parser
      if ← peek fun trees => dotFollows trees || Look.punct "?" trees then
        let form ← trailers grammar .block
        climbRule grammar true 0 form
      else return .block
  | none =>
      let first ← unaryRule grammar true
      climbRule grammar true 0 first

/-- An expression. -/
def exprRule (grammar : Grammar) (allowStruct : Bool) : Parser ExprForm := do
  let first ← unaryRule grammar allowStruct
  climbRule grammar allowStruct 0 first

end NativeBridge.Source.Grammar

import NativeBridge.Source.Grammar.Types

/-!
# Patterns

Patterns are read for their extent, and for the name that a plain one binds.
-/

namespace NativeBridge.Source.Grammar

open NativeBridge.Source.Parser

/-- Alternatives follow. -/
def orFollows (trees : List Tree) : Bool :=
  Look.punct "|" trees && !Look.punct "||" trees && !Look.punct "|=" trees

/-- A pattern with alternatives, which may begin with a bar. -/
def alternatives (grammar : Grammar) : Parser PatternShape := do
  let hasBar ← punct? "|"
  let first ← grammar.pattern
  let more ← whileLooking orFollows do
    punct "|"
    grammar.pattern
  return if hasBar || !more.isEmpty then .other else first

/-- A colon follows that does not begin a separator. -/
def colonFollows (trees : List Tree) : Bool :=
  Look.punct ":" trees && !Look.punct "::" trees

/-- A full stop follows that does not begin a range. -/
def dotFollows (trees : List Tree) : Bool :=
  Look.punct "." trees && !Look.punct ".." trees

/-- An exclamation mark follows that does not begin a comparison. -/
def bangFollows (trees : List Tree) : Bool :=
  Look.punct "!" trees && !Look.punct "!=" trees

/-- A block of a constant. -/
def constantBlock (grammar : Grammar) : Parser Unit := do
  word "const"
  grammar.body

/-- What ends a range in a pattern without an upper bound. -/
def endsPatternRange (trees : List Tree) : Bool :=
  trees.isEmpty || Look.punct "|" trees || Look.punct "=" trees || colonFollows trees
    || Look.punct "," trees || Look.punct ";" trees || Look.word "if" trees

/-- A bound of a range in a pattern, if there is one. -/
def patternBound (grammar : Grammar) : Parser Bool := do
  let trees ← look
  if endsPatternRange trees then return false
  else if Look.literal trees then
    literal
    return true
  else if Look.name trees || Look.punct "::" trees || Look.punct "<" trees
      || Look.pathWord trees then
    let _ ← qualifiedPath grammar true
    return true
  else if Look.word "const" trees then
    constantBlock grammar
    return true
  else malformed

/-- The rest of a range in a pattern: its dots and its upper bound. Without one it
must exclude its end, and then lacks an end. -/
def patternRange (grammar : Grammar) (hasStart dotsAlone : Bool) : Parser PatternShape := do
  let isClosed ← peek fun trees =>
    Look.punct "..=" trees || (hasStart && Look.punct "..." trees)
  let ((), dots) ← located (if isClosed then skip ['.', '.', '='] else punct "..")
  if ← patternBound grammar then return if hasStart then .other else .openRange dots
  else if isClosed then malformed
  else return if dotsAlone then .other else .openRange dots

/-- A member of a structure: a name or a position. -/
def member : Parser (Option Name) := do
  match ← look with
  | .literal .integer text _ :: _ =>
      if Literal.isIndex text then
        let _ ← tree
        return none
      else malformed
  | _ => return some (← name)

/-- A field of a structure in a pattern. -/
def fieldPattern (grammar : Grammar) : Parser Unit := do
  let isBoxed ← word? "box"
  let isReference ← word? "ref"
  let isMutable ← word? "mut"
  let isMarked := isBoxed || isReference || isMutable
  let found ← if isMarked then some <$> name else member
  if found.isNone || (!isMarked && (← peek (Look.punct ":"))) then
    punct ":"
    let _ ← alternatives grammar

/-- The fields of a structure in a pattern, possibly with dots at the end. -/
def fieldPatterns (grammar : Grammar) : Parser Unit :=
  loop (fun (_ : Unit) => do
    if ← isEmpty then return .done ()
    let _ ← grammar.attrs
    if ← punct? ".." then return .done ()
    fieldPattern grammar
    if ← isEmpty then return .done ()
    punct ","
    return .again ()) ()

/-- A pattern that begins with a path. -/
def pathPattern (grammar : Grammar) : Parser PatternShape := do
  let found ← qualifiedPath grammar true
  let trees ← look
  if found.isPlain && bangFollows trees then
    punct "!"
    let _ ← anyGroup
    return .other
  else if Look.group .brace trees then
    inGroup .brace (fieldPatterns grammar)
    return .other
  else if Look.group .parenthesis trees then
    let _ ← inGroup .parenthesis (commaSeparated (alternatives grammar))
    return .other
  else if Look.punct ".." trees then patternRange grammar true false
  else return .other

/-- A pattern that binds a name. -/
def bindingPattern (grammar : Grammar) : Parser PatternShape := do
  let _ ← word? "ref"
  let _ ← word? "mut"
  let found ← if ← peek (Look.word "self") then anyWord else name
  if ← punct? "@" then let _ ← grammar.pattern
  return .name found

/-- The patterns of a slice, none of them a range that lacks an end. -/
def slicePatterns (grammar : Grammar) : Parser Unit := do
  let _ ← commaSeparated do
    match ← alternatives grammar with
    | .openRange dots => failAt .malformed dots
    | _ => return

/-- A pattern without alternatives. -/
def patternRule (grammar : Grammar) : Parser PatternShape := do
  let trees ← look
  let after := Look.next trees
  if (Look.name trees
        && (Look.punct "::" after || Look.punct "!" after || Look.group .brace after
          || Look.group .parenthesis after || Look.punct ".." after))
      || (Look.word "self" trees && Look.punct "::" after)
      || Look.punct "::" trees || Look.punct "<" trees || Look.word "Self" trees
      || Look.word "super" trees || Look.word "crate" trees then
    pathPattern grammar
  else if Look.word "_" trees then
    word "_"
    return .other
  else if Look.word "box" trees then
    word "box"
    let _ ← grammar.pattern
    return .other
  else if Look.punct "-" trees || Look.literal trees || Look.word "const" trees then
    if !(← patternBound grammar) then malformed
    if ← peek (Look.punct "..") then patternRange grammar true false else return .other
  else if Look.word "ref" trees || Look.word "mut" trees || Look.word "self" trees
      || Look.name trees then
    bindingPattern grammar
  else if Look.punct "&" trees then
    punct "&"
    let _ ← word? "mut"
    let _ ← grammar.pattern
    return .other
  else if Look.group .parenthesis trees then
    let _ ← inGroup .parenthesis (commaSeparated (alternatives grammar))
    return .other
  else if Look.group .bracket trees then
    inGroup .bracket (slicePatterns grammar)
    return .other
  else if Look.punct ".." trees && !Look.punct "..." trees then patternRange grammar false true
  else malformed

end NativeBridge.Source.Grammar

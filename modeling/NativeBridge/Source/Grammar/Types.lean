import NativeBridge.Source.Grammar.Basic

/-!
# Paths, generic parameters and types

Types are read with their shape; generic parameters, bounds and conditions are
read for their extent only.
-/

namespace NativeBridge.Source.Grammar

open NativeBridge.Source.Parser

/-- A path as read. -/
structure PathForm where
  /-- It begins with a type in angle brackets. -/
  qualified : Bool
  /-- It begins with a separator. -/
  leading : Bool
  segments : List Name
  /-- Some segment has arguments. -/
  isGeneric : Bool
  /-- The last segment has arguments. -/
  endsGeneric : Bool
  deriving Repr, Inhabited

namespace PathForm

/-- A path of names alone. -/
def isPlain (path : PathForm) : Bool :=
  !path.qualified && !path.isGeneric

/-- A path continued by another segment. -/
def extend (path : PathForm) (segment : Name) (isGeneric : Bool) : PathForm :=
  { path with
    segments := path.segments ++ [segment]
    isGeneric := path.isGeneric || isGeneric
    endsGeneric := isGeneric }

end PathForm

/-- A constant as an argument: a literal, a name or a block. -/
def constant (grammar : Grammar) : Parser Unit := do
  let trees ← look
  if Look.literal trees then literal
  else if Look.name trees then let _ ← name
  else if Look.group .brace trees then grammar.body
  else malformed

/-- Bounds joined by plus signs, up to a condition. -/
def bounds (grammar : Grammar) (stop : List Tree → Bool) : Parser Nat :=
  joinedBy "+" stop grammar.bound

/-- What can follow the bounds of a generic argument. -/
def endsArgument (trees : List Tree) : Bool :=
  Look.punct "," trees || Look.punct ">" trees

/-- A generic argument: a lifetime, a constant, a type, or a name with a value or bounds. -/
def genericArgument (grammar : Grammar) : Parser Unit := do
  let trees ← look
  if Look.lifetime trees && !Look.punct "+" (Look.next trees) then lifetime
  else if Look.literal trees || Look.group .brace trees then constant grammar
  else
    let type ← grammar.type true
    let isName := match type with
      | .path false [_] _ _ => true
      | _ => false
    if isName then
      if ← punct? "=" then
        if ← peek fun trees => Look.literal trees || Look.group .brace trees then constant grammar
        else let _ ← grammar.type true
      else if ← punct? ":" then let _ ← bounds grammar endsArgument

/-- Generic arguments in angle brackets. -/
def genericArguments (grammar : Grammar) : Parser Unit := do
  punct "<"
  let _ ← separatedUntil "," (Look.punct ">") (genericArgument grammar)
  punct ">"

/-- Words that stand as a segment of a path by themselves. -/
def isReservedSegment (trees : List Tree) : Bool :=
  Look.word "super" trees || Look.word "self" trees || Look.word "crate" trees
    || Look.word "try" trees

/-- Generic arguments follow. In expressions a separator has to stand before them. -/
def argumentsFollow (inExpr : Bool) (trees : List Tree) : Bool :=
  (!inExpr && Look.punct "<" trees && !Look.punct "<=" trees)
    || (Look.punct "::" trees && Look.punct "<" (Look.next (Look.next trees)))

/-- A segment of a path, and whether it has arguments. -/
def segment (grammar : Grammar) (inExpr : Bool) : Parser (Name × Bool) := do
  if ← peek isReservedSegment then return (← anyWord, false)
  else
    let found ← if ← peek (Look.word "Self") then anyWord else name
    if ← peek (argumentsFollow inExpr) then
      let _ ← punct? "::"
      genericArguments grammar
      return (found, true)
    else return (found, false)

/-- Another segment follows; a separator before parentheses does not count. -/
def segmentFollows (trees : List Tree) : Bool :=
  Look.punct "::" trees && !Look.group .parenthesis (Look.next (Look.next trees))

/-- The segments after the first. -/
def moreSegments (grammar : Grammar) (inExpr : Bool) (path : PathForm) : Parser PathForm :=
  loop (fun (path : PathForm) => do
    if ← peek segmentFollows then
      punct "::"
      let (found, isGeneric) ← segment grammar inExpr
      return .again (path.extend found isGeneric)
    else return .done path) path

/-- A path that does not begin with a type. -/
def path (grammar : Grammar) (inExpr : Bool) : Parser PathForm := do
  let leading ← punct? "::"
  let (found, isGeneric) ← segment grammar inExpr
  moreSegments grammar inExpr ⟨false, leading, [found], isGeneric, isGeneric⟩

/-- A path that may begin with a type in angle brackets. -/
def qualifiedPath (grammar : Grammar) (inExpr : Bool) : Parser PathForm := do
  if ← punct? "<" then
    let _ ← grammar.type true
    if ← word? "as" then let _ ← path grammar false
    punct ">"
    let _ ← loop (fun (_ : Unit) => do
      punct "::"
      let _ ← segment grammar inExpr
      if ← peek (Look.punct "::") then return .again () else return .done ()) ()
    return ⟨true, false, [], false, false⟩
  else path grammar inExpr

/-- The type after an arrow, if there is one. -/
def result (grammar : Grammar) (allowPlus : Bool) : Parser (Option TypeForm) := do
  if ← punct? "->" then return some (← grammar.type allowPlus)
  else return none

/-- The types that a function type takes, in parentheses, and its result, and
whether a further segment may follow. -/
def parenthesized (grammar : Grammar) : Parser Bool := do
  let _ ← inGroup .parenthesis (commaSeparated (grammar.type true))
  match ← result grammar false with
  | none => return true
  | some (.enclosed _ _) => return true
  | some _ => return false

/-- Arguments in parentheses follow a path. -/
def parenthesesFollow (trees : List Tree) : Bool :=
  Look.group .parenthesis trees
    || (Look.punct "::" trees && Look.group .parenthesis (Look.next (Look.next trees)))

/-- A parameter of a list of lifetimes and types. -/
def genericParam (grammar : Grammar) : Parser Unit := do
  let _ ← grammar.attrs
  let trees ← look
  if Look.lifetime trees then
    lifetime
    if ← punct? ":" then
      let _ ← joinedBy "+" (fun trees => trees.isEmpty || endsArgument trees) lifetime
  else if Look.name trees then
    let _ ← name
    if ← punct? ":" then
      let _ ← bounds grammar fun trees =>
        trees.isEmpty || endsArgument trees || Look.punct "=" trees
    if ← punct? "=" then let _ ← grammar.type true
  else if Look.word "const" trees then
    word "const"
    let _ ← name
    punct ":"
    let _ ← grammar.type true
    if ← punct? "=" then constant grammar
  else if Look.word "_" trees then word "_"
  else malformed

/-- Generic parameters in angle brackets, if there are any. -/
def generics (grammar : Grammar) : Parser GenericsForm := do
  if ← peek (Look.punct "<") then
    let ((params, trees), region) ← located (sliced do
      punct "<"
      let params ← separatedUntil "," (Look.punct ">") (genericParam grammar)
      punct ">"
      return params)
    return ⟨!params.isEmpty, trees, region⟩
  else return ⟨false, [], ← front⟩

/-- Lifetimes that a bound or a type ranges over, if there are any. -/
def boundLifetimes (grammar : Grammar) : Parser Bool := do
  if ← word? "for" then
    punct "<"
    let _ ← separatedUntil "," (Look.punct ">") (genericParam grammar)
    punct ">"
    return true
  else return false

/-- The trait that a bound names. -/
def traitBound (grammar : Grammar) : Parser Unit := do
  let hasLifetimes ← boundLifetimes grammar
  if ← peek (Look.group .bracket) then inGroup .bracket (word "const")
  else if ← peek fun trees => Look.punct "~" trees && Look.word "const" (Look.next trees) then
    punct "~"
    word "const"
  else let _ ← word? "const"
  if ← punct? "?" then
    if !hasLifetimes then let _ ← boundLifetimes grammar
  let found ← path grammar false
  if !found.endsGeneric then
    if ← peek parenthesesFollow then
      let _ ← punct? "::"
      let _ ← parenthesized grammar

/-- A bound: a lifetime, a trait, possibly in parentheses, or the lifetimes that a type captures. -/
def boundRule (grammar : Grammar) (allowUse : Bool) : Parser Unit := do
  let trees ← look
  if Look.lifetime trees then lifetime
  else if Look.word "use" trees then
    let start ← here
    word "use"
    punct "<"
    let _ ← separatedUntil "," (Look.punct ">") do
      if ← peek Look.lifetime then lifetime else let _ ← anyWord
    punct ">"
    if !allowUse then failAt .malformed start
  else if Look.group .parenthesis trees then inGroup .parenthesis (traitBound grammar)
  else traitBound grammar

/-- A type goes on with another bound. -/
def boundFollows (trees : List Tree) : Bool :=
  Look.anyWord trees || Look.punct "::" trees || Look.punct "?" trees || Look.lifetime trees
    || Look.group .parenthesis trees

/-- The bounds of a type, at least one of them a trait. -/
def typeBounds (grammar : Grammar) (allowPlus allowUse : Bool) (start : Option Region) :
    Parser Unit := do
  let follows (trees : List Tree) : Bool :=
    boundFollows trees
      || (allowUse && (Look.group .bracket trees || Look.word "const" trees))
  let hasTrait ← loop (fun (hasTrait : Bool) => do
    let isLifetime ← peek Look.lifetime
    boundRule grammar allowUse
    let hasTrait := hasTrait || !isLifetime
    if allowPlus && (← peek (Look.punct "+")) then
      punct "+"
      if ← peek follows then return .again hasTrait else return .done hasTrait
    else return .done hasTrait) false
  if !hasTrait then failAt .malformed start

/-- The further bounds of a sum whose first bound has been read. -/
def sumTail (grammar : Grammar) : Parser Unit := do
  let _ ← loop (fun (_ : Unit) => do
    if ← punct? "+" then
      if ← peek boundFollows then
        boundRule grammar false
        return .again ()
      else return .done ()
    else return .done ()) ()

/-- A convention of calls, if one is named. -/
def convention? : Parser Unit := do
  if ← word? "extern" then
    if ← peek Look.string then let _ ← string

/-- The type of a function pointer, after its lifetimes. -/
def functionType (grammar : Grammar) : Parser Unit := do
  let _ ← word? "unsafe"
  convention?
  word "fn"
  inGroup .parenthesis do
    let argument : Parser Unit := do
      let isNamed (trees : List Tree) : Bool :=
        (Look.name trees || Look.word "_" trees || Look.word "self" trees)
          && Look.punct ":" (Look.next trees) && !Look.punct "::" (Look.next trees)
      let isMutableSelf (trees : List Tree) : Bool :=
        Look.word "mut" trees && Look.word "self" (Look.next trees)
      let hasMutableSelf ← peek isMutableSelf
      if hasMutableSelf then word "mut"
      if ← peek isNamed then
        let _ ← anyWord
        punct ":"
        let _ ← grammar.type true
      else if hasMutableSelf then word "self"
      else let _ ← grammar.type true
    let isDots (trees : List Tree) : Bool :=
      Look.punct "..." trees
        || ((Look.name trees || Look.word "_" trees) && Look.punct ":" (Look.next trees)
          && Look.punct "..." (Look.next (Look.next trees)))
    loop (fun (_ : Unit) => do
      if ← isEmpty then return .done ()
      let _ ← grammar.attrs
      if ← peek isDots then
        if !(← peek (Look.punct "...")) then
          let _ ← anyWord
          punct ":"
        punct "..."
        let _ ← punct? ","
        return .done ()
      argument
      if ← isEmpty then return .done ()
      punct ","
      return .again ()) ()
  let _ ← result grammar false

/-- What may begin a type after the lifetimes that it ranges over. -/
def mayRange (trees : List Tree) : Bool :=
  (Look.name trees || Look.word "fn" trees || Look.word "unsafe" trees
    || Look.word "extern" trees || Look.pathWord trees) && !Look.word "dyn" trees

/-- A kind of type, before its region is known. -/
abbrev TypeShape := Region → TypeForm

/-- A type in parentheses or a tuple. -/
def groupedType (grammar : Grammar) (allowPlus : Bool) : Parser TypeShape := do
  let inner ← inGroup .parenthesis do
    let trees ← look
    if trees.isEmpty then return (TypeForm.unit, false)
    else if Look.lifetime trees then
      typeBounds grammar true false (← here)
      return (TypeForm.other, false)
    else if Look.punct "?" trees then
      traitBound grammar
      return (TypeForm.other, true)
    else
      let first ← grammar.type true
      if ← peek (Look.punct ",") then
        punct ","
        let _ ← commaSeparated (grammar.type true)
        return (TypeForm.other, false)
      else
        let mayGoOn := match first with
          | .path _ _ _ _ | .other _ => true
          | _ => false
        return (TypeForm.enclosed first, mayGoOn)
  let (shape, mayGoOn) := inner
  if allowPlus && mayGoOn && (← peek (Look.punct "+")) then
    sumTail grammar
    return .other
  else return shape

/-- A type that begins with a path. -/
def pathType (grammar : Grammar) (allowPlus hasLifetimes : Bool) : Parser TypeShape := do
  let found ← qualifiedPath grammar false
  let (found, isCall) ←
    if !found.endsGeneric && (← peek parenthesesFollow) then do
      let _ ← punct? "::"
      let goesOn ← parenthesized grammar
      let found := { found with isGeneric := true, endsGeneric := true }
      if goesOn then pure (← moreSegments grammar false found, true) else pure (found, true)
    else pure (found, false)
  if found.qualified then return .other
  let trees ← look
  if !isCall && found.isPlain && Look.punct "!" trees && !Look.punct "!=" trees then
    punct "!"
    let _ ← anyGroup
    return .other
  else if hasLifetimes || (allowPlus && Look.punct "+" trees) then
    if allowPlus then sumTail grammar
    return .other
  else return .path found.leading (found.segments.map Name.text) found.isGeneric

/-- A raw pointer type. -/
def pointerType (grammar : Grammar) : Parser TypeShape := do
  punct "*"
  let mutable ←
    if ← word? "const" then pure false
    else if ← word? "mut" then pure true
    else malformed
  let target ← grammar.type false
  return .pointer mutable target

/-- A reference type. -/
def referenceType (grammar : Grammar) : Parser TypeShape := do
  punct "&"
  let hasLifetime ← lifetime?
  let mutable ← word? "mut"
  let target ← grammar.type false
  return .reference hasLifetime mutable target

/-- The type of an array or a slice. -/
def bracketType (grammar : Grammar) : Parser TypeShape := do
  inGroup .bracket do
    let _ ← grammar.type true
    if ← punct? ";" then let _ ← grammar.expr true
  return .other

/-- A type; sums of bounds only if allowed. -/
def typeRule (grammar : Grammar) (allowPlus : Bool) : Parser TypeForm := do
  let (shape, region) ← located do
    let hasLifetimes ← boundLifetimes grammar
    let trees ← look
    if hasLifetimes && !mayRange trees then malformed
    else if Look.group .parenthesis trees then groupedType grammar allowPlus
    else if Look.word "fn" trees || Look.word "unsafe" trees || Look.word "extern" trees then
      functionType grammar
      return TypeForm.other
    else if Look.name trees || Look.pathWord trees || Look.punct "::" trees
        || Look.punct "<" trees then
      pathType grammar allowPlus hasLifetimes
    else if Look.word "dyn" trees then
      let start ← here
      word "dyn"
      let _ ← punct? "*"
      typeBounds grammar allowPlus false start
      return TypeForm.other
    else if Look.group .bracket trees then bracketType grammar
    else if Look.punct "*" trees then pointerType grammar
    else if Look.punct "&" trees then referenceType grammar
    else if Look.punct "!" trees && !Look.punct "=" trees then
      punct "!"
      return TypeForm.other
    else if Look.word "impl" trees then
      let start ← here
      word "impl"
      typeBounds grammar allowPlus true start
      return TypeForm.other
    else if Look.word "_" trees then
      word "_"
      return TypeForm.other
    else if Look.lifetime trees then
      typeBounds grammar true false (← here)
      return TypeForm.other
    else malformed
  return shape region

/-- What ends the conditions on an item. -/
def endsConditions (trees : List Tree) : Bool :=
  trees.isEmpty || Look.group .brace trees || Look.punct "," trees || Look.punct ";" trees
    || (Look.punct ":" trees && !Look.punct "::" trees) || Look.punct "=" trees

/-- A condition: a lifetime or a type with its bounds. -/
def condition (grammar : Grammar) : Parser Unit := do
  if ← peek fun trees => Look.lifetime trees && Look.punct ":" (Look.next trees) then
    lifetime
    punct ":"
    let _ ← joinedBy "+" endsConditions lifetime
  else
    let _ ← boundLifetimes grammar
    let _ ← grammar.type true
    punct ":"
    let _ ← bounds grammar endsConditions

/-- The conditions on an item, if there are any: their trees, none if the list is empty. -/
def conditions (grammar : Grammar) : Parser (List Tree) := do
  if ← peek (Look.word "where") then
    let (count, trees) ← sliced do
      word "where"
      joinedBy "," endsConditions (condition grammar)
    return if count = 0 then [] else trees
  else return []

end NativeBridge.Source.Grammar

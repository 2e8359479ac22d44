import NativeBridge.Source.Fault
import NativeBridge.Source.Tree

/-!
# Parsers over token trees

A parser reads trees from the front of its input. What is inside a group is read
as an input of its own, whose end lies at the closing delimiter; where the end of
the whole input lies is known to whoever gave it, and to no parser. Trees that a
parser leaves unread in a group are a fault too, but one that counts only if the
rest of the text can be read.
-/

namespace NativeBridge.Source

/-- The trees still to be read, the delimiter at their end if they are inside a
group, the region of the tree read last, and the first tree left unread in a group. -/
structure Input where
  rest : List Tree
  scope : Option Region
  last : Region
  leftover : Option Region
  deriving Repr, Inhabited

/-- The input that consists of some trees. -/
def Input.ofTrees (trees : List Tree) : Input :=
  ⟨trees, none, .origin, none⟩

/-- A complaint of a parser; without a place it concerns the end of the whole input. -/
structure Stop where
  complaint : Complaint
  atEnd : Bool
  place : Option Region
  deriving DecidableEq, Repr, Inhabited

/-- The fault that a parser stopped at, once it is known where the input ends. -/
def Stop.fault (stop : Stop) (scope : Region) : Fault :=
  ⟨stop.complaint, stop.atEnd, stop.place.getD scope⟩

/-- A parser with results of a type. -/
abbrev Parser := StateT Input (Except Stop)

namespace Look

/-- The input begins with these punctuation characters, all but the last joint
with what follows. An apostrophe is never one of them. -/
def punctChars : List Char → List Tree → Bool
  | [], _ => true
  | [c], .punct d _ _ :: _ => c == d
  | c :: more, .punct d joint _ :: rest => c == d && joint && punctChars more rest
  | _ :: _, _ => false

/-- The input begins with this punctuation. -/
def punct (token : String) (trees : List Tree) : Bool :=
  punctChars token.toList trees

/-- The input begins with this word. -/
def word (text : String) : List Tree → Bool
  | .name name _ :: _ => name == text
  | _ => false

/-- Words that cannot be names. -/
def keywords : List String :=
  ["_", "abstract", "as", "async", "await", "become", "box", "break", "const", "continue",
    "crate", "do", "dyn", "else", "enum", "extern", "false", "final", "fn", "for", "if", "impl",
    "in", "let", "loop", "macro", "match", "mod", "move", "mut", "override", "priv", "pub", "ref",
    "return", "Self", "self", "static", "struct", "super", "trait", "true", "try", "type",
    "typeof", "unsafe", "unsized", "use", "virtual", "where", "while", "yield"]

/-- The input begins with a name that is no keyword. -/
def name : List Tree → Bool
  | .name text _ :: _ => !keywords.contains text
  | _ => false

/-- The input begins with any word. -/
def anyWord : List Tree → Bool
  | .name _ _ :: _ => true
  | _ => false

/-- The input begins with a lifetime. -/
def lifetime : List Tree → Bool
  | .punct '\'' true _ :: .name _ _ :: _ => true
  | _ => false

/-- The input begins with a number. -/
def number : List Tree → Bool
  | .literal .integer _ _ :: _ | .literal .float _ _ :: _ => true
  | _ => false

/-- The input begins with a literal; truth values and negative numbers count. -/
def literal : List Tree → Bool
  | .literal _ _ _ :: _ => true
  | .name "true" _ :: _ | .name "false" _ :: _ => true
  | .punct '-' _ _ :: rest => number rest
  | _ => false

/-- The input begins with a string literal. -/
def string : List Tree → Bool
  | .literal (.string _) _ _ :: _ => true
  | _ => false

/-- The input begins with a group between these delimiters. -/
def group (delimiter : Delimiter) : List Tree → Bool
  | .group found _ _ _ :: _ => found == delimiter
  | _ => false

/-- The input begins with a group. -/
def anyGroup : List Tree → Bool
  | .group _ _ _ _ :: _ => true
  | _ => false

/-- The input after its first tree; a lifetime counts as one. -/
def next : List Tree → List Tree
  | .punct '\'' true _ :: .name _ _ :: rest => rest
  | _ :: rest => rest
  | [] => []

/-- The input begins with one of the words that may begin a path besides names. -/
def pathWord (trees : List Tree) : Bool :=
  word "super" trees || word "self" trees || word "Self" trees || word "crate" trees

end Look

namespace Parser

/-- The trees still to be read. -/
def look : Parser (List Tree) := do
  return (← get).rest

/-- A condition on the trees still to be read. -/
def peek (condition : List Tree → Bool) : Parser Bool := do
  return condition (← get).rest

/-- Nothing is left to read. -/
def isEmpty : Parser Bool :=
  peek List.isEmpty

/-- Where a fault at the front of the input is reported. -/
def here : Parser (Option Region) := do
  let input ← get
  return match input.rest with
    | tree :: _ => tree.mark
    | [] => input.scope

/-- The region that stands for the tree at the front of the input. -/
def front : Parser Region := do
  return (← here).getD .origin

/-- Gives up at a place. -/
def failAt {α : Type} (complaint : Complaint) (place : Option Region) : Parser α :=
  throw ⟨complaint, false, place⟩

/-- Gives up at the front of the input. -/
def fail {α : Type} (complaint : Complaint) : Parser α := do
  failAt complaint (← here)

/-- Gives up at the front of the input with a message that tells the end apart. -/
def failSaying {α : Type} (complaint : Complaint) : Parser α := do
  throw ⟨complaint, ← isEmpty, ← here⟩

/-- Gives up because the grammar does not go on. -/
def malformed {α : Type} : Parser α :=
  fail .malformed

/-- Reads one tree. -/
def tree : Parser Tree := do
  let input ← get
  match input.rest with
  | found :: rest =>
      set { input with rest := rest, last := found.region }
      return found
  | [] => malformed

/-- Reads as many trees as a text has characters. -/
def skip : List Char → Parser Unit
  | [] => pure ()
  | _ :: rest => do
      let _ ← tree
      skip rest

/-- Reads this punctuation. -/
def punct (token : String) : Parser Unit := do
  if ← peek (Look.punct token) then skip token.toList
  else fail (.missing token)

/-- Reads this punctuation if the input begins with it. -/
def punct? (token : String) : Parser Bool := do
  if ← peek (Look.punct token) then
    skip token.toList
    return true
  else return false

/-- Reads this word. -/
def word (text : String) : Parser Unit := do
  if ← peek (Look.word text) then let _ ← tree
  else fail (.missing text)

/-- Reads this word if the input begins with it. -/
def word? (text : String) : Parser Bool := do
  if ← peek (Look.word text) then
    let _ ← tree
    return true
  else return false

/-- A name with its region. -/
structure Name where
  text : String
  region : Region
  deriving DecidableEq, Repr, Inhabited

/-- Reads any word. -/
def anyWord : Parser Name := do
  match ← look with
  | .name text region :: _ =>
      let _ ← tree
      return ⟨text, region⟩
  | _ => failSaying .missingWord

/-- Reads a name that is no keyword. -/
def name : Parser Name := do
  match ← look with
  | .name text region :: _ =>
      if Look.keywords.contains text then failSaying (.keyword text)
      else
        let _ ← tree
        return ⟨text, region⟩
  | _ => failSaying .missingName

/-- Reads a lifetime. -/
def lifetime : Parser Unit := do
  if ← peek Look.lifetime then skip ['\'', 'a'] else malformed

/-- Reads a lifetime if the input begins with one. -/
def lifetime? : Parser Bool := do
  if ← peek Look.lifetime then
    lifetime
    return true
  else return false

/-- Reads a literal; truth values and negative numbers count. -/
def literal : Parser Unit := do
  if ← peek Look.literal then
    if ← peek (Look.punct "-") then skip ['-', '0'] else skip ['0']
  else malformed

/-- Reads a string literal: its value and region. -/
def string : Parser (String × Region) := do
  match ← look with
  | .literal (.string value) _ region :: _ =>
      let _ ← tree
      return (value, region)
  | _ => failSaying .missingString

/-- A result together with the region of all trees that were read for it. -/
def located {α : Type} (parser : Parser α) : Parser (α × Region) := do
  let input ← get
  let start := match input.rest with
    | tree :: _ => tree.region.start
    | [] => (input.scope.getD .origin).start
  let found ← parser
  return (found, ⟨start, (← get).last.stop⟩)

/-- A result together with the trees that were read for it. -/
def sliced {α : Type} (parser : Parser α) : Parser (α × List Tree) := do
  let before ← look
  let found ← parser
  let after ← look
  return (found, before.take (before.length - after.length))

/-- Tries a parser and goes back to where it began. -/
def ahead {α : Type} (parser : Parser α) : Parser (Option α) := fun input =>
  match parser input with
  | .ok (found, _) => .ok (some found, input)
  | .error _ => .ok (none, input)

/-- Tries a parser; if it fails, nothing has been read. -/
def attempt {α : Type} (parser : Parser α) : Parser (Option α) := fun input =>
  match parser input with
  | .ok (found, rest) => .ok (some found, rest)
  | .error _ => .ok (none, input)

/-- Reads what is inside a group as an input of its own; the first tree left
unread there is remembered. -/
def within {α : Type} (inner : List Tree) (opening closing : Region) (parser : Parser α) :
    Parser α := do
  let outer ← get
  set { outer with rest := inner, scope := closing, last := opening }
  let found ← parser
  let after ← get
  let unread := after.rest.head?.map Tree.mark
  set { outer with leftover := after.leftover.or unread }
  return found

/-- Reads a group between these delimiters, its content by a parser. -/
def inGroup {α : Type} (delimiter : Delimiter) (parser : Parser α) : Parser α := do
  match ← look with
  | .group found inner opening closing :: _ =>
      if found = delimiter then
        let _ ← tree
        within inner opening closing parser
      else malformed
  | _ => malformed

/-- Reads a group between any delimiters without looking inside. -/
def anyGroup : Parser Delimiter := do
  match ← look with
  | .group delimiter _ _ _ :: _ =>
      let _ ← tree
      return delimiter
  | _ => malformed

/-- What a step of a loop settles. -/
inductive Step (σ β : Type) where
  /-- The loop goes on. -/
  | again (state : σ)
  /-- The loop ends. -/
  | done (result : β)

/-- Repeats a step at most so many times. -/
def loopAtMost {σ β : Type} (step : σ → Parser (Step σ β)) : Nat → σ → Parser β
  | 0, _ => malformed
  | fuel + 1, state => do
      match ← step state with
      | .again state => loopAtMost step fuel state
      | .done result => return result

/-- Repeats a step until it ends the loop; a step that goes on has read a tree. -/
def loop {σ β : Type} (step : σ → Parser (Step σ β)) (start : σ) : Parser β := do
  loopAtMost step ((← look).length + 1) start

/-- Reads items until a condition holds, with a separator between any two and
possibly after the last; the list is complete when the condition holds before an
item or after one. -/
def separatedUntil {α : Type} (separator : String) (stop : List Tree → Bool) (item : Parser α) :
    Parser (List α) :=
  loop (fun (found : List α) => do
    if ← peek stop then return .done found.reverse
    let value ← item
    if ← peek stop then return .done (value :: found).reverse
    punct separator
    return .again (value :: found)) []

/-- Reads items separated by commas to the end of the input. -/
def commaSeparated {α : Type} (item : Parser α) : Parser (List α) :=
  separatedUntil "," List.isEmpty item

/-- Reads items joined by a separator, which may also follow the last; a
condition tells where no further item begins. -/
def joinedBy (separator : String) (stop : List Tree → Bool) (item : Parser Unit) : Parser Nat :=
  loop (fun (count : Nat) => do
    if ← peek stop then return .done count
    item
    if !(← punct? separator) then return .done (count + 1)
    return .again (count + 1)) 0

/-- Reads items while a condition holds. -/
def whileLooking {α : Type} (condition : List Tree → Bool) (item : Parser α) :
    Parser (List α) :=
  loop (fun (found : List α) => do
    if ← peek condition then return .again ((← item) :: found)
    else return .done found.reverse) []

/-- Reads items to the end of the input. -/
def toEnd {α : Type} (item : Parser α) : Parser (List α) :=
  whileLooking (fun trees => !trees.isEmpty) item

/-- Runs a parser over a whole input that ends at a region: a tree left unread in a group or
at the end is a fault. -/
def runOn {α : Type} (parser : Parser α) (trees : List Tree) (scope : Region) :
    Except Fault α :=
  match parser (.ofTrees trees) with
  | .error stop => .error (stop.fault scope)
  | .ok (found, input) =>
      match input.leftover.or (input.rest.head?.map Tree.mark) with
      | some region => .error ⟨.leftover, false, region⟩
      | none => .ok found

end Parser

end NativeBridge.Source

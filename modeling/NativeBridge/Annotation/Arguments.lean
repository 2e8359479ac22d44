import NativeBridge.Source.File

/-!
# Arguments of annotations

An annotation takes arguments separated by commas, each of them a key, possibly
with a value. What a key means is up to the annotation.
-/

namespace NativeBridge

open Source Source.Parser

/-- The key of an argument: words joined by separators. -/
structure AnnotationKey where
  leading : Bool
  words : List Name
  deriving DecidableEq, Repr, Inhabited

namespace AnnotationKey

/-- The key if it is a single word. -/
def single? (key : AnnotationKey) : Option String :=
  match key.leading, key.words with
  | false, [word] => some word.text
  | _, _ => none

/-- The region from the first word to the last. -/
def region (key : AnnotationKey) : Region :=
  match key.words.head?, key.words.getLast? with
  | some first, some last => first.region.through last.region
  | _, _ => .origin

/-- Reads a key. -/
def read : Parser AnnotationKey := do
  let leading ← punct? "::"
  let trees ← look
  if !Look.anyWord trees then
    if trees.isEmpty then failSaying .missingKey
    else if Look.literal trees then fail .literalKey
    else fail .tokenKey
  let first ← anyWord
  let more ← whileLooking (Look.punct "::") do
    punct "::"
    anyWord
  return ⟨leading, first :: more⟩

/-- Refuses a key that an annotation does not know. -/
def refuse {α : Type} (key : AnnotationKey) (owner : String) : Parser α :=
  failAt (.unknownKey owner (key.single?.getD "")) key.region

end AnnotationKey

namespace Source.Attribute

/-- Reads the items between the commas of the arguments to the end. -/
def items {ι : Type} (item : AnnotationKey → Parser ι) : Parser (List ι) :=
  commaSeparated do
    let key ← AnnotationKey.read
    item key

/-- Reads the arguments of an attribute that must have some. -/
def readArguments {α : Type} (attr : Attribute) (rule : Grammar → Parser α) : Except Fault α :=
  match attr.input with
  | .arguments trees closing => readTrees rule trees closing
  | .bare => .error ⟨.missingArguments attr.inner attr.pathText, false, attr.pathRegion⟩
  | .value equals => .error ⟨.valueForArguments attr.inner attr.pathText, false, equals⟩

/-- Reads the items of an attribute that may stand without arguments. -/
def readItems? {ι : Type} (attr : Attribute) (item : Grammar → AnnotationKey → Parser ι) :
    Except Fault (List ι) :=
  match attr.input with
  | .bare => .ok []
  | _ => attr.readArguments fun grammar => items (item grammar)

/-- The items of several attributes in order. -/
def gather {ι : Type} (attrs : List Attribute) (read : Attribute → Except Fault (List ι)) :
    Except Fault (List ι) :=
  List.flatten <$> attrs.mapM read

end Source.Attribute

namespace AnnotationKey

/-- Reads the value of an argument: a string literal with its region. -/
def stringValue : Parser (String × Region) := do
  punct "="
  string

end AnnotationKey

end NativeBridge

import NativeBridge.Source.Literal
import NativeBridge.Source.Region

/-!
# Token trees

Source text is a sequence of trees: names, single punctuation characters,
literals, and groups between matching delimiters. Every tree knows its region.
-/

namespace NativeBridge.Source

/-- The pairs of delimiters that form groups. -/
inductive Delimiter where
  | parenthesis | bracket | brace
  deriving DecidableEq, Repr, Inhabited

namespace Delimiter

/-- The opening character. -/
def opening : Delimiter → Char
  | parenthesis => '('
  | bracket => '['
  | brace => '\x7b'

/-- The closing character. -/
def closing : Delimiter → Char
  | parenthesis => ')'
  | bracket => ']'
  | brace => '\x7d'

/-- The delimiter that a character opens. -/
def ofOpening? (c : Char) : Option Delimiter :=
  [parenthesis, bracket, brace].find? fun delimiter => delimiter.opening == c

/-- The delimiter that a character closes. -/
def ofClosing? (c : Char) : Option Delimiter :=
  [parenthesis, bracket, brace].find? fun delimiter => delimiter.closing == c

end Delimiter

/-- One tree of source text. -/
inductive Tree where
  /-- A name or a keyword, with its raw mark if it has one. -/
  | name (text : String) (region : Region)
  /-- A punctuation character; `joint` tells that another follows directly. -/
  | punct (c : Char) (joint : Bool) (region : Region)
  /-- A literal as written. -/
  | literal (literal : Literal) (text : String) (region : Region)
  /-- Trees between delimiters. -/
  | group (delimiter : Delimiter) (inner : List Tree) (opening closing : Region)
  deriving Repr, Inhabited

namespace Tree

/-- The whole region of a tree. -/
def region : Tree → Region
  | name _ region | punct _ _ region | literal _ _ region => region
  | group _ _ opening closing => opening.through closing

/-- Where a fault at a tree is reported: a group stands for its opening delimiter. -/
def mark : Tree → Region
  | name _ region | punct _ _ region | literal _ _ region => region
  | group _ _ opening _ => opening

mutual

/-- The number of trees inside a tree, groups counting twice. -/
def size : Tree → Nat
  | name _ _ | punct _ _ _ | literal _ _ _ => 1
  | group _ inner _ _ => 2 + sizeAll inner

/-- The sum of the sizes of some trees. -/
def sizeAll : List Tree → Nat
  | [] => 0
  | tree :: rest => tree.size + sizeAll rest

end

mutual

/-- The written parts of a tree: names, literals and single characters. -/
def parts : Tree → List String
  | name text _ => [text]
  | punct c _ _ => [String.singleton c]
  | literal _ text _ => [text]
  | group delimiter inner _ _ =>
      String.singleton delimiter.opening :: partsAll inner
        ++ [String.singleton delimiter.closing]

/-- The written parts of some trees in order. -/
def partsAll : List Tree → List String
  | [] => []
  | tree :: rest => tree.parts ++ partsAll rest

end

end Tree

end NativeBridge.Source

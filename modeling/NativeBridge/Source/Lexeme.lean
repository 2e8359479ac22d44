import NativeBridge.Source.Tree
import NativeBridge.Text.Blank
import NativeBridge.Text.Escaped

/-!
# From text to trees

Lexemes are read one after the other; blanks and comments between them are
skipped, but a documentation comment stands for an attribute. Delimiters are
then matched into groups. Reading stops at the first place that no lexeme fits.
-/

namespace NativeBridge.Source

open NativeBridge.Text

namespace Lexeme

/-- The input begins with these characters. -/
def begins (leading : String) (chars : List Char) : Bool :=
  leading.toList.isPrefixOf chars

/-- The rest of a line: its characters and the input from the line feed on. -/
def restOfLine : List Char → List Char × List Char
  | [] => ([], [])
  | c :: rest =>
      if c = '\n' then ([], c :: rest)
      else let (line, rest) := restOfLine rest; (c :: line, rest)

/-- A line without the carriage return before its line feed. -/
def withoutCarriage (line rest : List Char) : List Char :=
  if !rest.isEmpty && line.getLast? == some '\r' then line.dropLast else line

/-- A comment between marks, with the comments nested in it; `depth` counts the
open ones. -/
def blockFrom (depth : Nat) : List Char → Option (List Char × List Char)
  | [] => none
  | '/' :: '*' :: rest =>
      (blockFrom (depth + 1) rest).map fun (read, rest) => ('/' :: '*' :: read, rest)
  | '*' :: '/' :: rest =>
      if depth ≤ 1 then some (['*', '/'], rest)
      else (blockFrom (depth - 1) rest).map fun (read, rest) => ('*' :: '/' :: read, rest)
  | c :: rest => (blockFrom depth rest).map fun (read, rest) => (c :: read, rest)

/-- The comment between marks at the front of the input. -/
def block? (chars : List Char) : Option (List Char × List Char) :=
  if begins "/*" chars then blockFrom 0 chars else none

/-- The blank or plain comment at the front of the input. -/
def blank? (chars : List Char) : Option (List Char × List Char) :=
  if begins "//" chars then
    if (begins "///" chars && !begins "////" chars) || begins "//!" chars then none
    else some (restOfLine chars)
  else if begins "/**/" chars then some (chars.take 4, chars.drop 4)
  else if begins "/*" chars then
    if (begins "/**" chars && !begins "/***" chars) || begins "/*!" chars then none
    else block? chars
  else match chars with
    | c :: rest => if isBlank c then some ([c], rest) else none
    | [] => none

/-- The input after all blanks and plain comments, with its position. The fuel
is the length of the input. -/
def skipBlanks : Nat → Position → List Char → Position × List Char
  | 0, position, chars => (position, chars)
  | fuel + 1, position, chars =>
      match blank? chars with
      | some (read, rest) => skipBlanks fuel (position.afterAll read) rest
      | none => (position, chars)

/-- A text between the marks of a block comment. -/
def betweenMarks (comment : List Char) : List Char :=
  (comment.drop 3).take (comment.length - 5)

/-- The documentation comment at the front of the input: its text, whether it
belongs to what encloses it, the characters read and the rest. -/
def documentation? (chars : List Char) : Option (List Char × Bool × List Char × List Char) :=
  let line (inner : Bool) : List Char × Bool × List Char × List Char :=
    let (read, rest) := restOfLine chars
    (withoutCarriage (read.drop 3) rest, inner, read, rest)
  let between (inner : Bool) : Option (List Char × Bool × List Char × List Char) :=
    (block? chars).map fun (read, rest) => (betweenMarks read, inner, read, rest)
  if begins "//!" chars then some (line true)
  else if begins "/*!" chars then between true
  else if begins "///" chars then if begins "////" chars then none else some (line false)
  else if begins "/**" chars && !begins "/***" chars then between false
  else none

/-- Some carriage return is not followed by a line feed. -/
def hasLoneCarriage : List Char → Bool
  | [] => false
  | '\r' :: '\n' :: rest => hasLoneCarriage rest
  | '\r' :: _ => true
  | _ :: rest => hasLoneCarriage rest

/-- The punctuation character at the front of the input; a comment does not begin with one. -/
def punctuation? (chars : List Char) : Option Char :=
  if begins "//" chars || begins "/*" chars then none
  else match chars with
    | c :: _ => if "~!@#$%^&*-=+|;:,<.>/?'".toList.contains c then some c else none
    | [] => none

/-- The name at the front of the input, raw or not. -/
def name? (chars : List Char) : Option (List Char × List Char) :=
  if begins "r#" chars then
    match Literal.word (chars.drop 2) with
    | some (read, rest) =>
        if ["_", "super", "self", "Self", "crate"].contains (String.ofList read) then none
        else some ('r' :: '#' :: read, rest)
    | none => none
  else Literal.word chars

/-- Beginnings of literals that are not names even if the literal is broken. -/
def literalBeginnings : List String :=
  ["r\"", "r#\"", "r##", "b\"", "b'", "br\"", "br#", "c\"", "cr\"", "cr#"]

/-- What one lexeme is, before delimiters are matched. -/
inductive Mark where
  /-- A tree that is no group. -/
  | leaf (tree : Region → Tree)
  /-- A documentation comment, for what encloses it or for what follows. -/
  | documentation (text : String) (inner : Bool)
  /-- An opening delimiter. -/
  | opening (delimiter : Delimiter)
  /-- A closing delimiter. -/
  | closing (delimiter : Delimiter)

/-- An apostrophe that begins a lifetime: the name after it ends before any other apostrophe. -/
def beginsLifetime (rest : List Char) : Bool :=
  match name? rest with
  | some (_, after) =>
      !(after.head? == some '\'' || (after.head? == some '#' && !begins "r#" rest))
  | none => false

/-- The leaf at the front of the input, the characters read and the rest. -/
def leaf? (chars : List Char) : Option (Mark × List Char × List Char) :=
  match Literal.scan? chars with
  | some (literal, read, rest) =>
      some (.leaf (Tree.literal literal (String.ofList read)), read, rest)
  | none =>
      match punctuation? chars with
      | some c =>
          let rest := chars.drop 1
          if c = '\'' then
            if beginsLifetime rest then some (.leaf (Tree.punct c true), [c], rest) else none
          else some (.leaf (Tree.punct c (punctuation? rest).isSome), [c], rest)
      | none =>
          if literalBeginnings.any fun leading => begins leading chars then none
          else (name? chars).map fun (read, rest) =>
            (.leaf (Tree.name (String.ofList read)), read, rest)

/-- The lexeme at the front of the input, the characters read and the rest. -/
def next? (chars : List Char) : Option (Mark × List Char × List Char) :=
  match documentation? chars with
  | some (text, inner, read, rest) =>
      if hasLoneCarriage text then leaf? chars
      else some (.documentation (String.ofList text) inner, read, rest)
  | none =>
      match chars with
      | [] => none
      | c :: rest =>
          match Delimiter.ofOpening? c, Delimiter.ofClosing? c with
          | some delimiter, _ => some (.opening delimiter, [c], rest)
          | _, some delimiter => some (.closing delimiter, [c], rest)
          | none, none => leaf? chars

/-- All lexemes with their regions, and the place where reading stopped early.
The fuel is one more than the length of the input. -/
def all : Nat → Position → List Char → List (Mark × Region) × Option Position
  | 0, _, _ => ([], none)
  | fuel + 1, position, chars =>
      let (position, chars) := skipBlanks fuel position chars
      if chars.isEmpty then ([], none)
      else match next? chars with
        | none => ([], some position)
        | some (mark, read, rest) =>
            let stop := position.afterAll read
            let (marks, fault) := all fuel stop rest
            ((mark, ⟨position, stop⟩) :: marks, fault)

/-- The trees of a documentation comment: the attribute that it stands for. -/
def documentationTrees (text : String) (inner : Bool) (region : Region) : List Tree :=
  let last : Region := ⟨⟨region.stop.line, region.stop.column - 1⟩, region.stop⟩
  let pound := [Tree.punct '#' false region]
  let bang := if inner then [Tree.punct '!' false region] else []
  pound ++ bang ++ [.group .bracket
    [.name "doc" region, .punct '=' false region,
      .literal (.string text) (quoted text) region]
    ⟨region.start, ⟨region.start.line, region.start.column + 1⟩⟩ last]

/-- A group that is still open: its delimiter and what came before it, last tree first. -/
structure Frame where
  delimiter : Delimiter
  opening : Region
  before : List Tree

/-- Matches delimiters; `trees` are those of the innermost open group, last
first. A closing delimiter without its partner is a fault at its own place, an
opening one at its own place too, unless reading stopped early. -/
def nest (stopped : Option Position) :
    List (Mark × Region) → List Frame → List Tree → Except Position (List Tree)
  | [], frames, trees =>
      match stopped, frames with
      | some position, _ => .error position
      | none, frame :: _ => .error frame.opening.start
      | none, [] => .ok trees.reverse
  | (.leaf tree, region) :: rest, frames, trees => nest stopped rest frames (tree region :: trees)
  | (.documentation text inner, region) :: rest, frames, trees =>
      nest stopped rest frames ((documentationTrees text inner region).reverse ++ trees)
  | (.opening delimiter, region) :: rest, frames, trees =>
      nest stopped rest (⟨delimiter, region, trees⟩ :: frames) []
  | (.closing delimiter, region) :: rest, frames, trees =>
      match frames with
      | frame :: frames =>
          if frame.delimiter = delimiter then
            nest stopped rest frames
              (.group delimiter trees.reverse frame.opening region :: frame.before)
          else .error region.start
      | [] => .error region.start

end Lexeme

/-- The trees of a text, or the place where it is not made of lexemes and matching delimiters. -/
def trees (text : String) : Except Position (List Tree) :=
  let chars := text.toList
  let (position, chars) := match chars with
    | '\uFEFF' :: rest => (Position.first.after '\uFEFF', rest)
    | _ => (Position.first, chars)
  let (marks, stopped) := Lexeme.all (chars.length + 1) position chars
  Lexeme.nest stopped marks [] []

/-- A text without the mark at its front and without a first line that names an
interpreter. The line feed of that line stays, so that lines keep their numbers. -/
def withoutInterpreter (text : String) : String :=
  let chars := match text.toList with
    | '\uFEFF' :: rest => rest
    | chars => chars
  if Lexeme.begins "#!" chars then
    let rest := (Lexeme.skipBlanks chars.length .first (chars.drop 2)).2
    if rest.head? == some '[' then String.ofList chars
    else String.ofList (Lexeme.restOfLine chars).2
  else String.ofList chars

end NativeBridge.Source

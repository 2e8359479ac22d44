/-!
# Generated text as lines

A generated file is a list of lines; each ends with a line feed.
-/

namespace NativeBridge.Stub

/-- The text of a file with these lines. -/
def render (lines : List String) : String :=
  lines.foldr (fun line rest => line ++ "\n" ++ rest) ""

/-- The first line of a file made from one declaration. -/
def bannerOf (source : String) : String :=
  "// Generated by retro-binds from " ++ source ++ ". Do not edit."

/-- The first line of a file made from the whole run. -/
def banner : String :=
  "// Generated by retro-binds. Do not edit."

/-- Blocks of lines with one empty line between any two. -/
def spaced : List (List String) → List String
  | [] => []
  | [block] => block
  | block :: rest => block ++ "" :: spaced rest

/-- Texts joined by a comma and a blank. -/
def commaList (texts : List String) : String :=
  ", ".intercalate texts

end NativeBridge.Stub

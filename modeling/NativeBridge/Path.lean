/-!
# Paths of names

A path is a text whose segments are separated by `::`. Types are looked up by
their last segment.
-/

namespace NativeBridge.Path

/-- The characters before and after the last separator. -/
def splitLastChars : List Char → Option (List Char × List Char)
  | [] => none
  | c :: rest =>
      match splitLastChars rest with
      | some (before, after) => some (c :: before, after)
      | none =>
          match c, rest with
          | ':', ':' :: after => some ([], after)
          | _, _ => none

/-- The text before and after the last separator, if there is one. -/
def splitLast (path : String) : Option (String × String) :=
  (splitLastChars path.toList).map fun (before, after) =>
    (String.ofList before, String.ofList after)

/-- The segment after the last separator, the whole path without one. -/
def lastSegment (path : String) : String :=
  match splitLast path with
  | some (_, last) => last
  | none => path

/-- A name below a namespace; the empty namespace adds nothing. -/
def qualify (namespaceName name : String) : String :=
  if namespaceName.isEmpty then name else namespaceName ++ "::" ++ name

end NativeBridge.Path

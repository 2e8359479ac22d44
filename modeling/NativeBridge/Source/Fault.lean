import NativeBridge.Source.Region

/-!
# Faults in source text

A fault names what was expected and covers the region that could not be read.
-/

namespace NativeBridge.Source

/-- What is wrong with a piece of source text. -/
inductive Complaint where
  /-- The grammar does not go on with this token. -/
  | malformed
  /-- A token was left over at the end of a group. -/
  | leftover
  /-- A certain token is missing. -/
  | missing (token : String)
  /-- A name is missing. -/
  | missingName
  /-- Any word is missing. -/
  | missingWord
  /-- A keyword stands in place of a name. -/
  | keyword (name : String)
  /-- A string literal is missing. -/
  | missingString
  /-- Arguments end where a key should stand. -/
  | missingKey
  /-- A literal stands in place of a key. -/
  | literalKey
  /-- Something else stands in place of a key. -/
  | tokenKey
  /-- An attribute without the arguments it needs. -/
  | missingArguments (inner : Bool) (path : String)
  /-- An attribute with a value in place of its arguments. -/
  | valueForArguments (inner : Bool) (path : String)
  /-- A key that an attribute does not know. -/
  | unknownKey (owner key : String)
  /-- A kind of export that does not exist. -/
  | unknownKind
  /-- A representation that blittable types cannot have. -/
  | unsupportedRepr (name : String)
  deriving DecidableEq, Repr, Inhabited

/-- How an attribute with arguments is written. -/
def usage (inner : Bool) (path : String) : String :=
  (if inner then "#![" else "#[") ++ path ++ "(...)]"

/-- The text of a complaint. -/
def Complaint.message : Complaint → String
  | malformed => "unexpected token"
  | leftover => "unexpected token"
  | missing token => "expected `" ++ token ++ "`"
  | missingName => "expected identifier"
  | missingWord => "expected ident"
  | keyword name => "expected identifier, found keyword `" ++ name ++ "`"
  | missingString => "expected string literal"
  | missingKey => "expected nested attribute"
  | literalKey => "unexpected literal in nested attribute, expected ident"
  | tokenKey => "unexpected token in nested attribute, expected ident"
  | missingArguments inner path =>
      "expected attribute arguments in parentheses: " ++ usage inner path
  | valueForArguments inner path => "expected parentheses: " ++ usage inner path
  | unknownKey owner key => "unknown " ++ owner ++ " attribute: " ++ key
  | unknownKind => "kind must be one of \"class\", \"struct\", \"record\""
  | unsupportedRepr name => "repr(" ++ name ++ ") is not supported for blittable types"

/-- A complaint with its place; at the end of the input the message says so. -/
structure Fault where
  complaint : Complaint
  atEnd : Bool
  region : Region
  deriving DecidableEq, Repr, Inhabited

/-- The text of a fault. -/
def Fault.message (fault : Fault) : String :=
  (if fault.atEnd then "unexpected end of input, " else "") ++ fault.complaint.message

end NativeBridge.Source

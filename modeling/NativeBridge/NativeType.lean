/-!
# Types of the native side

A native position is a named type by value, behind a pointer or behind a
reference.
-/

namespace NativeBridge

/-- How a native position reaches its value. -/
inductive Indirection where
  | value | pointer | reference
  deriving DecidableEq, Repr, Inhabited

/-- A native position; only indirect positions are ever const. -/
structure NativeType where
  base : String
  indirection : Indirection
  isConst : Bool
  const_indirect : isConst = true → indirection ≠ .value
  deriving DecidableEq

namespace NativeType

/-- A position that is const as asked, as far as its indirection allows it. -/
def make (base : String) (indirection : Indirection) (isConst : Bool) : NativeType where
  base := base
  indirection := indirection
  isConst := isConst && indirection != .value
  const_indirect := by simp

/-- The type of methods that return nothing. -/
def void : NativeType :=
  make "void" .value false

/-- Exactly the type without a value. -/
def isVoid (type : NativeType) : Bool :=
  type.indirection == .value && type.base == "void"

/-- A pointer or a reference. -/
def isIndirect (type : NativeType) : Bool :=
  type.indirection != .value

/-- The type with another name in place of its base. -/
def withBase (type : NativeType) (base : String) : NativeType :=
  { type with base := base }

/-- The written form. -/
def text (type : NativeType) : String :=
  (if type.isConst then "const " else "") ++ type.base ++
    match type.indirection with
    | .value => ""
    | .pointer => "*"
    | .reference => "&"

/-- A declaration of a name with this type. -/
def declarator (type : NativeType) (name : String) : String :=
  type.text ++ " " ++ name

/-- The expression for the size of a parameter slot of this type. -/
def sizeofText (type : NativeType) : String :=
  match type.indirection with
  | .value => "sizeof(" ++ type.base ++ ")"
  | .pointer | .reference => "sizeof(void*)"

end NativeType

end NativeBridge

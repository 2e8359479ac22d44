import NativeBridge.Path
import NativeBridge.Primitive

/-!
# Types of the managed side

A declaration names its types by paths, behind any number of references and
pointers.
-/

namespace NativeBridge

/-- A type as a declaration writes it. -/
inductive ManagedType where
  /-- The unit type. -/
  | unit
  /-- A named type. -/
  | path (name : String)
  /-- A reference. -/
  | ref (mutable : Bool) (target : ManagedType)
  /-- A raw pointer. -/
  | ptr (mutable : Bool) (target : ManagedType)
  deriving DecidableEq, Repr, Inhabited

namespace ManagedType

/-- The last segment of a named type. -/
def ident? : ManagedType → Option String
  | path name => some (Path.lastSegment name)
  | _ => none

/-- The unit type. -/
def isUnit : ManagedType → Bool
  | unit => true
  | _ => false

/-- A named type. -/
def isPath : ManagedType → Bool
  | path _ => true
  | _ => false

/-- The untyped target of pointers, under whatever path. -/
def isUntyped (type : ManagedType) : Bool :=
  type.ident? == some "c_void"

/-- The primitive type whose name is the whole path. -/
def primitive? : ManagedType → Option Primitive
  | path name => Primitive.ofManagedName? name
  | _ => none

/-- A reference or a pointer. -/
def isIndirect : ManagedType → Bool
  | ref _ _ | ptr _ _ => true
  | _ => false

/-- The written form; the untyped target always has its full path. -/
def text : ManagedType → String
  | unit => "()"
  | path name => if Path.lastSegment name == "c_void" then "::core::ffi::c_void" else name
  | ref mutable target => (if mutable then "&mut " else "&") ++ target.text
  | ptr mutable target => (if mutable then "*mut " else "*const ") ++ target.text

end ManagedType

end NativeBridge

import NativeBridge.Layout

/-!
# Primitive types

The scalar types that both sides of the boundary know by a name of their own.
-/

namespace NativeBridge

/-- The scalar types of the boundary. -/
inductive Primitive where
  | bool | int8 | int16 | int32 | int64 | uint8 | uint16 | uint32 | uint64
  | isize | usize | float | double
  deriving DecidableEq, Repr, Inhabited

namespace Primitive

/-- Every primitive type, in the order of its declaration. -/
def all : List Primitive :=
  [bool, int8, int16, int32, int64, uint8, uint16, uint32, uint64, isize, usize, float, double]

/-- The name on the managed side. -/
def managedName : Primitive → String
  | bool => "bool"
  | int8 => "i8"
  | int16 => "i16"
  | int32 => "i32"
  | int64 => "i64"
  | uint8 => "u8"
  | uint16 => "u16"
  | uint32 => "u32"
  | uint64 => "u64"
  | isize => "isize"
  | usize => "usize"
  | float => "f32"
  | double => "f64"

/-- The name on the native side. -/
def nativeName : Primitive → String
  | bool => "bool"
  | int8 => "int8"
  | int16 => "int16"
  | int32 => "int32"
  | int64 => "int64"
  | uint8 => "uint8"
  | uint16 => "uint16"
  | uint32 => "uint32"
  | uint64 => "uint64"
  | isize => "isize"
  | usize => "usize"
  | float => "float"
  | double => "double"

/-- The primitive type with this managed name. -/
def ofManagedName? (name : String) : Option Primitive :=
  all.find? fun primitive => primitive.managedName == name

/-- Size in bytes; the pointer-sized integers follow the target. -/
def size (target : Target) : Primitive → Nat
  | bool | int8 | uint8 => 1
  | int16 | uint16 => 2
  | int32 | uint32 | float => 4
  | int64 | uint64 | double => 8
  | isize | usize => target.pointerSize

/-- Alignment in bytes: the size, except that eight-byte scalars may be aligned less strictly. -/
def align (target : Target) (primitive : Primitive) : Nat :=
  let size := primitive.size target
  if size = 8 ∧ target.wideAlign < 8 then target.wideAlign else size

/-- Size and alignment on a target. -/
def layout (target : Target) (primitive : Primitive) : Layout :=
  ⟨primitive.size target, primitive.align target⟩

/-- An integer type, signed or unsigned. -/
def isInteger : Primitive → Bool
  | bool | float | double => false
  | _ => true

end Primitive

end NativeBridge

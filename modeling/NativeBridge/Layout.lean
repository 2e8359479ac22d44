/-!
# Memory layout of C structures

Sizes and alignments follow the platform rules for C: fields are placed in
declaration order, each at the next multiple of its alignment, and the whole is
padded to its own alignment.
-/

namespace NativeBridge

/-- What layouts depend on: the width of a pointer and the alignment of eight-byte scalars. -/
structure Target where
  pointerSize : Nat
  wideAlign : Nat
  deriving DecidableEq, Repr, Inhabited

/-- Size and alignment in bytes. -/
structure Layout where
  size : Nat
  align : Nat
  deriving DecidableEq, Repr, Inhabited

namespace Layout

/-- The layout of every pointer on a target. -/
def pointer (target : Target) : Layout :=
  ⟨target.pointerSize, target.pointerSize⟩

end Layout

/-- The least multiple of `align` that is at least `offset`; alignments of zero
and one leave it alone. -/
def alignUp (offset align : Nat) : Nat :=
  if align ≤ 1 then offset else (offset + align - 1) / align * align

/-- A field with its offset from the start of its structure. -/
structure PlacedField where
  name : String
  offset : Nat
  layout : Layout
  deriving DecidableEq, Repr, Inhabited

/-- The layout of a type together with its placed fields; scalars have none. -/
structure StructLayout where
  layout : Layout
  fields : List PlacedField
  deriving DecidableEq, Repr, Inhabited

namespace StructLayout

/-- The placed fields from an offset on, and the offset after the last of them. -/
def place (offset : Nat) : List (String × Layout) → List PlacedField × Nat
  | [] => ([], offset)
  | (name, layout) :: rest =>
      let start := alignUp offset layout.align
      let (placed, stop) := place (start + layout.size) rest
      (⟨name, start, layout⟩ :: placed, stop)

/-- The largest alignment among the fields, at least one. -/
def alignOf (fields : List (String × Layout)) : Nat :=
  fields.foldl (fun align field => max align field.2.align) 1

/-- The C structure with these fields in this order. -/
def ofFields (fields : List (String × Layout)) : StructLayout :=
  let (placed, stop) := place 0 fields
  let align := alignOf fields
  ⟨⟨alignUp stop align, align⟩, placed⟩

/-- A type without fields. -/
def scalar (layout : Layout) : StructLayout :=
  ⟨layout, []⟩

end StructLayout

end NativeBridge

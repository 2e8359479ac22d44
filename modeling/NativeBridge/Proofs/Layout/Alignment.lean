import Mathlib.Algebra.Order.Ring.Nat
import NativeBridge.Primitive
import NativeBridge.Proofs.Layout.Placement

/-!
# Alignments that fit into each other

A structure is aligned like its most aligned field. That this suits every field
is no matter of size alone: alignments have to divide each other, and they do
because all of them are powers of two. `Layout.Regular` is what scalars start
with and what structures keep.
-/

namespace NativeBridge

/-- A target whose pointers and wide scalars have known widths. -/
structure Target.Supported (target : Target) : Prop where
  pointerSize : target.pointerSize = 4 ∨ target.pointerSize = 8
  wideAlign : target.wideAlign = 4 ∨ target.wideAlign = 8

/-- The alignment is a power of two that divides the size. -/
structure Layout.Regular (layout : Layout) : Prop where
  power : ∃ exponent, layout.align = 2 ^ exponent
  divides : layout.align ∣ layout.size

/-- A regular layout is aligned to something. -/
theorem Layout.Regular.align_pos {layout : Layout} (regular : layout.Regular) :
    0 < layout.align := by
  obtain ⟨exponent, power⟩ := regular.power
  rw [power]
  exact Nat.two_pow_pos exponent

/-- Of two powers of two, the smaller divides the greater. -/
theorem dvd_of_powers {small great : Nat} (isSmall : ∃ exponent, small = 2 ^ exponent)
    (isGreat : ∃ exponent, great = 2 ^ exponent) (atMost : small ≤ great) :
    small ∣ great := by
  obtain ⟨first, rfl⟩ := isSmall
  obtain ⟨second, rfl⟩ := isGreat
  exact Nat.pow_dvd_pow 2 ((Nat.pow_le_pow_iff_right Nat.one_lt_two).mp atMost)

/-- Scalars are regular, also where wide ones are aligned to four bytes only. -/
theorem Primitive.regular {target : Target} (supported : target.Supported)
    (primitive : Primitive) : (primitive.layout target).Regular := by
  obtain ⟨pointerSize, wideAlign⟩ := target
  obtain ⟨pointer, wide⟩ := supported
  have powers : ∀ align ∈ [1, 2, 4, 8], ∃ exponent, align = 2 ^ exponent := by
    intro align isAlign
    simp only [List.mem_cons, List.not_mem_nil, or_false] at isAlign
    rcases isAlign with rfl | rfl | rfl | rfl
    exacts [⟨0, rfl⟩, ⟨1, rfl⟩, ⟨2, rfl⟩, ⟨3, rfl⟩]
  simp only at pointer wide
  rcases pointer with rfl | rfl <;> rcases wide with rfl | rfl <;> cases primitive <;>
    exact ⟨powers _ (by decide), by decide⟩

/-- Less than the alignment is skipped to reach an aligned place. -/
theorem IsAligned.lt_add {offset align place : Nat} (aligned : IsAligned offset align place)
    (positive : 0 < align) : place < offset + align := by
  by_contra far
  have same : max 1 align = align := by omega
  obtain ⟨⟨-, divides⟩, least⟩ := aligned
  rw [same] at divides
  -- The place one alignment earlier would do as well.
  have earlier : place - align ∈ {candidate | offset ≤ candidate ∧ max 1 align ∣ candidate} := by
    rw [same]
    exact ⟨by omega, Nat.dvd_sub divides (Nat.dvd_refl align)⟩
  have tooFar := least earlier
  omega

/-- An aligned place is a multiple of its alignment. -/
theorem IsAligned.dvd {offset align place : Nat} (aligned : IsAligned offset align place)
    (positive : 0 < align) : align ∣ place := by
  have divides := aligned.1.2
  rwa [max_eq_right positive] at divides

namespace StructLayout

/-- Fields that follow each other from one offset to another: each starts at a multiple of
its alignment, after the one before, and leaves less than its alignment unused. -/
inductive Packed : Nat → List PlacedField → Nat → Prop
  /-- No fields. -/
  | nil (offset : Nat) : Packed offset [] offset
  /-- A field, and the others from its end on. -/
  | cons {offset stop : Nat} {field : PlacedField} {fields : List PlacedField}
      (after : offset ≤ field.offset) (gap : field.offset < offset + field.layout.align)
      (aligned : field.layout.align ∣ field.offset)
      (rest : Packed (field.offset + field.layout.size) fields stop) :
      Packed offset (field :: fields) stop

/-- Fields with regular layouts are packed where they are placed. -/
theorem Placed.packed {offset stop : Nat} {fields : List (String × Layout)}
    {placed : List PlacedField} (isPlaced : Placed offset fields placed stop)
    (regular : ∀ field ∈ fields, field.2.Regular) : Packed offset placed stop := by
  induction isPlaced with
  | nil offset => exact .nil offset
  | cons aligned _ ih =>
      obtain ⟨first, others⟩ := List.forall_mem_cons.mp regular
      exact .cons aligned.1.1 (aligned.lt_add first.align_pos) (aligned.dvd first.align_pos)
        (ih others)

/-- Packing goes forward. -/
theorem Packed.le {offset stop : Nat} {fields : List PlacedField}
    (packed : Packed offset fields stop) : offset ≤ stop := by
  induction packed with
  | nil offset => exact Nat.le_refl offset
  | cons after gap aligned _ ih => omega

/-- The alignment of a structure is one or that of a field. -/
theorem IsStruct.align_eq {fields : List (String × Layout)} {result : StructLayout}
    (isStruct : IsStruct fields result) :
    result.layout.align = 1 ∨ ∃ field ∈ fields, field.2.align = result.layout.align := by
  by_contra neither
  obtain ⟨notOne, noField⟩ := not_or.mp neither
  obtain ⟨⟨atLeast, above⟩, least⟩ := isStruct.align
  -- Otherwise one less would bound all alignments too.
  have smaller : result.layout.align ≤ result.layout.align - 1 := by
    refine least ⟨by omega, fun field isField => ?_⟩
    have bounded := above field isField
    have differs : field.2.align ≠ result.layout.align :=
      fun same => noField ⟨field, isField, same⟩
    omega
  omega

/-- A structure of regular fields is regular. -/
theorem IsStruct.regular {fields : List (String × Layout)} {result : StructLayout}
    (isStruct : IsStruct fields result) (each : ∀ field ∈ fields, field.2.Regular) :
    result.layout.Regular := by
  obtain ⟨stop, -, padded⟩ := isStruct.placed
  refine ⟨?_, padded.dvd isStruct.align.1.1⟩
  rcases isStruct.align_eq with isOne | ⟨field, isField, same⟩
  · exact ⟨0, isOne⟩
  · rw [← same]
    exact (each field isField).power

/-- The alignment of a structure suits every field. -/
theorem IsStruct.align_dvd {fields : List (String × Layout)} {result : StructLayout}
    (isStruct : IsStruct fields result) (each : ∀ field ∈ fields, field.2.Regular)
    {field : String × Layout} (isField : field ∈ fields) :
    field.2.align ∣ result.layout.align :=
  dvd_of_powers (each field isField).power (isStruct.regular each).power
    (isStruct.align.1.2 field isField)

/-- A structure ends less than its alignment after its last field. -/
theorem IsStruct.padding {fields : List (String × Layout)} {result : StructLayout}
    (isStruct : IsStruct fields result) (each : ∀ field ∈ fields, field.2.Regular) :
    ∃ stop, Placed 0 fields result.fields stop ∧ Packed 0 result.fields stop ∧
      stop ≤ result.layout.size ∧ result.layout.size < stop + result.layout.align := by
  obtain ⟨stop, placed, padded⟩ := isStruct.placed
  exact ⟨stop, placed, placed.packed each, padded.1.1, padded.lt_add isStruct.align.1.1⟩

end StructLayout

end NativeBridge

import Mathlib.Order.Bounds.Basic
import NativeBridge.Layout

/-!
# Placing the fields of a structure

The rules of C say where a field may start and how far a structure is padded:
at the least multiple of an alignment that is not too small. `IsStruct` states
these rules without computing anything, and `isStruct_iff` says that exactly the
computed layout obeys them.
-/

namespace NativeBridge

/-- The least place from an offset on that an alignment admits. Alignments of zero
and one admit every place. -/
def IsAligned (offset align place : Nat) : Prop :=
  IsLeast {candidate | offset ≤ candidate ∧ max 1 align ∣ candidate} place

/-- No place from an offset on is admitted twice as the least. -/
theorem IsAligned.unique {offset align first second : Nat}
    (isFirst : IsAligned offset align first) (isSecond : IsAligned offset align second) :
    first = second :=
  IsLeast.unique isFirst isSecond

/-- The computed place is the least that the alignment admits. -/
theorem isAligned_alignUp (offset align : Nat) :
    IsAligned offset align (alignUp offset align) := by
  unfold alignUp
  split
  · rename_i loose
    have one : max 1 align ∣ offset := by
      rw [max_eq_left loose]
      exact Nat.one_dvd offset
    refine ⟨⟨le_refl offset, one⟩, ?_⟩
    intro candidate admitted
    exact admitted.1
  · rename_i strict
    have same : max 1 align = align := by omega
    have positive : 0 < align := by omega
    have multiple : max 1 align ∣ (offset + align - 1) / align * align := by
      rw [same]
      exact Nat.dvd_mul_left align _
    refine ⟨⟨?_, multiple⟩, ?_⟩
    · have rounded := Nat.lt_div_mul_add (a := offset + align - 1) positive
      omega
    · intro candidate ⟨enough, divides⟩
      rw [same] at divides
      obtain ⟨count, rfl⟩ := divides
      have bounded : (offset + align - 1) / align < count + 1 := by
        rw [Nat.div_lt_iff_lt_mul positive, Nat.add_mul, Nat.mul_comm count]
        omega
      rw [Nat.mul_comm align count]
      exact Nat.mul_le_mul_right align (Nat.le_of_lt_succ bounded)

namespace StructLayout

/-- Fields placed one after the other from an offset to where the last one stops. -/
inductive Placed : Nat → List (String × Layout) → List PlacedField → Nat → Prop
  /-- Nothing is placed. -/
  | nil (offset : Nat) : Placed offset [] [] offset
  /-- A field starts at the least place that its alignment admits, the next one after it. -/
  | cons {offset start stop : Nat} {name : String} {layout : Layout}
      {fields : List (String × Layout)} {placed : List PlacedField}
      (aligned : IsAligned offset layout.align start)
      (rest : Placed (start + layout.size) fields placed stop) :
      Placed offset ((name, layout) :: fields) (⟨name, start, layout⟩ :: placed) stop

/-- The layout of a C structure with these fields in this order. -/
structure IsStruct (fields : List (String × Layout)) (result : StructLayout) : Prop where
  /-- The alignment is the least that is at least one and that of every field. -/
  align : IsLeast {align | 1 ≤ align ∧ ∀ field ∈ fields, field.2.align ≤ align}
    result.layout.align
  /-- The fields are placed from the start on, and the whole is padded to its alignment. -/
  placed : ∃ stop, Placed 0 fields result.fields stop ∧
    IsAligned stop result.layout.align result.layout.size

/-- The computed places follow the rules. -/
theorem placed_place (offset : Nat) (fields : List (String × Layout)) :
    Placed offset fields (place offset fields).1 (place offset fields).2 := by
  induction fields generalizing offset with
  | nil => exact .nil offset
  | cons field rest ih => exact .cons (isAligned_alignUp offset field.2.align) (ih _)

/-- The rules determine every place. -/
theorem Placed.unique {offset stop otherStop : Nat} {fields : List (String × Layout)}
    {placed others : List PlacedField} (isPlaced : Placed offset fields placed stop)
    (isOther : Placed offset fields others otherStop) :
    placed = others ∧ stop = otherStop := by
  induction isPlaced generalizing others otherStop with
  | nil offset =>
      cases isOther
      exact ⟨rfl, rfl⟩
  | cons aligned _ ih =>
      cases isOther with
      | cons otherAligned otherRest =>
          cases aligned.unique otherAligned
          obtain ⟨rfl, rfl⟩ := ih otherRest
          exact ⟨rfl, rfl⟩

/-- Placing fields keeps their names and their order. -/
theorem Placed.names {offset stop : Nat} {fields : List (String × Layout)}
    {placed : List PlacedField} (isPlaced : Placed offset fields placed stop) :
    placed.map PlacedField.name = fields.map Prod.fst := by
  induction isPlaced with
  | nil offset => rfl
  | cons aligned rest ih => simp [ih]

/-- Placing fields keeps their layouts. -/
theorem Placed.layouts {offset stop : Nat} {fields : List (String × Layout)}
    {placed : List PlacedField} (isPlaced : Placed offset fields placed stop) :
    placed.map PlacedField.layout = fields.map Prod.snd := by
  induction isPlaced with
  | nil offset => rfl
  | cons aligned rest ih => simp [ih]

/-- The largest alignment from a bound on is the least bound of all of them. -/
theorem isLeast_foldl_max (bound : Nat) (fields : List (String × Layout)) :
    IsLeast {align | bound ≤ align ∧ ∀ field ∈ fields, field.2.align ≤ align}
      (fields.foldl (fun align field => max align field.2.align) bound) := by
  induction fields generalizing bound with
  | nil => exact ⟨⟨le_refl bound, by simp⟩, fun candidate admitted => admitted.1⟩
  | cons field rest ih =>
      obtain ⟨⟨atLeast, above⟩, least⟩ := ih (max bound field.2.align)
      refine ⟨⟨?_, ?_⟩, ?_⟩
      · exact le_trans (le_max_left _ _) atLeast
      · intro other isOther
        rcases List.mem_cons.mp isOther with rfl | later
        · exact le_trans (le_max_right _ _) atLeast
        · exact above other later
      · intro candidate ⟨bounded, aboveAll⟩
        exact least ⟨max_le bounded (aboveAll field List.mem_cons_self),
          fun other isOther => aboveAll other (List.mem_cons_of_mem _ isOther)⟩

/-- Exactly the computed layout obeys the rules. -/
theorem isStruct_iff {fields : List (String × Layout)} {result : StructLayout} :
    IsStruct fields result ↔ result = ofFields fields := by
  constructor
  · rintro ⟨align, stop, placed, padded⟩
    obtain ⟨⟨size, largest⟩, resultFields⟩ := result
    obtain ⟨rfl, rfl⟩ := placed.unique (placed_place 0 fields)
    obtain rfl := align.unique (isLeast_foldl_max 1 fields)
    have sameSize := padded.unique (isAligned_alignUp _ _)
    simp only at sameSize
    rw [sameSize]
    rfl
  · rintro rfl
    exact ⟨isLeast_foldl_max 1 fields, _, placed_place 0 fields, isAligned_alignUp _ _⟩

end StructLayout

end NativeBridge

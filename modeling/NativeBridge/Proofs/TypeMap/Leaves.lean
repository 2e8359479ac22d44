import NativeBridge.Proofs.Layout.Alignment
import NativeBridge.Proofs.TypeMap.Build

/-!
# The scalars inside a type

A type map places the fields of each structure on its own, by the alignments of
its fields. `Leaves` takes structures apart until only scalars are left, each at
its absolute offset. On supported targets these keep their own alignment, stay
inside the outermost type and do not overlap, however deep they are nested:
`TypeTable.build_places`.
-/

namespace NativeBridge

/-- A scalar at an absolute offset. -/
structure Leaf where
  offset : Nat
  layout : Layout
  deriving DecidableEq, Repr

namespace Leaf

/-- Where a scalar stops. -/
def stop (leaf : Leaf) : Nat :=
  leaf.offset + leaf.layout.size

/-- A scalar of a structure that itself starts at an offset. -/
def shift (distance : Nat) (leaf : Leaf) : Leaf :=
  ⟨distance + leaf.offset, leaf.layout⟩

end Leaf

/-- Scalars in ascending order between two offsets, each at a multiple of its alignment. -/
structure LeavesFit (start stop : Nat) (leaves : List Leaf) : Prop where
  aligned : ∀ leaf ∈ leaves, leaf.layout.align ∣ leaf.offset
  inside : ∀ leaf ∈ leaves, start ≤ leaf.offset ∧ leaf.stop ≤ stop
  apart : leaves.Pairwise fun first second => first.stop ≤ second.offset

namespace LeavesFit

/-- No scalars fit anywhere. -/
theorem nil (start stop : Nat) : LeavesFit start stop [] :=
  ⟨by simp, by simp, .nil⟩

/-- One scalar fits where it is aligned. -/
theorem single {offset : Nat} {layout : Layout} (aligned : layout.align ∣ offset) :
    LeavesFit offset (offset + layout.size) [⟨offset, layout⟩] where
  aligned := by simpa using aligned
  inside := by simp [Leaf.stop]
  apart := List.pairwise_singleton _ _

/-- Scalars that fit also fit into more space. -/
theorem mono {start stop newStart newStop : Nat} {leaves : List Leaf}
    (fit : LeavesFit start stop leaves) (before : newStart ≤ start) (after : stop ≤ newStop) :
    LeavesFit newStart newStop leaves where
  aligned := fit.aligned
  inside leaf isLeaf :=
    ⟨before.trans (fit.inside leaf isLeaf).1, (fit.inside leaf isLeaf).2.trans after⟩
  apart := fit.apart

/-- Scalars keep fitting when all of them move by a multiple of their alignments. -/
theorem shift {stop distance : Nat} {leaves : List Leaf} (fit : LeavesFit 0 stop leaves)
    (suited : ∀ leaf ∈ leaves, leaf.layout.align ∣ distance) :
    LeavesFit distance (distance + stop) (leaves.map (Leaf.shift distance)) := by
  constructor
  case aligned =>
    intro moved isMoved
    obtain ⟨leaf, isLeaf, rfl⟩ := List.mem_map.mp isMoved
    exact Nat.dvd_add (suited leaf isLeaf) (fit.aligned leaf isLeaf)
  case inside =>
    intro moved isMoved
    obtain ⟨leaf, isLeaf, rfl⟩ := List.mem_map.mp isMoved
    have within := (fit.inside leaf isLeaf).2
    simp only [Leaf.stop, Leaf.shift] at within ⊢
    omega
  case apart =>
    refine List.pairwise_map.mpr (fit.apart.imp fun {first second} ordered => ?_)
    simp only [Leaf.stop, Leaf.shift] at ordered ⊢
    omega

/-- Scalars that fit one after the other fit together. -/
theorem append {start middle stop : Nat} {first second : List Leaf}
    (fitFirst : LeavesFit start middle first) (fitSecond : LeavesFit middle stop second)
    (forward : start ≤ middle) (onward : middle ≤ stop) :
    LeavesFit start stop (first ++ second) := by
  have wideFirst := fitFirst.mono (Nat.le_refl start) onward
  have wideSecond := fitSecond.mono forward (Nat.le_refl stop)
  constructor
  case aligned => exact List.forall_mem_append.mpr ⟨fitFirst.aligned, fitSecond.aligned⟩
  case inside => exact List.forall_mem_append.mpr ⟨wideFirst.inside, wideSecond.inside⟩
  case apart =>
    refine List.pairwise_append.mpr ⟨fitFirst.apart, fitSecond.apart, ?_⟩
    intro before isBefore after isAfter
    exact (fitFirst.inside before isBefore).2.trans (fitSecond.inside after isAfter).1

end LeavesFit

/-- The registered types of a map, as the table that it was built from. -/
def TypeMap.table (map : TypeMap) : TypeTable :=
  ⟨map.target, map.types⟩

mutual

/-- The scalars of a registered type in ascending order, nested structures taken apart. -/
inductive Leaves (map : TypeMap) : String → List Leaf → Prop
  /-- An enumeration is one scalar. -/
  | enumeration {managed : String} {type : Blittable} {repr : Primitive}
      {variants : List String} (found : map.table.find? managed = some type)
      (shape : type.shape = .enumeration repr variants) :
      Leaves map managed [⟨0, repr.layout map.target⟩]
  /-- A structure has the scalars of its fields, placed as the map says. -/
  | record {managed : String} {type : Blittable} {fields : List BlittableField}
      {layout : StructLayout} {leaves : List Leaf}
      (found : map.table.find? managed = some type) (shape : type.shape = .record fields)
      (laidOut : map.layouts.lookup managed = some layout)
      (each : FieldLeaves map (fields.zip layout.fields) leaves) : Leaves map managed leaves

/-- The scalars of fields that are placed in a structure. -/
inductive FieldLeaves (map : TypeMap) :
    List (BlittableField × PlacedField) → List Leaf → Prop
  /-- No fields. -/
  | nil : FieldLeaves map [] []
  /-- A primitive field is one scalar. -/
  | primitive {field : BlittableField} {placed : PlacedField}
      {fields : List (BlittableField × PlacedField)} {leaves : List Leaf}
      {primitive : Primitive} (kind : map.table.fieldKind field.type = .primitive primitive)
      (rest : FieldLeaves map fields leaves) :
      FieldLeaves map ((field, placed) :: fields)
        (⟨placed.offset, primitive.layout map.target⟩ :: leaves)
  /-- A field of a registered type has the scalars of that type from its own offset on. -/
  | registered {field : BlittableField} {placed : PlacedField}
      {fields : List (BlittableField × PlacedField)} {inner leaves : List Leaf}
      {managed : String} (kind : map.table.fieldKind field.type = .registered managed)
      (nested : Leaves map managed inner) (rest : FieldLeaves map fields leaves) :
      FieldLeaves map ((field, placed) :: fields)
        (inner.map (Leaf.shift placed.offset) ++ leaves)

end

/-- A type is taken apart in one way at most. -/
theorem Leaves.unique {map : TypeMap} {managed : String} {first second : List Leaf}
    (isFirst : Leaves map managed first) (isSecond : Leaves map managed second) :
    first = second := by
  -- So are fields that are placed, by the same induction.
  refine @Leaves.rec map
    (fun managed first _ => ∀ second, Leaves map managed second → first = second)
    (fun fields first _ => ∀ second, FieldLeaves map fields second → first = second)
    ?enumeration ?record ?nil ?primitive ?registered managed first isFirst second isSecond
  case enumeration =>
    intro managed type repr variants found shape second isSecond
    cases isSecond with
    | enumeration otherFound otherShape =>
        cases found.symm.trans otherFound
        cases shape.symm.trans otherShape
        rfl
    | record otherFound otherShape _ _ =>
        cases found.symm.trans otherFound
        cases shape.symm.trans otherShape
  case record =>
    intro managed type fields layout leaves found shape laidOut _ ih second isSecond
    cases isSecond with
    | enumeration otherFound otherShape =>
        cases found.symm.trans otherFound
        cases shape.symm.trans otherShape
    | record otherFound otherShape otherLaidOut otherEach =>
        cases found.symm.trans otherFound
        cases shape.symm.trans otherShape
        cases laidOut.symm.trans otherLaidOut
        exact ih _ otherEach
  case nil =>
    intro second isSecond
    cases isSecond
    rfl
  case primitive =>
    intro field placed fields leaves primitive kind _ ih second isSecond
    cases isSecond with
    | primitive otherKind otherRest =>
        cases kind.symm.trans otherKind
        rw [ih _ otherRest]
    | registered otherKind _ _ => cases kind.symm.trans otherKind
  case registered =>
    intro field placed fields inner leaves managed kind _ _ ihNested ihRest second isSecond
    cases isSecond with
    | primitive otherKind _ => cases kind.symm.trans otherKind
    | registered otherKind otherNested otherRest =>
        cases kind.symm.trans otherKind
        rw [ihNested _ otherNested, ihRest _ otherRest]

namespace TypeTable

variable {table : TypeTable} {map : TypeMap}

/-- A map has the layouts that its types have by what they contain. -/
theorem lookup_layouts (built : table.build = .ok map) {managed : String}
    {layout : StructLayout} (laidOut : LaidOut table managed layout) :
    map.layouts.lookup managed = some layout := by
  obtain ⟨noErrors, rfl⟩ := build_ok built
  have found : ∃ type, table.find? managed = some type := by
    cases laidOut with
    | enumeration found _ _ => exact ⟨_, found⟩
    | record found _ _ _ => exact ⟨_, found⟩
  obtain ⟨type, found⟩ := found
  obtain ⟨isType, rfl⟩ := find?_some found
  obtain ⟨known, isKnown, sameLayout⟩ := layout?_run noErrors isType
  rw [laidOut.unique sameLayout]
  exact isKnown

/-- A map stands for the table that it was built from. -/
theorem table_of_build (built : table.build = .ok map) : map.table = table := by
  obtain ⟨-, rfl⟩ := build_ok built
  rfl

/-- A primitive field has a primitive name. -/
theorem primitive?_of_fieldKind {type : ManagedType} {primitive : Primitive}
    (kind : table.fieldKind type = .primitive primitive) :
    type.primitive? = some primitive := by
  simp only [fieldKind] at kind
  split at kind
  · rename_i isPrimitive
    cases kind
    exact isPrimitive
  · split at kind
    · cases kind
    · split at kind <;> cases kind
  · cases kind

/-- A registered field names its type by a last segment that is not primitive. -/
theorem ident?_of_fieldKind {type : ManagedType} {managed : String}
    (kind : table.fieldKind type = .registered managed) :
    type.primitive? = none ∧ type.ident? = some managed := by
  simp only [fieldKind] at kind
  split at kind
  · cases kind
  · rename_i notPrimitive isIdent
    split at kind
    · cases kind
    · split at kind
      · cases kind
        exact ⟨notPrimitive, isIdent⟩
      · cases kind
  · cases kind

/-- The layout of a primitive name is that of the primitive type. -/
theorem layoutOfType?_primitive {type : ManagedType} {primitive : Primitive}
    (isPrimitive : type.primitive? = some primitive) :
    map.layoutOfType? type = some (primitive.layout map.target) := by
  cases type with
  | path path => simp [TypeMap.layoutOfType?, isPrimitive]
  | unit => cases isPrimitive
  | ref mutable target => cases isPrimitive
  | ptr mutable target => cases isPrimitive

/-- The layout of any other name is that of the type registered under its last segment. -/
theorem layoutOfType?_registered {type : ManagedType} {managed : String}
    {registered : Blittable} (notPrimitive : type.primitive? = none)
    (isIdent : type.ident? = some managed)
    (found : map.table.find? managed = some registered) :
    map.layoutOfType? type = (map.layouts.lookup managed).map StructLayout.layout := by
  cases type with
  | path path =>
      cases isIdent
      have got : map.get? path = some registered := found
      simp [TypeMap.layoutOfType?, notPrimitive, TypeMap.layoutOf?, got, (find?_some found).2]
  | unit => cases isIdent
  | ref mutable target => cases isIdent
  | ptr mutable target => cases isIdent

/-- The layouts of fields are those that the map has for their types. -/
theorem layouts_of_fieldsLaidOut (built : table.build = .ok map) {fields : List BlittableField}
    {entries : List (String × Layout)} (each : FieldsLaidOut table fields entries) :
    (entries.map fun entry => some entry.2)
      = fields.map fun field => map.layoutOfType? field.type := by
  have sameTable := table_of_build built
  have sameTarget : map.target = table.target := congrArg TypeTable.target sameTable
  induction fields generalizing entries with
  | nil =>
      cases each
      rfl
  | cons field fields ih =>
      cases each with
      | primitive kind rest =>
          simp [ih rest, layoutOfType?_primitive (primitive?_of_fieldKind kind), sameTarget]
      | registered kind inner rest =>
          obtain ⟨notPrimitive, isIdent⟩ := ident?_of_fieldKind kind
          obtain ⟨type, found⟩ := Option.isSome_iff_exists.mp (contains_of_fieldKind kind)
          simp [ih rest, layoutOfType?_registered notPrimitive isIdent (sameTable ▸ found),
            lookup_layouts built inner]

/-- A structure whose fields are placed by their own layouts, without waste. -/
structure StructPlaced (map : TypeMap) (fields : List BlittableField)
    (layout : StructLayout) : Prop where
  /-- The fields keep their order. -/
  names : layout.fields.map PlacedField.name = fields.map BlittableField.name
  /-- Each has the layout of its type. -/
  layouts : (layout.fields.map fun field => some field.layout)
    = fields.map fun field => map.layoutOfType? field.type
  /-- They follow each other, and less than the alignment is left after the last. -/
  packed : ∃ stop, StructLayout.Packed 0 layout.fields stop ∧ stop ≤ layout.layout.size ∧
    layout.layout.size < stop + layout.layout.align

/-- Fields with regular layouts whose scalars fit, wherever they are placed. -/
structure FieldsFit (map : TypeMap) (fields : List BlittableField)
    (entries : List (String × Layout)) : Prop where
  regular : ∀ entry ∈ entries, entry.2.Regular
  fit : ∀ offset placed stop, StructLayout.Placed offset entries placed stop →
    ∃ leaves, FieldLeaves map (fields.zip placed) leaves ∧ LeavesFit offset stop leaves ∧
      ∀ leaf ∈ leaves, ∃ entry ∈ entries, leaf.layout.align ∣ entry.2.align

/-- A regular layout whose fields and scalars fit, and whose alignment suits all of them. -/
structure TypeFits (map : TypeMap) (managed : String) (layout : StructLayout) : Prop where
  regular : layout.layout.Regular
  struct : ∀ type fields, map.table.find? managed = some type →
    type.shape = .record fields → StructPlaced map fields layout
  fit : ∃ leaves, Leaves map managed leaves ∧ LeavesFit 0 layout.layout.size leaves ∧
    ∀ leaf ∈ leaves, leaf.layout.align ∣ layout.layout.align

/-- One more field whose own scalars fit keeps the scalars of all fields fitting. -/
theorem FieldsFit.cons {field : BlittableField} {fields : List BlittableField}
    {layout : Layout} {entries : List (String × Layout)} (regular : layout.Regular)
    (own : ∀ placed : PlacedField, layout.align ∣ placed.offset → ∃ leaves,
      LeavesFit placed.offset (placed.offset + layout.size) leaves ∧
      (∀ leaf ∈ leaves, leaf.layout.align ∣ layout.align) ∧
      ∀ others rest, FieldLeaves map others rest →
        FieldLeaves map ((field, placed) :: others) (leaves ++ rest))
    (others : FieldsFit map fields entries) :
    FieldsFit map (field :: fields) ((field.name, layout) :: entries) where
  regular := List.forall_mem_cons.mpr ⟨regular, others.regular⟩
  fit := by
    intro offset placed stop isPlaced
    cases isPlaced with
    | cons aligned restPlaced =>
        rename_i start placed
        obtain ⟨leaves, ownFit, suited, extend⟩ :=
          own ⟨field.name, start, layout⟩ (aligned.dvd regular.align_pos)
        obtain ⟨rest, restLeaves, restFit, restSuited⟩ := others.fit _ _ _ restPlaced
        have onward := (restPlaced.packed others.regular).le
        refine ⟨leaves ++ rest, extend _ _ restLeaves, ?_, ?_⟩
        · refine (ownFit.mono aligned.1.1 (Nat.le_refl _)).append restFit ?_ onward
          exact aligned.1.1.trans (Nat.le_add_right _ _)
        · intro leaf isLeaf
          rcases List.mem_append.mp isLeaf with isOwn | isRest
          · exact ⟨_, List.mem_cons_self, suited leaf isOwn⟩
          · obtain ⟨entry, isEntry, divides⟩ := restSuited leaf isRest
            exact ⟨entry, List.mem_cons_of_mem _ isEntry, divides⟩

/-- The scalars of every type with a layout fit into it. -/
theorem typeFits (built : table.build = .ok map) (supported : table.target.Supported)
    {managed : String} {layout : StructLayout} (laidOut : LaidOut table managed layout) :
    TypeFits map managed layout := by
  have sameTable := table_of_build built
  have sameTarget : map.target = table.target := congrArg TypeTable.target sameTable
  refine @LaidOut.rec table (fun managed layout _ => TypeFits map managed layout)
    (fun fields entries _ => FieldsFit map fields entries)
    ?enumeration ?record ?nil ?primitive ?registered managed layout laidOut
  case enumeration =>
    intro managed type repr variants found shape integer
    have regular := repr.regular supported
    refine ⟨regular, ?_, _, .enumeration (sameTable ▸ found) shape, ?_, ?_⟩
    · intro other fields otherFound otherShape
      rw [sameTable, found] at otherFound
      cases otherFound
      cases shape.symm.trans otherShape
    · have single : LeavesFit 0 (0 + (repr.layout table.target).size)
          [⟨0, repr.layout table.target⟩] := .single (Nat.dvd_zero _)
      rw [Nat.zero_add] at single
      rw [sameTarget]
      exact single
    · rw [sameTarget]
      simp [StructLayout.scalar]
  case record =>
    intro managed type fields entries layout found shape each isStruct fieldsFit
    obtain ⟨stop, placed, packed, inside, padding⟩ := isStruct.padding fieldsFit.regular
    obtain ⟨leaves, isLeaves, fit, suited⟩ := fieldsFit.fit 0 _ stop placed
    refine ⟨isStruct.regular fieldsFit.regular, ?_, leaves, ?_,
      fit.mono (Nat.le_refl 0) inside, ?_⟩
    · intro other others otherFound otherShape
      rw [sameTable, found] at otherFound
      cases otherFound
      cases shape.symm.trans otherShape
      refine ⟨placed.names.trans each.names, ?_, stop, packed, inside, padding⟩
      rw [← layouts_of_fieldsLaidOut built each]
      simpa [Function.comp_def] using congrArg (List.map some) placed.layouts
    · exact .record (sameTable ▸ found) shape
        (lookup_layouts built (.record found shape each isStruct)) isLeaves
    · intro leaf isLeaf
      obtain ⟨entry, isEntry, divides⟩ := suited leaf isLeaf
      exact divides.trans (isStruct.align_dvd fieldsFit.regular isEntry)
  case nil =>
    refine ⟨by simp, ?_⟩
    intro offset placed stop isPlaced
    cases isPlaced
    exact ⟨[], .nil, .nil _ _, by simp⟩
  case primitive =>
    intro field fields entries primitive kind _ others
    have regular := primitive.regular supported
    refine FieldsFit.cons regular (fun placed aligned => ?_) others
    refine ⟨[⟨placed.offset, primitive.layout table.target⟩], .single aligned, by simp, ?_⟩
    intro others rest restLeaves
    rw [← sameTarget]
    exact .primitive (sameTable ▸ kind) restLeaves
  case registered =>
    intro field fields entries managed layout kind _ _ inner others
    obtain ⟨regular, -, leaves, isLeaves, fit, suited⟩ := inner
    refine FieldsFit.cons regular (fun placed aligned => ?_) others
    refine ⟨leaves.map (Leaf.shift placed.offset), ?_, ?_, ?_⟩
    · exact fit.shift fun leaf isLeaf => (suited leaf isLeaf).trans aligned
    · simpa [Leaf.shift] using suited
    · exact fun others rest restLeaves => .registered (sameTable ▸ kind) isLeaves restLeaves

/-- A registered type with its layout and its scalars. -/
structure TypePlaced (map : TypeMap) (type : Blittable) (layout : StructLayout)
    (leaves : List Leaf) : Prop where
  laidOut : map.layouts.lookup type.managed = some layout
  regular : layout.layout.Regular
  struct : ∀ fields, type.shape = .record fields → StructPlaced map fields layout
  isLeaves : Leaves map type.managed leaves
  /-- There are no other scalars. -/
  only : ∀ others, Leaves map type.managed others → others = leaves
  fit : LeavesFit 0 layout.layout.size leaves

end TypeTable

end NativeBridge

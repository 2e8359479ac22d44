import Mathlib.Logic.Relation
import NativeBridge.Proofs.Layout.Placement
import NativeBridge.Proofs.TypeMap.Table

/-!
# What types contain by value

The type of a field is primitive, registered, unknown or unsupported. Registered
types contain each other through their fields, and the layout of a type follows
from the layouts of what it contains: `LaidOut` says which layout that is, and
`LaidOut.unique` that there is only one.
-/

namespace NativeBridge

/-- What the type of a field is to a table. -/
inductive FieldKind where
  /-- A primitive type under its managed name. -/
  | primitive (primitive : Primitive)
  /-- A registered type, named by the last segment of a path. -/
  | registered (managed : String)
  /-- A path to nothing that is registered. -/
  | unknown
  /-- A type that no field can hold by value. -/
  | unsupported (reason : String)

/-- What a type is to a table. Primitive names go before registered ones. -/
def TypeTable.fieldKind (table : TypeTable) (type : ManagedType) : FieldKind :=
  match type.primitive?, type.ident? with
  | some primitive, _ => .primitive primitive
  | none, some ident =>
      if ident = "c_void" then .unsupported "`c_void` is only valid behind a pointer"
      else if table.contains ident then .registered ident
      else .unknown
  | none, none =>
      .unsupported (if type.isUnit then "unit fields have no native layout"
        else "blittable types cannot hold references or pointers")

/-- The fault of a field by itself, at its own place. -/
def BlittableField.fault? (table : TypeTable) (owner : String) (field : BlittableField) :
    Option BindingError :=
  let context := "field `" ++ field.name ++ "` of `" ++ owner ++ "`"
  match table.fieldKind field.type with
  | .primitive _ | .registered _ => none
  | .unknown => some (.unregisteredType field.type.text context field.location)
  | .unsupported reason =>
      some (.unsupportedType field.type.text context reason field.location)

/-- The faults of a type by itself: a representation that is no integer, or one
fault for each field that has one. -/
def Blittable.faults (table : TypeTable) (type : Blittable) : List BindingError :=
  match type.shape with
  | .enumeration repr _ =>
      if repr.isInteger then []
      else
        [.unsupportedType repr.managedName ("repr of enum `" ++ type.managed ++ "`")
          "enum repr must be an integer type" type.location]
  | .record fields => fields.filterMap (BlittableField.fault? table type.managed)

/-- A registered structure has a field that holds a registered type by value. -/
def TypeTable.Contains (table : TypeTable) (owner part : String) : Prop :=
  ∃ type fields field, table.find? owner = some type ∧ type.shape = .record fields ∧
    field ∈ fields ∧ table.fieldKind field.type = .registered part

mutual

/-- The layout that a registered type has by what it contains. -/
inductive LaidOut (table : TypeTable) : String → StructLayout → Prop
  /-- An enumeration has the layout of its representation. -/
  | enumeration {managed : String} {type : Blittable} {repr : Primitive}
      {variants : List String} (found : table.find? managed = some type)
      (shape : type.shape = .enumeration repr variants) (integer : repr.isInteger = true) :
      LaidOut table managed (.scalar (repr.layout table.target))
  /-- A structure places its fields, each with a layout of its own. -/
  | record {managed : String} {type : Blittable} {fields : List BlittableField}
      {entries : List (String × Layout)} {layout : StructLayout}
      (found : table.find? managed = some type) (shape : type.shape = .record fields)
      (each : FieldsLaidOut table fields entries)
      (isStruct : StructLayout.IsStruct entries layout) : LaidOut table managed layout

/-- The names and the layouts of fields, in their order. -/
inductive FieldsLaidOut (table : TypeTable) :
    List BlittableField → List (String × Layout) → Prop
  /-- No fields. -/
  | nil : FieldsLaidOut table [] []
  /-- A primitive field has the layout of its type on the target. -/
  | primitive {field : BlittableField} {fields : List BlittableField}
      {entries : List (String × Layout)} {primitive : Primitive}
      (kind : table.fieldKind field.type = .primitive primitive)
      (rest : FieldsLaidOut table fields entries) :
      FieldsLaidOut table (field :: fields)
        ((field.name, primitive.layout table.target) :: entries)
  /-- A field of a registered type has the layout of that type. -/
  | registered {field : BlittableField} {fields : List BlittableField}
      {entries : List (String × Layout)} {managed : String} {layout : StructLayout}
      (kind : table.fieldKind field.type = .registered managed)
      (inner : LaidOut table managed layout) (rest : FieldsLaidOut table fields entries) :
      FieldsLaidOut table (field :: fields) ((field.name, layout.layout) :: entries)

end

/-- A type has one layout at most. -/
theorem LaidOut.unique {table : TypeTable} {managed : String} {first second : StructLayout}
    (isFirst : LaidOut table managed first) (isSecond : LaidOut table managed second) :
    first = second := by
  -- The fields of a structure have one list of layouts at most, by the same induction.
  refine @LaidOut.rec table
    (fun managed first _ => ∀ second, LaidOut table managed second → first = second)
    (fun fields first _ => ∀ second, FieldsLaidOut table fields second → first = second)
    ?enumeration ?record ?nil ?primitive ?registered managed first isFirst second isSecond
  case enumeration =>
    intro managed type repr variants found shape _ second isSecond
    cases isSecond with
    | enumeration otherFound otherShape _ =>
        cases found.symm.trans otherFound
        cases shape.symm.trans otherShape
        rfl
    | record otherFound otherShape _ _ =>
        cases found.symm.trans otherFound
        cases shape.symm.trans otherShape
  case record =>
    intro managed type fields entries layout found shape _ isStruct ih second isSecond
    cases isSecond with
    | enumeration otherFound otherShape _ =>
        cases found.symm.trans otherFound
        cases shape.symm.trans otherShape
    | record otherFound otherShape otherEach otherStruct =>
        cases found.symm.trans otherFound
        cases shape.symm.trans otherShape
        cases ih _ otherEach
        exact (StructLayout.isStruct_iff.mp isStruct).trans
          (StructLayout.isStruct_iff.mp otherStruct).symm
  case nil =>
    intro second isSecond
    cases isSecond
    rfl
  case primitive =>
    intro field fields entries primitive kind _ ih second isSecond
    cases isSecond with
    | primitive otherKind otherRest =>
        cases kind.symm.trans otherKind
        rw [ih _ otherRest]
    | registered otherKind _ _ => cases kind.symm.trans otherKind
  case registered =>
    intro field fields entries managed layout kind _ _ ihInner ihRest second isSecond
    cases isSecond with
    | primitive otherKind _ => cases kind.symm.trans otherKind
    | registered otherKind otherInner otherRest =>
        cases kind.symm.trans otherKind
        rw [ihInner _ otherInner, ihRest _ otherRest]

/-- Fields keep their names and their order. -/
theorem FieldsLaidOut.names {table : TypeTable} {fields : List BlittableField}
    {entries : List (String × Layout)} (each : FieldsLaidOut table fields entries) :
    entries.map Prod.fst = fields.map BlittableField.name := by
  induction fields generalizing entries with
  | nil =>
      cases each
      rfl
  | cons field rest ih =>
      cases each with
      | primitive kind others => simp [ih others]
      | registered kind inner others => simp [ih others]

/-- The placed fields of a structure are its declared fields, in their order. -/
theorem LaidOut.names {table : TypeTable} {managed : String} {layout : StructLayout}
    (laidOut : LaidOut table managed layout) {type : Blittable} {fields : List BlittableField}
    (found : table.find? managed = some type) (shape : type.shape = .record fields) :
    layout.fields.map PlacedField.name = fields.map BlittableField.name := by
  cases laidOut with
  | enumeration otherFound otherShape integer =>
      cases found.symm.trans otherFound
      cases shape.symm.trans otherShape
  | record otherFound otherShape each isStruct =>
      cases found.symm.trans otherFound
      cases shape.symm.trans otherShape
      obtain ⟨stop, placed, -⟩ := isStruct.placed
      rw [placed.names, each.names]

/-- The target of untyped pointers has no primitive name. -/
theorem lastSegment_managedName_ne (primitive : Primitive) :
    Path.lastSegment primitive.managedName ≠ "c_void" := by
  cases primitive <;> decide +kernel

/-- A type with a primitive name is not the target of untyped pointers. -/
theorem primitive?_eq_none_of_isUntyped {type : ManagedType}
    (untyped : type.isUntyped = true) : type.primitive? = none := by
  cases type with
  | path path =>
      have last : Path.lastSegment path = "c_void" := by
        simpa [ManagedType.isUntyped, ManagedType.ident?] using untyped
      simp only [ManagedType.primitive?, Primitive.ofManagedName?, List.find?_eq_none]
      intro primitive _ same
      rw [← beq_iff_eq.mp same] at last
      exact lastSegment_managedName_ne primitive last
  | unit => rfl
  | ref mutable target => rfl
  | ptr mutable target => rfl

namespace LayoutPass

variable {table : TypeTable} {walk : Walk} {owner : String} {field : BlittableField}

/-- A field is laid out by its kind: a registered type is walked, a fault is reported. -/
theorem fieldLayout_eq (pass : LayoutPass) :
    fieldLayout table walk owner field pass
      = match table.fieldKind field.type with
        | .primitive primitive => (some (primitive.layout table.target), pass)
        | .registered managed => walk managed pass
        | .unknown | .unsupported _ =>
            (none, (field.fault? table owner).elim pass pass.report) := by
  obtain ⟨name, type, location⟩ := field
  cases type with
  | unit => rfl
  | ref mutable target => rfl
  | ptr mutable target => rfl
  | path path =>
      simp only [fieldLayout, BlittableField.fault?]
      by_cases untyped : (ManagedType.path path).isUntyped = true
      · have noPrimitive := primitive?_eq_none_of_isUntyped untyped
        have last : Path.lastSegment path = "c_void" := by
          simpa [ManagedType.isUntyped, ManagedType.ident?] using untyped
        simp [untyped, noPrimitive, TypeTable.fieldKind, ManagedType.ident?, last]
      · have last : Path.lastSegment path ≠ "c_void" := by
          simpa [ManagedType.isUntyped, ManagedType.ident?] using untyped
        cases primitive : (ManagedType.path path).primitive? with
        | some primitive => simp [untyped, primitive, TypeTable.fieldKind]
        | none =>
            by_cases known : table.contains (Path.lastSegment path) = true
            · simp [untyped, primitive, TypeTable.fieldKind, ManagedType.ident?, last, known]
            · simp [untyped, primitive, TypeTable.fieldKind, ManagedType.ident?, last, known]

end LayoutPass

end NativeBridge

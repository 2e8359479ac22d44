import NativeBridge.TypeMap.Table

/-!
# Computing the layouts of a table

The pass walks the containment of types by value. Every type is entered at most
once and ends as laid out or as failed; entering a type that is still being
walked reports it as recursive. Faults are collected in the order of the walk.
-/

namespace NativeBridge

/-- How far the walk has come with one type. -/
inductive Visit where
  | inProgress | done | failed
  deriving DecidableEq, Repr, Inhabited

/-- What the walk knows: the newest mark of each type comes first, faults are in order. -/
structure LayoutPass where
  visits : List (String × Visit)
  layouts : List (String × StructLayout)
  errors : List BindingError
  deriving Repr, Inhabited

namespace LayoutPass

/-- Nothing is known before the walk. -/
def start : LayoutPass :=
  ⟨[], [], []⟩

/-- The pass with a type marked anew. -/
def mark (pass : LayoutPass) (managed : String) (visit : Visit) : LayoutPass :=
  { pass with visits := (managed, visit) :: pass.visits }

/-- The pass with one more fault. -/
def report (pass : LayoutPass) (error : BindingError) : LayoutPass :=
  { pass with errors := pass.errors ++ [error] }

/-- The present mark of a type. -/
def visit? (pass : LayoutPass) (managed : String) : Option Visit :=
  pass.visits.lookup managed

/-- The layout found for a type. -/
def layout? (pass : LayoutPass) (managed : String) : Option StructLayout :=
  pass.layouts.lookup managed

/-- A walk of one type by name: the layout, if it has one, and what is known then. -/
abbrev Walk := String → LayoutPass → Option Layout × LayoutPass

/-- The layout of one field; named types that are not primitive are walked. -/
def fieldLayout (table : TypeTable) (walk : Walk) (owner : String) (field : BlittableField)
    (pass : LayoutPass) : Option Layout × LayoutPass :=
  let context := "field `" ++ field.name ++ "` of `" ++ owner ++ "`"
  let unsupported (reason : String) : Option Layout × LayoutPass :=
    (none, pass.report (.unsupportedType field.type.text context reason field.location))
  match field.type with
  | .unit => unsupported "unit fields have no native layout"
  | .ref _ _ | .ptr _ _ => unsupported "blittable types cannot hold references or pointers"
  | .path path =>
      if field.type.isUntyped then unsupported "`c_void` is only valid behind a pointer"
      else match field.type.primitive? with
        | some primitive => (some (primitive.layout table.target), pass)
        | none =>
            let ident := Path.lastSegment path
            if table.contains ident then walk ident pass
            else
              (none, pass.report (.unregisteredType field.type.text context field.location))

/-- The layouts of all fields, if each has one; every field is looked at. -/
def fieldLayouts (table : TypeTable) (walk : Walk) (owner : String) :
    List BlittableField → LayoutPass → Option (List (String × Layout)) × LayoutPass
  | [], pass => (some [], pass)
  | field :: rest, pass =>
      let (layout, pass) := fieldLayout table walk owner field pass
      let (layouts, pass) := fieldLayouts table walk owner rest pass
      (match layout, layouts with
        | some layout, some layouts => some ((field.name, layout) :: layouts)
        | _, _ => none, pass)

/-- The layout of a shape, walking the fields of a structure. -/
def shapeLayout (table : TypeTable) (walk : Walk) (type : Blittable) (pass : LayoutPass) :
    Option StructLayout × LayoutPass :=
  match type.shape with
  | .enumeration repr _ =>
      if repr.isInteger then (some (.scalar (repr.layout table.target)), pass)
      else
        (none, pass.report (.unsupportedType repr.managedName
          ("repr of enum `" ++ type.managed ++ "`") "enum repr must be an integer type"
          type.location))
  | .record fields =>
      let (layouts, pass) := fieldLayouts table walk type.managed fields pass
      (layouts.map StructLayout.ofFields, pass)

/-- Settles a type after its shape was walked; a recursion fault may have failed it already. -/
def settle (managed : String) (layout : Option StructLayout) (pass : LayoutPass) :
    Option Layout × LayoutPass :=
  if pass.visit? managed == some .failed then (none, pass)
  else match layout with
    | some layout =>
        (some layout.layout,
          { pass.mark managed .done with layouts := (managed, layout) :: pass.layouts })
    | none => (none, pass.mark managed .failed)

/-- Walks one type. The fuel bounds how deep walks nest; one more than the number
of types is never used up. -/
def walk (table : TypeTable) : Nat → Walk
  | 0, _, pass => (none, pass)
  | fuel + 1, managed, pass =>
      match pass.visit? managed with
      | some .done => ((pass.layout? managed).map StructLayout.layout, pass)
      | some .failed => (none, pass)
      | some .inProgress =>
          let place := ((table.find? managed).map Blittable.location).getD .synthetic
          (none, (pass.mark managed .failed).report (.recursiveLayout managed place))
      | none =>
          match table.find? managed with
          | none => (none, pass)
          | some type =>
              let (layout, pass) :=
                shapeLayout table (walk table fuel) type (pass.mark managed .inProgress)
              settle managed layout pass

/-- What is known after every type of the table was walked, in order. -/
def run (table : TypeTable) : LayoutPass :=
  table.types.foldl
    (fun pass type => (walk table (table.types.length + 1) type.managed pass).2) start

end LayoutPass

end NativeBridge

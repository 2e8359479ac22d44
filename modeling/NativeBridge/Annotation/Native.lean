import NativeBridge.Annotation.Arguments
import NativeBridge.Export.Declaration

/-!
# Annotations of positions

A parameter or a result may be annotated with its native type. Such annotations
are helpers: they mean something to the generator only.
-/

namespace NativeBridge

open Source Source.Parser

/-- The names of annotations that mean something to the generator only. -/
def helperNames : List String :=
  ["native", "native_return"]

/-- The annotation means something to the generator only. -/
def Source.Attribute.isHelper (attr : Attribute) : Bool :=
  helperNames.any attr.endsWith

namespace NativeOverride

/-- An argument of the annotation. -/
inductive Item where
  | name (value : String)
  | module (value : String)
  | byRef
  | isConst
  deriving DecidableEq, Repr

/-- Reads an argument of the annotation with a name after its key. -/
def item (owner : String) (key : AnnotationKey) : Parser Item := do
  match key.single? with
  | some "name" => return .name (← AnnotationKey.stringValue).1
  | some "module" => return .module (← AnnotationKey.stringValue).1
  | some "by_ref" => return .byRef
  | some "is_const" => return .isConst
  | _ => key.refuse owner

/-- What is said after one more argument: the last text of its kind counts, a mark stays. -/
def apply (override : NativeOverride) : Item → NativeOverride
  | .name value => { override with name := some value }
  | .module value => { override with module := some value }
  | .byRef => { override with byRef := true }
  | .isConst => { override with isConst := true }

/-- What the annotations with a name say about a position, if there are any. -/
def ofAttributes (attrs : List Attribute) (owner : String) :
    Except Fault (Option NativeOverride) := do
  let found := attrs.filter (Attribute.endsWith · owner)
  let items ← Attribute.gather found fun attr => attr.readItems? fun _ => item owner
  return if found.isEmpty then .none else some (items.foldl apply .none)

end NativeOverride

end NativeBridge

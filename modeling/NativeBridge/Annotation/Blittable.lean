import NativeBridge.Annotation.Arguments
import NativeBridge.Primitive

/-!
# Annotations of blittable types

A blittable type says so in its list of derivations. It may name its native type
and module, and must fix its representation.
-/

namespace NativeBridge

open Source Source.Parser

/-- The types in a list of derivations, by their last names. -/
def derivedNames (attr : Attribute) : Except Fault (List String) :=
  attr.readArguments fun grammar => commaSeparated do
    let path ← grammar.path false
    return (path.segments.getLast?.map Name.text).getD ""

/-- Some derivation has this last name; lists after the one that has it are not read. -/
def derives (name : String) : List Attribute → Except Fault Bool
  | [] => .ok false
  | attr :: rest =>
      if attr.isNamed "derive" then do
        let names ← derivedNames attr
        if names.contains name then return true else derives name rest
      else derives name rest

/-- What a blittable type says about its native side. -/
structure NativeNaming where
  name : Option String
  module : Option String
  deriving DecidableEq, Repr, Inhabited

namespace NativeNaming

/-- An argument of the annotation. -/
inductive Item where
  | name (value : String)
  | module (value : String)
  deriving DecidableEq, Repr

/-- Reads an argument after its key. -/
def item (key : AnnotationKey) : Parser Item := do
  match key.single? with
  | some "name" => return .name (← AnnotationKey.stringValue).1
  | some "module" => return .module (← AnnotationKey.stringValue).1
  | _ => key.refuse "blittable"

/-- What is said after one more argument; the last of its kind counts. -/
def apply (naming : NativeNaming) : Item → NativeNaming
  | .name value => { naming with name := some value }
  | .module value => { naming with module := some value }

/-- What the annotations of a type say about its native side. -/
def ofAttributes (attrs : List Attribute) : Except Fault NativeNaming := do
  let items ← Attribute.gather (attrs.filter (Attribute.isNamed · "blittable")) fun attr =>
    attr.readArguments fun _ => Attribute.items item
  return items.foldl apply ⟨none, none⟩

end NativeNaming

/-- The representation that a type fixes for itself. -/
structure Representation where
  /-- The layout is that of C. -/
  isC : Bool
  /-- The integer that an enumeration is stored in. -/
  integer : Option Primitive
  deriving DecidableEq, Repr, Inhabited

namespace Representation

/-- An argument of the annotation. -/
inductive Item where
  | c
  | integer (primitive : Primitive)
  deriving DecidableEq, Repr

/-- Reads an argument, which is its key alone. -/
def item (key : AnnotationKey) : Parser Item := do
  let word := key.single?.getD ""
  if word = "C" then return .c
  else match Primitive.ofManagedName? word with
    | some primitive =>
        if primitive.isInteger then return .integer primitive
        else failAt (.unsupportedRepr word) key.region
    | none => failAt (.unsupportedRepr word) key.region

/-- What is fixed after one more argument; the last integer counts. -/
def apply (repr : Representation) : Item → Representation
  | .c => { repr with isC := true }
  | .integer primitive => { repr with integer := some primitive }

/-- The representation that the annotations of a type fix. -/
def ofAttributes (attrs : List Attribute) : Except Fault Representation := do
  let items ← Attribute.gather (attrs.filter (Attribute.isNamed · "repr")) fun attr =>
    attr.readArguments fun _ => Attribute.items item
  return items.foldl apply ⟨false, none⟩

/-- The integer that an enumeration is stored in; the layout of C alone means `int`. -/
def enumeration? (repr : Representation) : Option Primitive :=
  repr.integer.or (if repr.isC then some .int32 else none)

end Representation

end NativeBridge

import NativeBridge.Annotation.Export
import NativeBridge.Annotation.Native
import NativeBridge.Declarations.Exports
import NativeBridge.Expansion.Refusal
import NativeBridge.Source.Written

/-!
# Expansion of exports

An exported trait is passed on without the annotations that mean something to
the generator only, after these have been read. All refused members are
reported.
-/

namespace NativeBridge.Expansion

open Source

/-- Reads the annotations of an argument after the receiver. -/
def checkArgument : ArgumentForm → Except Refusal Unit
  | .typed attrs pattern _ _ => do
      if pattern.name.isNone then throw ⟨.patternParameter, pattern.region⟩
      let _ ← Refusal.lift (NativeOverride.ofAttributes attrs "native")
  | _ => return

/-- Refuses a method that cannot be exported. -/
def checkMethod (form : MethodForm) : Except Refusal Unit := do
  if form.generics.hasParams then throw ⟨.genericMethod, form.generics.region⟩
  if let some region := form.asyncRegion then throw ⟨.asyncMethod, region⟩
  if let some region := form.body then throw ⟨.methodBody, region⟩
  if !form.takesReceiver then throw ⟨.missingReceiver, form.name.region⟩
  let _ ← Refusal.lift (NativeOverride.ofAttributes form.attrs "native_return")
  (form.arguments.drop 1).forM fun (argument, _) => checkArgument argument

/-- Refuses a member that cannot be exported. -/
def checkMember : TraitItemForm → Except Refusal Unit
  | .method form => checkMethod form
  | .other _ region => throw ⟨.notMethod, region⟩

/-- The attributes that mean something to others too. -/
def withoutHelpers (attrs : List Attribute) : List Attribute :=
  attrs.filter fun attr => !attr.isHelper

/-- An argument without its helpers. Only a parameter can have some. -/
def stripArgument : ArgumentForm → ArgumentForm
  | .typed attrs pattern type trees => .typed (withoutHelpers attrs) pattern type trees
  | argument => argument

/-- A method without its helpers and those of its arguments. -/
def stripMethod (form : MethodForm) : MethodForm :=
  { form with
    attrs := withoutHelpers form.attrs
    arguments := form.arguments.map fun (argument, separator) =>
      (stripArgument argument, separator) }

/-- A member without its helpers. -/
def stripMember : TraitItemForm → TraitItemForm
  | .method form => .method (stripMethod form)
  | member => member

/-- A trait whose members have no helpers. -/
def stripTrait (form : TraitForm) : TraitForm :=
  { form with items := form.items.map stripMember }

/-- The refusals among some results. -/
def refusals : List (Except Refusal Unit) → List Refusal
  | [] => []
  | .error refusal :: rest => refusal :: refusals rest
  | .ok () :: rest => refusals rest

/-- The trait that is passed on, or everything that is refused in it. -/
def exportedTrait (form : TraitForm) : Except (List Refusal) TraitForm :=
  if form.generics.hasParams then .error [⟨.genericExport, form.generics.region⟩]
  else
    let refused := refusals (form.items.map checkMember)
    if refused.isEmpty then .ok (stripTrait form) else .error refused

/-- The check that the subject of an export is blittable. -/
def subjectCheck (settings : ExportSettings) : List String :=
  match settings.subject with
  | some subject => words "const _ : ( ) =" ++ blittableCheck (Tree.typeParts subject.trees)
  | none => []

/-- The parts that an exported trait becomes. -/
def expandExport (settings : ExportSettings) (form : TraitForm) :
    Except (List Refusal) (List String) :=
  (fun passed => passed.parts ++ subjectCheck settings) <$> exportedTrait form

/-- What the texts of the arguments and of the trait become; nothing if one of them
cannot be read. -/
def expandExportText (arguments item : String) : Option (Except (List Refusal) (List String)) :=
  match trees arguments with
  | .error _ => none
  | .ok trees =>
      match ExportSettings.ofArguments trees with
      | .error fault => some (.error [.ofFault fault])
      | .ok settings => (readText? traitRule item).map (expandExport settings)

end NativeBridge.Expansion

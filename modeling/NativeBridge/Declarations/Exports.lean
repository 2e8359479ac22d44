import NativeBridge.Annotation.Export
import NativeBridge.Annotation.Native
import NativeBridge.Declarations.Types

/-!
# Declared exports

A trait with the annotation of exports is a declared export. Its methods are
declarations without bodies that take their receiver by reference.
-/

namespace NativeBridge

open Source

/-- A parameter of a method of an export. -/
def declaredParam (file label : String) (attrs : List Attribute) (pattern : PatternForm)
    (type : TypeForm) : Except BindingError ParamDecl := do
  let some name := pattern.name
    | throw (.ofForm file ("parameters of " ++ label ++ " must be plain identifiers")
        pattern.region)
  let type ← ManagedType.ofForm file type
  let native ← declared file (NativeOverride.ofAttributes attrs "native")
  return ⟨name.text, type, native, name.region.location file⟩

/-- The parameters among the arguments after the receiver. -/
def declaredParams (file label : String) (arguments : List ArgumentForm) :
    Except BindingError (List ParamDecl) := do
  let params ← arguments.mapM fun
    | .typed attrs pattern type _ => some <$> declaredParam file label attrs pattern type
    | _ => return none
  return params.filterMap id

/-- The method has more than an export can say. -/
def Source.MethodForm.isElaborate (form : MethodForm) : Bool :=
  form.generics.hasParams || form.asyncRegion.isSome
    || form.arguments.any fun (argument, _) => match argument with
      | .variadic _ _ => true
      | _ => false

/-- The method takes its receiver by a reference that does not allow changes. -/
def Source.MethodForm.takesReceiver (form : MethodForm) : Bool :=
  match form.arguments with
  | (.receiver _ true false _, _) :: _ => true
  | _ => false

/-- A method of an export. -/
def declaredMethod (file : String) (owner : Parser.Name) (form : MethodForm) :
    Except BindingError MethodDecl := do
  let label := "`" ++ owner.text ++ "::" ++ form.name.text ++ "`"
  let refuse (message : String) : Except BindingError Unit :=
    throw (.ofForm file (label ++ message) form.name.region)
  if form.isElaborate then refuse " must be a plain, non-generic method"
  if form.body.isSome then refuse " is implemented natively and cannot have a body"
  if !form.takesReceiver then refuse " must take `&self`"
  let nativeReturn ← declared file (NativeOverride.ofAttributes form.attrs "native_return")
  let params ← declaredParams file label ((form.arguments.map Prod.fst).drop 1)
  let result ← match form.resultType with
    | some type => ManagedType.ofForm file type
    | none => pure .unit
  return ⟨form.name.text, params, result, nativeReturn, form.name.region.location file⟩

/-- A member of an export, which must be a method. -/
def declaredMember (file : String) (owner : Parser.Name) :
    TraitItemForm → Except BindingError MethodDecl
  | .method form => declaredMethod file owner form
  | .other _ region =>
      .error (.ofForm file ("exported trait `" ++ owner.text ++ "` may only contain methods")
        region)

/-- The annotation of a trait as an export, also one inside the trait. -/
def Source.TraitForm.exportAttribute? (form : TraitForm) : Option Attribute :=
  ExportSettings.attribute? (form.attrs ++ form.innerAttrs)

/-- The settings of a trait that is an export. -/
def exportSettings (file : String) (form : TraitForm) :
    Except BindingError (Option ExportSettings) := do
  let some attr := form.exportAttribute? | return none
  let settings ← declared file (ExportSettings.ofAttribute attr)
  if form.generics.hasParams then
    throw (.ofForm file ("exported trait `" ++ form.name.text ++ "` cannot be generic")
      form.generics.region)
  return some settings

/-- The export that a trait is, with the methods that could be read. -/
def declaredExport (file space : String) (form : TraitForm) (settings : ExportSettings)
    (methods : List MethodDecl) : ExportDecl where
  name := form.name.text
  managedNamespace := space
  nativeNamespace := settings.nativeNamespace
  kind := settings.kind
  subject := settings.subject.map Subject.name
  methods := methods
  location := form.name.region.location file

end NativeBridge

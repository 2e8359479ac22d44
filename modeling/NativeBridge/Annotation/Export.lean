import NativeBridge.Annotation.Arguments
import NativeBridge.Export.Declaration

/-!
# Annotations of exports

An exported trait is annotated with its kind, its native namespace and the type
whose native namespace it shares.
-/

namespace NativeBridge

open Source Source.Parser

/-- The type whose native namespace an export shares: its path and the last name of it. -/
structure Subject where
  trees : List Tree
  name : String
  deriving Repr, Inhabited

/-- What an exported trait says about itself. -/
structure ExportSettings where
  nativeNamespace : Option String
  kind : ExportKind
  subject : Option Subject
  deriving Repr, Inhabited

namespace ExportSettings

/-- What an export says about itself that is annotated without arguments. -/
def standard : ExportSettings :=
  ⟨none, .«class», none⟩

/-- An argument of the annotation. -/
inductive Item where
  | nativeNamespace (value : String)
  | kind (value : ExportKind)
  | subject (value : Subject)
  deriving Repr

/-- Reads an argument after its key. -/
def item (grammar : Grammar) (key : AnnotationKey) : Parser Item := do
  match key.single? with
  | some "namespace" => return .nativeNamespace (← AnnotationKey.stringValue).1
  | some "kind" =>
      let (value, region) ← AnnotationKey.stringValue
      match ExportKind.ofName? value with
      | some kind => return .kind kind
      | none => failAt .unknownKind region
  | some "subject" =>
      punct "="
      let (path, trees) ← sliced (grammar.path false)
      return .subject ⟨trees, (path.segments.getLast?.map Name.text).getD ""⟩
  | _ => key.refuse "bind_export"

/-- What is said after one more argument; the last of its kind counts. -/
def apply (settings : ExportSettings) : Item → ExportSettings
  | .nativeNamespace value => { settings with nativeNamespace := some value }
  | .kind value => { settings with kind := value }
  | .subject value => { settings with subject := some value }

/-- What the arguments of the annotation say by themselves. -/
def ofArguments (trees : List Tree) : Except Fault ExportSettings := do
  let items ← readTrees (fun grammar => Attribute.items (item grammar)) trees .origin
  return items.foldl apply standard

/-- What the annotation of a trait says. -/
def ofAttribute (attr : Attribute) : Except Fault ExportSettings := do
  let items ← attr.readItems? item
  return items.foldl apply standard

/-- The annotation of an exported trait. -/
def attribute? (attrs : List Attribute) : Option Attribute :=
  attrs.find? (Attribute.endsWith · "bind_export")

end ExportSettings

end NativeBridge

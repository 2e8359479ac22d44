import NativeBridge.Declarations.Exports
import NativeBridge.Generation.Failure

/-!
# Reading declarations from source files

The items of a file are read in order, those of a module in its place. Faults of
single declarations are collected over all files; a file that breaks the grammar
ends the run.
-/

namespace NativeBridge

open Source

/-- A source file with its name and the path of the module that it holds. -/
structure SourceFile where
  path : String
  modulePath : String
  contents : String
  deriving DecidableEq, Repr, Inhabited

/-- Declarations together with the faults among them. -/
structure Findings where
  declarations : Declarations
  errors : List BindingError
  deriving DecidableEq, Repr, Inhabited

namespace Findings

/-- Nothing is found. -/
def none : Findings :=
  ⟨.empty, []⟩

/-- A fault alone. -/
def ofError (error : BindingError) : Findings :=
  ⟨.empty, [error]⟩

/-- What is found in one place before what is found in another. -/
def append (first second : Findings) : Findings :=
  ⟨first.declarations.append second.declarations, first.errors ++ second.errors⟩

/-- A declared type, if it is one. -/
def ofType : Except BindingError (Option Blittable) → Findings
  | .ok (some type) => ⟨⟨[type], []⟩, []⟩
  | .ok .none => none
  | .error error => ofError error

/-- The results that are there and the faults of the others. -/
def divide {α : Type} : List (Except BindingError α) → List α × List BindingError
  | [] => ([], [])
  | .ok value :: rest => (value :: (divide rest).1, (divide rest).2)
  | .error error :: rest => ((divide rest).1, error :: (divide rest).2)

/-- An export, without the members that could not be read. -/
def ofTrait (file space : String) (form : TraitForm) : Findings :=
  match exportSettings file form with
  | .error error => ofError error
  | .ok .none => none
  | .ok (some settings) =>
      let (methods, errors) := divide (form.items.map (declaredMember file form.name))
      ⟨⟨[], [declaredExport file space form settings methods]⟩, errors⟩

mutual

/-- What an item of a module declares. -/
def ofItem (file space : String) : ItemForm → Findings
  | .struct form => ofType (declaredStruct file space form)
  | .enumeration form => ofType (declaredEnum file space form)
  | .trait form => ofTrait file space form
  | .module name items => ofItems file (Path.qualify space name.text) items
  | .other => none

/-- What the items of a module declare. -/
def ofItems (file space : String) : List ItemForm → Findings
  | [] => none
  | item :: rest => (ofItem file space item).append (ofItems file space rest)

end

/-- What some files declare; the first that breaks the grammar ends the reading. -/
def ofFiles : List SourceFile → Except Failure Findings
  | [] => .ok none
  | file :: rest =>
      match readFile file.contents with
      | .error position => .error (.malformedSource file.path position.line position.column)
      | .ok items => (append (ofItems file.path file.modulePath items)) <$> ofFiles rest

end Findings

/-- The declarations of some files, if none of them is at fault. -/
def readDeclarations (files : List SourceFile) : Except Failure Declarations := do
  let findings ← Findings.ofFiles files
  if findings.errors.isEmpty then return findings.declarations
  else throw (.declarations findings.errors)

end NativeBridge

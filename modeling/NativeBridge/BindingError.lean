import NativeBridge.Location
import NativeBridge.ManagedType

/-!
# Faults in declarations

Every fault has a place and a cause. A run collects all of them.
-/

namespace NativeBridge

/-- What is wrong with a declaration. -/
inductive BindingError where
  /-- A named type without a native mapping. -/
  | unregisteredType (managed context : String) (location : Location)
  /-- A second, different mapping for one managed type. -/
  | conflictingMapping (managed existing : String) (first location : Location)
  /-- A type that contains itself by value. -/
  | recursiveLayout (managed : String) (location : Location)
  /-- A second export of one qualified name. -/
  | duplicateExport (name : String) (first location : Location)
  /-- Two methods with the same exported name. -/
  | duplicateMethod (className method : String) (location : Location)
  /-- Two parameters of one name. -/
  | duplicateParameter (className method parameter : String) (location : Location)
  /-- A type that cannot stand where it is written. -/
  | unsupportedType (managed context reason : String) (location : Location)
  /-- A declaration of the wrong form. -/
  | invalidDeclaration (message : String) (location : Location)
  deriving DecidableEq, Repr, Inhabited

namespace BindingError

/-- Where the fault lies. -/
def location : BindingError → Location
  | unregisteredType _ _ location => location
  | conflictingMapping _ _ _ location => location
  | recursiveLayout _ location => location
  | duplicateExport _ _ location => location
  | duplicateMethod _ _ location => location
  | duplicateParameter _ _ _ location => location
  | unsupportedType _ _ _ location => location
  | invalidDeclaration _ location => location

/-- The description without the place. -/
def description : BindingError → String
  | unregisteredType managed context _ =>
      "type `" ++ managed ++ "` has no native mapping (used by " ++ context ++ ")"
  | conflictingMapping managed existing first _ =>
      "conflicting mapping for `" ++ managed ++ "`: already mapped to `" ++ existing ++ "` at "
        ++ first.text
  | recursiveLayout managed _ =>
      "blittable type `" ++ managed ++ "` contains itself by value"
  | duplicateExport name first _ =>
      "duplicate export `" ++ name ++ "` (first declared at " ++ first.text ++ ")"
  | duplicateMethod className method _ =>
      "duplicate method `" ++ method ++ "` in export `" ++ className ++ "`"
  | duplicateParameter className method parameter _ =>
      "duplicate parameter `" ++ parameter ++ "` in `" ++ className ++ "::" ++ method ++ "`"
  | unsupportedType managed context reason _ =>
      "unsupported type `" ++ managed ++ "` in " ++ context ++ ": " ++ reason
  | invalidDeclaration message _ => "invalid declaration: " ++ message

/-- The place followed by the description. -/
def message (error : BindingError) : String :=
  error.location.text ++ ": " ++ error.description

/-- All faults of a run, one per line, with their number when there are several. -/
def report (errors : List BindingError) : String :=
  let lines := errors.map fun error => "error: " ++ error.message
  let total := if errors.length > 1 then [toString errors.length ++ " binding errors"] else []
  "\n".intercalate (lines ++ total)

end BindingError

end NativeBridge

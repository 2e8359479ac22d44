import NativeBridge.BindingError
import NativeBridge.Config.Basic
import NativeBridge.Files.Tree

/-!
# Why a run fails

A run ends at the first file that cannot be accessed or read as source text,
else with every fault among its declarations.
-/

namespace NativeBridge

/-- Why a generator run fails. -/
inductive Failure where
  /-- A file or directory could not be accessed. -/
  | access (path : String) (fault : AccessFault)
  /-- A source file breaks the grammar at a line and column. -/
  | malformedSource (path : String) (line column : Nat)
  /-- Declarations are invalid. -/
  | declarations (errors : List BindingError)
  /-- The configuration is refused. -/
  | config (fault : ConfigFault)
  /-- The configuration file breaks its format. -/
  | malformedConfig
  deriving DecidableEq, Repr, Inhabited

/-- The text of a failure. -/
def Failure.message : Failure → String
  | access path fault => "failed to access " ++ path ++ ": " ++ fault.message
  | malformedSource path line column =>
      path ++ ":" ++ toString line ++ ":" ++ toString column ++ ": unexpected token"
  | declarations errors => BindingError.report errors
  | config fault => "invalid generator config: " ++ fault.message
  | malformedConfig => "invalid generator config"

end NativeBridge

import NativeBridge.Layout

/-!
# Generator configuration

The configuration names the native module that fragments belong to, the paths
under which generated code finds its surroundings, and the target.
-/

namespace NativeBridge

/-- What a generator run can be told. -/
structure Config where
  moduleName : String
  fragmentPrefix : Option String
  generatedNamespace : String
  runtimePath : String
  cratePath : String
  includeReturnSlot : Bool
  pointerWidth : Nat
  wideScalarAlign : Nat
  deriving DecidableEq, Repr, Inhabited

/-- Why a configuration is refused. -/
inductive ConfigFault where
  | pointerWidth (found : Nat)
  | wideScalarAlign (found : Nat)
  | emptyModuleName
  deriving DecidableEq, Repr, Inhabited

/-- The text of a refusal. -/
def ConfigFault.message : ConfigFault → String
  | pointerWidth found => "pointer_width must be 4 or 8, got " ++ toString found
  | wideScalarAlign found => "wide_scalar_align must be 4 or 8, got " ++ toString found
  | emptyModuleName => "module_name must not be empty"

namespace Config

/-- The configuration of a run that is told nothing. -/
def standard : Config where
  moduleName := "retro.scripting"
  fragmentPrefix := none
  generatedNamespace := "retro"
  runtimePath := "::retro_binds_runtime"
  cratePath := "crate"
  includeReturnSlot := false
  pointerWidth := 8
  wideScalarAlign := 8

/-- Widths that a configuration file may ask for. -/
def isWidth (width : Nat) : Bool :=
  width == 4 || width == 8

/-- Accepts exactly the configurations with known widths and a module name. -/
def validate (config : Config) : Except ConfigFault Config :=
  if !isWidth config.pointerWidth then .error (.pointerWidth config.pointerWidth)
  else if !isWidth config.wideScalarAlign then .error (.wideScalarAlign config.wideScalarAlign)
  else if config.moduleName.isEmpty then .error .emptyModuleName
  else .ok config

/-- The target that layouts are computed for. -/
def target (config : Config) : Target :=
  ⟨config.pointerWidth, config.wideScalarAlign⟩

/-- The configuration for a target with this pointer width in bits; only 32-bit
x86 outside Windows aligns eight-byte scalars to four bytes. -/
def forTarget (config : Config) (pointerBits : Nat) (architecture system : String) : Config :=
  { config with
    pointerWidth := pointerBits / 8
    wideScalarAlign := if architecture == "x86" && system != "windows" then 4 else 8 }

/-- The module partition of a fragment. -/
def fragmentName (config : Config) (fragment : String) : String :=
  match config.fragmentPrefix with
  | some leading => leading ++ "." ++ fragment
  | none => fragment

end Config

end NativeBridge

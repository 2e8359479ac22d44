import NativeBridge.CommandLine.Arguments
import NativeBridge.Generation.Output

/-!
# Running a command

A command reads its configuration and its sources from a tree of files. Options
win over the configuration file.
-/

namespace NativeBridge.CommandLine

/-- Why a command fails. -/
inductive Fault where
  /-- The configuration file that was asked for does not exist. -/
  | missingConfig (path : String)
  /-- The run fails. -/
  | run (failure : Failure)
  deriving DecidableEq, Repr, Inhabited

/-- The text of a fault. -/
def Fault.message : Fault → String
  | missingConfig path => "config file " ++ path ++ " does not exist"
  | run failure => failure.message

/-- The configuration file that is read if no other is asked for. -/
def standardConfigFile : String :=
  "retro-binds.toml"

/-- A width given as an option. -/
def width? : String → Option Nat
  | "4" => some 4
  | "8" => some 8
  | _ => none

namespace Given

/-- The configuration in the file that was asked for or in the standard one. -/
def fileConfig (given : Given) (tree : FileTree) : Except Fault Config :=
  match given.value? .config with
  | some path =>
      if tree.exists? path then (tree.config path).mapError .run else .error (.missingConfig path)
  | .none => (tree.config standardConfigFile).mapError .run

/-- A configuration with the given options in place of its own values. -/
def override (given : Given) (config : Config) : Config where
  moduleName := (given.value? .moduleName).getD config.moduleName
  fragmentPrefix := (given.value? .fragmentPrefix).or config.fragmentPrefix
  generatedNamespace := (given.value? .generatedNamespace).getD config.generatedNamespace
  runtimePath := config.runtimePath
  cratePath := config.cratePath
  includeReturnSlot := given.includeReturnSlot || config.includeReturnSlot
  pointerWidth := ((given.value? .pointerWidth).bind width?).getD config.pointerWidth
  wideScalarAlign := ((given.value? .wideScalarAlign).bind width?).getD config.wideScalarAlign

/-- The configuration of a command. -/
def config (given : Given) (tree : FileTree) : Except Fault Config :=
  given.override <$> given.fileConfig tree

/-- A path given as an option. -/
def path (given : Given) (setting : Setting) : String :=
  (given.value? setting).getD ""

/-- Everything that follows from the sources of a command. -/
def generate (given : Given) (tree : FileTree) : Except Fault Generated := do
  let config ← given.config tree
  let sources := given.path .sources
  let root := (given.value? .sourceRoot).getD sources
  (tree.generate config root sources).mapError .run

end Given

/-- The lines that describe a class: its name and kind, then its methods with their sizes. -/
def describe (cls : ExportedClass) : List String :=
  (cls.qualifiedName ++ " (" ++ cls.kind.name ++ ")")
    :: cls.methods.map fun method =>
      "  " ++ cls.moduleName ++ "::" ++ method.exportName ++ " [" ++ toString method.blockSize
        ++ " bytes]"

/-- Lines as a text. -/
def linesText (lines : List String) : String :=
  String.join (lines.map fun line => line ++ "\n")

/-- How a command ends. -/
inductive Outcome where
  /-- No command was run. -/
  | stopped (stop : Stop)
  /-- The command failed. -/
  | failed (fault : Fault)
  /-- The command printed a text. -/
  | done (output : String)
  deriving DecidableEq, Repr, Inhabited

/-- The exit code for an outcome. -/
def Outcome.code : Outcome → Nat
  | done _ | stopped .help => 0
  | failed _ => 1
  | stopped .usage => 2

/-- Writes the files of a run and tells how many were written. -/
def writeAll (given : Given) (generated : Generated) (tree : FileTree) : Outcome × FileTree :=
  match (generated.write (given.path .managedOut) (given.path .nativeOut)).run tree with
  | (.ok written, tree) =>
      let counts := toString generated.classes.length ++ " exports, " ++ toString written
      (.done (linesText [counts ++ " files updated"]), tree)
  | (.error failure, tree) => (.failed (.run failure), tree)

/-- Runs a command over a tree of files. -/
def runCommand (verb : Verb) (given : Given) (tree : FileTree) : Outcome × FileTree :=
  match given.generate tree with
  | .error fault => (.failed fault, tree)
  | .ok generated =>
      match verb with
      | .check => (.done (linesText (generated.classes.flatMap fun c => describe c.cls)), tree)
      | .generate => writeAll given generated tree

/-- Runs what some arguments ask for. -/
def run (arguments : List String) (tree : FileTree) : Outcome × FileTree :=
  match readArguments arguments with
  | .error stop => (.stopped stop, tree)
  | .ok (verb, given) => runCommand verb given tree

end NativeBridge.CommandLine

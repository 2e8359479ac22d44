import NativeBridge.CommandLine.Arguments

/-!
# The text about the command line
-/

namespace NativeBridge.CommandLine

/-- What a command does. -/
def Verb.purpose : Verb → String
  | .generate => "Generate and write every binding artifact"
  | .check => "Validate declarations and report what would be generated"

/-- What an option is for. -/
def Setting.purpose : Setting → String
  | sources => "Directory scanned for annotated declarations"
  | sourceRoot => "Directory module paths are derived from (defaults to --sources)"
  | config => "Generator config (defaults to retro-binds.toml in the working directory)"
  | moduleName => "Native module every fragment belongs to"
  | fragmentPrefix => "Prefix for module partition names"
  | generatedNamespace => "Native namespace of the registration function"
  | pointerWidth => "Target pointer width in bytes"
  | wideScalarAlign => "Alignment of 8-byte scalars on the target"
  | managedOut => "Directory for the managed stubs"
  | nativeOut => "Directory for the native stubs"

/-- The line about an option. -/
def Setting.line (setting : Setting) : String :=
  "  --" ++ setting.name ++ " <VALUE>  " ++ setting.purpose

/-- The lines about a command and its options. -/
def Verb.lines (verb : Verb) (name : String) : List String :=
  ("retro-binds " ++ name ++ " [OPTIONS]") :: ("  " ++ verb.purpose)
    :: (Setting.all verb).map Setting.line
    ++ ["  --include-return-slot  Count the return slot towards parameter-block sizes"]

/-- The text about all commands. -/
def usage : String :=
  "\n".intercalate (Verb.lines .generate "generate" ++ [""] ++ Verb.lines .check "check")

end NativeBridge.CommandLine

import NativeBridge.Config.Basic

/-!
# Arguments of the command line

A command is named first, its options follow in any order. An option with a value
may be given once; the value stands in the next argument or after an equals sign.
-/

namespace NativeBridge.CommandLine

/-- The commands by their names. -/
inductive Verb where
  | generate | check
  deriving DecidableEq, Repr, Inhabited

/-- The options that take a value. -/
inductive Setting where
  | sources | sourceRoot | config | moduleName | fragmentPrefix | generatedNamespace
  | pointerWidth | wideScalarAlign | managedOut | nativeOut
  deriving DecidableEq, Repr, Inhabited

namespace Setting

/-- The options of a command. -/
def all : Verb → List Setting
  | .check =>
      [sources, sourceRoot, config, moduleName, fragmentPrefix, generatedNamespace, pointerWidth,
        wideScalarAlign]
  | .generate =>
      [sources, sourceRoot, config, moduleName, fragmentPrefix, generatedNamespace, pointerWidth,
        wideScalarAlign, managedOut, nativeOut]

/-- The options that a command cannot do without. -/
def required : Verb → List Setting
  | .check => [sources]
  | .generate => [sources, managedOut, nativeOut]

/-- The name of an option after its two dashes. -/
def name : Setting → String
  | sources => "sources"
  | sourceRoot => "src-root"
  | config => "config"
  | moduleName => "module-name"
  | fragmentPrefix => "fragment-prefix"
  | generatedNamespace => "generated-namespace"
  | pointerWidth => "pointer-width"
  | wideScalarAlign => "wide-scalar-align"
  | managedOut => "managed-out"
  | nativeOut => "native-out"

/-- A value that an option can have: paths are not empty, widths are four or eight. -/
def accepts (setting : Setting) (value : String) : Bool :=
  match setting with
  | sources | sourceRoot | config | managedOut | nativeOut => !value.isEmpty
  | pointerWidth | wideScalarAlign => value == "4" || value == "8"
  | moduleName | fragmentPrefix | generatedNamespace => true

end Setting

/-- What an argument that begins with a dash means. -/
inductive Meaning where
  /-- Nothing that the command knows. -/
  | unknown
  /-- The user asks for help. -/
  | help
  /-- More is to be reported on the way. -/
  | verbose
  /-- The return slot counts. -/
  | includeReturnSlot
  /-- An option, its value possibly attached. -/
  | setting (setting : Setting) (value : Option String)
  deriving DecidableEq, Repr, Inhabited

namespace Meaning

/-- The meaning of letters after a single dash; `verb` is the command if it has been named. -/
def ofLetters (verb : Option Verb) : List Char → Meaning
  | [] => verbose
  | 'v' :: rest => ofLetters verb rest
  | 'h' :: _ => help
  | 'c' :: rest =>
      if verb.isNone then unknown
      else match rest with
        | [] => setting .config none
        | '=' :: value => setting .config (some (String.ofList value))
        | value => setting .config (some (String.ofList value))
  | _ => unknown

/-- The meaning of a mark that takes no value. -/
def mark? (verb : Option Verb) : String → Option Meaning
  | "help" => some help
  | "verbose" => some verbose
  | "include-return-slot" => if verb.isSome then some includeReturnSlot else none
  | _ => none

/-- The meaning of a name after two dashes. -/
def ofName (verb : Option Verb) (name : String) (value : Option String) : Meaning :=
  match mark? verb name with
  | some meaning => if value.isNone then meaning else unknown
  | none =>
      let settings := (verb.map Setting.all).getD []
      match settings.find? fun setting => setting.name == name with
      | some found => setting found value
      | none => unknown

/-- The text before the first equals sign and, if there is one, the text after it. -/
def splitValue (chars : List Char) : String × Option String :=
  let name := String.ofList (chars.takeWhile (· != '='))
  match chars.dropWhile (· != '=') with
  | _ :: value => (name, some (String.ofList value))
  | [] => (name, none)

/-- The meaning of an argument, if it begins with a dash that does not stand alone. -/
def ofArgument? (verb : Option Verb) (argument : String) : Option Meaning :=
  match argument.toList with
  | '-' :: '-' :: rest =>
      let (name, value) := splitValue rest
      some (ofName verb name value)
  | '-' :: c :: rest => some (ofLetters verb (c :: rest))
  | _ => none

end Meaning

/-- Why no command is run. -/
inductive Stop where
  /-- The arguments do not make up a command. -/
  | usage
  /-- The user asks for help. -/
  | help
  deriving DecidableEq, Repr, Inhabited

/-- The options given so far. -/
structure Given where
  settings : List (Setting × String)
  includeReturnSlot : Bool
  deriving DecidableEq, Repr, Inhabited

namespace Given

/-- No option. -/
def none : Given :=
  ⟨[], false⟩

/-- The value of an option. -/
def value? (given : Given) (setting : Setting) : Option String :=
  given.settings.lookup setting

/-- One more option with its value. -/
def add (given : Given) (setting : Setting) (value : String) : Except Stop Given :=
  if (given.value? setting).isSome || !setting.accepts value then .error .usage
  else .ok { given with settings := (setting, value) :: given.settings }

/-- The return slot counts. -/
def countReturn (given : Given) : Except Stop Given :=
  if given.includeReturnSlot then .error .usage else .ok { given with includeReturnSlot := true }

/-- Reads the arguments after the name of a command. -/
def read (verb : Verb) (given : Given) : List String → Except Stop Given
  | [] => .ok given
  | argument :: rest =>
      if argument = "--" then if rest.isEmpty then .ok given else .error .usage
      else match Meaning.ofArgument? (some verb) argument with
        | .none | some .unknown => .error .usage
        | some .help => .error .help
        | some .verbose => read verb given rest
        | some .includeReturnSlot => do read verb (← given.countReturn) rest
        | some (.setting setting (some value)) => do read verb (← given.add setting value) rest
        | some (.setting setting .none) =>
            match rest with
            | [] => .error .usage
            | value :: rest =>
                if (Meaning.ofArgument? (some verb) value).isSome then .error .usage
                else do read verb (← given.add setting value) rest

/-- The options of a command, if none is missing. -/
def complete (verb : Verb) (given : Given) : Except Stop Given :=
  if (Setting.required verb).all fun setting => (given.value? setting).isSome then .ok given
  else .error .usage

end Given

/-- The command with a name. -/
def Verb.ofName? : String → Option Verb
  | "generate" => some .generate
  | "check" => some .check
  | _ => none

/-- What follows the request for help, which may name one command. -/
def helpFor : List String → Stop
  | [] => .help
  | [name] => if (Verb.ofName? name).isSome || name = "help" then .help else .usage
  | _ => .usage

/-- Reads all arguments: the command with its options. -/
def readArguments : List String → Except Stop (Verb × Given)
  | [] => .error .usage
  | argument :: rest =>
      match Verb.ofName? argument with
      | some verb => do
          let given ← Given.none.read verb rest
          return (verb, ← given.complete verb)
      | none =>
          if argument = "help" then .error (helpFor rest)
          else match Meaning.ofArgument? none argument with
            | some .verbose => readArguments rest
            | some .help => .error .help
            | _ => .error .usage

end NativeBridge.CommandLine

import NativeBridge.Config.Value
import NativeBridge.Generation.Failure

/-!
# Reading configuration files

Every line of a configuration file holds at most one setting. Settings that are
not there keep their standard; unknown ones are refused, and so is a second
value of one setting.
-/

namespace NativeBridge

namespace ConfigValue

/-- A character of a plain key. -/
def isKeyChar (c : Char) : Bool :=
  c.isAlphanum || c == '_' || c == '-'

/-- Reads a key. -/
def key (chars : List Char) : Option (String × List Char) :=
  match chars with
  | '"' :: rest => asText (quoted (rest.length + 1) rest)
  | '\'' :: rest => asText (verbatim rest)
  | _ =>
      let written := chars.takeWhile isKeyChar
      if written.isEmpty then none
      else some (String.ofList written, chars.dropWhile isKeyChar)
where
  /-- Some characters as a key. -/
  asText (result : Option (List Char × List Char)) : Option (String × List Char) :=
    result.map fun (chars, rest) => (String.ofList chars, rest)

/-- The rest after the end of a line, which blanks and a comment may precede. -/
def lineEnd (chars : List Char) : Option (List Char) :=
  let chars := chars.dropWhile isBlank
  let chars := match chars with
    | '#' :: rest => rest.dropWhile isPlain
    | _ => chars
  if chars.isEmpty then some [] else afterNewline? chars

/-- A setting on a line of its own. -/
def setting (chars : List Char) : Option ((String × ConfigValue) × List Char) := do
  let (key, rest) ← key chars
  match rest.dropWhile isBlank with
  | '=' :: rest =>
      let (value, rest) ← read (rest.dropWhile isBlank)
      return ((key, value), ← lineEnd rest)
  | _ => none

/-- The settings of all lines. The fuel is more than the number of characters. -/
def settings : Nat → List Char → Option (List (String × ConfigValue))
  | 0, _ => none
  | fuel + 1, chars => do
      let chars := chars.dropWhile isBlank
      if chars.isEmpty then return []
      match lineEnd chars with
      | some rest => settings fuel rest
      | none =>
          let (found, rest) ← setting chars
          return found :: (← settings fuel rest)

end ConfigValue

namespace Config

/-- A configuration with one setting changed; nothing if there is no such setting
or if it cannot have the value. -/
def assign (config : Config) : String × ConfigValue → Option Config
  | ("module_name", .text value) => some { config with moduleName := value }
  | ("fragment_prefix", .text value) => some { config with fragmentPrefix := some value }
  | ("generated_namespace", .text value) => some { config with generatedNamespace := value }
  | ("runtime_path", .text value) => some { config with runtimePath := value }
  | ("crate_path", .text value) => some { config with cratePath := value }
  | ("include_return_slot", .truth value) => some { config with includeReturnSlot := value }
  | ("pointer_width", .number (.ofNat value)) => some { config with pointerWidth := value }
  | ("wide_scalar_align", .number (.ofNat value)) => some { config with wideScalarAlign := value }
  | _ => none

/-- The configuration that some settings describe, each of them given once. -/
def ofSettings (settings : List (String × ConfigValue)) : Option Config := do
  if !(settings.map Prod.fst).Nodup then none
  settings.foldlM assign standard

/-- The configuration that a file describes. -/
def ofText? (text : String) : Option Config := do
  let chars := match text.toList with
    | '\uFEFF' :: rest => rest
    | chars => chars
  ofSettings (← ConfigValue.settings (chars.length + 1) chars)

/-- The accepted configuration that a file describes. -/
def read (text : String) : Except Failure Config :=
  match ofText? text with
  | none => .error .malformedConfig
  | some config => config.validate.mapError .config

end Config

end NativeBridge

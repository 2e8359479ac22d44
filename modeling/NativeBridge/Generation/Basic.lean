import NativeBridge.Declarations.Basic
import NativeBridge.Export.Resolution
import NativeBridge.Generation.Failure
import NativeBridge.Stub.Managed
import NativeBridge.Stub.Native
import NativeBridge.Stub.Registration

/-!
# Generating every file of a run

Declarations become a type map, then resolved classes, then files. Each step
collects all its faults before the run fails.
-/

namespace NativeBridge

/-- A file below its output directory. -/
structure GeneratedFile where
  name : String
  contents : String
  deriving DecidableEq, Repr, Inhabited

/-- A class with its two stubs. -/
structure GeneratedClass where
  cls : ExportedClass
  managed : GeneratedFile
  native : GeneratedFile

/-- Everything that one run produces. -/
structure Generated where
  types : TypeMap
  classes : List GeneratedClass
  managedIndex : GeneratedFile
  registration : GeneratedFile
  nativeIndex : GeneratedFile

namespace Generated

/-- One managed stub per class, then the managed index. -/
def managedFiles (generated : Generated) : List GeneratedFile :=
  generated.classes.map GeneratedClass.managed ++ [generated.managedIndex]

/-- One native stub per class, then the registration unit and the native index. -/
def nativeFiles (generated : Generated) : List GeneratedFile :=
  generated.classes.map GeneratedClass.native ++ [generated.registration, generated.nativeIndex]

/-- The first class with a name. -/
def class? (generated : Generated) (name : String) : Option GeneratedClass :=
  generated.classes.find? fun generatedClass => generatedClass.cls.name == name

end Generated

/-- The type map of the declared types, or the faults of registering and laying
out all of them. -/
def buildTypes (config : Config) (blittables : List Blittable) :
    Except (List BindingError) TypeMap :=
  let (table, errors) := (TypeTable.empty config.target).registerAll blittables
  match table.build with
  | .ok types => if errors.isEmpty then .ok types else .error errors
  | .error more => .error (errors ++ more)

/-- A fault for each class whose file name an earlier class has taken; `seen`
holds the taken names with their places. -/
def fileNameClashes (seen : List (String × Location)) : List ExportedClass → List BindingError
  | [] => []
  | cls :: rest =>
      match seen.lookup cls.snakeName with
      | some first => .duplicateExport cls.name first cls.location :: fileNameClashes seen rest
      | none => fileNameClashes ((cls.snakeName, cls.location) :: seen) rest

/-- The classes of the declared exports, or the faults of all of them. -/
def resolveClasses (config : Config) (types : TypeMap) (exports : List ExportDecl) :
    Except (List BindingError) (List ExportedClass) :=
  match (Resolver.start types config.includeReturnSlot).resolveAll exports with
  | .error errors => .error errors
  | .ok classes =>
      let clashes := fileNameClashes [] classes
      if clashes.isEmpty then .ok classes else .error clashes

/-- Both stubs of a class. -/
def generateClass (config : Config) (types : TypeMap) (cls : ExportedClass) : GeneratedClass where
  cls := cls
  managed := ⟨Stub.managedFileName cls, Stub.render (Stub.managedStub ⟨types, config⟩ cls)⟩
  native := ⟨Stub.nativeFileName cls, Stub.render (Stub.nativeStub types config cls)⟩

/-- The files of a whole run. -/
def generateFiles (config : Config) (types : TypeMap) (classes : List ExportedClass) :
    Generated where
  types := types
  classes := classes.map (generateClass config types)
  managedIndex := ⟨"bindings.rs", Stub.render (Stub.managedIndex classes)⟩
  registration := ⟨"registration.cpp", Stub.render (Stub.registrationUnit config classes)⟩
  nativeIndex := ⟨"index.ixx", Stub.render (Stub.nativeIndex config classes)⟩

/-- Everything that follows from the declarations. -/
def generate (config : Config) (declarations : Declarations) : Except Failure Generated :=
  match buildTypes config declarations.blittables with
  | .error errors => .error (.declarations errors)
  | .ok types =>
      match resolveClasses config types declarations.exports with
      | .error errors => .error (.declarations errors)
      | .ok classes => .ok (generateFiles config types classes)

end NativeBridge

import NativeBridge.Generation.Basic
import NativeBridge.Proofs.Stub.Assertions
import NativeBridge.Proofs.Stub.Call

/-!
# What the files say about the functions of a class

The native stub declares the functions of a class, the managed stub asks the host for
them and the registration unit hands them over. `SameExports` says that the three go by
one list: what is registered for a method is the function that the native stub declares
for it, under the name that the managed stub asks for.
-/

namespace NativeBridge.Stub

/-- The declarations of functions after an indentation, one in each line: the result, the name
and the parameters. -/
def declaredAfter (indent : String) (functions : List NativeFunction) : List String :=
  functions.map fun function =>
    indent ++ (function.result.text ++ " " ++ function.name ++ "("
      ++ commaList (function.params.map fun (type, name) => type.declarator name) ++ ")") ++ ";"

/-- The lines that declare the functions of an export in a namespace: a fragment exports
them, a header gives them C linkage. -/
inductive DeclarationScope (functions : List NativeFunction) :
    ExportKind → String → List String → Prop where
  | exported {kind : ExportKind} {space : String} (fragment : kind ≠ .record)
      (named : space ≠ "") :
      DeclarationScope functions kind space
        (["export namespace " ++ space, "\x7b"] ++ declaredAfter "    " functions ++ ["\x7d"])
  | exportedGlobally {kind : ExportKind} (fragment : kind ≠ .record) :
      DeclarationScope functions kind ""
        (["export", "\x7b"] ++ declaredAfter "    " functions ++ ["\x7d"])
  | linked {space : String} (named : space ≠ "") :
      DeclarationScope functions .record space
        (["namespace " ++ space, "\x7b", "    extern \"C\"", "    \x7b"]
          ++ declaredAfter "        " functions ++ ["    \x7d", "\x7d"])
  | linkedGlobally :
      DeclarationScope functions .record ""
        (["extern \"C\"", "\x7b"] ++ declaredAfter "    " functions ++ ["\x7d"])

/-- A native stub declares these functions in this namespace, and opens no other scope. -/
def DeclaredIn (native : List String) (kind : ExportKind) (space : String)
    (functions : List NativeFunction) : Prop :=
  ∃ before scope after, native = before ++ scope ++ after ∧
    DeclarationScope functions kind space scope ∧
    ∀ line ∈ before ++ after, begins "\x7b" line = false

/-- A method of a class as the files of a run know it. -/
structure ExportEntry where
  /-- The function that the native stub declares. -/
  declared : NativeFunction
  /-- The field of the managed stub that holds the call site. -/
  site : String
  /-- The constant with the block size that the call site is given. -/
  constant : String
  /-- The exported name that the call site asks for. -/
  asked : String
  /-- What the registration unit hands to the host. -/
  registered : RegisteredFunction

/-- The line of the constructor that makes the call site of an entry. -/
def ExportEntry.siteLine (runtime : String) (entry : ExportEntry) : String :=
  "            " ++ entry.site ++ ": " ++ runtime ++ "::CallSite::new(Self::MODULE, \""
    ++ entry.asked ++ "\", Self::" ++ entry.constant ++ "),"

/-- Both stubs of a class and what is registered for it have these entries, in this order. -/
structure ExportsWritten (context : ManagedContext) (cls : ExportedClass)
    (managed native : List String) (space : String) (module : RegisteredModule)
    (entries : List ExportEntry) : Prop where
  declarations : DeclaredIn native cls.kind space (entries.map ExportEntry.declared)
  /-- The module that call sites ask is the one under which functions are registered. -/
  moduleName : ["impl " ++ bindsName cls ++ " \x7b", "    /// Registry module name.",
    "    pub const MODULE: &'static str = \"" ++ module.moduleName ++ "\";"] <:+: managed
  sites : ["    pub fn new(registry: ::std::sync::Arc<" ++ context.config.runtimePath
        ++ "::BindingRegistry>) -> Self \x7b",
      "        Self \x7b",
      "            __registry: registry,"]
    ++ entries.map (ExportEntry.siteLine context.config.runtimePath)
    ++ ["        \x7d", "    \x7d"] <:+: managed
  /-- No two methods have one call site. -/
  distinctSites : (entries.map ExportEntry.site).Nodup
  functions : module.functions = entries.map ExportEntry.registered

/-- The parts of an entry are about one method of a class, and they fit together. -/
structure ExportEntry.Fits (context : ManagedContext) (cls : ExportedClass)
    (managed : List String) (space : String) (method : ExportedMethod) (entry : ExportEntry) :
    Prop where
  declared : entry.declared = declaration cls method
  /-- The registered function is the declared one in the namespace of the declarations. -/
  functionPath : entry.registered.functionPath = Path.qualify space entry.declared.name
  /-- The function is registered under the name that the call site asks for. -/
  exportName : entry.registered.exportName = entry.asked
  asked : entry.asked = method.exportName
  body : methodLines context cls method <:+: managed
  /-- The method goes through the call site of its own entry. -/
  resolved : "        let __bound = match self." ++ entry.site
      ++ ".get_or_resolve(&self.__registry) \x7b" ∈ methodLines context cls method

/-- The stubs of a class and what is registered for it agree on what is exported. -/
def SameExports (context : ManagedContext) (generated : GeneratedClass)
    (module : RegisteredModule) : Prop :=
  ∃ managed native space entries, generated.managed.contents = render managed ∧
    generated.native.contents = render native ∧
    ExportsWritten context generated.cls managed native space module entries ∧
    List.Forall₂ (ExportEntry.Fits context generated.cls managed space) generated.cls.methods
      entries

/-- The entry of a resolved method. -/
def ExportEntry.of (config : Config) (cls : ExportedClass) (method : ExportedMethod) :
    ExportEntry where
  declared := declaration cls method
  site := siteField method
  constant := blockConst method
  asked := method.exportName
  registered :=
    ⟨method.exportName, functionPath cls method.nativeName, registrationSlots config method⟩

/-- The declarations of a class are those of its methods. -/
theorem declarationLines_eq_declaredAfter (cls : ExportedClass) (indent : String) :
    declarationLines cls indent = declaredAfter indent (cls.methods.map (declaration cls)) := by
  rw [declarationLines, declaredAfter, List.map_map]
  rfl

/-- The assertions on layouts open no scope. -/
theorem begins_assertedLines {asserted : List AssertedType} {line : String}
    (isLine : line ∈ if asserted.isEmpty then [] else "" :: asserted.flatMap assertedLines) :
    begins "\x7b" line = false := by
  split at isLine
  · cases isLine
  · rcases List.mem_cons.mp isLine with rfl | isAssertion
    · rfl
    · obtain ⟨entry, -, isAssertion⟩ := List.mem_flatMap.mp isAssertion
      simp only [assertedLines, String.append_assoc] at isAssertion
      rcases List.mem_cons.mp isAssertion with rfl | isOffset
      · exact begins_append_eq_false rfl _
      · obtain ⟨field, -, rfl⟩ := List.mem_map.mp isOffset
        exact begins_append_eq_false rfl _

/-- More lines that open no scope change nothing. -/
theorem DeclaredIn.append {native : List String} {kind : ExportKind} {space : String}
    {functions : List NativeFunction} (declared : DeclaredIn native kind space functions)
    {more : List String} (noScope : ∀ line ∈ more, begins "\x7b" line = false) :
    DeclaredIn (native ++ more) kind space functions := by
  obtain ⟨before, scope, after, rfl, isScope, others⟩ := declared
  refine ⟨before, scope, after ++ more, List.append_assoc _ _ _, isScope, ?_⟩
  rw [← List.append_assoc]
  exact List.forall_mem_append.mpr ⟨others, noScope⟩

/-- A fragment up to its declarations. -/
def fragmentHead (config : Config) (cls : ExportedClass) : List String :=
  [bannerOf cls.qualifiedName, "module;", "", "#include <cstddef>", "",
    "export module " ++ config.moduleName ++ ":" ++ config.fragmentName cls.snakeName ++ ";"]
  ++ (if (unitImports config cls.imports).isEmpty then []
    else "" :: (unitImports config cls.imports).map fun module => "import " ++ module ++ ";")
  ++ [""]

/-- A header up to its declarations. -/
def headerHead (config : Config) (cls : ExportedClass) : List String :=
  [bannerOf cls.qualifiedName, "#pragma once", "", "#include <cstddef>"]
  ++ (if (unitImports config cls.imports).isEmpty then []
    else ["", "// Requires modules: " ++ commaList (unitImports config cls.imports)])
  ++ [""]

/-- A banner opens no scope. -/
theorem begins_bannerOf (source : String) : begins "\x7b" (bannerOf source) = false := by
  unfold bannerOf
  rw [String.append_assoc]
  exact begins_append_eq_false rfl _

/-- No scope is open before the declarations of a fragment. -/
theorem begins_fragmentHead {config : Config} {cls : ExportedClass} {line : String}
    (isLine : line ∈ fragmentHead config cls) : begins "\x7b" line = false := by
  simp only [fragmentHead, List.mem_append, List.mem_cons, List.not_mem_nil, or_false] at isLine
  rcases isLine with ((rfl | rfl | rfl | rfl | rfl | rfl) | isImport) | rfl
  · exact begins_bannerOf _
  · rfl
  · rfl
  · rfl
  · rfl
  · simp only [String.append_assoc]
    exact begins_append_eq_false rfl _
  · split at isImport
    · cases isImport
    · rcases List.mem_cons.mp isImport with rfl | isImport
      · rfl
      · obtain ⟨module, -, rfl⟩ := List.mem_map.mp isImport
        rw [String.append_assoc]
        exact begins_append_eq_false rfl _
  · rfl

/-- No scope is open before the declarations of a header. -/
theorem begins_headerHead {config : Config} {cls : ExportedClass} {line : String}
    (isLine : line ∈ headerHead config cls) : begins "\x7b" line = false := by
  simp only [headerHead, List.mem_append, List.mem_cons, List.not_mem_nil, or_false] at isLine
  rcases isLine with ((rfl | rfl | rfl | rfl) | isImport) | rfl
  · exact begins_bannerOf _
  · rfl
  · rfl
  · rfl
  · split at isImport
    · cases isImport
    · rcases List.mem_pair.mp isImport with rfl | rfl
      · rfl
      · exact begins_append_eq_false rfl _
  · rfl

/-- A fragment declares the functions of its methods. -/
theorem declaredIn_fragmentLines (config : Config) {cls : ExportedClass}
    (fragment : cls.kind ≠ .record) :
    DeclaredIn (bannerOf cls.qualifiedName :: fragmentLines config cls) cls.kind
      (functionNamespace cls) (cls.methods.map (declaration cls)) := by
  by_cases unnamed : functionNamespace cls = ""
  · rw [unnamed]
    refine ⟨fragmentHead config cls, _, [], ?_, .exportedGlobally fragment, ?_⟩
    · simp [fragmentLines, fragmentHead, unnamed, declarationLines_eq_declaredAfter]
    · simpa using fun line => begins_fragmentHead
  · refine ⟨fragmentHead config cls, _, [], ?_, .exported fragment unnamed, ?_⟩
    · simp [fragmentLines, fragmentHead, unnamed, declarationLines_eq_declaredAfter]
    · simpa using fun line => begins_fragmentHead

/-- A header declares the functions of its methods. -/
theorem declaredIn_headerLines (config : Config) {cls : ExportedClass}
    (record : cls.kind = .record) :
    DeclaredIn (bannerOf cls.qualifiedName :: headerLines config cls) cls.kind
      (functionNamespace cls) (cls.methods.map (declaration cls)) := by
  rw [record]
  by_cases unnamed : functionNamespace cls = ""
  · rw [unnamed]
    refine ⟨headerHead config cls, _, [], ?_, .linkedGlobally, ?_⟩
    · simp [headerLines, headerHead, unnamed, declarationLines_eq_declaredAfter]
    · simpa using fun line => begins_headerHead
  · refine ⟨headerHead config cls, _, [], ?_, .linked unnamed, ?_⟩
    · simp [headerLines, headerHead, unnamed, declarationLines_eq_declaredAfter]
    · simpa using fun line => begins_headerHead

/-- The native stub of a class declares the functions of its methods. -/
theorem declaredIn_nativeStub (types : TypeMap) (config : Config) (cls : ExportedClass) :
    DeclaredIn (nativeStub types config cls) cls.kind (functionNamespace cls)
      (cls.methods.map (declaration cls)) := by
  have code : DeclaredIn (nativeCode config cls) cls.kind (functionNamespace cls)
      (cls.methods.map (declaration cls)) := by
    unfold nativeCode
    split
    · rename_i kind
      exact declaredIn_fragmentLines config (by simp [kind])
    · rename_i kind
      exact declaredIn_fragmentLines config (by simp [kind])
    · rename_i record
      exact declaredIn_headerLines config record
  exact code.append fun line => begins_assertedLines

/-- The managed stub up to the end of the inherent implementation. -/
theorem inherent_prefix_managedStub (context : ManagedContext) (cls : ExportedClass) :
    [bannerOf cls.qualifiedName, ""] ++ structLines context cls
        ++ ["", "impl " ++ bindsName cls ++ " \x7b"]
        ++ spaced [constLines context cls, newLines context cls, resolveAllLines context cls,
          callSitesLines context cls]
      <+: managedStub context cls := by
  rw [managedStub]
  exact (List.prefix_append _ _).trans ((List.prefix_append _ _).trans
    ((List.prefix_append _ _).trans ((List.prefix_append _ _).trans (List.prefix_append _ _))))

/-- The inherent implementation begins with the module name. -/
theorem moduleName_infix_managedStub (context : ManagedContext) (cls : ExportedClass) :
    ["impl " ++ bindsName cls ++ " \x7b", "    /// Registry module name.",
      "    pub const MODULE: &'static str = \"" ++ cls.moduleName ++ "\";"]
      <:+: managedStub context cls := by
  have constants : ["    /// Registry module name.",
      "    pub const MODULE: &'static str = \"" ++ cls.moduleName ++ "\";"]
      <+: spaced [constLines context cls, newLines context cls, resolveAllLines context cls,
        callSitesLines context cls] := by
    simp [spaced, constLines]
  have inherent := inherent_prefix_managedStub context cls
  obtain ⟨rest, constants⟩ := constants
  rw [← constants] at inherent
  refine List.IsInfix.trans ?_ inherent.isInfix
  exact ⟨[bannerOf cls.qualifiedName, ""] ++ structLines context cls ++ [""], rest, by simp⟩

/-- The managed stub holds the constructor. -/
theorem newLines_infix_managedStub (context : ManagedContext) (cls : ExportedClass) :
    newLines context cls <:+: managedStub context cls := by
  have isBlock : newLines context cls
      <:+: spaced [constLines context cls, newLines context cls, resolveAllLines context cls,
        callSitesLines context cls] := infix_spaced (by simp)
  exact (isBlock.trans (List.suffix_append _ _).isInfix).trans
    (inherent_prefix_managedStub context cls).isInfix

/-- The constructor makes one call site for each entry. -/
theorem newLines_eq_siteLines (context : ManagedContext) (cls : ExportedClass) :
    newLines context cls
      = ["    pub fn new(registry: ::std::sync::Arc<" ++ context.config.runtimePath
            ++ "::BindingRegistry>) -> Self \x7b",
          "        Self \x7b",
          "            __registry: registry,"]
        ++ (cls.methods.map (ExportEntry.of context.config cls)).map
          (ExportEntry.siteLine context.config.runtimePath)
        ++ ["        \x7d", "    \x7d"] := by
  rw [newLines, List.map_map]
  rfl

/-- Methods with exported names of their own have call sites of their own. -/
theorem nodup_siteField {types : TypeMap} {countsReturn : Bool} {decls : List MethodDecl}
    {methods : List ExportedMethod}
    (resolved : List.Forall₂ (MethodResolves types countsReturn) decls methods)
    (distinct : (methods.map ExportedMethod.exportName).Nodup) :
    (methods.map siteField).Nodup := by
  rw [List.Nodup, List.pairwise_map] at distinct ⊢
  -- A site is named by its method, and the name of a method decides its exported name.
  refine distinct.imp_of_mem fun {left right} isLeft isRight differ sameSite => differ ?_
  obtain ⟨leftDecl, -, leftResolved⟩ := exists_of_forall₂ resolved isLeft
  obtain ⟨rightDecl, -, rightResolved⟩ := exists_of_forall₂ resolved isRight
  have sameName : left.name = right.name := (String.append_right_inj _).mp sameSite
  rw [leftResolved.exportName, rightResolved.exportName, ← leftResolved.name, sameName,
    rightResolved.name]

/-- The parts of the entry of a method fit together. -/
theorem fits_of_mem (context : ManagedContext) {cls : ExportedClass} {method : ExportedMethod}
    (isMethod : method ∈ cls.methods) :
    ExportEntry.Fits context cls (managedStub context cls) (functionNamespace cls) method
      (.of context.config cls method) where
  declared := rfl
  functionPath := rfl
  exportName := rfl
  asked := rfl
  body := infix_managedStub context isMethod
  resolved := by simp [methodLines, ExportEntry.of]

/-- The stubs of a resolved class and what is registered for it agree. -/
theorem sameExports_of_resolves {config : Config} {types : TypeMap} {decl : ExportDecl}
    {cls : ExportedClass} (resolved : ExportResolves types config.includeReturnSlot decl cls) :
    SameExports ⟨types, config⟩ (generateClass config types cls)
      (registeredModule config cls) := by
  refine ⟨_, _, functionNamespace cls, cls.methods.map (.of config cls), rfl, rfl,
    { declarations := ?_
      moduleName := moduleName_infix_managedStub ⟨types, config⟩ cls
      sites := ?_
      distinctSites := ?_
      functions := ?_ }, ?_⟩
  · rw [List.map_map]
    exact declaredIn_nativeStub types config cls
  · rw [← newLines_eq_siteLines ⟨types, config⟩ cls]
    exact newLines_infix_managedStub ⟨types, config⟩ cls
  · rw [List.map_map]
    exact nodup_siteField resolved.methods resolved.distinctMethods
  · rw [List.map_map]
    rfl
  · rw [List.forall₂_map_right_iff]
    exact List.forall₂_same.mpr fun method isMethod => fits_of_mem ⟨types, config⟩ isMethod

end NativeBridge.Stub

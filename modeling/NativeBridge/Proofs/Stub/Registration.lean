import NativeBridge.Proofs.Generation.Artifacts
import NativeBridge.Proofs.Stub.Lines

/-!
# What the registration unit registers and includes

The registration unit is one function between a head and a tail. Only lines of the
function are indented, so they can be told from all others: `registersExactly` says that
they are the statements of the modules of all classes, in order. Only the head includes
headers, those of the records.
-/

namespace NativeBridge.Stub

/-- The indentation of the function that registers everything. -/
def unitIndent (config : Config) : String :=
  if config.generatedNamespace.isEmpty then "" else "    "

/-- The statement that registers a function for the module that a variable names. -/
def RegisteredFunction.statement (handle : String) (function : RegisteredFunction) : String :=
  "    BindsManager::register_exported_function(" ++ handle ++ ", ExportedFunction(u\""
    ++ function.exportName ++ "\", &" ++ function.functionPath ++ ", "
    ++ sumText nativeSizeText function.slots ++ "));"

/-- The statements of a module: its name in a variable, then one for each function. -/
def RegisteredModule.statements (module : RegisteredModule) : List String :=
  ("    const Name " ++ module.handle ++ " = u\"" ++ module.moduleName ++ "\";")
  :: module.functions.map (RegisteredFunction.statement module.handle)

/-- The statements of a module as the registration unit holds them. -/
def indentedStatements (config : Config) (module : RegisteredModule) : List String :=
  module.statements.map fun statement => unitIndent config ++ statement

/-- The function of a registration unit registers some modules in order, and nothing else in
the unit is a statement. -/
structure RegistersExactly (config : Config) (unit : List String)
    (modules : List RegisteredModule) : Prop where
  function : [unitIndent config ++ "void " ++ registerFunction ++ "()",
      unitIndent config ++ "\x7b"]
    ++ spaced (modules.map (indentedStatements config)) ++ [unitIndent config ++ "\x7d"] <:+: unit
  statements : unit.filter (begins (unitIndent config ++ "    "))
    = modules.flatMap (indentedStatements config)
  /-- No two modules have one variable. -/
  handles : (modules.map RegisteredModule.handle).Nodup

/-- The registration unit up to the function. -/
def unitHead (config : Config) (classes : List ExportedClass) : List String :=
  banner
  :: (if (recordHeaders classes).isEmpty then []
    else ["module;", ""]
      ++ (recordHeaders classes).map (fun header => "#include \"" ++ header ++ "\"") ++ [""])
  ++ ["module " ++ config.moduleName ++ ":" ++ registrationPartition config ++ ";", "",
    "import :" ++ indexPartition config ++ ";"]
  ++ (unitImports config (classes.flatMap ExportedClass.imports)).map
    (fun module => "import " ++ module ++ ";")
  ++ [""]
  ++ if config.generatedNamespace.isEmpty then []
    else ["namespace " ++ config.generatedNamespace, "\x7b"]

/-- The function that registers everything. -/
def unitFunction (config : Config) (classes : List ExportedClass) : List String :=
  [unitIndent config ++ "void " ++ registerFunction ++ "()", unitIndent config ++ "\x7b"]
  ++ spaced ((classes.map (registeredModule config)).map (indentedStatements config))
  ++ [unitIndent config ++ "\x7d"]

/-- The registration unit behind the function. -/
def unitTail (config : Config) : List String :=
  if config.generatedNamespace.isEmpty then [] else ["\x7d"]

/-- The function stands between the head and the tail of the unit. -/
theorem registrationUnit_eq (config : Config) (classes : List ExportedClass) :
    registrationUnit config classes
      = unitHead config classes ++ unitFunction config classes ++ unitTail config := by
  have body : registrationBody config (unitIndent config) classes
      = spaced ((classes.map (registeredModule config)).map (indentedStatements config)) := by
    rw [registrationBody, List.map_map]
    rfl
  rw [unitFunction, ← body]
  simp only [registrationUnit, unitHead, unitTail, unitIndent, List.append_assoc,
    List.cons_append, List.nil_append]

/-- Nothing before the function is indented. -/
theorem begins_unitHead {config : Config} {classes : List ExportedClass} {line : String}
    (isLine : line ∈ unitHead config classes) : begins " " line = false := by
  simp only [unitHead, List.mem_append, List.mem_cons, List.not_mem_nil, or_false] at isLine
  rcases isLine with ((((rfl | isHeader) | rfl | rfl | rfl) | isImport) | rfl) | isSpace
  · rfl
  · split at isHeader
    · cases isHeader
    · simp only [List.mem_append, List.mem_cons, List.not_mem_nil, or_false,
        List.mem_map] at isHeader
      rcases isHeader with ((rfl | rfl) | ⟨header, -, rfl⟩) | rfl
      · rfl
      · rfl
      · rw [String.append_assoc]
        exact begins_append_eq_false rfl _
      · rfl
  · simp only [String.append_assoc]
    exact begins_append_eq_false rfl _
  · rfl
  · rw [String.append_assoc]
    exact begins_append_eq_false rfl _
  · obtain ⟨module, -, rfl⟩ := List.mem_map.mp isImport
    rw [String.append_assoc]
    exact begins_append_eq_false rfl _
  · rfl
  · split at isSpace
    · cases isSpace
    · rcases List.mem_pair.mp isSpace with rfl | rfl
      · exact begins_append_eq_false rfl _
      · rfl

/-- Nothing behind the function is indented. -/
theorem begins_unitTail {config : Config} {line : String} (isLine : line ∈ unitTail config) :
    begins " " line = false := by
  unfold unitTail at isLine
  split at isLine
  · cases isLine
  · rw [List.mem_singleton.mp isLine]
    decide +kernel

/-- Statements are indented. -/
theorem begins_statementIndent (config : Config) :
    begins " " (unitIndent config ++ "    ") = true := by
  unfold unitIndent
  split
  · rfl
  · rfl

/-- The two kinds of statements begin differently. -/
theorem mem_statements {module : RegisteredModule} {statement : String}
    (isStatement : statement ∈ module.statements) :
    (∃ rest, statement = "    const Name " ++ rest) ∨
      ∃ rest, statement = "    BindsManager::register_exported_function(" ++ rest := by
  rcases List.mem_cons.mp isStatement with rfl | isFunction
  · simp only [String.append_assoc]
    exact .inl ⟨_, rfl⟩
  · obtain ⟨function, -, rfl⟩ := List.mem_map.mp isFunction
    unfold RegisteredFunction.statement
    simp only [String.append_assoc]
    exact .inr ⟨_, rfl⟩

/-- The statements of a module are written as such. -/
theorem begins_indentedStatements {config : Config} {module : RegisteredModule} {line : String}
    (isLine : line ∈ indentedStatements config module) :
    begins (unitIndent config ++ "    ") line = true := by
  obtain ⟨statement, isStatement, rfl⟩ := List.mem_map.mp isLine
  rw [begins_append_append]
  rcases mem_statements isStatement with ⟨rest, rfl⟩ | ⟨rest, rfl⟩
  · exact begins_trans rfl (begins_append "    const Name " _)
  · exact begins_trans rfl
      (begins_append "    BindsManager::register_exported_function(" _)

/-- The statements of the function are those of the modules. -/
theorem filter_unitFunction (config : Config) (classes : List ExportedClass) :
    (unitFunction config classes).filter (begins (unitIndent config ++ "    "))
      = (classes.map (registeredModule config)).flatMap (indentedStatements config) := by
  have notEmpty : begins (unitIndent config ++ "    ") "" = false := by
    refine Bool.eq_false_iff.mpr fun empty => ?_
    exact absurd (begins_trans (begins_statementIndent config) empty) (Bool.eq_false_iff.mp rfl)
  have opened : begins (unitIndent config ++ "    ")
      (unitIndent config ++ "void " ++ registerFunction ++ "()") = false := by
    simp only [String.append_assoc]
    rw [begins_append_append]
    decide +kernel
  have brace : ∀ text ∈ ["\x7b", "\x7d"],
      begins (unitIndent config ++ "    ") (unitIndent config ++ text) = false := by
    intro text isBrace
    rw [begins_append_append]
    rcases List.mem_pair.mp isBrace with rfl | rfl
    · rfl
    · rfl
  have statements : ∀ module, (indentedStatements config module).filter
      (begins (unitIndent config ++ "    ")) = indentedStatements config module :=
    fun module => List.filter_eq_self.mpr fun line => begins_indentedStatements
  rw [unitFunction, List.filter_append, List.filter_append, filter_spaced notEmpty,
    List.flatMap_map]
  simp [opened, brace, statements]

/-- The registration unit registers the modules of the classes, and nothing else. -/
theorem registersExactly (config : Config) {classes : List ExportedClass}
    (distinct : (classes.map ExportedClass.snakeName).Nodup) :
    RegistersExactly config (registrationUnit config classes)
      (classes.map (registeredModule config)) where
  function := by
    rw [registrationUnit_eq]
    exact (List.suffix_append _ _).isInfix.trans (List.prefix_append _ _).isInfix
  statements := by
    -- Statements share a first blank, and nothing outside the function begins with one.
    have notIndented : ∀ lines : List String, (∀ line ∈ lines, begins " " line = false) →
        lines.filter (begins (unitIndent config ++ "    ")) = [] := by
      intro lines outside
      refine filter_begins_eq_nil fun line isLine => Bool.eq_false_iff.mpr fun statement => ?_
      have indented := begins_trans (begins_statementIndent config) statement
      rw [outside line isLine] at indented
      cases indented
    rw [registrationUnit_eq, List.filter_append, List.filter_append, filter_unitFunction,
      notIndented _ fun line => begins_unitHead, notIndented _ fun line => begins_unitTail,
      List.nil_append, List.append_nil]
  handles := by
    rw [List.map_map]
    exact nodup_map_of_snakeName distinct fun {left right} same =>
      (String.append_left_inj _).mp same

/-- The function of the registration unit includes nothing. -/
theorem filter_unitFunction_include (config : Config) (classes : List ExportedClass) :
    (unitFunction config classes).filter (begins "#include \"") = [] := by
  have indented : ∀ text, begins "#include \"" text = false →
      begins "#include \"" (unitIndent config ++ text) = false := by
    intro text noDirective
    unfold unitIndent
    split
    · rwa [String.empty_append]
    · exact begins_append_eq_false rfl _
  have statements : ∀ module, (indentedStatements config module).filter (begins "#include \"") = [] := by
    intro module
    refine filter_begins_eq_nil fun line isLine => ?_
    obtain ⟨statement, isStatement, rfl⟩ := List.mem_map.mp isLine
    refine indented statement ?_
    rcases mem_statements isStatement with ⟨rest, rfl⟩ | ⟨rest, rfl⟩
    · exact begins_append_eq_false rfl _
    · exact begins_append_eq_false rfl _
  have opened := indented ("void " ++ registerFunction ++ "()") rfl
  have openBrace := indented "\x7b" rfl
  have closeBrace := indented "\x7d" rfl
  rw [unitFunction, List.filter_append, List.filter_append,
    filter_spaced rfl, List.flatMap_map]
  simp only [← String.append_assoc] at opened
  simp [opened, openBrace, closeBrace, statements]

/-- Before its function the registration unit includes the headers of the records. -/
theorem filter_unitHead (config : Config) (classes : List ExportedClass) :
    (unitHead config classes).filter (begins "#include \"")
      = (recordHeaders classes).map fun header => "#include \"" ++ header ++ "\"" := by
  have headers : ((recordHeaders classes).map fun header =>
        "#include \"" ++ header ++ "\"").filter (begins "#include \"")
      = (recordHeaders classes).map fun header => "#include \"" ++ header ++ "\"" := by
    refine List.filter_eq_self.mpr (List.forall_mem_map.mpr fun header _ => ?_)
    exact begins_append_closed _ _ _
  have global : (if (recordHeaders classes).isEmpty then []
        else ["module;", ""]
          ++ (recordHeaders classes).map (fun header => "#include \"" ++ header ++ "\"")
          ++ [""]).filter (begins "#include \"")
      = (recordHeaders classes).map fun header => "#include \"" ++ header ++ "\"" := by
    have module : begins "#include \"" "module;" = false := rfl
    have empty : begins "#include \"" "" = false := rfl
    split
    · rename_i none
      rw [List.isEmpty_iff.mp none]
      rfl
    · rw [List.filter_append, List.filter_append, headers]
      simp [module, empty]
  have unit : ["module " ++ config.moduleName ++ ":" ++ registrationPartition config ++ ";", "",
      "import :" ++ indexPartition config ++ ";"].filter (begins "#include \"") = [] := by
    have module : ∀ rest, begins "#include \"" ("module " ++ rest) = false :=
      begins_append_eq_false rfl
    have index : ∀ rest, begins "#include \"" ("import :" ++ rest) = false :=
      begins_append_eq_false rfl
    have empty : begins "#include \"" "" = false := rfl
    simp [String.append_assoc, module, index, empty]
  have imports : ((unitImports config (classes.flatMap ExportedClass.imports)).map
      fun module => "import " ++ module ++ ";").filter (begins "#include \"") = [] := by
    refine filter_begins_eq_nil (List.forall_mem_map.mpr fun module _ => ?_)
    rw [String.append_assoc]
    exact begins_append_eq_false rfl _
  have space : (if config.generatedNamespace.isEmpty then []
      else ["namespace " ++ config.generatedNamespace, "\x7b"]).filter
        (begins "#include \"") = [] := by
    refine filter_begins_eq_nil fun line isLine => ?_
    split at isLine
    · cases isLine
    · rcases List.mem_pair.mp isLine with rfl | rfl
      · exact begins_append_eq_false rfl _
      · rfl
  have isBanner : begins "#include \"" banner = false := rfl
  have empty : [""].filter (begins "#include \"") = [] := rfl
  rw [unitHead, List.filter_append, List.filter_append, List.filter_append, List.filter_append,
    List.filter_cons, isBanner, unit, imports, empty, space]
  simpa using global

/-- The headers of the registration unit are those of the records. -/
theorem filter_registrationUnit (config : Config) (classes : List ExportedClass) :
    (registrationUnit config classes).filter (begins "#include \"")
      = (classes.filter fun cls => cls.kind == .record).map fun cls =>
        "#include \"" ++ nativeFileName cls ++ "\"" := by
  have tail : (unitTail config).filter (begins "#include \"") = [] := by
    refine filter_begins_eq_nil fun line isLine => ?_
    unfold unitTail at isLine
    split at isLine
    · cases isLine
    · rw [List.mem_singleton.mp isLine]
      decide +kernel
  rw [registrationUnit_eq, List.filter_append, List.filter_append, filter_unitHead,
    filter_unitFunction_include, tail, recordHeaders, List.map_map, List.append_nil,
    List.append_nil]
  rfl

end NativeBridge.Stub

import Mathlib.Data.List.Nodup
import NativeBridge.Proofs.Generation.Run
import NativeBridge.Proofs.Naming
import NativeBridge.Proofs.Path

/-!
# Which methods share a native function

A run keeps exported names apart and file names apart, but neither decides the
name of a native function: methods with different exported names may have one
snake-case name, and the names of flat functions are glued to the names of their
classes. `Generated.native_functions_distinct_iff` says exactly which methods of a
run that succeeds share a native function, or a function name with C linkage.
-/

namespace NativeBridge

/-- What stands before the underscore of a glued text is empty, or begins with an underscore
of its own. -/
theorem cons_glue_eq {part name other : List Char} (same : '_' :: name = part ++ '_' :: other) :
    (part = [] ∧ name = other) ∨ ∃ inner, part = '_' :: inner ∧ name = inner ++ '_' :: other := by
  cases part with
  | nil => exact .inl ⟨rfl, (List.cons.inj same).2⟩
  | cons c inner =>
      obtain ⟨rfl, rest⟩ := List.cons.inj same
      exact .inr ⟨inner, rfl, rest⟩

/-- Texts glued by an underscore agree part by part, or the first part of one is longer and
the second part of the other makes up for it. -/
theorem glue_eq_iff {first second name other : String} :
    first ++ "_" ++ name = second ++ "_" ++ other ↔
      (first = second ∧ name = other) ∨
        (∃ part, second = first ++ "_" ++ part ∧ name = part ++ "_" ++ other) ∨
        ∃ part, first = second ++ "_" ++ part ∧ other = part ++ "_" ++ name := by
  constructor
  · intro same
    have chars : first.toList ++ '_' :: name.toList = second.toList ++ '_' :: other.toList := by
      simpa using congrArg String.toList same
    rcases List.append_eq_append_iff.mp chars with ⟨part, isSecond, rest⟩ | ⟨part, isFirst, rest⟩
    · rcases cons_glue_eq rest with ⟨rfl, sameName⟩ | ⟨inner, rfl, isName⟩
      · refine .inl ⟨String.toList_inj.mp ?_, String.toList_inj.mp sameName⟩
        rw [isSecond, List.append_nil]
      · refine .inr (.inl ⟨.ofList inner, String.toList_inj.mp ?_, String.toList_inj.mp ?_⟩)
        · simpa using isSecond
        · simpa using isName
    · rcases cons_glue_eq rest with ⟨rfl, sameName⟩ | ⟨inner, rfl, isOther⟩
      · refine .inl ⟨String.toList_inj.mp ?_, String.toList_inj.mp sameName.symm⟩
        rw [isFirst, List.append_nil]
      · refine .inr (.inr ⟨.ofList inner, String.toList_inj.mp ?_, String.toList_inj.mp ?_⟩)
        · simpa using isFirst
        · simpa using isOther
  · rintro (⟨rfl, rfl⟩ | ⟨part, rfl, rfl⟩ | ⟨part, rfl, rfl⟩)
    · rfl
    · simp only [String.append_assoc]
    · simp only [String.append_assoc]

namespace Stub

/-- The functions of a class have their own names. -/
theorem functionName_of_class {cls : ExportedClass} (isClass : cls.kind = .class)
    (name : String) : functionName cls name = name := by
  rw [functionName, isClass]

/-- The functions of a class have their own namespace. -/
theorem functionNamespace_of_class {cls : ExportedClass} (isClass : cls.kind = .class) :
    functionNamespace cls = Path.qualify cls.nativeNamespace cls.snakeName := by
  rw [functionNamespace, isClass]

/-- Flat functions have names that begin with their class. -/
theorem functionName_of_flat {cls : ExportedClass} (flat : cls.kind ≠ .class)
    (name : String) : functionName cls name = cls.snakeName ++ "_" ++ name := by
  unfold functionName
  split
  · contradiction
  · rfl
  · rfl

/-- Flat functions live beside their class. -/
theorem functionNamespace_of_flat {cls : ExportedClass} (flat : cls.kind ≠ .class) :
    functionNamespace cls = cls.nativeNamespace := by
  unfold functionNamespace
  split
  · contradiction
  · rfl
  · rfl

/-- The native name of a method with a name in snake case has no colon. -/
theorem colon_notMem_functionName (cls : ExportedClass) (name : String) :
    ':' ∉ (functionName cls (Naming.snakeCase name)).toList := by
  have plain := Naming.colon_notMem_snakeCase
  by_cases isClass : cls.kind = .class
  · rw [functionName_of_class isClass]
    exact plain name
  · rw [functionName_of_flat isClass]
    simp [ExportedClass.snakeName, plain]

end Stub

/-- A method of a class. -/
abbrev Exported := ExportedClass × ExportedMethod

namespace Exported

/-- The native function of a method, with its namespace. -/
def nativePath (exported : Exported) : String :=
  Stub.functionPath exported.1 exported.2.nativeName

/-- The native function of a method, without its namespace. -/
def nativeName (exported : Exported) : String :=
  Stub.functionName exported.1 exported.2.nativeName

/-- Two flat functions have one name: methods of one class with one snake-case name, or
methods of two classes where the longer class name takes the beginning of the other's method. -/
inductive SharesName (left right : Exported) : Prop where
  | method (sameClass : left.1 = right.1) (sameMethod : left.2.nativeName = right.2.nativeName)
  | glued (part : String) (cls : right.1.snakeName = left.1.snakeName ++ "_" ++ part)
      (method : left.2.nativeName = part ++ "_" ++ right.2.nativeName)

/-- Two methods have one native function. -/
inductive SharesFunction (left right : Exported) : Prop where
  /-- Two methods of one class have one snake-case name. -/
  | inClass (isClass : left.1.kind = .class) (sameClass : left.1 = right.1)
      (sameMethod : left.2.nativeName = right.2.nativeName)
  /-- Two flat functions of one namespace have one name. -/
  | flat (leftFlat : left.1.kind ≠ .class) (rightFlat : right.1.kind ≠ .class)
      (space : left.1.nativeNamespace = right.1.nativeNamespace) (name : SharesName left right)
  /-- A flat function stands in the namespace of a class that has a method of its name. -/
  | nested (leftClass : left.1.kind = .class) (rightFlat : right.1.kind ≠ .class)
      (space : right.1.nativeNamespace = Stub.functionNamespace left.1)
      (method : left.2.nativeName = right.1.snakeName ++ "_" ++ right.2.nativeName)

/-- A method with a name in snake case, as every method of a run is. -/
def IsSnake (exported : Exported) : Prop :=
  ∃ name, exported.2.nativeName = Naming.snakeCase name

variable {left right : Exported}

/-- Two native functions are one exactly when namespaces and names agree. -/
theorem nativePath_eq_iff (leftSnake : left.IsSnake) (rightSnake : right.IsSnake) :
    left.nativePath = right.nativePath ↔
      Stub.functionNamespace left.1 = Stub.functionNamespace right.1 ∧
        left.nativeName = right.nativeName := by
  obtain ⟨leftName, isLeft⟩ := leftSnake
  obtain ⟨rightName, isRight⟩ := rightSnake
  rw [nativePath, nativePath, nativeName, nativeName, isLeft, isRight]
  constructor
  · exact Path.qualify_inj (Stub.colon_notMem_functionName _ _)
      (Stub.colon_notMem_functionName _ _)
  · rintro ⟨space, name⟩
    rw [Stub.functionPath, Stub.functionPath, space, name]

/-- Flat functions have one name exactly when one of them takes the name of the other. -/
theorem nativeName_eq_iff (leftFlat : left.1.kind ≠ .class) (rightFlat : right.1.kind ≠ .class)
    (sameClass : left.1.snakeName = right.1.snakeName → left.1 = right.1) :
    left.nativeName = right.nativeName ↔ SharesName left right ∨ SharesName right left := by
  rw [nativeName, nativeName, Stub.functionName_of_flat leftFlat,
    Stub.functionName_of_flat rightFlat, glue_eq_iff]
  constructor
  · rintro (⟨sameSnake, sameMethod⟩ | ⟨part, cls, method⟩ | ⟨part, cls, method⟩)
    · exact .inl (.method (sameClass sameSnake) sameMethod)
    · exact .inl (.glued part cls method)
    · exact .inr (.glued part cls method)
  · rintro ((⟨same, sameMethod⟩ | ⟨part, cls, method⟩) |
      (⟨same, sameMethod⟩ | ⟨part, cls, method⟩))
    · exact .inl ⟨congrArg _ same, sameMethod⟩
    · exact .inr (.inl ⟨part, cls, method⟩)
    · exact .inl ⟨congrArg _ same.symm, sameMethod.symm⟩
    · exact .inr (.inr ⟨part, cls, method⟩)

/-- Methods that share a function have one namespace and one name. -/
theorem SharesFunction.agree (shares : SharesFunction left right)
    (sameClass : left.1.snakeName = right.1.snakeName → left.1 = right.1) :
    Stub.functionNamespace left.1 = Stub.functionNamespace right.1 ∧
      left.nativeName = right.nativeName := by
  cases shares with
  | inClass isClass same sameMethod =>
      rw [nativeName, nativeName, same, sameMethod]
      exact ⟨rfl, rfl⟩
  | flat leftFlat rightFlat space name =>
      rw [Stub.functionNamespace_of_flat leftFlat, Stub.functionNamespace_of_flat rightFlat]
      exact ⟨space, (nativeName_eq_iff leftFlat rightFlat sameClass).mpr (.inl name)⟩
  | nested leftClass rightFlat space method =>
      rw [nativeName, nativeName, Stub.functionName_of_class leftClass,
        Stub.functionNamespace_of_flat rightFlat, Stub.functionName_of_flat rightFlat]
      exact ⟨space.symm, method⟩

/-- One namespace and one name come about in no other way. -/
theorem sharesFunction_of_agree
    (sameClass : left.1.snakeName = right.1.snakeName → left.1 = right.1)
    (space : Stub.functionNamespace left.1 = Stub.functionNamespace right.1)
    (name : left.nativeName = right.nativeName) :
    SharesFunction left right ∨ SharesFunction right left := by
  by_cases leftClass : left.1.kind = .class
  · by_cases rightClass : right.1.kind = .class
    · -- The namespace of a class ends in its own snake-case name.
      rw [Stub.functionNamespace_of_class leftClass,
        Stub.functionNamespace_of_class rightClass] at space
      rw [nativeName, nativeName, Stub.functionName_of_class leftClass,
        Stub.functionName_of_class rightClass] at name
      have sameSnake := (Path.qualify_inj (Naming.colon_notMem_snakeCase _)
        (Naming.colon_notMem_snakeCase _) space).2
      exact .inl (.inClass leftClass (sameClass sameSnake) name)
    · rw [Stub.functionNamespace_of_flat rightClass] at space
      rw [nativeName, nativeName, Stub.functionName_of_class leftClass,
        Stub.functionName_of_flat rightClass] at name
      exact .inl (.nested leftClass rightClass space.symm name)
  · by_cases rightClass : right.1.kind = .class
    · rw [Stub.functionNamespace_of_flat leftClass] at space
      rw [nativeName, nativeName, Stub.functionName_of_flat leftClass,
        Stub.functionName_of_class rightClass] at name
      exact .inr (.nested rightClass leftClass space name.symm)
    · rw [Stub.functionNamespace_of_flat leftClass,
        Stub.functionNamespace_of_flat rightClass] at space
      rcases (nativeName_eq_iff leftClass rightClass sameClass).mp name with shares | shares
      · exact .inl (.flat leftClass rightClass space shares)
      · exact .inr (.flat rightClass leftClass space.symm shares)

/-- Two methods have one native function exactly when one of them takes the function of the
other. -/
theorem nativePath_eq_iff_sharesFunction (leftSnake : left.IsSnake)
    (rightSnake : right.IsSnake)
    (sameClass : left.1.snakeName = right.1.snakeName → left.1 = right.1) :
    left.nativePath = right.nativePath ↔
      SharesFunction left right ∨ SharesFunction right left := by
  rw [nativePath_eq_iff leftSnake rightSnake]
  constructor
  · rintro ⟨space, name⟩
    exact sharesFunction_of_agree sameClass space name
  · rintro (shares | shares)
    · exact shares.agree sameClass
    · obtain ⟨space, name⟩ := shares.agree fun same => (sameClass same.symm).symm
      exact ⟨space.symm, name.symm⟩

end Exported

/-- Images are distinct exactly when no member takes the image of another. -/
theorem nodup_map_iff {α β : Type} {image : α → β} {takes : α → α → Prop} {entries : List α}
    (distinct : entries.Nodup)
    (same : ∀ left ∈ entries, ∀ right ∈ entries,
      image left = image right ↔ takes left right ∨ takes right left) :
    (entries.map image).Nodup ↔
      ∀ left ∈ entries, ∀ right ∈ entries, takes left right → left = right := by
  rw [List.nodup_map_iff_inj_on distinct]
  constructor
  · intro injective left isLeft right isRight shares
    exact injective left isLeft right isRight
      ((same left isLeft right isRight).mpr (.inl shares))
  · intro apart left isLeft right isRight sameImage
    rcases (same left isLeft right isRight).mp sameImage with shares | shares
    · exact apart left isLeft right isRight shares
    · exact (apart right isRight left isLeft shares).symm

namespace Generated

/-- The methods of a run whose native functions have C linkage. -/
def recordExports (generated : Generated) : List Exported :=
  generated.exports.filter fun exported => exported.1.kind == .record

/-- The methods of a run have native names in snake case, and a class is known by its own. -/
theorem exports_ok {config : Config} {declarations : Declarations} {generated : Generated}
    (success : generate config declarations = .ok generated) :
    (∀ exported ∈ generated.exports, Exported.IsSnake exported) ∧
      ∀ left ∈ generated.exports, ∀ right ∈ generated.exports,
        left.1.snakeName = right.1.snakeName → left.1 = right.1 := by
  obtain ⟨types, classes, -, same, distinctFiles, rfl⟩ := generate_ok success
  constructor
  · intro exported isExport
    obtain ⟨isClass, isMethod⟩ := mem_exports_generateFiles.mp isExport
    obtain ⟨decl, -, resolved⟩ := exists_of_forall₂ same isClass
    obtain ⟨declared, -, resolvedMethod⟩ := exists_of_forall₂ resolved.methods isMethod
    exact ⟨declared.name, resolvedMethod.nativeName⟩
  · intro left isLeft right isRight
    exact List.inj_on_of_nodup_map distinctFiles (mem_exports_generateFiles.mp isLeft).1
      (mem_exports_generateFiles.mp isRight).1

/-- In a run that succeeds native functions are distinct exactly when no method takes the
function of another, and names with C linkage when no method takes the name of another. -/
theorem native_functions_distinct_iff {config : Config} {declarations : Declarations}
    {generated : Generated} (success : generate config declarations = .ok generated) :
    ((generated.exports.map Exported.nativePath).Nodup ↔
      ∀ left ∈ generated.exports, ∀ right ∈ generated.exports,
        Exported.SharesFunction left right → left = right) ∧
    ((generated.recordExports.map Exported.nativeName).Nodup ↔
      ∀ left ∈ generated.recordExports, ∀ right ∈ generated.recordExports,
        Exported.SharesName left right → left = right) := by
  obtain ⟨snake, sameClass⟩ := exports_ok success
  have distinct := List.Nodup.of_map _ (distinct_exportNames success)
  constructor
  · refine nodup_map_iff distinct fun left isLeft right isRight => ?_
    exact Exported.nativePath_eq_iff_sharesFunction (snake left isLeft) (snake right isRight)
      (sameClass left isLeft right isRight)
  · have record : ∀ exported ∈ generated.recordExports,
        exported ∈ generated.exports ∧ exported.1.kind ≠ .class := by
      intro exported isRecord
      obtain ⟨isExport, kind⟩ := List.mem_filter.mp isRecord
      refine ⟨isExport, ?_⟩
      rw [beq_iff_eq.mp kind]
      exact ExportKind.noConfusion
    refine nodup_map_iff (distinct.filter _) fun left isLeft right isRight => ?_
    obtain ⟨leftExport, leftFlat⟩ := record left isLeft
    obtain ⟨rightExport, rightFlat⟩ := record right isRight
    exact Exported.nativeName_eq_iff leftFlat rightFlat
      (sameClass left leftExport right rightExport)

/-- The run with the shared name has distinct functions, so none of its methods takes the
function of another. -/
theorem native_functions_distinct_iff_sharedName :
    ∃ generated, generate countingConfig sharedNameDeclarations = .ok generated ∧
      generated.exports.map Exported.nativePath = ["interop::math_module::add",
        "interop::math_module::scale", "interop::entity_module_add"] ∧
      ∀ left ∈ generated.exports, ∀ right ∈ generated.exports,
        Exported.SharesFunction left right → left = right := by
  have computed : ∃ generated, generate countingConfig sharedNameDeclarations = .ok generated ∧
      generated.exports.map Exported.nativePath = ["interop::math_module::add",
        "interop::math_module::scale", "interop::entity_module_add"] :=
    generate_of_computed (by decide +kernel)
  obtain ⟨generated, success, paths⟩ := computed
  refine ⟨generated, success, paths, (native_functions_distinct_iff success).1.mp ?_⟩
  rw [paths]
  decide

/-- Two methods of a class whose names differ by case, and two records whose names are glued
to their methods in one way. -/
def sharedFunctionDeclarations : Declarations where
  blittables := []
  exports :=
    [⟨"Links", "retro", none, .class, none,
      [⟨"getURL", [⟨"index", .path "i32", none, .synthetic⟩], .path "i32", none, .synthetic⟩,
       ⟨"get_url", [⟨"index", .path "i32", none, .synthetic⟩], .path "i32", none, .synthetic⟩],
      .synthetic⟩,
     ⟨"Math", "retro", none, .record, none,
      [⟨"vec_add", [⟨"a", .path "f32", none, .synthetic⟩], .path "f32", none, .synthetic⟩],
      .synthetic⟩,
     ⟨"MathVec", "retro", none, .record, none,
      [⟨"add", [⟨"a", .path "f32", none, .synthetic⟩], .path "f32", none, .synthetic⟩],
      .synthetic⟩]

/-- The run succeeds, but its four methods share two native functions, one of them with C
linkage. -/
theorem native_functions_collide :
    ∃ generated, generate Config.standard sharedFunctionDeclarations = .ok generated ∧
      ¬ (generated.exports.map Exported.nativePath).Nodup ∧
      ¬ (generated.recordExports.map Exported.nativeName).Nodup := by
  have computed : ∃ generated, generate Config.standard sharedFunctionDeclarations
      = .ok generated ∧
      (generated.exports.map Exported.nativePath, generated.recordExports.map Exported.nativeName)
        = (["retro::links::get_url", "retro::links::get_url", "retro::math_vec_add",
            "retro::math_vec_add"], ["math_vec_add", "math_vec_add"]) :=
    generate_of_computed (by decide +kernel)
  obtain ⟨generated, success, names⟩ := computed
  obtain ⟨paths, recordNames⟩ := Prod.mk.inj names
  refine ⟨generated, success, ?_, ?_⟩
  · rw [paths]
    decide
  · rw [recordNames]
    decide

end Generated

end NativeBridge

import NativeBridge.Generation.Output
import NativeBridge.Proofs.Declarations.Names
import NativeBridge.Proofs.Generation.NativeFunctions
import NativeBridge.Proofs.Naming.Identifiers

/-!
# Names that stubs declare

Stubs declare modules, fields, constants, namespaces and functions whose names are made from
those of traits and methods. The conversions keep the characters of identifiers, but snake case
may lose the letter that a name begins with or turn it into a reserved word, and it alone takes
away the mark of raw names.
`Generated.declared_names_iff` says for every run which of these names may be declared.
-/

namespace NativeBridge

open Naming Source Text

/-- Words that no declaration may have as its name. -/
def reservedWords : List String :=
  "gen" :: Look.keywords

/-- A name, raw or not, that a managed declaration may have. -/
structure IsFreeName (text : String) : Prop where
  isName : IsName text
  free : text ∉ reservedWords

/-- A letter or an underscore of ASCII, and after it letters, digits and underscores. -/
structure IsNativeIdentifier (text : String) : Prop where
  begins : text.toList.head?.any (fun c => c.isAlpha || c == '_') = true
  goesOn : ∀ c ∈ text.toList, (c.isAlphanum || c == '_') = true

/-- Every character of the text is one of ASCII. -/
def IsAscii (text : String) : Prop :=
  ∀ c ∈ text.toList, c.val < 0x80

instance (text : String) : Decidable (IsAscii text) :=
  List.decidableBAll (fun c : Char => c.val < 0x80) text.toList

/-- Within ASCII both languages have the same identifiers. -/
theorem isNativeIdentifier_iff {text : String} (ascii : IsAscii text) :
    IsNativeIdentifier text ↔ IsIdentifier text.toList := by
  have continues : ∀ c ∈ text.toList, isIdentifierContinue c = (c.isAlphanum || c == '_') :=
    fun c isChar => if_pos (ascii c isChar)
  have first : text.toList.head?.any isIdentifierStart
      = text.toList.head?.any fun c => c.isAlpha || c == '_' := by
    cases isFirst : text.toList.head? with
    | none => rfl
    | some c => exact if_pos (ascii c (List.mem_of_mem_head? isFirst))
  rw [isIdentifier_iff, first]
  constructor
  · rintro ⟨begins, goesOn⟩
    exact ⟨begins, fun c isChar => (continues c isChar).trans (goesOn c isChar)⟩
  · rintro ⟨begins, goesOn⟩
    exact ⟨begins, fun c isChar => (continues c isChar).symm.trans (goesOn c isChar)⟩

theorem IsAscii.append {first second : String} (before : IsAscii first) (after : IsAscii second) :
    IsAscii (first ++ second) := by
  rw [IsAscii, String.toList_append]
  exact List.forall_mem_append.mpr ⟨before, after⟩

/-- The snake case of an ASCII name is one. -/
theorem IsAscii.snakeCase {name : String} (ascii : IsAscii name) : IsAscii (snakeCase name) := by
  intro image isImage
  cases mem_snakeCase isImage with
  | underscore => decide
  | kept isChar alphanumeric => exact ascii image isChar
  | @lowered c _ isChar uppercase isImage =>
      have lowered : c.toLower.val < 0x80 := of_ascii (ascii c isChar) (by decide +kernel)
      rw [lower_ascii (ascii c isChar), List.mem_singleton] at isImage
      exact isImage ▸ lowered

/-! ### Managed names -/

/-- A text without the mark of raw names is a name if it is an identifier. -/
theorem isName_iff_of_not_isRaw {text : String} (plain : ¬IsRaw text) :
    IsName text ↔ IsIdentifier text.toList :=
  ⟨fun isName => (not_isRaw_iff isName).mp plain,
    fun identifier => isName_iff.mpr (.plain identifier)⟩

/-- A name in snake case has no raw mark. -/
theorem not_isRaw_snakeCase {name : String} (isName : IsName name) :
    ¬IsRaw (snakeCase name) := by
  intro raw
  have goesOn := goesOn_snakeCase isName '#' (raw.subset (by decide))
  cases goesOn

/-- The snake case of a name is free if the first character that is kept may begin a name, and
it is no reserved word. -/
theorem isFreeName_snakeCase_iff {name : String} (isName : IsName name) :
    IsFreeName (snakeCase name) ↔ Leads name ∧ snakeCase name ∉ reservedWords := by
  rw [← isIdentifier_snakeCase_iff isName, ← isName_iff_of_not_isRaw (not_isRaw_snakeCase isName)]
  exact ⟨fun ⟨isName, free⟩ => ⟨isName, free⟩, fun ⟨isName, free⟩ => ⟨isName, free⟩⟩

namespace Stub

/-- The field for a call site has a free name unless its method has a raw one. -/
theorem isFreeName_siteField_iff {method : ExportedMethod} (isName : IsName method.name) :
    IsFreeName (siteField method) ↔ ¬IsRaw method.name := by
  have text : (siteField method).toList = "__site_".toList ++ method.name.toList :=
    String.toList_append
  have plain : ¬IsRaw (siteField method) := by
    rw [IsRaw, text]
    rintro ⟨rest, same⟩
    cases same
  rw [not_isRaw_iff isName]
  constructor
  · rintro ⟨isField, -⟩
    have identifier := (not_isRaw_iff isField).mp plain
    refine (not_isRaw_iff isName).mp fun raw => identifier.mark_notMem ?_
    rw [text]
    exact List.mem_append_right _ (raw.subset (by decide))
  · intro identifier
    have begins : IsIdentifier "__site_".toList := .cons rfl (List.all_eq_true.mp rfl)
    have isField : IsIdentifier (siteField method).toList := by
      rw [text]
      exact begins.append (isIdentifier_iff.mp identifier).2
    have others : ∀ word ∈ reservedWords, ¬"__site_".toList <+: word.toList := by decide
    refine ⟨isName_iff.mpr (.plain isField), fun reserved => others _ reserved ?_⟩
    rw [text]
    exact List.prefix_append _ _

/-- The constant for a block size has a free name unless its method has a raw one. -/
theorem isFreeName_blockConst_iff {method : ExportedMethod} (isName : IsName method.name) :
    IsFreeName (blockConst method) ↔ ¬IsRaw method.name := by
  have text : (blockConst method).toList =
      method.name.toList.flatMap upper ++ "_BLOCK_SIZE".toList := by
    rw [blockConst, upperText, String.toList_append, String.toList_ofList]
  constructor
  · rintro ⟨isConst, -⟩ ⟨word, same⟩
    have written : (blockConst method).toList
        = 'R' :: '#' :: (word.flatMap upper ++ "_BLOCK_SIZE".toList) := by
      rw [text, ← same]
      rfl
    have plain : ¬IsRaw (blockConst method) := by
      rw [IsRaw, written]
      rintro ⟨rest, same⟩
      cases same
    refine ((not_isRaw_iff isConst).mp plain).mark_notMem ?_
    rw [written]
    exact List.mem_cons_of_mem _ List.mem_cons_self
  · intro plain
    have begins := ((not_isRaw_iff isName).mp plain).flatMap_upper
    have isConst : IsIdentifier (blockConst method).toList := by
      rw [text]
      exact begins.append (List.all_eq_true.mp rfl)
    have others : ∀ word ∈ reservedWords, ¬"_BLOCK_SIZE".toList <:+ word.toList := by decide
    refine ⟨isName_iff.mpr (.plain isConst), fun reserved => others _ reserved ?_⟩
    rw [text]
    exact List.suffix_append _ _

/-! ### Native names -/

/-- The native name of a function of a class is an identifier if the name of its method leads. -/
theorem isIdentifier_functionName_of_class_iff {cls : ExportedClass} {name : String}
    (isClass : cls.kind = .class) (isName : IsName name) :
    IsIdentifier (functionName cls (snakeCase name)).toList ↔ Leads name := by
  rw [functionName_of_class isClass, isIdentifier_snakeCase_iff isName]

/-- The native name of a flat function is an identifier unless the class begins with what may not
begin one; the underscore between class and method may. -/
theorem isIdentifier_functionName_of_flat_iff {cls : ExportedClass} {name : String}
    (flat : cls.kind ≠ .class) (isClassName : IsName cls.name) (isName : IsName name) :
    IsIdentifier (functionName cls (snakeCase name)).toList ↔
      (cls.name.toList.find? isKept).all isIdentifierStart = true := by
  have text : (functionName cls (snakeCase name)).toList
      = (snakeCase cls.name).toList ++ '_' :: (snakeCase name).toList := by
    rw [functionName_of_flat flat, String.toList_append, String.toList_append, List.append_assoc]
    rfl
  have goesOn : ∀ c ∈ (functionName cls (snakeCase name)).toList,
      isIdentifierContinue c = true := by
    rw [text]
    exact List.forall_mem_append.mpr ⟨goesOn_snakeCase isClassName,
      List.forall_mem_cons.mpr ⟨by decide, goesOn_snakeCase isName⟩⟩
  rw [isIdentifier_iff, and_iff_left goesOn, text, List.head?_append, head?_snakeCase]
  cases found : cls.name.toList.find? isKept with
  | none => exact iff_of_true rfl rfl
  | some c =>
      obtain ⟨first, isFirst⟩ := exists_head?_keptAs c
      have begins := begins_keptAs_iff isClassName (List.mem_of_find?_eq_some found)
        (List.find?_some found)
      rw [isFirst] at begins
      rw [Option.bind_some, isFirst]
      exact begins

end Stub

namespace Generated

/-- The classes of a run over source files have the names of traits of these files, and their
methods those of methods. -/
theorem named_of_generateSources {config : Config} {files : List SourceFile}
    {generated : Generated} (success : generateSources config files = .ok generated) :
    ∀ entry ∈ generated.classes, IsName entry.cls.name ∧
      ∀ method ∈ entry.cls.methods,
        IsName method.name ∧ method.nativeName = snakeCase method.name := by
  obtain ⟨declarations, isRead, success⟩ := Outcome.bind_eq_ok_iff.mp success
  obtain ⟨types, classes, -, resolved, -, rfl⟩ := generate_ok success
  refine List.forall_mem_map.mpr fun cls isClass => ?_
  obtain ⟨decl, isDecl, resolves⟩ := exists_of_forall₂ resolved isClass
  have named := named_of_readDeclarations isRead decl isDecl
  refine ⟨resolves.name ▸ named.name, fun method isMethod => ?_⟩
  obtain ⟨source, isSource, same⟩ := exists_of_forall₂ resolves.methods isMethod
  rw [same.name]
  exact ⟨named.methods source isSource, same.nativeName⟩

open Stub

/-- For every run over source files that succeeds, this is when its stubs declare names that they
may. The module of a class has a free name exactly if the first character of the trait's name
that snake case keeps may begin a name, and the result is no reserved word; that first character
alone decides whether the namespace of the class has an identifier. The field and the constant of a
method have free names exactly if the method's own is not raw. A function in the namespace of
its class has an identifier exactly if the method's name leads, and a flat one exactly if the
first kept character of the trait's name, if there is one, may begin a name. -/
theorem declared_names_iff {config : Config} {files : List SourceFile} {generated : Generated}
    (success : generateSources config files = .ok generated) :
    ∀ entry ∈ generated.classes,
      (IsFreeName entry.cls.snakeName ↔
        Leads entry.cls.name ∧ entry.cls.snakeName ∉ reservedWords) ∧
      (IsAscii entry.cls.name →
        (IsNativeIdentifier entry.cls.snakeName ↔ Leads entry.cls.name)) ∧
      ∀ method ∈ entry.cls.methods,
        (IsFreeName (siteField method) ↔ ¬IsRaw method.name) ∧
        (IsFreeName (blockConst method) ↔ ¬IsRaw method.name) ∧
        (entry.cls.kind = .class → IsAscii method.name →
          (IsNativeIdentifier (functionName entry.cls method.nativeName) ↔ Leads method.name)) ∧
        (entry.cls.kind ≠ .class → IsAscii entry.cls.name → IsAscii method.name →
          (IsNativeIdentifier (functionName entry.cls method.nativeName) ↔
            (entry.cls.name.toList.find? isKept).all isIdentifierStart = true)) := by
  intro entry isEntry
  obtain ⟨isName, methods⟩ := named_of_generateSources success entry isEntry
  refine ⟨isFreeName_snakeCase_iff isName, fun ascii => ?_, fun method isMethod => ?_⟩
  · exact (isNativeIdentifier_iff ascii.snakeCase).trans (isIdentifier_snakeCase_iff isName)
  · obtain ⟨isMethodName, native⟩ := methods method isMethod
    rw [native]
    refine ⟨isFreeName_siteField_iff isMethodName, isFreeName_blockConst_iff isMethodName, ?_, ?_⟩
    · intro isClass ascii
      rw [← isIdentifier_functionName_of_class_iff isClass isMethodName]
      refine isNativeIdentifier_iff ?_
      rw [functionName_of_class isClass]
      exact ascii.snakeCase
    · intro flat classAscii ascii
      rw [← isIdentifier_functionName_of_flat_iff flat isName isMethodName]
      refine isNativeIdentifier_iff ?_
      rw [functionName_of_flat flat]
      exact (classAscii.snakeCase.append (by decide)).append ascii.snakeCase

/-- A file with an acronym in each name. -/
def serverSource : SourceFile :=
  ⟨"net.rs", "net", "#[bind_export] trait HTTPServer \x7b fn getURL(&self, at: u8) -> u32; \x7d"⟩

/-- All names that are declared for the server may be. -/
theorem declared_names_iff_server :
    ∃ generated, generateSources .standard [serverSource] = .ok generated ∧
      generated.classes.map (fun entry =>
          (entry.cls.name, entry.cls.kind, entry.cls.methods.map ExportedMethod.name))
        = [("HTTPServer", .class, ["getURL"])] ∧
      ∀ entry ∈ generated.classes,
        IsFreeName entry.cls.snakeName ∧ IsNativeIdentifier entry.cls.snakeName ∧
        ∀ method ∈ entry.cls.methods,
          IsFreeName (siteField method) ∧ IsFreeName (blockConst method) ∧
            IsNativeIdentifier (functionName entry.cls method.nativeName) := by
  have computed : (generateSources .standard [serverSource]).toOption.map (fun generated =>
      generated.classes.map fun entry =>
        (entry.cls.name, entry.cls.kind, entry.cls.methods.map ExportedMethod.name))
      = some [("HTTPServer", .class, ["getURL"])] := by
    decide +kernel
  obtain ⟨generated, success, given⟩ := exists_ok_of_computed computed
  refine ⟨generated, success, given, fun entry isEntry => ?_⟩
  obtain ⟨managed, native, methods⟩ := declared_names_iff success entry isEntry
  have known : (entry.cls.name, entry.cls.kind, entry.cls.methods.map ExportedMethod.name)
      ∈ [("HTTPServer", ExportKind.class, ["getURL"])] :=
    given ▸ List.mem_map_of_mem isEntry
  obtain ⟨name, rest⟩ := Prod.mk.inj (List.mem_singleton.mp known)
  obtain ⟨kind, names⟩ := Prod.mk.inj rest
  have leads : Leads entry.cls.name := name ▸ by decide +kernel
  refine ⟨managed.mpr ⟨leads, ?_⟩, (native ?_).mpr leads, fun method isMethod => ?_⟩
  · rw [ExportedClass.snakeName, name]
    decide +kernel
  · rw [name]
    decide +kernel
  · obtain ⟨field, const, function, -⟩ := methods method isMethod
    have isName : method.name ∈ ["getURL"] := names ▸ List.mem_map_of_mem isMethod
    have methodName := List.mem_singleton.mp isName
    rw [methodName] at field const function
    exact ⟨field.mpr (by decide +kernel), const.mpr (by decide +kernel),
      (function kind (by decide +kernel)).mpr (by decide +kernel)⟩

/-- A file with a trait that is named like a keyword, a raw method name and a trait whose name
has no letter. -/
def matchSource : SourceFile :=
  ⟨"match.rs", "", "#[bind_export] trait Match \x7b fn r#type(&self); \x7d " ++
    "#[bind_export] trait _1 \x7b fn f(&self); \x7d"⟩

/-- The file is accepted, and its stubs declare names that they may not. -/
theorem declared_names_not_free :
    ∃ generated, generateSources .standard [matchSource] = .ok generated ∧
      generated.classes.map (fun entry => (entry.cls.snakeName,
          entry.cls.methods.map fun method => (siteField method, blockConst method)))
        = [("match", [("__site_r#type", "R#TYPE_BLOCK_SIZE")]),
          ("1", [("__site_f", "F_BLOCK_SIZE")])] ∧
      "pub mod match \x7b" ∈ Stub.managedIndex (generated.classes.map GeneratedClass.cls) ∧
      ¬IsFreeName "match" ∧ ¬IsFreeName "__site_r#type" ∧ ¬IsFreeName "R#TYPE_BLOCK_SIZE" ∧
      ¬IsFreeName "1" ∧ ¬IsNativeIdentifier "1" := by
  have computed : (generateSources .standard [matchSource]).toOption.map (fun generated =>
      (generated.classes.map (fun entry => (entry.cls.snakeName,
          entry.cls.methods.map fun method => (siteField method, blockConst method))),
        (Stub.managedIndex (generated.classes.map GeneratedClass.cls)).contains
          "pub mod match \x7b"))
      = some ([("match", [("__site_r#type", "R#TYPE_BLOCK_SIZE")]),
          ("1", [("__site_f", "F_BLOCK_SIZE")])], true) := by
    decide +kernel
  obtain ⟨generated, success, computed⟩ := exists_ok_of_computed computed
  obtain ⟨declared, line⟩ := Prod.ext_iff.mp computed
  refine ⟨generated, success, declared, by simpa using line, ?_, ?_, ?_, ?_, ?_⟩
  · exact fun free => free.free (by decide)
  · exact fun free => absurd free.isName (by decide +kernel)
  · exact fun free => absurd free.isName (by decide +kernel)
  · exact fun free => absurd free.isName (by decide +kernel)
  · exact fun native => absurd native.begins (by decide +kernel)

end Generated

end NativeBridge

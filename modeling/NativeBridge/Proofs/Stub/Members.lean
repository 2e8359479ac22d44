import NativeBridge.Proofs.Stub.Exports

/-!
# The members that a managed stub defines

The managed stub of a class is a structure with a field for the registry and one for every call
site, and with a constant for the name of its module and one for every parameter block.
`DefinesMembers` says which lines these are. The fields always have names of their own
(`nodup_fieldNames`). The constants have them exactly if no two methods of the class are the
same in upper case (`nodup_constantNames_iff`): methods are told apart by their exported names,
which keep the case of all letters but the first of each part.
-/

namespace NativeBridge.Stub

/-- A member of a generated structure: its name and what it is defined as. -/
structure StubMember where
  name : String
  definition : String

namespace StubMember

/-- The line that defines the member as a field. -/
def fieldLine (member : StubMember) : String :=
  "    " ++ member.name ++ ": " ++ member.definition ++ ","

/-- The beginning of every line that defines a constant. -/
def constantLead : String :=
  "    pub const "

/-- The line that defines the member as a constant. -/
def constantLine (member : StubMember) : String :=
  constantLead ++ member.name ++ ": " ++ member.definition ++ ";"

end StubMember

/-- The lines of a managed stub define a structure of this name with these fields, and in its
own implementation these constants, in this order and no others. -/
structure DefinesMembers (managed : List String) (name : String)
    (fields constants : List StubMember) : Prop where
  fields : ["pub struct " ++ name ++ " \x7b"] ++ fields.map StubMember.fieldLine ++ ["\x7d"]
    <:+: managed
  constants : ∃ inherent,
    ["impl " ++ name ++ " \x7b"] ++ inherent ++ ["\x7d"] <:+: managed ∧
      inherent.filter (begins StubMember.constantLead)
        = constants.map StubMember.constantLine

/-- The fields of the structure: the registry, then the call sites. -/
def fieldMembers (context : ManagedContext) (cls : ExportedClass) : List StubMember :=
  ⟨"__registry", "::std::sync::Arc<" ++ context.config.runtimePath ++ "::BindingRegistry>"⟩
  :: cls.methods.map fun method =>
    ⟨siteField method, context.config.runtimePath ++ "::CallSite"⟩

/-- The constants of the structure: the name of the module, then the block sizes. -/
def constantMembers (context : ManagedContext) (cls : ExportedClass) : List StubMember :=
  ⟨"MODULE", "&'static str = \"" ++ cls.moduleName ++ "\""⟩
  :: cls.methods.map fun method =>
    ⟨blockConst method, "usize = " ++ sumText managedSizeText (context.slots cls method)⟩

namespace StubMember

/-- The line of the registry. -/
theorem fieldLine_registry (runtime : String) :
    fieldLine ⟨"__registry", "::std::sync::Arc<" ++ runtime ++ "::BindingRegistry>"⟩
      = "    __registry: ::std::sync::Arc<" ++ runtime ++ "::BindingRegistry>," := by
  have lead : "    " ++ "__registry" ++ ": " ++ "::std::sync::Arc<"
    = "    __registry: ::std::sync::Arc<" := rfl
  have closing : "::BindingRegistry>" ++ "," = "::BindingRegistry>," := rfl
  rw [fieldLine, ← closing]
  simp only [← String.append_assoc, lead]

/-- The line of a call site. -/
theorem fieldLine_site (name runtime : String) :
    fieldLine ⟨name, runtime ++ "::CallSite"⟩
      = "    " ++ name ++ ": " ++ runtime ++ "::CallSite," := by
  have closing : "::CallSite" ++ "," = "::CallSite," := rfl
  rw [fieldLine, ← closing]
  simp only [← String.append_assoc]

/-- The line of the name of the module. -/
theorem constantLine_module (moduleName : String) :
    constantLine ⟨"MODULE", "&'static str = \"" ++ moduleName ++ "\""⟩
      = "    pub const MODULE: &'static str = \"" ++ moduleName ++ "\";" := by
  have lead : constantLead ++ "MODULE" ++ ": " ++ "&'static str = \""
    = "    pub const MODULE: &'static str = \"" := rfl
  have closing : "\"" ++ ";" = "\";" := rfl
  rw [constantLine, ← closing]
  simp only [← String.append_assoc, lead]

/-- The line of a block size. -/
theorem constantLine_size (name sum : String) :
    constantLine ⟨name, "usize = " ++ sum⟩
      = "    pub const " ++ name ++ ": usize = " ++ sum ++ ";" := by
  have lead : ": " ++ "usize = " = ": usize = " := rfl
  rw [constantLine, ← lead, constantLead]
  simp only [← String.append_assoc]

/-- The line of a constant begins as such. -/
theorem begins_constantLine (member : StubMember) :
    begins constantLead member.constantLine = true := by
  unfold constantLine
  simp only [String.append_assoc]
  exact begins_append _ _

end StubMember

/-- The structure has its fields between its braces, below a comment. -/
theorem structLines_eq (context : ManagedContext) (cls : ExportedClass) :
    structLines context cls
      = ["/// Managed call stubs for the native `" ++ cls.moduleName ++ "` exports."]
        ++ (["pub struct " ++ bindsName cls ++ " \x7b"]
          ++ (fieldMembers context cls).map StubMember.fieldLine ++ ["\x7d"]) := by
  simp [structLines, fieldMembers, StubMember.fieldLine_registry, StubMember.fieldLine_site,
    Function.comp_def]

/-- Of the lines about a method one defines its block size. -/
theorem filter_sizeLines (context : ManagedContext) (cls : ExportedClass)
    (method : ExportedMethod) :
    ["", "    /// Parameter block of `" ++ method.exportName ++ "`.",
      "    pub const " ++ blockConst method ++ ": usize = "
        ++ sumText managedSizeText (context.slots cls method) ++ ";"].filter
      (begins StubMember.constantLead)
    = [StubMember.constantLine ⟨blockConst method,
        "usize = " ++ sumText managedSizeText (context.slots cls method)⟩] := by
  have blank : begins StubMember.constantLead "" = false := rfl
  have comment : begins StubMember.constantLead
      ("    /// Parameter block of `" ++ method.exportName ++ "`.") = false := by
    rw [String.append_assoc]
    exact begins_append_eq_false rfl _
  rw [← StubMember.constantLine_size]
  simp [blank, comment, StubMember.begins_constantLine]

/-- The constants are the lines of their block that begin as such. -/
theorem filter_constLines (context : ManagedContext) (cls : ExportedClass) :
    (constLines context cls).filter (begins StubMember.constantLead)
      = (constantMembers context cls).map StubMember.constantLine := by
  have comment : begins StubMember.constantLead "    /// Registry module name." = false := by
    rfl
  rw [constLines, ← StubMember.constantLine_module, List.filter_append, List.filter_flatMap,
    constantMembers, List.map_cons, List.map_map, List.map_eq_flatMap]
  simp only [filter_sizeLines]
  simp [comment, StubMember.begins_constantLine]

/-- The constructor defines no constants. -/
theorem filter_newLines (context : ManagedContext) (cls : ExportedClass) :
    (newLines context cls).filter (begins StubMember.constantLead) = [] := by
  refine filter_begins_eq_nil fun line isLine => ?_
  simp only [newLines, List.mem_append, List.mem_cons, List.not_mem_nil, or_false,
    List.mem_map] at isLine
  rcases isLine with ((rfl | rfl | rfl) | ⟨method, -, rfl⟩) | rfl | rfl
  · simp only [String.append_assoc]
    exact begins_append_eq_false rfl _
  · rfl
  · rfl
  · simp only [String.append_assoc]
    exact begins_append_eq_false rfl _
  · rfl
  · rfl

/-- The function that resolves everything defines no constants. -/
theorem filter_resolveAllLines (context : ManagedContext) (cls : ExportedClass) :
    (resolveAllLines context cls).filter (begins StubMember.constantLead) = [] := by
  refine filter_begins_eq_nil fun line isLine => ?_
  simp only [resolveAllLines, List.mem_append, List.mem_cons, List.not_mem_nil, or_false,
    List.mem_map] at isLine
  rcases isLine with ((rfl | rfl) | ⟨method, -, rfl⟩) | rfl | rfl
  · rfl
  · simp only [String.append_assoc]
    exact begins_append_eq_false rfl _
  · simp only [String.append_assoc]
    exact begins_append_eq_false rfl _
  · rfl
  · rfl

/-- The function that lists the call sites defines no constants. -/
theorem filter_callSitesLines (context : ManagedContext) (cls : ExportedClass) :
    (callSitesLines context cls).filter (begins StubMember.constantLead) = [] := by
  refine filter_begins_eq_nil fun line isLine => ?_
  simp only [callSitesLines, List.mem_cons, List.not_mem_nil, or_false] at isLine
  rcases isLine with rfl | rfl | rfl | rfl
  · rfl
  · simp only [String.append_assoc]
    exact begins_append_eq_false rfl _
  · simp only [String.append_assoc]
    exact begins_append_eq_false rfl _
  · rfl

/-- The constants of the inherent implementation are those of its first block. -/
theorem filter_inherent (context : ManagedContext) (cls : ExportedClass) :
    (spaced [constLines context cls, newLines context cls, resolveAllLines context cls,
      callSitesLines context cls]).filter (begins StubMember.constantLead)
      = (constantMembers context cls).map StubMember.constantLine := by
  rw [filter_spaced rfl]
  simp [filter_constLines, filter_newLines, filter_resolveAllLines, filter_callSitesLines]

/-- The managed stub of a class defines its fields and its constants. -/
theorem definesMembers_managedStub (context : ManagedContext) (cls : ExportedClass) :
    DefinesMembers (managedStub context cls) (bindsName cls) (fieldMembers context cls)
      (constantMembers context cls) where
  fields := by
    have struct : ["pub struct " ++ bindsName cls ++ " \x7b"]
        ++ (fieldMembers context cls).map StubMember.fieldLine ++ ["\x7d"]
        <:+ structLines context cls := by
      rw [structLines_eq]
      exact List.suffix_append _ _
    have first : [bannerOf cls.qualifiedName, ""] ++ structLines context cls
        <+: managedStub context cls :=
      ((List.prefix_append _ _).trans (List.prefix_append _ _)).trans
        (inherent_prefix_managedStub context cls)
    exact (struct.trans (List.suffix_append _ _)).isInfix.trans first.isInfix
  constants := by
    refine ⟨_, ?_, filter_inherent context cls⟩
    refine ⟨[bannerOf cls.qualifiedName, ""] ++ structLines context cls ++ [""],
      ["", "impl " ++ context.itemPath cls.managedNamespace cls.name ++ " for " ++ bindsName cls
          ++ " \x7b"]
        ++ spaced (cls.methods.map (methodLines context cls)) ++ ["\x7d"]
        ++ blittableLines context cls ++ layoutLines context cls, ?_⟩
    simp only [managedStub, List.append_assoc, List.cons_append, List.nil_append]

section Names

variable {types : TypeMap} {countsReturn : Bool}

/-- Resolved methods keep their names. -/
theorem map_name_of_forall₂ {decls : List MethodDecl} {methods : List ExportedMethod}
    (resolved : List.Forall₂ (MethodResolves types countsReturn) decls methods) :
    methods.map ExportedMethod.name = decls.map MethodDecl.name := by
  induction resolved with
  | nil => rfl
  | cons first later ih => rw [List.map_cons, List.map_cons, first.name, ih]

variable {decl : ExportDecl} {cls : ExportedClass}

/-- The fields are named for the registry and for the declared methods. -/
theorem map_name_fieldMembers (context : ManagedContext)
    (resolved : ExportResolves types countsReturn decl cls) :
    (fieldMembers context cls).map StubMember.name
      = "__registry" :: decl.methods.map fun method => "__site_" ++ method.name := by
  have sites : cls.methods.map siteField
      = decl.methods.map fun method => "__site_" ++ method.name := by
    have renamed := congrArg (List.map ("__site_" ++ ·)) (map_name_of_forall₂ resolved.methods)
    rwa [List.map_map, List.map_map] at renamed
  rw [← sites, fieldMembers, List.map_cons, List.map_map]
  rfl

/-- The constants are named for the module and for the declared methods in upper case. -/
theorem map_name_constantMembers (context : ManagedContext)
    (resolved : ExportResolves types countsReturn decl cls) :
    (constantMembers context cls).map StubMember.name
      = "MODULE" :: decl.methods.map fun method => Text.upperText method.name ++ "_BLOCK_SIZE" := by
  have sizes : cls.methods.map blockConst
      = decl.methods.map fun method => Text.upperText method.name ++ "_BLOCK_SIZE" := by
    have renamed := congrArg (List.map (Text.upperText · ++ "_BLOCK_SIZE"))
      (map_name_of_forall₂ resolved.methods)
    rwa [List.map_map, List.map_map] at renamed
  rw [← sizes, constantMembers, List.map_cons, List.map_map]
  rfl

/-- No two fields have one name. -/
theorem nodup_fieldNames (context : ManagedContext)
    (resolved : ExportResolves types countsReturn decl cls) :
    ((fieldMembers context cls).map StubMember.name).Nodup := by
  have sites := nodup_siteField resolved.methods resolved.distinctMethods
  rw [fieldMembers, List.map_cons, List.map_map]
  refine List.nodup_cons.mpr ⟨fun isSite => ?_, sites⟩
  obtain ⟨method, -, same⟩ := List.mem_map.mp isSite
  have same : "__site_" ++ method.name = "__registry" := same
  -- The registry and the sites part at their third letter.
  have apart : begins "__site_" "__registry" = false := rfl
  rw [← same, begins_append] at apart
  cases apart

/-- No two constants have one name exactly if no two methods are the same in upper case. -/
theorem nodup_constantNames_iff (methods : List MethodDecl) :
    ("MODULE" :: methods.map fun method => Text.upperText method.name ++ "_BLOCK_SIZE").Nodup ↔
      (methods.map fun method => Text.upperText method.name).Nodup := by
  have module : "MODULE" ∉
      methods.map fun method => Text.upperText method.name ++ "_BLOCK_SIZE" := by
    intro isSize
    obtain ⟨method, -, same⟩ := List.mem_map.mp isSize
    have longer := congrArg String.length same
    rw [String.length_append] at longer
    have module : "MODULE".length = 6 := rfl
    have closing : "_BLOCK_SIZE".length = 11 := rfl
    omega
  have closed : (methods.map fun method => Text.upperText method.name ++ "_BLOCK_SIZE")
      = (methods.map fun method => Text.upperText method.name).map (· ++ "_BLOCK_SIZE") := by
    rw [List.map_map]
    rfl
  rw [List.nodup_cons, and_iff_right module, closed]
  exact List.nodup_map_iff fun left right same => (String.append_left_inj _).mp same

end Names

end NativeBridge.Stub

namespace NativeBridge.Resolver

open NativeBridge.Stub

/-- The stub of an accepted export defines the fields for its methods under names of their own,
and the constants exactly if no two of its methods are the same in upper case. -/
theorem stub_members_distinct_iff {resolver : Resolver} {decl : ExportDecl} {cls : ExportedClass}
    (config : Config) (ok : (resolver.resolve decl).1 = .ok cls) :
    ∃ lines fields constants,
      (generateClass config resolver.types cls).managed.contents = render lines ∧
      DefinesMembers lines (bindsName cls) fields constants ∧
      fields.map StubMember.name
        = "__registry" :: decl.methods.map (fun method => "__site_" ++ method.name) ∧
      constants.map StubMember.name
        = "MODULE" ::
          decl.methods.map (fun method => Text.upperText method.name ++ "_BLOCK_SIZE") ∧
      (fields.map StubMember.name).Nodup ∧
      ((constants.map StubMember.name).Nodup ↔
        (decl.methods.map fun method => Text.upperText method.name).Nodup) := by
  have resolved := resolveExport_ok (resolve_ok ok)
  have constants := map_name_constantMembers ⟨resolver.types, config⟩ resolved
  refine ⟨_, _, _, rfl, definesMembers_managedStub ⟨resolver.types, config⟩ cls,
    map_name_fieldMembers _ resolved, constants, nodup_fieldNames _ resolved, ?_⟩
  rw [constants]
  exact nodup_constantNames_iff decl.methods

/-- An export whose methods are named like members of the stub, or nearly like each other. -/
def sceneExport : ExportDecl :=
  ⟨"Scene", "interop", none, .class, none,
    [⟨"registry", [], .path "i32", none, .synthetic⟩,
      ⟨"new", [⟨"a", .path "i32", none, .synthetic⟩], .unit, none, .synthetic⟩,
      ⟨"getUrl", [], .unit, none, .synthetic⟩, ⟨"get_uri", [], .unit, none, .synthetic⟩],
    .synthetic⟩

/-- The stub of a scene defines all its members under names of their own. -/
theorem stub_members_distinct_scene :
    ∃ cls lines fields constants, ((start vectorTypes false).resolve sceneExport).1 = .ok cls ∧
      DefinesMembers lines (bindsName cls) fields constants ∧
      fields.map StubMember.name
        = ["__registry", "__site_registry", "__site_new", "__site_getUrl", "__site_get_uri"] ∧
      constants.map StubMember.name = ["MODULE", "REGISTRY_BLOCK_SIZE", "NEW_BLOCK_SIZE",
        "GETURL_BLOCK_SIZE", "GET_URI_BLOCK_SIZE"] ∧
      (fields.map StubMember.name).Nodup ∧ (constants.map StubMember.name).Nodup := by
  have accepted : ((start vectorTypes false).resolve sceneExport).1 = .ok _ := rfl
  obtain ⟨lines, fields, constants, -, defines, fieldNames, constantNames, distinct, iff⟩ :=
    stub_members_distinct_iff Config.standard accepted
  have apart : (sceneExport.methods.map fun method => Text.upperText method.name).Nodup := by
    decide +kernel
  refine ⟨_, lines, fields, constants, accepted, defines, fieldNames.trans ?_,
    constantNames.trans ?_, distinct, iff.mpr apart⟩
  · decide +kernel
  · decide +kernel

/-- An export with two methods that are the same in upper case. -/
def linksExport : ExportDecl :=
  ⟨"Links", "interop", none, .class, none,
    [⟨"getUrl", [], .unit, none, .synthetic⟩, ⟨"geturl", [], .unit, none, .synthetic⟩],
    .synthetic⟩

/-- Links are accepted, and their stub defines one constant twice. -/
theorem stub_constants_collide :
    ∃ cls fields constants, ((start vectorTypes false).resolve linksExport).1 = .ok cls ∧
      DefinesMembers (managedStub ⟨vectorTypes, Config.standard⟩ cls) (bindsName cls) fields
        constants ∧
      constants.map StubMember.name = ["MODULE", "GETURL_BLOCK_SIZE", "GETURL_BLOCK_SIZE"] := by
  have accepted : ((start vectorTypes false).resolve linksExport).1 = .ok _ := rfl
  have names := map_name_constantMembers ⟨vectorTypes, Config.standard⟩
    (resolveExport_ok (resolve_ok accepted))
  refine ⟨_, _, _, accepted, definesMembers_managedStub ⟨vectorTypes, Config.standard⟩ _,
    names.trans ?_⟩
  decide +kernel

end NativeBridge.Resolver

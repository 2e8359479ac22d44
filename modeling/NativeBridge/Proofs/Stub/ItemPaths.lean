import NativeBridge.Proofs.Export.Spelling
import NativeBridge.Proofs.Path.Items
import NativeBridge.Proofs.Stub.RelativeNames

/-!
# The paths of types in managed stubs

A type that is neither built in for both sides nor registered is written in a stub by the path
of its declaration, from the root of the crate (`typeText_of_namedPath?`). The path is put below
the module of the declaration as it is, unless it begins at the root of a crate, so that it leads
to the item that it leads to in this module exactly if it is not uprooted.
-/

namespace NativeBridge

namespace ManagedType

/-- What stands before the named type of a reference or a pointer. -/
def mark : ManagedType → String
  | ref mutable _ => if mutable then "&mut " else "&"
  | ptr mutable _ => if mutable then "*mut " else "*const "
  | _ => ""

/-- A reference that becomes a raw pointer names the same type. -/
theorem namedPath?_foreign (type : ManagedType) : type.foreign.namedPath? = type.namedPath? := by
  cases type with
  | unit => rfl
  | path path => rfl
  | ref mutable target => cases target <;> rfl
  | ptr mutable target => rfl

end ManagedType

namespace Path

/-- A module whose outermost name is not empty has a path. -/
theorem intercalate_ne_empty {name : String} (notEmpty : name ≠ "") (rest : List String) :
    "::".intercalate (name :: rest) ≠ "" := by
  cases rest with
  | nil => rwa [String.intercalate_singleton]
  | cons next more => simp [String.intercalate_cons_cons]

/-- A path below a module stands behind the outermost name of the module. -/
theorem qualify_intercalate_cons {name : String} {rest : List String}
    (named : ∀ segment ∈ name :: rest, IsSegment segment) (path : String) :
    qualify ("::".intercalate (name :: rest)) path
      = name ++ "::" ++ qualify ("::".intercalate rest) path := by
  have below {space : String} (notEmpty : space ≠ "") : qualify space path = space ++ "::" ++ path :=
    if_neg (by simpa using notEmpty)
  obtain ⟨first, others⟩ := List.forall_mem_cons.mp named
  rw [below (intercalate_ne_empty first.notEmpty rest)]
  cases rest with
  | nil => rw [String.intercalate_singleton]; rfl
  | cons next more =>
      have second := (List.forall_mem_cons.mp others).1
      rw [below (intercalate_ne_empty second.notEmpty more), String.intercalate_cons_cons]
      simp only [String.append_assoc]

/-- A path below a module has the names of the module before its own segments. -/
theorem segments_qualify {module : List String} (named : ∀ name ∈ module, IsSegment name)
    (path : String) :
    segments (qualify ("::".intercalate module) path) = module ++ segments path := by
  induction module with
  | nil => rfl
  | cons name rest ih =>
      obtain ⟨first, others⟩ := List.forall_mem_cons.mp named
      rw [qualify_intercalate_cons named, segments_append first.plain, ih others]
      rfl

end Path

namespace Stub.ManagedContext

/-- A text begins with another one exactly if something stands behind it. -/
theorem isSome_afterLeading?_iff {leading text : String} :
    (afterLeading? leading.toList text.toList).isSome = true ↔ ∃ rest, text = leading ++ rest := by
  constructor
  · intro found
    obtain ⟨rest, isRest⟩ := Option.isSome_iff_exists.mp found
    refine ⟨String.ofList rest, String.toList_inj.mp ?_⟩
    rw [String.toList_append, String.toList_ofList, eq_append_of_afterLeading? isRest]
  · rintro ⟨rest, rfl⟩
    rw [String.toList_append, afterLeading?_append]
    rfl

/-- A path that means the same everywhere begins at the root of a crate and goes on. -/
theorem isAbsolute_iff {path : String} :
    isAbsolute path = true ↔ Path.BeginsAtRoot (Path.segments path) := by
  have beginnings : absoluteBeginnings = Path.roots.map (· ++ "::") := rfl
  rw [isAbsolute, beginnings, List.any_map, List.any_eq_true, Path.beginsAtRoot_segments_iff]
  exact exists_congr fun root => and_congr_right fun _ => isSome_afterLeading?_iff

/-- A type that is neither primitive nor untyped nor registered. -/
structure NeedsPath (types : TypeMap) (path : String) : Prop where
  notPrimitive : Primitive.ofManagedName? path = none
  typed : Path.lastSegment path ≠ "c_void"
  notRegistered : types.contains path = false

variable {context : ManagedContext} {cls : ExportedClass} {module : List String} {path : String}

/-- A type that needs a path is written as it is if it begins at the root of a crate, and below the
module of the class otherwise. -/
theorem namedType_of_needsPath (needs : NeedsPath context.types path) :
    context.namedType cls path
      = if isAbsolute path then path else context.itemPath cls.managedNamespace path := by
  have untyped : (ManagedType.path path).isUntyped = false :=
    ManagedType.isUntyped_path_eq_false_iff.mpr needs.typed
  have primitive : (ManagedType.path path).primitive? = none := needs.notPrimitive
  have unregistered : (ManagedType.path path).ident?.bind context.types.get? = none := by
    have none : context.types.get? path = none := by
      simpa [TypeMap.contains] using needs.notRegistered
    exact (context.types.get?_lastSegment path).trans none
  simp [namedType, untyped, primitive, unregistered]

/-- With the standard root, the segments of a type that needs a path are rerooted. -/
theorem segments_namedType (standard : context.config.cratePath = "crate")
    (inModule : cls.managedNamespace = "::".intercalate module)
    (named : ∀ name ∈ module, Path.IsSegment name) (needs : NeedsPath context.types path) :
    Path.segments (context.namedType cls path) = Path.reroot module (Path.segments path) := by
  rw [namedType_of_needsPath needs, Path.reroot]
  by_cases absolute : isAbsolute path = true
  · rw [if_pos absolute, if_pos (isAbsolute_iff.mp absolute)]
  · have root : Path.qualify "crate" (Path.qualify ("::".intercalate module) path)
        = "crate" ++ "::" ++ Path.qualify ("::".intercalate module) path := rfl
    rw [if_neg absolute, if_neg fun begins => absolute (isAbsolute_iff.mpr begins), itemPath,
      standard, inModule, root, Path.segments_append (by decide), Path.segments_qualify named]

/-- A type is written with the mark of its indirection before the type that it names. -/
theorem typeText_of_namedPath? {type : ManagedType} (isNamed : type.namedPath? = some path) :
    context.typeText cls type = type.mark ++ context.namedType cls path := by
  unfold ManagedType.namedPath? at isNamed
  split at isNamed
  · cases isNamed
    exact (String.empty_append).symm
  · cases isNamed
    rfl
  · cases isNamed
    rfl
  · cases isNamed

/-- An accepted position is written as the path of its type behind the mark of its indirection,
also where a reference is passed as a pointer. A type that needs a path keeps one that begins at
the root of a crate; and wherever the stub stands, the path leads to the item that the declared
one leads to in the module of the class exactly if that is not uprooted, and then no word that
only paths begin with stands behind the first segment. -/
theorem written_paths_lead_iff {declared : DeclaredPosition} {position : Position}
    (standard : context.config.cratePath = "crate")
    (inModule : cls.managedNamespace = "::".intercalate module)
    (named : ∀ name ∈ module, Path.IsSegment name)
    (accepted : declared.ResolvesTo context.types position) :
    ∃ path, declared.type.namedPath? = some path ∧
      context.typeText cls declared.type = declared.type.mark ++ context.namedType cls path ∧
      context.foreignType cls declared.type
        = declared.type.foreign.mark ++ context.namedType cls path ∧
      (NeedsPath context.types path →
        (Path.BeginsAtRoot (Path.segments path) → context.namedType cls path = path) ∧
        ∀ item, Path.item? module path = some item →
          (∀ here, Path.item? here (context.namedType cls path) = some item ↔
            ¬ Path.IsUprooted (Path.segments path)) ∧
          (¬ Path.IsUprooted (Path.segments path) →
            ∀ word ∈ (Path.segments (context.namedType cls path)).tail, word ∉ Path.words)) := by
  obtain ⟨label, location, ok⟩ := accepted
  obtain ⟨target, _, _, _, _, _, _, reached, isPath, -⟩ := Position.resolve_eq_ok_iff.mp ok
  obtain ⟨path, -, isNamed⟩ := DeclaredPosition.namedPath?_of_reach reached isPath
  refine ⟨path, isNamed, typeText_of_namedPath? isNamed, ?_, fun needs => ⟨fun begins => ?_,
    fun item leads => ⟨fun here => ?_, fun rooted => ?_⟩⟩⟩
  · rw [foreignType_eq_typeText]
    exact typeText_of_namedPath? (declared.type.namedPath?_foreign.trans isNamed)
  · rw [namedType_of_needsPath needs, if_pos (isAbsolute_iff.mpr begins)]
  · rw [Path.item?, segments_namedType standard inModule named needs]
    exact Path.itemOf?_reroot_iff named leads
  · rw [segments_namedType standard inModule named needs]
    exact Path.notMem_words_of_reroot named leads rooted

/-- A panel in `interop::math` shows a widget of the module above and tunes a gauge of a module
below; neither is registered. -/
def panelExport : ExportDecl :=
  ⟨"Panel", "interop::math", some "retro", .class, none,
    [⟨"show", [⟨"widget", .ref false (.path "super::Widget"),
        some { NativeOverride.none with name := some "retro::Widget" }, .synthetic⟩],
        .unit, none, .synthetic⟩,
      ⟨"tune", [⟨"gauge", .ref true (.path "gauges::Gauge"),
        some { NativeOverride.none with name := some "retro::Gauge" }, .synthetic⟩],
        .unit, none, .synthetic⟩], .synthetic⟩

/-- No type is registered. -/
def noTypes : TypeMap :=
  ⟨⟨8, 8⟩, [], []⟩

/-- From everywhere the gauge is found where the panel finds it. -/
theorem written_paths_lead_iff_gauge :
    let context : ManagedContext := ⟨noTypes, Config.standard⟩
    let type := ManagedType.ref true (.path "gauges::Gauge")
    ∃ cls, resolveExport noTypes false panelExport = .ok cls ∧
      context.typeText cls type = "&mut " ++ "crate::interop::math::gauges::Gauge" ∧
      context.foreignType cls type = "*mut " ++ "crate::interop::math::gauges::Gauge" ∧
      ∀ here, Path.item? here "crate::interop::math::gauges::Gauge"
        = some (.own ["interop", "math", "gauges", "Gauge"]) := by
  intro context type
  obtain ⟨cls, accepted⟩ : ∃ cls, resolveExport noTypes false panelExport = .ok cls := ⟨_, rfl⟩
  have inModule : cls.managedNamespace = "::".intercalate ["interop", "math"] := by
    cases accepted
    rfl
  have resolves : DeclaredPosition.ResolvesTo context.types
      ⟨type, some { NativeOverride.none with name := some "retro::Gauge" }⟩ _ :=
    ⟨"parameter", .synthetic, rfl⟩
  have needs : NeedsPath context.types "gauges::Gauge" := ⟨by decide, by decide, by decide⟩
  obtain ⟨path, isNamed, text, foreign, kept⟩ :=
    written_paths_lead_iff (show context.config.cratePath = "crate" from rfl) inModule (by decide)
      resolves
  obtain rfl : "gauges::Gauge" = path := Option.some.inj isNamed
  have leads : Path.item? ["interop", "math"] "gauges::Gauge"
      = some (.own ["interop", "math", "gauges", "Gauge"]) := by decide +kernel
  have written : context.namedType cls "gauges::Gauge"
      = "crate::interop::math::gauges::Gauge" := by
    rw [namedType_of_needsPath needs, itemPath, inModule]
    decide +kernel
  rw [written] at text foreign kept
  exact ⟨cls, accepted, text, foreign, fun here =>
    (((kept needs).2 _ leads).1 here).mpr (by decide +kernel)⟩

/-- The widget is found nowhere, although the panel finds it in the module above its own. -/
theorem written_path_leads_nowhere :
    let context : ManagedContext := ⟨noTypes, Config.standard⟩
    ∃ cls, resolveExport noTypes false panelExport = .ok cls ∧
      Path.item? ["interop", "math"] "super::Widget" = some (.own ["interop", "Widget"]) ∧
      context.typeText cls (.ref false (.path "super::Widget"))
        = "&" ++ "crate::interop::math::super::Widget" ∧
      Path.item? ["bindings", "panel"] "crate::interop::math::super::Widget" = none := by
  intro context
  obtain ⟨cls, accepted⟩ : ∃ cls, resolveExport noTypes false panelExport = .ok cls := ⟨_, rfl⟩
  have inModule : cls.managedNamespace = "interop::math" := by
    cases accepted
    rfl
  have needs : NeedsPath context.types "super::Widget" := ⟨by decide, by decide, by decide⟩
  have written : context.namedType cls "super::Widget"
      = "crate::interop::math::super::Widget" := by
    rw [namedType_of_needsPath needs, itemPath, inModule]
    decide +kernel
  exact ⟨cls, accepted, by decide +kernel, congrArg ("&" ++ ·) written, by decide +kernel⟩

end Stub.ManagedContext

end NativeBridge

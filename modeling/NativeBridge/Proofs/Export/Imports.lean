import NativeBridge.Proofs.Export.Uses
import NativeBridge.Proofs.Stub.Assertions

/-!
# Which modules a class imports

A class imports the modules that its positions name and the modules of the types
that it maps, each once and in ascending order. A type that stands only at positions
with native names of their own is used, so its layout is asserted, but it is not
mapped: its module is imported only if something else asks for it.
`Resolver.imports_iff` says exactly when every module of a used type is imported.
-/

namespace NativeBridge

/-- The entries gathered so far stand before those that are gathered later. -/
theorem eraseRepsBy_loop_eq (entry : String) (rest gathered : List String) :
    List.eraseRepsBy.loop (· == ·) entry rest gathered
      = gathered.reverse ++ List.eraseRepsBy.loop (· == ·) entry rest [] := by
  induction rest generalizing entry gathered with
  | nil => simp [List.eraseRepsBy.loop]
  | cons next rest ih =>
      simp only [List.eraseRepsBy.loop]
      split
      · exact ih entry gathered
      · rw [ih next (entry :: gathered), ih next [entry]]
        simp

/-- Of two equal neighbours one goes. -/
theorem eraseReps_cons_cons (first second : String) (rest : List String) :
    (first :: second :: rest).eraseReps
      = if first = second then (second :: rest).eraseReps
        else first :: (second :: rest).eraseReps := by
  simp only [List.eraseReps, List.eraseRepsBy, List.eraseRepsBy.loop]
  by_cases same : first = second
  · simp [same]
  · have differ : (first == second) = false := by simpa using same
    simp only [differ, same, if_false]
    rw [eraseRepsBy_loop_eq]
    rfl

/-- Only repetitions go. -/
theorem mem_eraseReps {entries : List String} {entry : String} :
    entry ∈ entries.eraseReps ↔ entry ∈ entries := by
  induction entries with
  | nil => rfl
  | cons first rest ih =>
      cases rest with
      | nil => rfl
      | cons second rest =>
          rw [eraseReps_cons_cons]
          split
          · rename_i same
            rw [ih, same]
            simp
          · rw [List.mem_cons, ih, List.mem_cons (l := second :: rest)]

/-- Among entries in order all repetitions go. -/
theorem pairwise_eraseReps {entries : List String} (ordered : entries.Pairwise (· ≤ ·)) :
    entries.eraseReps.Pairwise (· < ·) := by
  induction entries with
  | nil => exact .nil
  | cons first rest ih =>
      obtain ⟨least, orderedRest⟩ := List.pairwise_cons.mp ordered
      cases rest with
      | nil => exact List.pairwise_singleton _ _
      | cons second rest =>
          rw [eraseReps_cons_cons]
          split
          · exact ih orderedRest
          · rename_i differ
            refine List.pairwise_cons.mpr ⟨fun entry isEntry => ?_, ih orderedRest⟩
            have below : first < second :=
              Std.lt_of_le_of_ne (least second List.mem_cons_self) differ
            rcases List.mem_cons.mp (mem_eraseReps.mp isEntry) with rfl | later
            · exact below
            · exact Std.lt_of_lt_of_le below ((List.pairwise_cons.mp orderedRest).1 entry later)

/-- The entries are kept. -/
theorem mem_sortedDistinct {entries : List String} {entry : String} :
    entry ∈ sortedDistinct entries ↔ entry ∈ entries := by
  rw [sortedDistinct, mem_eraseReps, List.mem_mergeSort]

/-- Entries are sorted by their order as texts. -/
theorem not_lt_eq_true_iff {left right : String} : (!(right < left)) = true ↔ left ≤ right := by
  rw [Bool.not_eq_true', decide_eq_false_iff_not, String.not_lt]

/-- The entries are in ascending order, each once. -/
theorem pairwise_sortedDistinct (entries : List String) :
    (sortedDistinct entries).Pairwise (· < ·) := by
  have ordered : (entries.mergeSort fun left right => !(right < left)).Pairwise (· ≤ ·) := by
    refine (List.pairwise_mergeSort ?_ ?_ entries).imp not_lt_eq_true_iff.mp
    · intro first second third firstLe secondLe
      rw [not_lt_eq_true_iff] at *
      exact String.le_trans firstLe secondLe
    · intro first second
      rw [Bool.or_eq_true, not_lt_eq_true_iff, not_lt_eq_true_iff]
      exact String.le_total first second
  exact pairwise_eraseReps ordered

/-- A module of one of the types that a class uses. -/
def ExportedClass.UsesModule (types : TypeMap) (cls : ExportedClass) (module : String) : Prop :=
  ∃ name ∈ cls.usedTypes, ∃ type, types.get? name = some type ∧ type.nativeModule = some module

/-- A registered type is used, but only at positions with native names of their own. -/
def ExportDecl.RenamesType (types : TypeMap) (decl : ExportDecl) (type : Blittable) : Prop :=
  decl.UsesType types type ∧ ¬ decl.MapsType types type

/-- The used types of an export are those that the declaration uses. -/
theorem ExportDraws.usesModule_iff {types : TypeMap} {decl : ExportDecl} {cls : ExportedClass}
    (draws : ExportDraws types decl cls) (module : String) :
    cls.UsesModule types module ↔
      ∃ type, decl.UsesType types type ∧ type.nativeModule = some module := by
  constructor
  · rintro ⟨name, isUsed, type, found, lives⟩
    exact ⟨type, draws.uses_of_found isUsed found, lives⟩
  · rintro ⟨type, uses, lives⟩
    exact ⟨type.managed, (draws.usedTypes _).mpr ⟨type, uses, rfl⟩, type, uses.get?_managed,
      lives⟩

/-- A mapped type is a used one. -/
theorem ExportDecl.MapsType.uses {types : TypeMap} {decl : ExportDecl} {type : Blittable}
    (maps : decl.MapsType types type) : decl.UsesType types type := by
  rcases maps with isSubject | ⟨position, isPosition, -, reaches⟩
  · exact .inl isSubject
  · exact .inr ⟨position, isPosition, reaches⟩

/-- An export imports what its positions name and the modules of the types that it maps. -/
theorem ExportDraws.mem_imports_iff {types : TypeMap} {decl : ExportDecl} {cls : ExportedClass}
    (draws : ExportDraws types decl cls) (module : String) :
    module ∈ cls.imports ↔ decl.NamesModule module ∨
      ∃ type, decl.MapsType types type ∧ type.nativeModule = some module := by
  obtain ⟨modules, imports, drawn⟩ := draws.imports
  rw [imports, mem_sortedDistinct, drawn]

/-- The imports are the named modules and those of the used types exactly when the module of
every type that stands only under other names is imported for another reason. -/
theorem ExportDraws.imports_complete_iff {types : TypeMap} {decl : ExportDecl}
    {cls : ExportedClass} (draws : ExportDraws types decl cls) :
    (∀ module, module ∈ cls.imports ↔ decl.NamesModule module ∨ cls.UsesModule types module) ↔
      ∀ type, decl.RenamesType types type → ∀ module, type.nativeModule = some module →
        module ∈ cls.imports := by
  constructor
  · intro complete type renames module lives
    exact (complete module).mpr (.inr ((draws.usesModule_iff module).mpr
      ⟨type, renames.1, lives⟩))
  · intro imported module
    rw [draws.usesModule_iff]
    constructor
    · intro isImport
      rcases (draws.mem_imports_iff module).mp isImport with names | ⟨type, maps, lives⟩
      · exact .inl names
      · exact .inr ⟨type, maps.uses, lives⟩
    · rintro (names | ⟨type, uses, lives⟩)
      · exact (draws.mem_imports_iff module).mpr (.inl names)
      · by_cases maps : decl.MapsType types type
        · exact (draws.mem_imports_iff module).mpr (.inr ⟨type, maps, lives⟩)
        · exact imported type ⟨uses, maps⟩ module lives

namespace Resolver

/-- The imports of an accepted class: in ascending order, each once, the modules that its
positions name and those of the types that it maps. They are the modules of all used types
exactly when no type that is only used under other names needs one more; every other type
whose layout the class asserts comes from an imported module or from none. -/
theorem imports_iff {resolver : Resolver} {decl : ExportDecl} {cls : ExportedClass}
    (ok : (resolver.resolve decl).1 = .ok cls) :
    cls.imports.Pairwise (· < ·) ∧
      (∀ module, module ∈ cls.imports ↔ decl.NamesModule module ∨
        ∃ type, decl.MapsType resolver.types type ∧ type.nativeModule = some module) ∧
      ((∀ module, module ∈ cls.imports ↔
          decl.NamesModule module ∨ cls.UsesModule resolver.types module) ↔
        ∀ type, decl.RenamesType resolver.types type → ∀ module,
          type.nativeModule = some module → module ∈ cls.imports) ∧
      ∀ asserted ∈ Stub.assertedTypes resolver.types cls, ∀ module,
        asserted.type.nativeModule = some module →
          module ∈ cls.imports ∨ decl.RenamesType resolver.types asserted.type := by
  have draws := exportDraws_of_resolveExport (resolve_ok ok)
  refine ⟨?_, draws.mem_imports_iff, draws.imports_complete_iff, ?_⟩
  · obtain ⟨modules, imports, -⟩ := draws.imports
    rw [imports]
    exact pairwise_sortedDistinct modules
  · intro asserted isAsserted module lives
    obtain ⟨name, isUsed, found, -⟩ := Stub.found_of_mem_assertedTypes isAsserted
    have uses := draws.uses_of_found isUsed found
    by_cases maps : decl.MapsType resolver.types asserted.type
    · exact .inl ((draws.mem_imports_iff module).mpr (.inr ⟨_, maps, lives⟩))
    · exact .inr ⟨uses, maps⟩

/-- A type that lives in a module. -/
def tintedTypes : List Blittable :=
  [⟨"Color", "interop", "retro::Color", some "retro.core",
    .record [⟨"r", .path "f32", .synthetic⟩, ⟨"g", .path "f32", .synthetic⟩], .synthetic⟩]

/-- An export that uses the type under another native name. -/
def tintedExport (module : Option String) : ExportDecl :=
  ⟨"Painter", "interop", none, .class, none,
    [⟨"fill", [⟨"tint", .path "Color", some ⟨some "retro::Tint", module, false, false⟩,
      .synthetic⟩], .unit, none, .synthetic⟩], .synthetic⟩

/-- What the export imports, with what it uses and where each registered type lives. -/
theorem resolve_tintedExport (module : Option String) (imports : List String)
    (computed : (TypeTable.ofTypes ⟨8, 4⟩ tintedTypes).build.toOption.map (fun map =>
        (map.types.map Blittable.nativeModule,
          ((start map false).resolve (tintedExport module)).1.toOption.map fun cls =>
            (cls.imports, (Stub.assertedTypes map cls).map fun entry => entry.type.nativeModule)))
      = some ([some "retro.core"], some (imports, [some "retro.core"]))) :
    ∃ (resolver : Resolver) (cls : ExportedClass),
      (TypeTable.ofTypes ⟨8, 4⟩ tintedTypes).build = .ok resolver.types ∧
      (resolver.resolve (tintedExport module)).1 = .ok cls ∧ cls.imports = imports ∧
      resolver.types.types.map Blittable.nativeModule = [some "retro.core"] ∧
      (Stub.assertedTypes resolver.types cls).map (fun entry => entry.type.nativeModule)
        = [some "retro.core"] := by
  obtain ⟨map, built, resolves⟩ := exists_ok_of_computed computed
  obtain ⟨modules, resolves⟩ := Prod.mk.inj resolves
  obtain ⟨cls, accepted, drawn⟩ := exists_ok_of_computed resolves
  obtain ⟨imported, asserted⟩ := Prod.mk.inj drawn
  exact ⟨start map false, cls, built, accepted, imported, modules, asserted⟩

/-- Where the position names the module too, the imports of the export are complete. -/
theorem imports_iff_tinted :
    ∃ (resolver : Resolver) (cls : ExportedClass),
      (resolver.resolve (tintedExport (some "retro.core"))).1 = .ok cls ∧
      cls.imports = ["retro.core"] ∧
      ∀ module, module ∈ cls.imports ↔
        (tintedExport (some "retro.core")).NamesModule module ∨
          cls.UsesModule resolver.types module := by
  obtain ⟨resolver, cls, -, accepted, imports, modules, -⟩ :=
    resolve_tintedExport (some "retro.core") ["retro.core"] (by decide +kernel)
  refine ⟨resolver, cls, accepted, imports, ?_⟩
  refine (imports_iff accepted).2.2.1.mpr fun type renames module lives => ?_
  have registered : type ∈ resolver.types.types :=
    TypeMap.mem_types_of_get? renames.1.get?_managed
  have known : some module ∈ resolver.types.types.map Blittable.nativeModule :=
    List.mem_map.mpr ⟨type, registered, lives⟩
  rw [modules] at known
  rw [imports]
  simpa using known

/-- Where it does not, the class asserts the layout of a type whose module it does not
import. -/
theorem imports_miss_module :
    ∃ (resolver : Resolver) (cls : ExportedClass),
      (TypeTable.ofTypes ⟨8, 4⟩ tintedTypes).build = .ok resolver.types ∧
      (resolver.resolve (tintedExport none)).1 = .ok cls ∧
      (∃ asserted ∈ Stub.assertedTypes resolver.types cls,
        asserted.type.nativeModule = some "retro.core" ∧ "retro.core" ∉ cls.imports) ∧
      ¬ ∀ module, module ∈ cls.imports ↔
        (tintedExport none).NamesModule module ∨ cls.UsesModule resolver.types module := by
  obtain ⟨resolver, cls, built, accepted, imports, -, modules⟩ :=
    resolve_tintedExport none [] (by decide +kernel)
  have missing : "retro.core" ∉ cls.imports := by rw [imports]; exact List.not_mem_nil
  obtain ⟨asserted, isAsserted, lives⟩ : ∃ asserted ∈ Stub.assertedTypes resolver.types cls,
      asserted.type.nativeModule = some "retro.core" :=
    List.mem_map.mp (modules ▸ List.mem_singleton_self _)
  obtain ⟨name, isUsed, found, -⟩ := Stub.found_of_mem_assertedTypes isAsserted
  refine ⟨resolver, cls, built, accepted, ⟨asserted, isAsserted, lives, missing⟩, ?_⟩
  intro complete
  exact missing ((complete "retro.core").mpr (.inr ⟨name, isUsed, asserted.type, found, lives⟩))

end Resolver

end NativeBridge

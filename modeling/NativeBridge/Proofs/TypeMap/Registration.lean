import NativeBridge.Proofs.Path
import NativeBridge.Proofs.TypeMap.Table

/-!
# What a registration keeps

The first type of a name is the one that a table keeps. A later type of that name is
accepted when both map alike, which is a matter of native names, native modules and
members only: `TypeTable.register_keeps_first` says what a look-up then answers, and
`TypeTable.register_confuses_modules` that it may answer with a type of another module.
-/

namespace NativeBridge

namespace BlittableShape

/-- Two shapes have the same members in the same order, wherever these stand. -/
inductive SameMembers : BlittableShape → BlittableShape → Prop where
  | record {fields others : List BlittableField}
      (same : List.Forall₂ (fun field other => field.name = other.name ∧ field.type = other.type)
        fields others) :
      SameMembers (.record fields) (.record others)
  | enumeration (repr : Primitive) (variants : List String) :
      SameMembers (.enumeration repr variants) (.enumeration repr variants)

/-- Signatures are equal when the fields have the same names and types in the same order. -/
theorem signature_eq_iff {fields others : List BlittableField} :
    signature fields = signature others ↔
      List.Forall₂ (fun field other => field.name = other.name ∧ field.type = other.type)
        fields others := by
  rw [← List.forall₂_eq_eq_eq, signature, signature, List.forall₂_map_left_iff,
    List.forall₂_map_right_iff]
  simp only [Prod.mk.injEq]

/-- The comparison of shapes looks at the members alone. -/
theorem sameAs_iff {shape other : BlittableShape} :
    shape.sameAs other = true ↔ shape.SameMembers other := by
  constructor
  · intro same
    cases shape with
    | record fields =>
        cases other with
        | record others => exact .record (signature_eq_iff.mp (by simpa [sameAs] using same))
        | enumeration => cases same
    | enumeration repr variants =>
        cases other with
        | record => cases same
        | enumeration otherRepr otherVariants =>
            obtain ⟨rfl, rfl⟩ : repr = otherRepr ∧ variants = otherVariants := by
              simpa [sameAs] using same
            exact .enumeration repr variants
  · intro same
    cases same with
    | record same => simpa [sameAs] using signature_eq_iff.mpr same
    | enumeration repr variants => simp [sameAs]

end BlittableShape

namespace Blittable

/-- Two types have the same native side and the same members; the module that declares
either of them does not matter. -/
structure MapsAlike (type other : Blittable) : Prop where
  nativeName : type.nativeName = other.nativeName
  nativeModule : type.nativeModule = other.nativeModule
  shape : type.shape.SameMembers other.shape

/-- The comparison of mappings looks at the native side and the members. -/
theorem sameMapping_iff {type other : Blittable} :
    type.sameMapping other = true ↔ type.MapsAlike other := by
  simp only [sameMapping, Bool.and_eq_true, beq_iff_eq, BlittableShape.sameAs_iff]
  constructor
  · rintro ⟨⟨nativeName, nativeModule⟩, shape⟩
    exact ⟨nativeName, nativeModule, shape⟩
  · rintro ⟨nativeName, nativeModule, shape⟩
    exact ⟨⟨nativeName, nativeModule⟩, shape⟩

/-- Every type maps like itself. -/
theorem MapsAlike.refl (type : Blittable) : type.MapsAlike type := by
  refine ⟨rfl, rfl, ?_⟩
  cases type.shape with
  | record fields => exact .record (List.forall₂_same.mpr fun _ _ => ⟨rfl, rfl⟩)
  | enumeration repr variants => exact .enumeration repr variants

/-- Types of one name have one path exactly in one module. -/
theorem managedPath_eq_iff {type other : Blittable} (sameName : type.managed = other.managed) :
    type.managedPath = other.managedPath ↔ type.managedNamespace = other.managedNamespace := by
  rw [managedPath, managedPath, sameName, Path.qualify_left_inj]

end Blittable

/-- The first of some types that has a name. -/
def firstNamed (types : List Blittable) (managed : String) : Option Blittable :=
  types.find? fun type => type.managed == managed

/-- The first type of a name has that name. -/
theorem managed_of_firstNamed {types : List Blittable} {managed : String} {first : Blittable}
    (isFirst : firstNamed types managed = some first) : first.managed = managed := by
  simpa using List.find?_some isFirst

namespace TypeTable

variable {table next : TypeTable} {type : Blittable}

/-- A type is accepted when its name is new or what is registered under it maps alike. -/
theorem register_ok_iff :
    table.register type = .ok next ↔
      (table.find? type.managed = none ∧
        next = { table with types := table.types ++ [type] }) ∨
      ∃ existing, table.find? type.managed = some existing ∧ existing.MapsAlike type ∧
        next = table := by
  unfold register
  cases known : table.find? type.managed with
  | none => simp [eq_comm]
  | some existing =>
      by_cases same : existing.sameMapping type = true
      · simp [same, Blittable.sameMapping_iff.mp same, eq_comm]
      · have differs : ¬ existing.MapsAlike type := fun alike =>
          same (Blittable.sameMapping_iff.mpr alike)
        simp [same, differs]

/-- A type is refused when what is registered under its name does not map alike. -/
theorem register_error_iff {fault : BindingError} :
    table.register type = .error fault ↔
      ∃ existing, table.find? type.managed = some existing ∧ ¬ existing.MapsAlike type ∧
        fault = .conflictingMapping type.managed existing.nativeName existing.location
          type.location := by
  unfold register
  cases known : table.find? type.managed with
  | none => simp
  | some existing =>
      by_cases same : existing.sameMapping type = true
      · simp [same, Blittable.sameMapping_iff.mp same]
      · have differs : ¬ existing.MapsAlike type := fun alike =>
          same (Blittable.sameMapping_iff.mpr alike)
        simp [same, differs, eq_comm]

/-- An accepted type is found under its name unless something was found there before. -/
theorem find?_register (accepted : table.register type = .ok next) (managed : String) :
    next.find? managed = (table.find? managed).or (firstNamed [type] managed) := by
  rcases register_ok_iff.mp accepted with ⟨-, rfl⟩ | ⟨existing, known, -, rfl⟩
  · exact List.find?_append
  · by_cases sameName : type.managed = managed
    · rw [← sameName, known]
      rfl
    · simp [firstNamed, sameName]

/-- Registering types keeps what is found under a name; a new name finds the first of them
that has it. -/
theorem find?_registerAll (table : TypeTable) (types : List Blittable) (managed : String) :
    (table.registerAll types).1.find? managed
      = (table.find? managed).or (firstNamed types managed) := by
  induction types generalizing table with
  | nil => simp [registerAll, firstNamed]
  | cons type rest ih =>
      have first : firstNamed (type :: rest) managed
          = (firstNamed [type] managed).or (firstNamed rest managed) := by
        rw [← List.singleton_append]
        exact List.find?_append
      rw [registerAll, first]
      cases registered : table.register type with
      | ok next => rw [ih, find?_register registered, Option.or_assoc]
      | error fault =>
          obtain ⟨existing, known, -, -⟩ := register_error_iff.mp registered
          rw [ih]
          by_cases sameName : type.managed = managed
          · rw [← sameName, known]
            rfl
          · simp [firstNamed, sameName]

/-- A table finds under every name the first type that was registered with it. -/
theorem find?_ofTypes (target : Target) (types : List Blittable) (managed : String) :
    (ofTypes target types).find? managed = firstNamed types managed :=
  (find?_registerAll (empty target) types managed).trans Option.none_or

/-- Registering some types and then others registers all of them in turn. -/
theorem registerAll_append (table : TypeTable) (types others : List Blittable) :
    (table.registerAll (types ++ others)).1
      = ((table.registerAll types).1.registerAll others).1 := by
  induction types generalizing table with
  | nil => rfl
  | cons type rest ih =>
      rw [List.cons_append, registerAll, registerAll]
      cases table.register type with
      | ok next => exact ih next
      | error fault => exact ih table

/-- A refused type leaves the table as it was. -/
theorem ofTypes_append_of_error {target : Target} {types : List Blittable}
    {fault : BindingError} (refused : (ofTypes target types).register type = .error fault) :
    ofTypes target (types ++ [type]) = ofTypes target types := by
  rw [ofTypes, registerAll_append, ← ofTypes, registerAll, refused]
  rfl

/-- What a type map finds under a name is the first type registered with it. -/
theorem get?_of_build {target : Target} {types : List Blittable} {map : TypeMap}
    {managed : String} (single : Path.lastSegment managed = managed)
    (built : (ofTypes target types).build = .ok map) :
    map.get? managed = firstNamed types managed := by
  obtain ⟨-, rfl⟩ := build_ok built
  rw [← find?_ofTypes target, TypeMap.get?, single]
  rfl

/-- The first type of a name among earlier ones, one more, and later ones. -/
theorem firstNamed_append_cons (earlier later : List Blittable) (type : Blittable) :
    firstNamed (earlier ++ type :: later) type.managed
      = some ((firstNamed earlier type.managed).getD type) := by
  have here : firstNamed (type :: later) type.managed = some type := by simp [firstNamed]
  have split : firstNamed (earlier ++ type :: later) type.managed
      = (firstNamed earlier type.managed).or (firstNamed (type :: later) type.managed) :=
    List.find?_append
  rw [split, here]
  cases firstNamed earlier type.managed <;> rfl

/-- After any types, accepted or not, a type is accepted exactly when the first type of its
name, if there is one, maps alike. A refused type is reported beside that first type and
changes nothing. For an accepted type, whatever follows, a type map that builds answers with
the native side and the members that it has; the answer also has its path exactly when
the first type of the name was declared in the same module. -/
theorem register_keeps_first (target : Target) (earlier later : List Blittable)
    {type : Blittable} (single : Path.lastSegment type.managed = type.managed) :
    ((∃ next, (ofTypes target earlier).register type = .ok next) ↔
      ∀ first, firstNamed earlier type.managed = some first → first.MapsAlike type) ∧
    (∀ fault, (ofTypes target earlier).register type = .error fault →
      ofTypes target (earlier ++ [type]) = ofTypes target earlier ∧
      ∃ first, firstNamed earlier type.managed = some first ∧
        fault = .conflictingMapping type.managed first.nativeName first.location
          type.location) ∧
    ∀ next map, (ofTypes target earlier).register type = .ok next →
      (ofTypes target (earlier ++ type :: later)).build = .ok map →
      ∃ kept, map.get? type.managed = some kept ∧ kept.MapsAlike type ∧
        (kept.managedPath = type.managedPath ↔
          ∀ first, firstNamed earlier type.managed = some first →
            first.managedNamespace = type.managedNamespace) := by
  have accepts : (∃ next, (ofTypes target earlier).register type = .ok next) ↔
      ∀ first, firstNamed earlier type.managed = some first → first.MapsAlike type := by
    simp only [register_ok_iff, find?_ofTypes]
    cases firstNamed earlier type.managed <;> simp
  refine ⟨accepts, ?_, ?_⟩
  · intro fault refused
    obtain ⟨first, known, -, isConflict⟩ := register_error_iff.mp refused
    rw [find?_ofTypes] at known
    exact ⟨ofTypes_append_of_error refused, first, known, isConflict⟩
  · intro next map accepted built
    have alike := accepts.mp ⟨next, accepted⟩
    have answer := (get?_of_build single built).trans (firstNamed_append_cons earlier later type)
    cases known : firstNamed earlier type.managed with
    | none =>
        rw [known] at answer
        exact ⟨type, answer, .refl type, by simp⟩
    | some first =>
        rw [known] at answer
        refine ⟨first, answer, alike first known, ?_⟩
        rw [Blittable.managedPath_eq_iff (managed_of_firstNamed known)]
        simp

/-- A color of a module, mapped to one native color whatever the module is. -/
def colorIn (space : String) : Blittable :=
  ⟨"Color", space, "retro::Color", some "retro.core",
    .record [⟨"r", .path "f32", .synthetic⟩, ⟨"g", .path "f32", .synthetic⟩], .synthetic⟩

/-- The color of a second module is accepted, and a look-up answers with that of the first. -/
theorem register_keeps_first_color :
    Path.lastSegment "Color" = "Color" ∧
      ∃ next map kept, (ofTypes ⟨8, 8⟩ [colorIn "paint"]).register (colorIn "light") = .ok next ∧
        (ofTypes ⟨8, 8⟩ [colorIn "paint", colorIn "light"]).build = .ok map ∧
        map.get? "Color" = some kept ∧ kept.MapsAlike (colorIn "light") ∧
        (kept.managedPath = (colorIn "light").managedPath ↔
          ∀ first, firstNamed [colorIn "paint"] "Color" = some first →
            first.managedNamespace = "light") := by
  have single : Path.lastSegment "Color" = "Color" := by decide +kernel
  have accepted : (ofTypes ⟨8, 8⟩ [colorIn "paint"]).register (colorIn "light") = .ok _ := rfl
  have built : (ofTypes ⟨8, 8⟩ [colorIn "paint", colorIn "light"]).build = .ok _ := rfl
  obtain ⟨kept, answer⟩ :=
    (register_keeps_first ⟨8, 8⟩ [colorIn "paint"] [] single).2.2 _ _ accepted built
  exact ⟨single, _, _, kept, accepted, built, answer⟩

/-- A type of one module is accepted under a name that answers with the type of another. -/
theorem register_confuses_modules :
    ∃ next map kept, (ofTypes ⟨8, 8⟩ [colorIn "paint"]).register (colorIn "light") = .ok next ∧
      next.build = .ok map ∧ map.get? "Color" = some kept ∧
      kept.managedPath = "paint::Color" ∧ (colorIn "light").managedPath = "light::Color" :=
  ⟨_, _, _, rfl, rfl, rfl, rfl, rfl⟩

end TypeTable

end NativeBridge

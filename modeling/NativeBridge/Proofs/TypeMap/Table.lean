import Mathlib.Data.List.Nodup
import NativeBridge.TypeMap.Basic

/-!
# Tables of registered types

However types are registered, a table holds each name once and only types that
were registered: `TypeTable.ofTypes_distinct` and `TypeTable.mem_ofTypes`.
-/

namespace NativeBridge.TypeTable

/-- The table that registering some types in turn leaves, whether each is refused or not. -/
def ofTypes (target : Target) (types : List Blittable) : TypeTable :=
  ((empty target).registerAll types).1

/-- No two registered types have one name. -/
def Distinct (table : TypeTable) : Prop :=
  (table.types.map Blittable.managed).Nodup

/-- What is found under a name has that name. -/
theorem find?_some {table : TypeTable} {managed : String} {type : Blittable}
    (found : table.find? managed = some type) :
    type ∈ table.types ∧ type.managed = managed :=
  ⟨List.mem_of_find?_eq_some found, by simpa using List.find?_some found⟩

/-- A name is registered exactly when some type has it. -/
theorem contains_iff {table : TypeTable} {managed : String} :
    table.contains managed = true ↔ ∃ type ∈ table.types, type.managed = managed := by
  simp [contains, find?, List.find?_isSome]

/-- Without repeated names, every registered type is found under its name. -/
theorem find?_managed {table : TypeTable} (distinct : table.Distinct) {type : Blittable}
    (registered : type ∈ table.types) : table.find? type.managed = some type := by
  obtain ⟨found, isFound⟩ := Option.isSome_iff_exists.mp
    (contains_iff.mpr ⟨type, registered, rfl⟩)
  obtain ⟨isRegistered, sameName⟩ := find?_some isFound
  rw [isFound, List.inj_on_of_nodup_map distinct isRegistered registered sameName]

/-- The empty table repeats no name. -/
theorem distinct_empty (target : Target) : (empty target).Distinct :=
  List.nodup_nil

/-- A type is registered last, unless nothing changes. -/
theorem register_ok {table next : TypeTable} {type : Blittable}
    (ok : table.register type = .ok next) :
    next = table ∨
      (table.find? type.managed = none ∧
        next = { table with types := table.types ++ [type] }) := by
  unfold register at ok
  split at ok
  · rename_i unknown
    cases ok
    exact .inr ⟨unknown, rfl⟩
  · split at ok
    · cases ok
      exact .inl rfl
    · cases ok

/-- Registering a type repeats no name. -/
theorem register_distinct {table next : TypeTable} {type : Blittable}
    (ok : table.register type = .ok next) (distinct : table.Distinct) : next.Distinct := by
  rcases register_ok ok with rfl | ⟨unknown, rfl⟩
  · exact distinct
  · have fresh : type.managed ∉ table.types.map Blittable.managed := by
      simpa [find?] using unknown
    simpa [Distinct, List.nodup_append] using ⟨distinct, fun other isOther equal =>
      fresh (equal ▸ List.mem_map_of_mem isOther)⟩

/-- Registering a type adds nothing but that type. -/
theorem mem_register {table next : TypeTable} {type other : Blittable}
    (ok : table.register type = .ok next) (registered : other ∈ next.types) :
    other ∈ table.types ∨ other = type := by
  rcases register_ok ok with rfl | ⟨-, rfl⟩
  · exact .inl registered
  · simpa using registered

/-- Registering a type keeps the target. -/
theorem register_target {table next : TypeTable} {type : Blittable}
    (ok : table.register type = .ok next) : next.target = table.target := by
  rcases register_ok ok with rfl | ⟨-, rfl⟩ <;> rfl

/-- A property that every accepted registration keeps holds after all of them. -/
theorem registerAll_induction (property : TypeTable → Prop) {types : List Blittable}
    {table : TypeTable} (start : property table)
    (step : ∀ present next type, type ∈ types → present.register type = .ok next →
      property present → property next) :
    property (table.registerAll types).1 := by
  induction types generalizing table with
  | nil => exact start
  | cons type rest ih =>
      have restStep : ∀ present next other, other ∈ rest → present.register other = .ok next →
          property present → property next :=
        fun present next other isOther => step present next other (List.mem_cons_of_mem _ isOther)
      simp only [registerAll]
      cases registered : table.register type with
      | error fault => exact ih start restStep
      | ok next =>
          exact ih (step table next type List.mem_cons_self registered start) restStep

/-- However types are registered, no name is repeated. -/
theorem ofTypes_distinct (target : Target) (types : List Blittable) :
    (ofTypes target types).Distinct :=
  registerAll_induction Distinct (distinct_empty target) fun _ _ _ _ ok distinct =>
    register_distinct ok distinct

/-- A table holds only types that were registered. -/
theorem mem_ofTypes {target : Target} {types : List Blittable} {type : Blittable}
    (registered : type ∈ (ofTypes target types).types) : type ∈ types := by
  have all : ∀ other ∈ (ofTypes target types).types, other ∈ types := by
    apply registerAll_induction fun table => ∀ other ∈ table.types, other ∈ types
    · exact fun other isOther => absurd isOther List.not_mem_nil
    · intro present next added isAdded ok before other isOther
      rcases mem_register ok isOther with earlier | rfl
      · exact before other earlier
      · exact isAdded
  exact all type registered

/-- Registering types keeps the target. -/
theorem registerAll_target (table : TypeTable) (types : List Blittable) :
    (table.registerAll types).1.target = table.target :=
  registerAll_induction (fun next => next.target = table.target) rfl
    fun _ _ _ _ ok same => (register_target ok).trans same

/-- A table that builds keeps its target and its types. -/
theorem build_ok {table : TypeTable} {map : TypeMap} (built : table.build = .ok map) :
    (LayoutPass.run table).errors = [] ∧
      map = ⟨table.target, table.types, (LayoutPass.run table).layouts⟩ := by
  simp only [build] at built
  split at built
  · rename_i noFault
    cases built
    exact ⟨List.isEmpty_iff.mp noFault, rfl⟩
  · cases built

/-- A table that does not build reports what the layout pass found. -/
theorem build_error {table : TypeTable} {errors : List BindingError}
    (failed : table.build = .error errors) :
    errors = (LayoutPass.run table).errors ∧ errors ≠ [] := by
  simp only [build] at failed
  split at failed
  · cases failed
  · rename_i faulty
    cases failed
    exact ⟨rfl, by simpa using faulty⟩

end NativeBridge.TypeTable

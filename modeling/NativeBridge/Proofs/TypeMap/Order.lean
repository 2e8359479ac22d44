import Mathlib.Data.List.Rotate
import NativeBridge.Proofs.TypeMap.Build

/-!
# The order of registrations does not matter

The layout pass walks the types of a table in their order, so in another order it enters
other types first and may report other types of a cycle. What a table looks up does not
depend on the order, and neither does anything that is defined by look-ups: the faults of
single types, containment, and the layout that a type has by what it contains. The pass is
complete with respect to these (`errors_run`, `layout?_run`), which relates the passes over
two orders without relating their walks: `build_ignores_order`.
-/

namespace NativeBridge

namespace BindingError

/-- The fault of a type without a native mapping. -/
def isUnregisteredType : BindingError → Bool
  | unregisteredType _ _ _ => true
  | _ => false

/-- The fault of a type that cannot stand where it is written. -/
def isUnsupportedType : BindingError → Bool
  | unsupportedType _ _ _ _ => true
  | _ => false

/-- The fault of a type that contains itself by value. -/
def isRecursiveLayout : BindingError → Bool
  | recursiveLayout _ _ => true
  | _ => false

end BindingError

/-- The faults of a type by itself say nothing about recursion. -/
theorem Blittable.isRecursiveLayout_of_mem_faults {table : TypeTable} {type : Blittable}
    {error : BindingError} (isFault : error ∈ type.faults table) :
    error.isRecursiveLayout = false := by
  cases shape : type.shape with
  | enumeration repr variants =>
      simp only [faults, shape] at isFault
      split at isFault
      · cases isFault
      · rw [List.mem_singleton.mp isFault]
        rfl
  | record fields =>
      simp only [faults, shape, List.mem_filterMap] at isFault
      obtain ⟨field, -, isFault⟩ := isFault
      simp only [BlittableField.fault?] at isFault
      cases kind : table.fieldKind field.type with
      | primitive | registered => simp [kind] at isFault
      | unknown | unsupported =>
          simp only [kind, Option.some.injEq] at isFault
          rw [← isFault]
          rfl

namespace TypeTable

/-- Two tables for one target hold the same types under single names, in whatever orders. -/
structure Reorders (table other : TypeTable) : Prop where
  target : table.target = other.target
  types : table.types.Perm other.types
  distinct : table.Distinct

namespace Reorders

variable {table other : TypeTable}

/-- The second table has single names as well. -/
theorem distinct_right (same : table.Reorders other) : other.Distinct :=
  (same.types.map Blittable.managed).nodup_iff.mp same.distinct

/-- Each of two such tables reorders the other. -/
theorem symm (same : table.Reorders other) : other.Reorders table :=
  ⟨same.target.symm, same.types.symm, same.distinct_right⟩

/-- A name finds the same type in any order. -/
theorem find?_eq (same : table.Reorders other) (managed : String) :
    table.find? managed = other.find? managed := by
  refine Option.ext fun type => ⟨fun found => ?_, fun found => ?_⟩
  · obtain ⟨isType, rfl⟩ := find?_some found
    exact find?_managed same.distinct_right (same.types.mem_iff.mp isType)
  · obtain ⟨isType, rfl⟩ := find?_some found
    exact find?_managed same.distinct (same.types.mem_iff.mpr isType)

/-- A type is the same to both tables. -/
theorem fieldKind_eq (same : table.Reorders other) (type : ManagedType) :
    table.fieldKind type = other.fieldKind type := by
  have sameNames : table.contains = other.contains := by
    ext managed
    rw [contains, contains, same.find?_eq]
  rw [fieldKind, fieldKind, sameNames]

/-- A type has the same faults by itself in both tables. -/
theorem faults_eq (same : table.Reorders other) (type : Blittable) :
    type.faults table = type.faults other := by
  have sameFault : ∀ field, BlittableField.fault? table type.managed field
      = BlittableField.fault? other type.managed field := fun field => by
    simp only [BlittableField.fault?, same.fieldKind_eq]
  simp only [Blittable.faults, funext sameFault]

/-- The types of both tables have the same faults by themselves. -/
theorem flatMap_faults (same : table.Reorders other) :
    (table.types.flatMap (Blittable.faults table)).Perm
      (other.types.flatMap (Blittable.faults other)) := by
  rw [funext same.faults_eq]
  exact same.types.flatMap_right _

/-- What one table contains, the other does. -/
theorem contains_iff (same : table.Reorders other) (owner part : String) :
    table.Contains owner part ↔ other.Contains owner part := by
  simp only [Contains, same.find?_eq, same.fieldKind_eq]

/-- A type contains itself in both tables or in neither. -/
theorem cycle_iff (same : table.Reorders other) (managed : String) :
    Relation.TransGen table.Contains managed managed ↔
      Relation.TransGen other.Contains managed managed := by
  have relation : table.Contains = other.Contains := by
    ext owner part
    exact same.contains_iff owner part
  rw [relation]

/-- The layout that a type has by what it contains, it has in both tables. -/
theorem laidOut (same : table.Reorders other) {managed : String} {layout : StructLayout}
    (isLaidOut : LaidOut table managed layout) : LaidOut other managed layout := by
  -- The fields of a structure have the same layouts, by the same induction.
  refine @LaidOut.rec table (fun managed layout _ => LaidOut other managed layout)
    (fun fields entries _ => FieldsLaidOut other fields entries)
    ?enumeration ?record ?nil ?primitive ?registered managed layout isLaidOut
  case enumeration =>
    intro managed type repr variants found shape integer
    rw [same.find?_eq] at found
    rw [same.target]
    exact .enumeration found shape integer
  case record =>
    intro managed type fields entries layout found shape _ isStruct each
    rw [same.find?_eq] at found
    exact .record found shape each isStruct
  case nil => exact .nil
  case primitive =>
    intro field fields entries primitive kind _ rest
    rw [same.fieldKind_eq] at kind
    rw [same.target]
    exact .primitive kind rest
  case registered =>
    intro field fields entries managed layout kind _ _ inner rest
    rw [same.fieldKind_eq] at kind
    exact .registered kind inner rest

/-- Both tables are admissible or neither is. -/
theorem admissible (same : table.Reorders other) (isAdmissible : table.Admissible) :
    other.Admissible := by
  refine ⟨?_, ?_, ?_⟩
  · intro type isType
    exact isAdmissible.integers type (same.types.mem_iff.mpr isType)
  · intro type isType fields shape field isField
    have holds := isAdmissible.fields type (same.types.mem_iff.mpr isType) fields shape field
      isField
    simpa only [HoldsByValue, same.fieldKind_eq] using holds
  · intro managed cycle
    exact isAdmissible.acyclic managed ((same.cycle_iff managed).mpr cycle)

/-- Both tables build or neither does. -/
theorem build (same : table.Reorders other) (built : ∃ map, table.build = .ok map) :
    ∃ map, other.build = .ok map := by
  rw [exists_build_ok_iff, errors_run_eq_nil_iff same.distinct] at built
  rw [exists_build_ok_iff, errors_run_eq_nil_iff same.distinct_right]
  exact same.admissible built

end Reorders

/-- Faults of one kind, unless it is recursion, are reported for the types by themselves. -/
theorem filter_errors_run {table : TypeTable} (distinct : table.Distinct)
    {kind : BindingError → Bool}
    (noRecursion : ∀ managed location, kind (.recursiveLayout managed location) = false) :
    ((LayoutPass.run table).errors.filter kind).Perm
      ((table.types.flatMap (Blittable.faults table)).filter kind) := by
  obtain ⟨recursive, -, reports⟩ := errors_run distinct
  have none : (recursive.map fun type =>
      BindingError.recursiveLayout type.managed type.location).filter kind = [] := by
    simp [List.filter_eq_nil_iff, noRecursion]
  have kept := reports.filter kind
  rwa [List.filter_append, none, List.append_nil] at kept

/-- Recursion is reported exactly if some type contains itself by value. -/
theorem any_isRecursiveLayout_run_iff {table : TypeTable} (distinct : table.Distinct) :
    (LayoutPass.run table).errors.any BindingError.isRecursiveLayout = true ↔
      ∃ managed, Relation.TransGen table.Contains managed managed := by
  obtain ⟨recursive, breaks, reports⟩ := errors_run distinct
  rw [List.any_eq_true]
  constructor
  · rintro ⟨error, isError, isRecursive⟩
    rcases List.mem_append.mp (reports.mem_iff.mp isError) with isFault | isReport
    · obtain ⟨type, -, isFault⟩ := List.mem_flatMap.mp isFault
      rw [Blittable.isRecursiveLayout_of_mem_faults isFault] at isRecursive
      cases isRecursive
    · obtain ⟨type, isReported, -⟩ := List.mem_map.mp isReport
      exact ⟨type.managed, breaks.onCycle type isReported⟩
  · rintro ⟨managed, cycle⟩
    obtain ⟨between, chain⟩ := transGen_iff_isChain.mp cycle
    obtain ⟨type, isReported, -⟩ := breaks.covers managed between chain
    have isReport : BindingError.recursiveLayout type.managed type.location ∈
        recursive.map fun type => .recursiveLayout type.managed type.location :=
      List.mem_map_of_mem isReported
    exact ⟨_, reports.mem_iff.mpr (List.mem_append_right _ isReport), rfl⟩

/-- What a type map answers is the layout that the type under the name has by what it
contains, if there is such a type. -/
theorem layoutOf?_build_eq_some_iff {table : TypeTable} {map : TypeMap}
    (built : table.build = .ok map) (path : String) (layout : StructLayout) :
    map.layoutOf? path = some layout ↔ LaidOut table (Path.lastSegment path) layout := by
  obtain ⟨noErrors, rfl⟩ := build_ok built
  have got : TypeMap.get? ⟨table.target, table.types, (LayoutPass.run table).layouts⟩ path
      = table.find? (Path.lastSegment path) := rfl
  rw [TypeMap.layoutOf?, got]
  cases found : table.find? (Path.lastSegment path) with
  | none =>
      simp only [Option.bind_none, reduceCtorEq, false_iff]
      intro isLaidOut
      cases isLaidOut with
      | enumeration otherFound => cases found.symm.trans otherFound
      | record otherFound => cases found.symm.trans otherFound
  | some type =>
      obtain ⟨isType, sameName⟩ := find?_some found
      obtain ⟨other, isLayout, isLaidOut⟩ := layout?_run noErrors isType
      rw [sameName] at isLaidOut
      rw [Option.bind_some]
      constructor
      · intro answer
        cases isLayout.symm.trans answer
        exact isLaidOut
      · intro laidOut
        cases isLaidOut.unique laidOut
        exact isLayout

/-- Two tables build type maps that answer alike, or both fail: with the same faults of types
without a mapping or in a wrong place, and with faults of recursion both or neither. -/
inductive BuildAlike : Except (List BindingError) TypeMap →
    Except (List BindingError) TypeMap → Prop where
  | ok {map other : TypeMap} (layouts : ∀ path, map.layoutOf? path = other.layoutOf? path) :
      BuildAlike (.ok map) (.ok other)
  | error {errors others : List BindingError}
      (unregistered : (errors.filter BindingError.isUnregisteredType).Perm
        (others.filter BindingError.isUnregisteredType))
      (unsupported : (errors.filter BindingError.isUnsupportedType).Perm
        (others.filter BindingError.isUnsupportedType))
      (recursive : errors.any BindingError.isRecursiveLayout
        = others.any BindingError.isRecursiveLayout) :
      BuildAlike (.error errors) (.error others)

/-- In whatever order types are registered, the tables build alike. -/
theorem build_ignores_order {table other : TypeTable} (same : table.Reorders other) :
    BuildAlike table.build other.build := by
  cases built : table.build with
  | ok map =>
      obtain ⟨otherMap, otherBuilt⟩ := same.build ⟨map, built⟩
      rw [otherBuilt]
      refine .ok fun path => Option.ext fun layout => ?_
      rw [layoutOf?_build_eq_some_iff built, layoutOf?_build_eq_some_iff otherBuilt]
      exact ⟨same.laidOut, same.symm.laidOut⟩
  | error errors =>
      cases otherBuilt : other.build with
      | ok otherMap =>
          obtain ⟨map, isMap⟩ := same.symm.build ⟨otherMap, otherBuilt⟩
          cases built.symm.trans isMap
      | error others =>
          obtain ⟨rfl, -⟩ := build_error built
          obtain ⟨rfl, -⟩ := build_error otherBuilt
          have sameFaults : ∀ kind : BindingError → Bool,
              (∀ managed location, kind (.recursiveLayout managed location) = false) →
              ((LayoutPass.run table).errors.filter kind).Perm
                ((LayoutPass.run other).errors.filter kind) := by
            intro kind noRecursion
            exact (filter_errors_run same.distinct noRecursion).trans
              ((same.flatMap_faults.filter kind).trans
                (filter_errors_run same.distinct_right noRecursion).symm)
          refine .error (sameFaults _ fun _ _ => rfl) (sameFaults _ fun _ _ => rfl) ?_
          rw [Bool.eq_iff_iff, any_isRecursiveLayout_run_iff same.distinct,
            any_isRecursiveLayout_run_iff same.distinct_right]
          exact exists_congr same.cycle_iff

/-- Registered with the first type last, types with cycles have the same faults by themselves,
but of the two recursions that are reported for the other order there is one left. -/
theorem build_ignores_order_cyclic :
    (ofTypes ⟨8, 8⟩ cyclicTypes).Reorders (ofTypes ⟨8, 8⟩ (cyclicTypes.rotate 1)) ∧
      ∃ errors others, (ofTypes ⟨8, 8⟩ cyclicTypes).build = .error errors ∧
        (ofTypes ⟨8, 8⟩ (cyclicTypes.rotate 1)).build = .error others ∧
        errors.countP BindingError.isRecursiveLayout = 2 ∧
        others.countP BindingError.isRecursiveLayout = 1 ∧
        BuildAlike (.error errors) (.error others) := by
  have target (types : List Blittable) : (ofTypes ⟨8, 8⟩ types).target = ⟨8, 8⟩ :=
    registerAll_target (empty ⟨8, 8⟩) types
  have same : (ofTypes ⟨8, 8⟩ cyclicTypes).Reorders (ofTypes ⟨8, 8⟩ (cyclicTypes.rotate 1)) :=
    ⟨(target _).trans (target _).symm, (List.rotate_perm cyclicTypes 1).symm,
      ofTypes_distinct ⟨8, 8⟩ cyclicTypes⟩
  have alike := build_ignores_order same
  exact ⟨same, _, _, rfl, rfl, rfl, rfl, alike⟩

end TypeTable

end NativeBridge

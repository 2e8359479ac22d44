import NativeBridge.Proofs.TypeMap.Walk

/-!
# When a type map is built

A table becomes a type map exactly when it is admissible, and then the layouts
are those that the types have by what they contain: `build_lays_out`. Otherwise
the faults are those of the types by themselves and one for each of some types
that together break every cycle of containment: `build_error_complete`.
-/

namespace NativeBridge

namespace TypeTable

/-- A type that a field can hold by value: a primitive or a registered one. -/
def HoldsByValue (table : TypeTable) (type : ManagedType) : Prop :=
  (∃ primitive, table.fieldKind type = .primitive primitive) ∨
    ∃ part, table.fieldKind type = .registered part

/-- Every registered type can have a layout. -/
structure Admissible (table : TypeTable) : Prop where
  integers : ∀ type ∈ table.types, ∀ repr variants, type.shape = .enumeration repr variants →
    repr.isInteger = true
  fields : ∀ type ∈ table.types, ∀ fields, type.shape = .record fields →
    ∀ field ∈ fields, table.HoldsByValue field.type
  acyclic : ∀ managed, ¬ Relation.TransGen table.Contains managed managed

/-- Some registered types, each on a cycle of containment, that break every cycle. -/
structure BreaksCycles (table : TypeTable) (recursive : List Blittable) : Prop where
  registered : ∀ type ∈ recursive, type ∈ table.types
  distinct : (recursive.map Blittable.managed).Nodup
  onCycle : ∀ type ∈ recursive, Relation.TransGen table.Contains type.managed type.managed
  covers : ∀ first rest, (first :: rest ++ [first]).IsChain table.Contains →
    ∃ type ∈ recursive, type.managed ∈ first :: rest

end TypeTable

/-- Exactly the fields that hold a type by value have no fault. -/
theorem BlittableField.fault?_eq_none_iff {table : TypeTable} {owner : String}
    {field : BlittableField} :
    field.fault? table owner = none ↔ table.HoldsByValue field.type := by
  simp only [fault?, TypeTable.HoldsByValue]
  cases table.fieldKind field.type <;> simp

/-- A type has no fault by itself when its representation is an integer or each of its
fields holds a type by value. -/
theorem Blittable.faults_eq_nil_iff {table : TypeTable} {type : Blittable} :
    type.faults table = [] ↔
      (∀ repr variants, type.shape = .enumeration repr variants → repr.isInteger = true) ∧
      ∀ fields, type.shape = .record fields → ∀ field ∈ fields,
        table.HoldsByValue field.type := by
  cases shape : type.shape with
  | enumeration repr variants => simp [faults, shape]
  | record fields =>
      simp [faults, shape, List.filterMap_eq_nil_iff, BlittableField.fault?_eq_none_iff]

/-- Only registered structures contain anything. -/
theorem TypeTable.Contains.owner {table : TypeTable} {owner part : String}
    (contains : table.Contains owner part) : ∃ type ∈ table.types, type.managed = owner := by
  obtain ⟨type, fields, field, found, -⟩ := contains
  exact ⟨type, TypeTable.find?_some found⟩

/-- A relation leads from one name to another exactly along some list of names. -/
theorem transGen_iff_isChain {relation : String → String → Prop} {first last : String} :
    Relation.TransGen relation first last ↔
      ∃ between, (first :: between ++ [last]).IsChain relation := by
  constructor
  · intro path
    induction path using Relation.TransGen.head_induction_on with
    | single step => exact ⟨[], List.isChain_pair.mpr step⟩
    | @head _ next step _ ih =>
        obtain ⟨between, chain⟩ := ih
        exact ⟨next :: between, List.isChain_cons_cons.mpr ⟨step, chain⟩⟩
  · rintro ⟨between, chain⟩
    induction between generalizing first with
    | nil => exact .single (List.isChain_cons_cons.mp chain).1
    | cons next rest ih =>
        obtain ⟨step, tail⟩ := List.isChain_cons_cons.mp chain
        exact .head step (ih tail)

/-- Along a cycle without reported names, every step leads to an unreported name. -/
theorem isChain_unreported {relation : String → String → Prop} {reported : List String}
    {first : String} {rest : List String} (chain : (first :: rest).IsChain relation)
    (unreported : ∀ name ∈ rest, name ∉ reported) :
    (first :: rest).IsChain fun owner part => relation owner part ∧ part ∉ reported :=
  chain.imp_of_mem_tail_imp fun _ part _ isPart step => ⟨step, unreported part isPart⟩

namespace LayoutPass.Tracks

variable {table : TypeTable} {progress : Progress} {pass : LayoutPass}

/-- What a type leads to without passing a reported type was left before it. -/
theorem mem_older_of_transGen (tracks : Tracks table progress pass) {owner part : String}
    (path : Relation.TransGen
      (fun owner part => table.Contains owner part ∧ part ∉ progress.reported) owner part)
    {older : List String} (isLeft : (owner :: older) <:+ progress.finished) :
    part ∈ older := by
  induction path using Relation.TransGen.head_induction_on generalizing older with
  | single step =>
      rcases tracks.ordered _ older isLeft part step.1 with before | reported
      · exact before
      · exact absurd reported step.2
  | @head owner between step _ ih =>
      rcases tracks.ordered owner older isLeft between step.1 with before | reported
      · obtain ⟨later, earlier, rfl⟩ := List.append_of_mem before
        have leftBefore : (between :: earlier) <:+ progress.finished :=
          (List.suffix_append later _).trans ((List.suffix_cons owner _).trans isLeft)
        exact List.mem_append_right later (List.mem_cons_of_mem _ (ih leftBefore))
      · exact absurd reported step.2

/-- Every cycle of types that were left passes a reported type. -/
theorem not_transGen_unreported (tracks : Tracks table progress pass) {managed : String}
    (left : managed ∈ progress.finished) :
    ¬ Relation.TransGen
      (fun owner part => table.Contains owner part ∧ part ∉ progress.reported)
      managed managed := by
  intro cycle
  obtain ⟨later, older, isLeft⟩ := List.append_of_mem left
  have suffix : (managed :: older) <:+ progress.finished := ⟨later, isLeft.symm⟩
  have distinct : (managed :: older).Nodup :=
    (List.nodup_append.mp tracks.distinct).2.1.sublist suffix.sublist
  exact (List.nodup_cons.mp distinct).1 (tracks.mem_older_of_transGen cycle suffix)

end LayoutPass.Tracks

namespace TypeTable

variable {table : TypeTable}

/-- The names that a finished pass has left are those of the registered types. -/
theorem perm_finished (distinct : table.Distinct) {pass : LayoutPass}
    {finished reported : List String}
    (tracks : LayoutPass.Tracks table ⟨[], [], finished, reported⟩ pass)
    (all : ∀ type ∈ table.types, type.managed ∈ finished) :
    finished.Perm (table.types.map Blittable.managed) := by
  refine (List.perm_ext_iff_of_nodup tracks.distinct distinct).mpr fun managed => ?_
  rw [List.mem_map]
  constructor
  · intro left
    exact contains_iff.mp (tracks.registered managed left)
  · rintro ⟨type, isType, rfl⟩
    exact all type isType

/-- The faults under the names of registered types are those of the types. -/
theorem flatMap_faultsOf (distinct : table.Distinct) :
    (table.types.map Blittable.managed).flatMap table.faultsOf
      = table.types.flatMap (Blittable.faults table) := by
  rw [List.flatMap_map]
  refine List.flatMap_congr fun type isType => ?_
  simp [faultsOf, find?_managed distinct isType]

/-- Registered names belong to registered types, one for one. -/
theorem exists_types_of_names {names : List String}
    (registered : ∀ name ∈ names, ∃ type ∈ table.types, type.managed = name) :
    ∃ types : List Blittable, types.map Blittable.managed = names ∧
      ∀ type ∈ types, type ∈ table.types := by
  induction names with
  | nil => exact ⟨[], rfl, by simp⟩
  | cons name rest ih =>
      obtain ⟨type, isType, rfl⟩ := registered name List.mem_cons_self
      obtain ⟨types, rfl, all⟩ := ih fun other isOther =>
        registered other (List.mem_cons_of_mem _ isOther)
      exact ⟨type :: types, rfl, List.forall_mem_cons.mpr ⟨isType, all⟩⟩

/-- What the layout pass reports: the faults of the types by themselves, and one for each
of some types that break every cycle. -/
theorem errors_run (distinct : table.Distinct) :
    ∃ recursive, table.BreaksCycles recursive ∧
      (LayoutPass.run table).errors.Perm (table.types.flatMap (Blittable.faults table)
        ++ recursive.map fun type => .recursiveLayout type.managed type.location) := by
  obtain ⟨finished, reported, tracks, all⟩ := LayoutPass.run_tracks table
  have registered : ∀ managed ∈ reported, ∃ type ∈ table.types, type.managed = managed := by
    intro managed isReported
    obtain ⟨next, step, -⟩ := Relation.TransGen.head'_iff.mp (tracks.recursive managed isReported)
    exact step.owner
  obtain ⟨recursive, rfl, areTypes⟩ := exists_types_of_names registered
  refine ⟨recursive, ⟨areTypes, tracks.distinctReported, ?_, ?_⟩, ?_⟩
  · intro type isRecursive
    exact tracks.recursive type.managed (List.mem_map_of_mem isRecursive)
  · intro first rest cycle
    by_contra unbroken
    have unreported : ∀ name ∈ first :: rest, name ∉ recursive.map Blittable.managed := by
      intro name onCycle isReported
      obtain ⟨type, isRecursive, rfl⟩ := List.mem_map.mp isReported
      exact unbroken ⟨type, isRecursive, onCycle⟩
    have everyStep : ∀ name ∈ rest ++ [first], name ∉ recursive.map Blittable.managed := by
      intro name onCycle
      refine unreported name ?_
      rcases List.mem_append.mp onCycle with later | last
      · exact List.mem_cons_of_mem _ later
      · rw [List.mem_singleton.mp last]
        exact List.mem_cons_self
    have path := transGen_iff_isChain.mpr ⟨rest, isChain_unreported cycle everyStep⟩
    obtain ⟨next, step, -⟩ := Relation.TransGen.head'_iff.mp path
    obtain ⟨type, isType, rfl⟩ := step.1.owner
    exact tracks.not_transGen_unreported (all type isType) path
  · have sameFaults : (finished.flatMap table.faultsOf).Perm
        (table.types.flatMap (Blittable.faults table)) := by
      rw [← flatMap_faultsOf distinct]
      exact (perm_finished distinct tracks all).flatMap_right _
    have sameReports : (recursive.map Blittable.managed).map table.recursiveFault
        = recursive.map fun type => .recursiveLayout type.managed type.location := by
      rw [List.map_map]
      refine List.map_congr_left fun type isRecursive => ?_
      simp [recursiveFault, find?_managed distinct (areTypes type isRecursive)]
    rw [← sameReports]
    exact tracks.errors.trans (sameFaults.append_right _)

/-- The layout pass reports nothing exactly for admissible tables. -/
theorem errors_run_eq_nil_iff (distinct : table.Distinct) :
    (LayoutPass.run table).errors = [] ↔ table.Admissible := by
  obtain ⟨recursive, breaks, reports⟩ := errors_run distinct
  constructor
  · intro noErrors
    rw [noErrors, List.nil_perm, List.append_eq_nil_iff, List.flatMap_eq_nil_iff,
      List.map_eq_nil_iff] at reports
    obtain ⟨noFaults, rfl⟩ := reports
    refine ⟨?_, ?_, ?_⟩
    · intro type isType
      exact (Blittable.faults_eq_nil_iff.mp (noFaults type isType)).1
    · intro type isType
      exact (Blittable.faults_eq_nil_iff.mp (noFaults type isType)).2
    · intro managed cycle
      obtain ⟨between, chain⟩ := transGen_iff_isChain.mp cycle
      obtain ⟨type, isRecursive, -⟩ := breaks.covers managed between chain
      cases isRecursive
  · intro admissible
    have noFaults : table.types.flatMap (Blittable.faults table) = [] := by
      rw [List.flatMap_eq_nil_iff]
      intro type isType
      exact Blittable.faults_eq_nil_iff.mpr
        ⟨admissible.integers type isType, admissible.fields type isType⟩
    have noCycles : recursive = [] := by
      rw [List.eq_nil_iff_forall_not_mem]
      intro type isRecursive
      exact admissible.acyclic type.managed (breaks.onCycle type isRecursive)
    rw [noFaults, noCycles] at reports
    exact List.perm_nil.mp reports

/-- A pass without faults lays out every registered type. -/
theorem layout?_run (noErrors : (LayoutPass.run table).errors = []) {type : Blittable}
    (registered : type ∈ table.types) :
    ∃ layout, (LayoutPass.run table).layout? type.managed = some layout ∧
      LaidOut table type.managed layout := by
  obtain ⟨finished, reported, tracks, all⟩ := LayoutPass.run_tracks table
  rcases tracks.settled type.managed (all type registered) with isDone | isFailed
  · exact tracks.laidOut type.managed isDone
  · exact absurd noErrors (tracks.faulty type.managed isFailed)

/-- A table builds exactly when the layout pass reports nothing. -/
theorem exists_build_ok_iff :
    (∃ map, table.build = .ok map) ↔ (LayoutPass.run table).errors = [] := by
  constructor
  · rintro ⟨map, built⟩
    exact (build_ok built).1
  · intro noErrors
    exact ⟨_, by simp only [build, noErrors]; rfl⟩

/-- A structure of an enumeration, of one structure twice and of a wide number. -/
def bodyTypes : List Blittable :=
  [⟨"Body", "interop", "retro::Body", none,
      .record [⟨"level", .path "Level", .synthetic⟩,
        ⟨"position", .path "interop::Vec3", .synthetic⟩, ⟨"velocity", .path "Vec3", .synthetic⟩,
        ⟨"mass", .path "f64", .synthetic⟩], .synthetic⟩,
    ⟨"Vec3", "interop", "retro::Vector3", none,
      .record [⟨"x", .path "f32", .synthetic⟩, ⟨"y", .path "f32", .synthetic⟩,
        ⟨"z", .path "f32", .synthetic⟩], .synthetic⟩,
    ⟨"Level", "interop", "retro::Level", none, .enumeration .uint8 ["Low", "High"], .synthetic⟩]

/-- When a table does not build, the faults are those of its types by themselves and one
for each of some types that break every cycle. -/
theorem build_error_complete {target : Target} {types : List Blittable}
    {errors : List BindingError} (failed : (ofTypes target types).build = .error errors) :
    ∃ recursive, (ofTypes target types).BreaksCycles recursive ∧
      errors.Perm
        ((ofTypes target types).types.flatMap (Blittable.faults (ofTypes target types))
          ++ recursive.map fun type => .recursiveLayout type.managed type.location) := by
  rw [(build_error failed).1]
  exact errors_run (ofTypes_distinct target types)

/-- Two cycles with one type in common and faults on them, a type that only contains them,
and an enumeration of fractions. -/
def cyclicTypes : List Blittable :=
  [⟨"A", "interop", "retro::A", none,
      .record [⟨"b", .path "B", ⟨"a.rs", 2, 5, 4⟩⟩,
        ⟨"handle", .ptr true (.path "c_void"), ⟨"a.rs", 3, 5, 19⟩⟩], ⟨"a.rs", 1, 1, 8⟩⟩,
    ⟨"B", "interop", "retro::B", none,
      .record [⟨"a", .path "A", ⟨"b.rs", 2, 5, 4⟩⟩, ⟨"c", .path "interop::C", ⟨"b.rs", 3, 5, 4⟩⟩,
        ⟨"gone", .path "Gone", ⟨"b.rs", 4, 5, 7⟩⟩], ⟨"b.rs", 1, 1, 8⟩⟩,
    ⟨"C", "interop", "retro::C", none, .record [⟨"b", .path "B", ⟨"c.rs", 2, 5, 4⟩⟩],
      ⟨"c.rs", 1, 1, 8⟩⟩,
    ⟨"D", "interop", "retro::D", none, .record [⟨"a", .path "A", ⟨"d.rs", 2, 5, 4⟩⟩],
      ⟨"d.rs", 1, 1, 8⟩⟩,
    ⟨"Ratio", "interop", "retro::Ratio", none, .enumeration .float ["Half"], ⟨"e.rs", 1, 1, 5⟩⟩]

/-- Three faults belong to types by themselves and two to the cycles. -/
theorem build_error_complete_cyclic :
    ∃ errors, (ofTypes ⟨8, 8⟩ cyclicTypes).build = .error errors ∧ errors.length = 5 ∧
      ∃ recursive, (ofTypes ⟨8, 8⟩ cyclicTypes).BreaksCycles recursive ∧
        errors.Perm ((ofTypes ⟨8, 8⟩ cyclicTypes).types.flatMap
            (Blittable.faults (ofTypes ⟨8, 8⟩ cyclicTypes))
          ++ recursive.map fun type => .recursiveLayout type.managed type.location) :=
  ⟨_, rfl, rfl, build_error_complete rfl⟩

end TypeTable

end NativeBridge

import NativeBridge.Proofs.TypeMap.Steps

/-!
# What the layout pass finds

A walk of one type leaves the types being walked as they are, meets that type and
returns its layout unless there are faults: `walks`. The fuel is never used up,
since a type is entered once. After the whole pass every registered type was
left: `run_tracks`.
-/

namespace NativeBridge

/-- Only registered types count as registered fields. -/
theorem TypeTable.contains_of_fieldKind {table : TypeTable} {type : ManagedType}
    {part : String} (kind : table.fieldKind type = .registered part) :
    table.contains part = true := by
  simp only [fieldKind] at kind
  split at kind
  · cases kind
  · split at kind
    · cases kind
    · split at kind
      · rename_i known
        cases kind
        exact known
      · cases kind
  · cases kind

namespace LayoutPass

variable {table : TypeTable}

/-- What a walk does to a type that the innermost of these types contains. -/
def Walks (table : TypeTable) (stack : List String) (walk : Walk) : Prop :=
  ∀ managed progress pass, progress.stack = stack → Tracks table progress pass →
    table.contains managed = true → (∀ outer ∈ stack.head?, table.Contains outer managed) →
    ∃ later, Tracks table later (walk managed pass).2 ∧ progress.Grows later ∧
      later.pending = progress.pending ∧ later.Met managed ∧
      Outcome table managed (walk managed pass).1 (walk managed pass).2

/-- What looking at some fields of the innermost type does. -/
structure LooksAt (table : TypeTable) (owner : String) (fields : List BlittableField)
    (progress later : Progress) (result : Option (List (String × Layout)))
    (pass : LayoutPass) : Prop where
  tracks : Tracks table later pass
  grows : progress.Grows later
  /-- Each field shows its own fault. -/
  pending : later.pending
    = progress.pending ++ fields.filterMap (BlittableField.fault? table owner)
  /-- What the fields hold by value was met. -/
  met : ∀ field ∈ fields, ∀ part, table.fieldKind field.type = .registered part →
    later.Met part
  laidOut : ∀ entries, result = some entries → FieldsLaidOut table fields entries
  faulty : result = none → pass.errors ≠ []

/-- Looking at one field either finds its layout, walks its type or shows its fault. -/
theorem looksAt_field {owner : String} {outer : List String} {walk : Walk}
    (walks : Walks table (owner :: outer) walk) {progress : Progress} {pass : LayoutPass}
    (stacked : progress.stack = owner :: outer) (tracks : Tracks table progress pass)
    (field : BlittableField)
    (inside : ∀ part, table.fieldKind field.type = .registered part →
      table.Contains owner part) :
    ∃ later, LooksAt table owner [field] progress later
      ((fieldLayout table walk owner field pass).1.map fun layout => [(field.name, layout)])
      (fieldLayout table walk owner field pass).2 := by
  rw [fieldLayout_eq]
  -- A field with a fault of its own is not walked.
  have faultyField : ∀ fault, field.fault? table owner = some fault →
      (∀ part, table.fieldKind field.type ≠ .registered part) →
      ∃ later, LooksAt table owner [field] progress later none (pass.report fault) := by
    intro fault isFault notRegistered
    refine ⟨_, tracks.report fault, ⟨rfl, ?_, ?_, ?_⟩, ?_, ?_,
      by simp, fun _ => by simp⟩
    · exact List.subset_append_left _ _
    · exact List.Subset.refl _
    · exact List.Subset.refl _
    · simp [isFault]
    · intro other isOther part isPart
      rw [List.mem_singleton.mp isOther] at isPart
      exact absurd isPart (notRegistered part)
  cases kind : table.fieldKind field.type with
  | primitive primitive =>
      have noFault : field.fault? table owner = none := by
        simp [BlittableField.fault?, kind]
      refine ⟨progress, tracks, .refl progress, by simp [noFault], ?_, ?_, by simp⟩
      · intro other isOther part isPart
        rw [List.mem_singleton.mp isOther, kind] at isPart
        cases isPart
      · intro entries isEntries
        cases isEntries
        exact .primitive kind .nil
  | registered part =>
      have noFault : field.fault? table owner = none := by
        simp [BlittableField.fault?, kind]
      have contained := inside part kind
      obtain ⟨later, tracksLater, grows, pending, met, outcome⟩ :=
        walks part progress pass stacked tracks (TypeTable.contains_of_fieldKind kind)
          (by simpa using contained)
      refine ⟨later, tracksLater, grows, by simp [noFault, pending], ?_, ?_, ?_⟩
      · intro other isOther named isNamed
        rw [List.mem_singleton.mp isOther, kind] at isNamed
        cases isNamed
        exact met
      · intro entries isEntries
        obtain ⟨layout, isLayout, rfl⟩ := Option.map_eq_some_iff.mp isEntries
        obtain ⟨whole, laidOut, rfl⟩ := outcome.laidOut layout isLayout
        exact .registered kind laidOut .nil
      · intro isNone
        exact outcome.faulty (Option.map_eq_none_iff.mp isNone)
  | unknown =>
      have isFault : ∃ fault, field.fault? table owner = some fault := by
        simp [BlittableField.fault?, kind]
      obtain ⟨fault, isFault⟩ := isFault
      rw [isFault]
      exact faultyField fault isFault (by simp [kind])
  | unsupported reason =>
      have isFault : ∃ fault, field.fault? table owner = some fault := by
        simp [BlittableField.fault?, kind]
      obtain ⟨fault, isFault⟩ := isFault
      rw [isFault]
      exact faultyField fault isFault (by simp [kind])

/-- Looking at a field and then at others looks at all of them. -/
theorem LooksAt.cons {owner : String} {field : BlittableField} {rest : List BlittableField}
    {progress middle later : Progress} {pass next : LayoutPass} {layout : Option Layout}
    {layouts : Option (List (String × Layout))}
    (first : LooksAt table owner [field] progress middle
      (layout.map fun layout => [(field.name, layout)]) pass)
    (others : LooksAt table owner rest middle later layouts next) :
    LooksAt table owner (field :: rest) progress later
      (layout.bind fun layout => layouts.map fun layouts => (field.name, layout) :: layouts)
      next where
  tracks := others.tracks
  grows := first.grows.trans others.grows
  pending := by
    rw [others.pending, first.pending, List.append_assoc, ← List.filterMap_append]
    rfl
  met := by
    intro other isOther part isPart
    rcases List.mem_cons.mp isOther with rfl | later
    · exact others.grows.met (first.met other List.mem_cons_self part isPart)
    · exact others.met other later part isPart
  laidOut := by
    intro entries isEntries
    obtain ⟨own, rfl, tail⟩ := Option.bind_eq_some_iff.mp isEntries
    obtain ⟨remaining, rfl, rfl⟩ := Option.map_eq_some_iff.mp tail
    have laidOutRest := others.laidOut remaining rfl
    cases first.laidOut _ rfl with
    | primitive kind _ => exact .primitive kind laidOutRest
    | registered kind inner _ => exact .registered kind inner laidOutRest
  faulty := by
    intro isNone
    cases layout with
    | none =>
        have faulty := first.faulty rfl
        exact first.tracks.errors_ne_nil_of_grows others.tracks others.grows faulty
    | some layout => exact others.faulty (Option.map_eq_none_iff.mp isNone)

/-- The layouts of fields are that of the first, then those of the others. -/
theorem fieldLayouts_cons (walk : Walk) (owner : String) (field : BlittableField)
    (rest : List BlittableField) (pass : LayoutPass) :
    fieldLayouts table walk owner (field :: rest) pass
      = ((fieldLayout table walk owner field pass).1.bind fun layout =>
          (fieldLayouts table walk owner rest
              (fieldLayout table walk owner field pass).2).1.map fun layouts =>
            (field.name, layout) :: layouts,
        (fieldLayouts table walk owner rest (fieldLayout table walk owner field pass).2).2) := by
  simp only [fieldLayouts]
  cases (fieldLayout table walk owner field pass).1 with
  | none => rfl
  | some layout =>
      cases (fieldLayouts table walk owner rest
          (fieldLayout table walk owner field pass).2).1 with
      | none => rfl
      | some layouts => rfl

/-- Every field of the innermost type is looked at. -/
theorem looksAt_fields {owner : String} {outer : List String} {walk : Walk}
    (walks : Walks table (owner :: outer) walk) (fields : List BlittableField)
    {progress : Progress} {pass : LayoutPass} (stacked : progress.stack = owner :: outer)
    (tracks : Tracks table progress pass)
    (inside : ∀ field ∈ fields, ∀ part, table.fieldKind field.type = .registered part →
      table.Contains owner part) :
    ∃ later, LooksAt table owner fields progress later
      (fieldLayouts table walk owner fields pass).1
      (fieldLayouts table walk owner fields pass).2 := by
  induction fields generalizing progress pass with
  | nil =>
      refine ⟨progress, tracks, .refl progress, by simp, by simp, ?_,
        by simp [fieldLayouts]⟩
      intro entries isEntries
      cases isEntries
      exact .nil
  | cons field rest ih =>
      obtain ⟨middle, first⟩ := looksAt_field walks stacked tracks field
        (inside field List.mem_cons_self)
      obtain ⟨later, others⟩ := ih (first.grows.stack.trans stacked) first.tracks
        fun other isOther => inside other (List.mem_cons_of_mem _ isOther)
      rw [fieldLayouts_cons]
      exact ⟨later, first.cons others⟩

/-- What walking the shape of the innermost type does, before the type is left. -/
theorem walks_shape {managed : String} {outer : List String} {walk : Walk} {type : Blittable}
    (walks : Walks table (managed :: outer) walk) (found : table.find? managed = some type)
    {progress : Progress} {pass : LayoutPass} (stacked : progress.stack = managed :: outer)
    (tracks : Tracks table progress pass) :
    ∃ later, Tracks table later (shapeLayout table walk type pass).2 ∧
      progress.Grows later ∧
      later.pending = progress.pending ++ table.faultsOf managed ∧
      (∀ part, table.Contains managed part → later.Met part) ∧
      (∀ whole, (shapeLayout table walk type pass).1 = some whole →
        LaidOut table managed whole) ∧
      ((shapeLayout table walk type pass).1 = none →
        (shapeLayout table walk type pass).2.errors ≠ []) := by
  have sameName := (TypeTable.find?_some found).2
  have ownFaults : table.faultsOf managed = type.faults table := by
    simp [TypeTable.faultsOf, found]
  cases shape : type.shape with
  | enumeration repr variants =>
      have partless : ∀ {later : Progress} part, table.Contains managed part →
          later.Met part := by
        rintro later part ⟨other, fields, field, otherFound, otherShape, -, -⟩
        rw [Option.some.inj (otherFound.symm.trans found), shape] at otherShape
        cases otherShape
      by_cases integer : repr.isInteger = true
      · have laidOut := LaidOut.enumeration found shape integer
        have noFaults : type.faults table = [] := by simp [Blittable.faults, shape, integer]
        have layout : shapeLayout table walk type pass
            = (some (.scalar (repr.layout table.target)), pass) := by
          simp [shapeLayout, shape, integer]
        rw [layout, ownFaults, noFaults]
        refine ⟨progress, tracks, .refl progress, by simp, partless, ?_, by simp⟩
        intro whole isWhole
        cases isWhole
        exact laidOut
      · have oneFault : ∃ fault, type.faults table = [fault] ∧
            shapeLayout table walk type pass = (none, pass.report fault) := by
          simp [Blittable.faults, shapeLayout, shape, integer]
        obtain ⟨fault, isFault, layout⟩ := oneFault
        rw [layout, ownFaults, isFault]
        refine ⟨_, tracks.report fault, ⟨rfl, ?_, ?_, ?_⟩, rfl, partless,
          by simp, fun _ => by simp⟩
        · exact List.subset_append_left _ _
        · exact List.Subset.refl _
        · exact List.Subset.refl _
  | record fields =>
      have layout : shapeLayout table walk type pass
          = ((fieldLayouts table walk managed fields pass).1.map StructLayout.ofFields,
            (fieldLayouts table walk managed fields pass).2) := by
        simp [shapeLayout, shape, sameName]
      have faults : table.faultsOf managed
          = fields.filterMap (BlittableField.fault? table managed) := by
        rw [ownFaults, Blittable.faults, shape, sameName]
      obtain ⟨later, looks⟩ := looksAt_fields walks fields stacked tracks
        fun field isField part isPart => ⟨type, fields, field, found, shape, isField, isPart⟩
      rw [layout, faults]
      refine ⟨later, looks.tracks, looks.grows, looks.pending, ?_, ?_, ?_⟩
      · rintro part ⟨other, otherFields, field, otherFound, otherShape, isField, isPart⟩
        rw [Option.some.inj (otherFound.symm.trans found), shape] at otherShape
        cases otherShape
        exact looks.met field isField part isPart
      · intro whole isWhole
        obtain ⟨entries, isEntries, rfl⟩ := Option.map_eq_some_iff.mp isWhole
        exact .record found shape (looks.laidOut entries isEntries)
          (StructLayout.isStruct_iff.mpr rfl)
      · intro isNone
        exact looks.faulty (Option.map_eq_none_iff.mp isNone)

/-- A walk does what it should, with fuel for the types that are not being walked. -/
theorem walks (fuel : Nat) {stack : List String}
    (enough : table.types.length < stack.length + fuel) :
    Walks table stack (walk table fuel) := by
  induction fuel generalizing stack with
  | zero =>
      intro managed progress pass stacked tracks
      have bounded := tracks.stack_length_le
      rw [stacked] at bounded
      omega
  | succ fuel ih =>
      intro managed progress pass stacked tracks known inside
      subst stacked
      simp only [walk]
      cases visited : pass.visit? managed with
      | none =>
          obtain ⟨type, found⟩ := Option.isSome_iff_exists.mp known
          simp only [found]
          have entered := tracks.enter visited known inside
          have deeper : table.types.length < (managed :: progress.stack).length + fuel := by
            simp only [List.length_cons]
            omega
          obtain ⟨⟨stack, pending, finished, reported⟩, shaped, grows, isPending, parts, laidOut,
            faulty⟩ := walks_shape (ih deeper) found rfl entered
          have sameStack : stack = managed :: progress.stack := grows.stack
          simp only at isPending
          subst sameStack isPending
          obtain ⟨left, outcome⟩ := shaped.settle parts laidOut faulty
          exact ⟨_, left, ⟨rfl, List.Subset.refl _,
            List.subset_cons_of_subset managed grows.finished, grows.reported⟩, rfl,
            .inl List.mem_cons_self, outcome⟩
      | some visit =>
          cases visit with
          | inProgress =>
              have reported := tracks.recur visited inside
              refine ⟨_, reported, ⟨rfl, List.Subset.refl _, List.Subset.refl _, ?_⟩, rfl,
                .inr List.mem_cons_self, by simp, fun _ => by simp⟩
              exact List.subset_cons_self managed _
          | done =>
              obtain ⟨whole, isWhole, laidOut⟩ := tracks.laidOut managed visited
              refine ⟨progress, tracks, .refl progress, rfl, tracks.met_of_visit (.inl visited),
                ?_, ?_⟩
              · intro layout isLayout
                rw [isWhole] at isLayout
                exact ⟨whole, laidOut, Option.some.inj isLayout⟩
              · intro isNone
                rw [isWhole] at isNone
                cases isNone
          | failed =>
              have faulty := tracks.faulty managed visited
              exact ⟨progress, tracks, .refl progress, rfl, tracks.met_of_visit (.inr visited),
                by simp, fun _ => faulty⟩

/-- Walking types in turn, with nothing being walked between them, meets each of them. -/
theorem foldl_tracks {types : List Blittable} {finished reported : List String}
    {pass : LayoutPass} (tracks : Tracks table ⟨[], [], finished, reported⟩ pass)
    (known : ∀ type ∈ types, table.contains type.managed = true) :
    ∃ finished' reported', Tracks table ⟨[], [], finished', reported'⟩
        (types.foldl (fun pass type =>
          (walk table (table.types.length + 1) type.managed pass).2) pass) ∧
      finished ⊆ finished' ∧ ∀ type ∈ types, type.managed ∈ finished' := by
  induction types generalizing finished reported pass with
  | nil => exact ⟨finished, reported, tracks, List.Subset.refl _, by simp⟩
  | cons type rest ih =>
      have enough : table.types.length < ([] : List String).length
          + (table.types.length + 1) := by simp
      obtain ⟨⟨stack, pending, between, recursive⟩, walked, grows, isPending, met, -⟩ :=
        walks _ enough type.managed _ pass rfl tracks (known type List.mem_cons_self) (by simp)
      have noStack : stack = [] := grows.stack
      have noPending : pending = [] := isPending
      subst noStack noPending
      -- Nothing is being walked, so what was reported was left as well.
      have left : type.managed ∈ between := by
        rcases met with left | isReported
        · exact left
        · have isFailed := walked.failed type.managed isReported
          have marked := isFailed ▸ Option.some_ne_none Visit.failed
          rcases walked.seen marked with inside | left
          · cases inside
          · exact left
      obtain ⟨finished', reported', all, later, others⟩ := ih walked
        fun other isOther => known other (List.mem_cons_of_mem _ isOther)
      refine ⟨finished', reported', all, List.Subset.trans grows.finished later, ?_⟩
      intro other isOther
      rcases List.mem_cons.mp isOther with rfl | isRest
      · exact later left
      · exact others other isRest

/-- After the pass, every registered type was left and nothing is being walked. -/
theorem run_tracks (table : TypeTable) :
    ∃ finished reported, Tracks table ⟨[], [], finished, reported⟩ (run table) ∧
      ∀ type ∈ table.types, type.managed ∈ finished := by
  obtain ⟨finished, reported, tracks, -, all⟩ := foldl_tracks (Tracks.start table)
    fun type isType => TypeTable.contains_iff.mpr ⟨type, isType, rfl⟩
  exact ⟨finished, reported, tracks, all⟩

end LayoutPass

end NativeBridge

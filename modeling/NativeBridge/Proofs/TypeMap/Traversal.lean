import NativeBridge.Proofs.TypeMap.Walk

/-!
# The walk of a table, step by step

A walk that calls itself on the types of its fields has come as far as its open calls
say: the types being walked, each with the fields that it has left. `Traversal.Step` says
what happens from one moment to the next, however deep the calls go. The layout pass does
just that: `Traversal.returns` for each call, with fuel for the types without a mark, and
`Traversal.steps_run` for the whole table.
-/

namespace NativeBridge

/-- The fields of a type; an enumeration has none. -/
def Blittable.fields (type : Blittable) : List BlittableField :=
  match type.shape with
  | .record fields => fields
  | .enumeration _ _ => []

namespace LayoutPass

/-- A type that is being walked. -/
structure Frame where
  type : Blittable
  /-- The fields that were not looked at yet. -/
  rest : List BlittableField
  /-- The layouts of the other fields, if each has one. -/
  layouts : Option (List Layout)

namespace Frame

/-- A type none of whose fields was looked at yet. -/
def enter (type : Blittable) : Frame :=
  ⟨type, type.fields, some []⟩

/-- The layout of the field that was looked at last, or that it has none. -/
def accept (frame : Frame) (layout : Option Layout) : Frame :=
  { frame with
    layouts := frame.layouts.bind fun layouts => layout.map fun layout => layouts ++ [layout] }

/-- The frame after looking at all fields that it has left. -/
def finish (frame : Frame) (entries : Option (List (String × Layout))) : Frame :=
  { frame with
    rest := []
    layouts := frame.layouts.bind fun layouts =>
      entries.map fun entries => layouts ++ entries.map Prod.snd }

/-- Without further fields nothing changes. -/
theorem finish_nil (type : Blittable) (layouts : Option (List Layout)) :
    finish ⟨type, [], layouts⟩ (some []) = ⟨type, [], layouts⟩ := by
  cases layouts <;> simp [finish]

/-- The layout of the first field comes before those of the others. -/
theorem finish_accept (type : Blittable) (field : BlittableField) (rest : List BlittableField)
    (layouts : Option (List Layout)) (layout : Option Layout)
    (entries : Option (List (String × Layout))) :
    (accept ⟨type, rest, layouts⟩ layout).finish entries
      = finish ⟨type, field :: rest, layouts⟩
          (layout.bind fun layout =>
            entries.map fun entries => (field.name, layout) :: entries) := by
  cases layouts <;> cases layout <;> cases entries <;> simp [accept, finish]

/-- The layout of the type, after all of its fields were looked at. -/
def whole (table : TypeTable) (frame : Frame) (pass : LayoutPass) :
    Option StructLayout × LayoutPass :=
  match frame.type.shape with
  | .enumeration _ _ => shapeLayout table (walk table 0) frame.type pass
  | .record fields =>
      (frame.layouts.map fun layouts =>
        StructLayout.ofFields ((fields.map BlittableField.name).zip layouts), pass)

/-- An answer goes to the innermost type; for a type of the table itself nothing waits. -/
def deliver (layout : Option Layout) : List Frame → List Frame
  | [] => []
  | frame :: outer => frame.accept layout :: outer

/-- An answer changes nothing but the layouts that the innermost type has collected. -/
theorem map_deliver {α : Type} (view : Frame → α)
    (blind : ∀ frame layout, view (frame.accept layout) = view frame)
    (layout : Option Layout) (stack : List Frame) :
    (deliver layout stack).map view = stack.map view := by
  cases stack with
  | nil => rfl
  | cons frame outer => simp [deliver, blind]

end Frame

/-- A moment of the walk of a table. -/
structure Traversal where
  /-- The types of the table whose turn has not come. -/
  waiting : List Blittable
  /-- The type that was called last, before it is entered or answers. -/
  called : Option String
  /-- The types being walked, the innermost first. -/
  stack : List Frame
  pass : LayoutPass

namespace Traversal

/-- What happens in one step. -/
inductive Event where
  /-- The turn of a type of the table comes. -/
  | turned (managed : String)
  /-- A type is entered, to look at its fields. -/
  | entered (managed : String)
  /-- A call is answered without looking at any field. -/
  | answered (managed : String)
  /-- A field of a type is looked at. -/
  | looked (owner : String) (field : BlittableField)
  /-- A type is left, after its fields were looked at. -/
  | left (managed : String)

/-- From one moment to the next. -/
inductive Step (table : TypeTable) : Traversal → Event → Traversal → Prop where
  /-- The types of the table are called in turn. -/
  | turn (type : Blittable) (waiting : List Blittable) (pass : LayoutPass) :
      Step table ⟨type :: waiting, none, [], pass⟩ (.turned type.managed)
        ⟨waiting, some type.managed, [], pass⟩
  /-- A registered type without a mark gets one and is entered. -/
  | enter (waiting : List Blittable) {managed : String} {type : Blittable} (stack : List Frame)
      {pass : LayoutPass} (unmarked : pass.visit? managed = none)
      (found : table.find? managed = some type) :
      Step table ⟨waiting, some managed, stack, pass⟩ (.entered managed)
        ⟨waiting, none, .enter type :: stack, pass.mark managed .inProgress⟩
  /-- Any other type answers at once: its walk is not nested. -/
  | answer (waiting : List Blittable) {managed : String} (stack : List Frame) {pass : LayoutPass}
      (closed : pass.visit? managed ≠ none ∨ table.find? managed = none) :
      Step table ⟨waiting, some managed, stack, pass⟩ (.answered managed)
        ⟨waiting, none, Frame.deliver (walk table 1 managed pass).1 stack,
          (walk table 1 managed pass).2⟩
  /-- A field of a registered type calls that type. -/
  | descend (waiting : List Blittable) (type : Blittable) {field : BlittableField}
      (rest : List BlittableField) (layouts : Option (List Layout)) (outer : List Frame)
      (pass : LayoutPass) {part : String}
      (kind : table.fieldKind field.type = .registered part) :
      Step table ⟨waiting, none, ⟨type, field :: rest, layouts⟩ :: outer, pass⟩
        (.looked type.managed field)
        ⟨waiting, some part, ⟨type, rest, layouts⟩ :: outer, pass⟩
  /-- Any other field has its layout or its fault by itself. -/
  | look (waiting : List Blittable) (type : Blittable) {field : BlittableField}
      (rest : List BlittableField) (layouts : Option (List Layout)) (outer : List Frame)
      (pass : LayoutPass) (kind : ∀ part, table.fieldKind field.type ≠ .registered part) :
      Step table ⟨waiting, none, ⟨type, field :: rest, layouts⟩ :: outer, pass⟩
        (.looked type.managed field)
        ⟨waiting, none,
          Frame.deliver (fieldLayout table (walk table 0) type.managed field pass).1
            (⟨type, rest, layouts⟩ :: outer),
          (fieldLayout table (walk table 0) type.managed field pass).2⟩
  /-- A type without further fields is settled, and the call of it is answered. -/
  | leave (waiting : List Blittable) (frame : Frame) (last : frame.rest = [])
      (outer : List Frame) (pass : LayoutPass) :
      Step table ⟨waiting, none, frame :: outer, pass⟩ (.left frame.type.managed)
        ⟨waiting, none,
          Frame.deliver
            (settle frame.type.managed (frame.whole table pass).1 (frame.whole table pass).2).1
            outer,
          (settle frame.type.managed (frame.whole table pass).1 (frame.whole table pass).2).2⟩

/-- Steps one after the other, with what happens in them. -/
inductive Steps (table : TypeTable) : Traversal → List Event → Traversal → Prop where
  | refl (present : Traversal) : Steps table present [] present
  | head {present next final : Traversal} {event : Event} {events : List Event}
      (step : Step table present event next) (rest : Steps table next events final) :
      Steps table present (event :: events) final

/-- Nothing is known, and the turn of every type is still to come. -/
def start (table : TypeTable) : Traversal :=
  ⟨table.types, none, [], LayoutPass.start⟩

/-- Nothing is left to walk. -/
def ended (pass : LayoutPass) : Traversal :=
  ⟨[], none, [], pass⟩

variable {table : TypeTable} {present next final : Traversal} {event : Event}

/-- One step by itself. -/
theorem Step.steps (step : Step table present event next) : Steps table present [event] next :=
  .head step (.refl next)

/-- Steps go on where others stop. -/
theorem Steps.trans {first second : List Event} (before : Steps table present first next)
    (after : Steps table next second final) : Steps table present (first ++ second) final := by
  induction before with
  | refl => exact after
  | head step _ ih => exact .head step (ih after)

/-- After the end there is no step. -/
theorem not_step_ended (pass : LayoutPass) : ¬ Step table (ended pass) event next := by
  intro step
  cases step

/-- What happens next is determined. -/
theorem Step.deterministic {otherEvent : Event} {other : Traversal}
    (step : Step table present event next) (otherStep : Step table present otherEvent other) :
    event = otherEvent ∧ next = other := by
  cases step with
  | turn =>
      cases otherStep
      exact ⟨rfl, rfl⟩
  | enter waiting stack unmarked found =>
      cases otherStep with
      | enter _ _ _ otherFound =>
          cases found.symm.trans otherFound
          exact ⟨rfl, rfl⟩
      | answer _ _ closed => simp [unmarked, found] at closed
  | answer waiting stack closed =>
      cases otherStep with
      | enter _ _ unmarked found => simp [unmarked, found] at closed
      | answer => exact ⟨rfl, rfl⟩
  | descend waiting type rest layouts outer pass kind =>
      cases otherStep with
      | descend _ _ _ _ _ _ otherKind =>
          cases kind.symm.trans otherKind
          exact ⟨rfl, rfl⟩
      | look _ _ _ _ _ _ noCall => exact absurd kind (noCall _)
      | leave _ _ last => cases last
  | look waiting type rest layouts outer pass noCall =>
      cases otherStep with
      | descend _ _ _ _ _ _ kind => exact absurd kind (noCall _)
      | look => exact ⟨rfl, rfl⟩
      | leave _ _ last => cases last
  | leave waiting frame last outer pass =>
      cases otherStep with
      | descend => cases last
      | look => cases last
      | leave => exact ⟨rfl, rfl⟩

/-- Of a run that cannot go on, every other run from the same moment is a beginning. -/
theorem Steps.completes {all events : List Event} (complete : Steps table present all final)
    (stuck : ∀ event next, ¬ Step table final event next)
    (steps : Steps table present events next) :
    ∃ later, all = events ++ later ∧ Steps table next later final := by
  induction steps generalizing all with
  | refl => exact ⟨all, rfl, complete⟩
  | head step rest ih =>
      cases complete with
      | refl => exact absurd step (stuck _ _)
      | head other others =>
          obtain ⟨rfl, rfl⟩ := step.deterministic other
          obtain ⟨later, rfl, toEnd⟩ := ih others
          exact ⟨later, rfl, toEnd⟩

end Traversal

section Marks

variable {table : TypeTable} {managed other : String} {pass : LayoutPass}

/-- A type that is marked anew or was marked before has a mark. -/
theorem visit?_mark_ne_none (visit : Visit) (isMarked : pass.visit? other ≠ none) :
    (pass.mark managed visit).visit? other ≠ none := by
  rw [visit?_mark]
  split
  · exact Option.some_ne_none visit
  · exact isMarked

/-- A call that enters no type is the same however deep it may go. -/
theorem walk_of_closed (closed : pass.visit? managed ≠ none ∨ table.find? managed = none)
    (fuel : Nat) : walk table (fuel + 1) managed pass = walk table 1 managed pass := by
  simp only [walk]
  cases visited : pass.visit? managed with
  | some visit => cases visit <;> rfl
  | none =>
      have unknown : table.find? managed = none := by simpa [visited] using closed
      rw [unknown]

/-- A call that enters no type fails and reports it if it is being walked, and does nothing else. -/
theorem snd_walk_of_closed (closed : pass.visit? managed ≠ none ∨ table.find? managed = none) :
    (walk table 1 managed pass).2
      = if pass.visit? managed = some .inProgress then
          (pass.mark managed .failed).report (table.recursiveFault managed)
        else pass := by
  simp only [walk]
  cases visited : pass.visit? managed with
  | some visit => cases visit <;> rfl
  | none =>
      have unknown : table.find? managed = none := by simpa [visited] using closed
      rw [unknown]
      rfl

section Field

variable {walk : Walk} {owner : String} {field : BlittableField}
  (noCall : ∀ part, table.fieldKind field.type ≠ .registered part)
include noCall

/-- A field of no registered type is the same however types are walked. -/
theorem fieldLayout_of_noCall (otherWalk : Walk) :
    fieldLayout table walk owner field pass = fieldLayout table otherWalk owner field pass := by
  rw [fieldLayout_eq, fieldLayout_eq]
  cases kind : table.fieldKind field.type with
  | registered part => exact absurd kind (noCall part)
  | primitive | unknown | unsupported => rfl

/-- A field of no registered type leaves all as it is, or reports a fault. -/
theorem snd_fieldLayout_of_noCall :
    (fieldLayout table walk owner field pass).2 = pass ∨
      ∃ fault, (fieldLayout table walk owner field pass).2 = pass.report fault := by
  rw [fieldLayout_eq]
  cases kind : table.fieldKind field.type with
  | registered part => exact absurd kind (noCall part)
  | primitive => exact .inl rfl
  | unknown | unsupported =>
      cases field.fault? table owner with
      | none => exact .inl rfl
      | some fault => exact .inr ⟨fault, rfl⟩

/-- A field of no registered type marks nothing. -/
theorem visit?_fieldLayout_of_noCall :
    (fieldLayout table walk owner field pass).2.visit? other = pass.visit? other := by
  rcases snd_fieldLayout_of_noCall noCall with same | ⟨fault, same⟩
  · rw [same]
  · rw [same, visit?_report]

end Field

/-- The layout of a type leaves all as it is, or reports a fault. -/
theorem Frame.snd_whole (table : TypeTable) (frame : Frame) (pass : LayoutPass) :
    (frame.whole table pass).2 = pass ∨
      ∃ fault, (frame.whole table pass).2 = pass.report fault := by
  rw [whole]
  cases shape : frame.type.shape with
  | record fields => exact .inl rfl
  | enumeration repr variants =>
      simp only [shapeLayout, shape]
      split
      · exact .inl rfl
      · exact .inr ⟨_, rfl⟩

/-- The layout of a type marks nothing. -/
theorem Frame.visit?_whole (frame : Frame) :
    (frame.whole table pass).2.visit? other = pass.visit? other := by
  rcases frame.snd_whole table pass with same | ⟨fault, same⟩
  · rw [same]
  · rw [same, visit?_report]

/-- Settling a type changes nothing if it failed before; else its layout is noted or it fails. -/
theorem snd_settle (whole : Option StructLayout) :
    (settle managed whole pass).2
      = if pass.visit? managed = some .failed then pass
        else match whole with
          | some whole => { pass.mark managed .done with
              layouts := (managed, whole) :: pass.layouts }
          | none => pass.mark managed .failed := by
  by_cases isFailed : pass.visit? managed = some .failed
  · simp [settle, isFailed]
  · cases whole <;> simp [settle, isFailed]

/-- A settled type is marked as laid out or as failed. -/
theorem visit?_settle (whole : Option StructLayout) :
    (settle managed whole pass).2.visit? other
      = if other = managed then
          some (if pass.visit? managed = some .failed ∨ whole = none then .failed else .done)
        else pass.visit? other := by
  rw [snd_settle]
  by_cases isFailed : pass.visit? managed = some .failed
  · by_cases same : other = managed
    · simp [isFailed, same]
    · simp [isFailed, same]
  · rw [if_neg isFailed]
    cases whole with
    | none => simp [visit?_mark]
    | some whole =>
        have notFailed : ¬ (pass.visit? managed = some .failed ∨ some whole = none) := by
          simp [isFailed]
        rw [if_neg notFailed]
        exact visit?_mark pass managed other .done

/-- Only a type that is settled as laid out gets a layout. -/
theorem layout?_settle (whole : Option StructLayout) :
    (settle managed whole pass).2.layout? other
      = if other = managed ∧ pass.visit? managed ≠ some .failed then whole.or (pass.layout? other)
        else pass.layout? other := by
  rw [snd_settle]
  by_cases isFailed : pass.visit? managed = some .failed
  · simp [isFailed]
  · rw [if_neg isFailed]
    cases whole with
    | none => simp [layout?, mark]
    | some whole =>
        by_cases same : other = managed
        · simp [isFailed, layout?, same]
        · have differ : (other == managed) = false := by simpa using same
          simp [layout?, List.lookup_cons, same, differ]

end Marks

/-- What the types without a mark weigh together. -/
def unmarked (weight : Blittable → Nat) (pass : LayoutPass) : List Blittable → Nat
  | [] => 0
  | type :: rest =>
      (if pass.visit? type.managed = none then weight type else 0) + unmarked weight pass rest

section Unmarked

variable {pass next : LayoutPass} (weight : Blittable → Nat)

/-- When marks stay, the types without one do not weigh more than before. -/
theorem unmarked_le
    (stays : ∀ managed, pass.visit? managed ≠ none → next.visit? managed ≠ none)
    (types : List Blittable) : unmarked weight next types ≤ unmarked weight pass types := by
  induction types with
  | nil => exact Nat.le_refl _
  | cons type rest ih =>
      rw [unmarked, unmarked]
      refine Nat.add_le_add ?_ ih
      by_cases isUnmarked : pass.visit? type.managed = none
      · rw [if_pos isUnmarked]
        split
        · exact Nat.le_refl _
        · exact Nat.zero_le _
      · rw [if_neg isUnmarked, if_neg (stays type.managed isUnmarked)]

/-- Once a type gets a mark, its weight is gone. -/
theorem unmarked_mark {type : Blittable} {types : List Blittable} (isType : type ∈ types)
    (isUnmarked : pass.visit? type.managed = none) (visit : Visit) :
    unmarked weight (pass.mark type.managed visit) types + weight type
      ≤ unmarked weight pass types := by
  have stays : ∀ other, pass.visit? other ≠ none →
      (pass.mark type.managed visit).visit? other ≠ none :=
    fun other => visit?_mark_ne_none visit
  induction types with
  | nil => cases isType
  | cons first rest ih =>
      rw [unmarked, unmarked]
      rcases List.mem_cons.mp isType with rfl | isRest
      · have restLe := unmarked_le weight stays rest
        rw [visit?_mark_self, if_neg (Option.some_ne_none visit), if_pos isUnmarked]
        omega
      · have restLe := ih isRest
        have firstLe := unmarked_le weight stays [first]
        rw [unmarked, unmarked, unmarked, unmarked] at firstLe
        omega

/-- No more types are without a mark than there are. -/
theorem unmarked_one_le (pass : LayoutPass) (types : List Blittable) :
    unmarked (fun _ => 1) pass types ≤ types.length := by
  induction types with
  | nil => exact Nat.le_refl _
  | cons type rest ih =>
      rw [unmarked, List.length_cons]
      split <;> omega

end Unmarked

namespace Traversal

variable {table : TypeTable} {present next final : Traversal} {event : Event}

/-- A mark may change, but a type never loses it. -/
theorem Step.stays_marked (step : Step table present event next) (managed : String)
    (isMarked : present.pass.visit? managed ≠ none) : next.pass.visit? managed ≠ none := by
  cases step with
  | turn => exact isMarked
  | enter => exact visit?_mark_ne_none _ isMarked
  | answer _ _ closed =>
      rw [snd_walk_of_closed closed]
      split
      · exact visit?_mark_ne_none _ isMarked
      · exact isMarked
  | descend => exact isMarked
  | look _ _ _ _ _ _ noCall => rwa [visit?_fieldLayout_of_noCall noCall]
  | leave _ frame _ _ pass =>
      rw [visit?_settle, frame.visit?_whole]
      split
      · exact Option.some_ne_none _
      · rwa [frame.visit?_whole]

/-- No type loses its mark later on. -/
theorem Steps.stays_marked {events : List Event} (steps : Steps table present events final)
    (managed : String) (isMarked : present.pass.visit? managed ≠ none) :
    final.pass.visit? managed ≠ none := by
  induction steps with
  | refl => exact isMarked
  | head step _ ih => exact ih (step.stays_marked managed isMarked)

/-- The types without a mark never weigh more than before. -/
theorem Steps.unmarked_le (weight : Blittable → Nat) {events : List Event}
    (steps : Steps table present events final) (types : List Blittable) :
    unmarked weight final.pass types ≤ unmarked weight present.pass types :=
  LayoutPass.unmarked_le weight steps.stays_marked types

/-- Each call returns what the walk with some fuel returns, if there is more fuel than types
without a mark, and leaves the types being walked as they are. -/
def Returns (table : TypeTable) (fuel : Nat) : Prop :=
  ∀ waiting managed stack pass, unmarked (fun _ => 1) pass table.types < fuel →
    ∃ events, Steps table ⟨waiting, some managed, stack, pass⟩ events
      ⟨waiting, none, Frame.deliver (walk table fuel managed pass).1 stack,
        (walk table fuel managed pass).2⟩

/-- The layouts of fields stand under their names. -/
theorem map_fst_fieldLayouts {walk : Walk} {owner : String} {fields : List BlittableField}
    {pass : LayoutPass} {entries : List (String × Layout)}
    (isEntries : (fieldLayouts table walk owner fields pass).1 = some entries) :
    entries.map Prod.fst = fields.map BlittableField.name := by
  induction fields generalizing pass entries with
  | nil =>
      cases isEntries
      rfl
  | cons field rest ih =>
      rw [fieldLayouts_cons] at isEntries
      obtain ⟨layout, -, others⟩ := Option.bind_eq_some_iff.mp isEntries
      obtain ⟨remaining, isRemaining, rfl⟩ := Option.map_eq_some_iff.mp others
      simp [ih isRemaining]

/-- Looking at the first field of the innermost type, whether that calls a type or not. -/
theorem steps_field {fuel : Nat} (returns : Returns table fuel) (waiting : List Blittable)
    (type : Blittable) (field : BlittableField) (rest : List BlittableField)
    (layouts : Option (List Layout)) (outer : List Frame) {pass : LayoutPass}
    (enough : unmarked (fun _ => 1) pass table.types < fuel) :
    ∃ events, Steps table ⟨waiting, none, ⟨type, field :: rest, layouts⟩ :: outer, pass⟩ events
      ⟨waiting, none,
        Frame.accept ⟨type, rest, layouts⟩
          (fieldLayout table (walk table fuel) type.managed field pass).1 :: outer,
        (fieldLayout table (walk table fuel) type.managed field pass).2⟩ := by
  by_cases called : ∃ part, table.fieldKind field.type = .registered part
  · obtain ⟨part, kind⟩ := called
    obtain ⟨events, inner⟩ :=
      returns waiting part (⟨type, rest, layouts⟩ :: outer) pass enough
    rw [fieldLayout_eq, kind]
    exact ⟨_, .head (.descend waiting type rest layouts outer pass kind) inner⟩
  · have noCall := not_exists.mp called
    rw [fieldLayout_of_noCall noCall (walk table 0)]
    exact ⟨_, (Step.look waiting type rest layouts outer pass noCall).steps⟩

/-- Looking at all fields of the innermost type collects their layouts. -/
theorem steps_fields {fuel : Nat} (returns : Returns table fuel) (waiting : List Blittable)
    (type : Blittable) (fields : List BlittableField) (layouts : Option (List Layout))
    (outer : List Frame) {pass : LayoutPass}
    (enough : unmarked (fun _ => 1) pass table.types < fuel) :
    ∃ events, Steps table ⟨waiting, none, ⟨type, fields, layouts⟩ :: outer, pass⟩ events
      ⟨waiting, none,
        Frame.finish ⟨type, fields, layouts⟩
          (fieldLayouts table (walk table fuel) type.managed fields pass).1 :: outer,
        (fieldLayouts table (walk table fuel) type.managed fields pass).2⟩ := by
  induction fields generalizing layouts pass with
  | nil =>
      rw [fieldLayouts, Frame.finish_nil]
      exact ⟨[], .refl _⟩
  | cons field rest ih =>
      obtain ⟨events, first⟩ :=
        steps_field returns waiting type field rest layouts outer enough
      -- What was walked for the first field has its mark, so the fuel is enough for the others.
      have stillEnough := Nat.lt_of_le_of_lt (first.unmarked_le (fun _ => 1) table.types) enough
      obtain ⟨later, others⟩ := ih _ stillEnough
      rw [fieldLayouts_cons, ← Frame.finish_accept]
      exact ⟨events ++ later, first.trans others⟩

/-- A type that was entered is left with its layout, and its call is answered. -/
theorem steps_shape {fuel : Nat} (returns : Returns table fuel) (waiting : List Blittable)
    (type : Blittable) (outer : List Frame) {pass : LayoutPass}
    (enough : unmarked (fun _ => 1) pass table.types < fuel) :
    ∃ events, Steps table ⟨waiting, none, .enter type :: outer, pass⟩ events
      ⟨waiting, none,
        Frame.deliver
          (settle type.managed (shapeLayout table (walk table fuel) type pass).1
            (shapeLayout table (walk table fuel) type pass).2).1 outer,
        (settle type.managed (shapeLayout table (walk table fuel) type pass).1
          (shapeLayout table (walk table fuel) type pass).2).2⟩ := by
  cases shape : type.shape with
  | enumeration repr variants =>
      have noFields : (Frame.enter type).rest = [] := by
        simp [Frame.enter, Blittable.fields, shape]
      have whole : (Frame.enter type).whole table pass
          = shapeLayout table (walk table fuel) type pass := by
        have isEnumeration : (Frame.enter type).type.shape = .enumeration repr variants := shape
        rw [Frame.whole, isEnumeration, Frame.enter, shapeLayout, shapeLayout, shape]
      have left := (Step.leave waiting _ noFields outer pass : Step table _ _ _).steps
      rw [whole] at left
      exact ⟨_, left⟩
  | record fields =>
      have hasFields : type.fields = fields := by simp [Blittable.fields, shape]
      obtain ⟨events, looked⟩ :=
        steps_fields returns waiting type fields (some []) outer enough
      have whole : (Frame.finish ⟨type, fields, some []⟩
            (fieldLayouts table (walk table fuel) type.managed fields pass).1).whole table
            (fieldLayouts table (walk table fuel) type.managed fields pass).2
          = shapeLayout table (walk table fuel) type pass := by
        simp only [Frame.whole, Frame.finish, shapeLayout, shape]
        cases isEntries : (fieldLayouts table (walk table fuel) type.managed fields pass).1 with
        | none => rfl
        | some entries =>
            have zipped : (fields.map BlittableField.name).zip (entries.map Prod.snd) = entries :=
              (List.zip_of_prod (map_fst_fieldLayouts isEntries) rfl).symm
            simp [zipped]
      have left := (Step.leave waiting
        (Frame.finish ⟨type, fields, some []⟩
          (fieldLayouts table (walk table fuel) type.managed fields pass).1) rfl outer
        (fieldLayouts table (walk table fuel) type.managed fields pass).2 :
          Step table _ _ _).steps
      rw [whole] at left
      rw [Frame.enter, hasFields]
      exact ⟨_, looked.trans left⟩

/-- With more fuel than types without a mark, every call returns what its walk returns. -/
theorem returns (fuel : Nat) : Returns table fuel := by
  induction fuel with
  | zero =>
      intro waiting managed stack pass enough
      exact absurd enough (Nat.not_lt_zero _)
  | succ fuel ih =>
      intro waiting managed stack pass enough
      by_cases closed : pass.visit? managed ≠ none ∨ table.find? managed = none
      · rw [walk_of_closed closed]
        exact ⟨_, (Step.answer waiting stack closed).steps⟩
      · rw [not_or, not_not] at closed
        obtain ⟨isUnmarked, known⟩ := closed
        obtain ⟨type, found⟩ := Option.ne_none_iff_exists'.mp known
        obtain ⟨isType, rfl⟩ := TypeTable.find?_some found
        have lighter := unmarked_mark (fun _ => 1) isType isUnmarked .inProgress
        obtain ⟨events, inner⟩ := steps_shape ih waiting type stack
          (Nat.lt_of_succ_lt_succ (Nat.lt_of_le_of_lt lighter enough))
        have walked : walk table (fuel + 1) type.managed pass
            = settle type.managed
                (shapeLayout table (walk table fuel) type (pass.mark type.managed .inProgress)).1
                (shapeLayout table (walk table fuel) type
                  (pass.mark type.managed .inProgress)).2 := by
          simp [walk, isUnmarked, found]
        rw [walked]
        exact ⟨_, .head (.enter waiting stack isUnmarked found) inner⟩

/-- Calling types of the table in turn walks them in turn. -/
theorem steps_turns {fuel : Nat} (enough : table.types.length < fuel) (types : List Blittable)
    (pass : LayoutPass) :
    ∃ events, Steps table ⟨types, none, [], pass⟩ events
      (ended (types.foldl (fun pass type => (walk table fuel type.managed pass).2) pass)) := by
  induction types generalizing pass with
  | nil => exact ⟨[], .refl _⟩
  | cons type rest ih =>
      obtain ⟨events, called⟩ := returns fuel rest type.managed [] pass
        (Nat.lt_of_le_of_lt (unmarked_one_le pass table.types) enough)
      obtain ⟨later, others⟩ := ih (walk table fuel type.managed pass).2
      exact ⟨_, .head (.turn type rest pass) (called.trans others)⟩

/-- The walk of a table ends with what the layout pass knows. -/
theorem steps_run (table : TypeTable) :
    ∃ events, Steps table (start table) events (ended (run table)) :=
  steps_turns (Nat.lt_succ_self _) table.types LayoutPass.start

end Traversal

end LayoutPass

end NativeBridge

import NativeBridge.Proofs.TypeMap.Traversal

/-!
# The walk of a table ends

Containment may be cyclic, so nothing in the types themselves bounds the walk. What does is
that a type gets its mark when it is entered and keeps some mark ever after:
`Traversal.Step.work_lt`. The same marks say that no type is entered twice, while it is being
walked or later, although a type may fail before it is left:
`Traversal.pass_enters_each_once`.
-/

namespace NativeBridge

namespace LayoutPass

/-- The types that are being walked, the innermost first, and what the pass knows. -/
structure Walking (table : TypeTable) (types : List Blittable) (pass : LayoutPass) : Prop where
  /-- No type is being walked twice. -/
  distinct : (types.map Blittable.managed).Nodup
  found : ∀ type ∈ types, table.find? type.managed = some type
  /-- A type that is being walked may have failed already. -/
  unsettled : ∀ type ∈ types, pass.visit? type.managed = some .inProgress ∨
    pass.visit? type.managed = some .failed
  /-- Only what is done has a layout. -/
  bare : ∀ managed, pass.visit? managed ≠ some .done → pass.layout? managed = none

namespace Walking

variable {table : TypeTable} {types : List Blittable} {pass next : LayoutPass}

/-- Nothing is being walked at the start. -/
theorem start (table : TypeTable) : Walking table [] LayoutPass.start where
  distinct := List.nodup_nil
  found := by simp
  unsettled := by simp
  bare := fun _ _ => rfl

/-- A type that is being walked has a mark. -/
theorem marked (walking : Walking table types pass) {type : Blittable} (isWalked : type ∈ types) :
    pass.visit? type.managed ≠ none := by
  rcases walking.unsettled type isWalked with inProgress | isFailed
  · simp [inProgress]
  · simp [isFailed]

/-- Every type that is being walked is another registered one. -/
theorem length_le (walking : Walking table types pass) : types.length ≤ table.types.length :=
  (List.subperm_of_subset (List.Nodup.of_map _ walking.distinct) fun type isWalked =>
    (TypeTable.find?_some (walking.found type isWalked)).1).length_le

/-- Faults matter to no mark and no layout. -/
theorem report (walking : Walking table types pass)
    (kept : next = pass ∨ ∃ fault, next = pass.report fault) : Walking table types next := by
  rcases kept with rfl | ⟨fault, rfl⟩
  · exact walking
  · exact ⟨walking.distinct, walking.found, walking.unsettled, walking.bare⟩

/-- A type without a mark is entered. -/
theorem enter (walking : Walking table types pass) {managed : String} {type : Blittable}
    (unmarked : pass.visit? managed = none) (found : table.find? managed = some type) :
    Walking table (type :: types) (pass.mark managed .inProgress) := by
  have sameName := (TypeTable.find?_some found).2
  subst sameName
  have fresh : type.managed ∉ types.map Blittable.managed := by
    intro isName
    obtain ⟨other, isWalked, sameName⟩ := List.mem_map.mp isName
    exact walking.marked isWalked (sameName ▸ unmarked)
  refine ⟨List.nodup_cons.mpr ⟨fresh, walking.distinct⟩, ?_, ?_, ?_⟩
  · exact List.forall_mem_cons.mpr ⟨found, walking.found⟩
  · refine List.forall_mem_cons.mpr ⟨.inl (visit?_mark_self _ _ _), fun other isWalked => ?_⟩
    rw [visit?_mark_of_ne pass _ (ne_of_mem_of_not_mem (List.mem_map_of_mem isWalked) fresh)]
    exact walking.unsettled other isWalked
  · intro other notDone
    refine walking.bare other fun isDone => notDone ?_
    rw [visit?_mark_of_ne pass _ (fun same => by simp [same, unmarked] at isDone)]
    exact isDone

/-- A type that is being walked fails where it is. -/
theorem fail (walking : Walking table types pass) {managed : String}
    (inProgress : pass.visit? managed = some .inProgress) :
    Walking table types (pass.mark managed .failed) := by
  refine ⟨walking.distinct, walking.found, fun type isWalked => ?_, fun other notDone => ?_⟩
  · rw [visit?_mark]
    split
    · exact .inr rfl
    · exact walking.unsettled type isWalked
  · refine walking.bare other fun isDone => notDone ?_
    rw [visit?_mark_of_ne pass _ (fun same => by simp [same, inProgress] at isDone)]
    exact isDone

/-- The innermost type is settled. -/
theorem settle {type : Blittable} (walking : Walking table (type :: types) pass)
    (whole : Option StructLayout) :
    Walking table types (LayoutPass.settle type.managed whole pass).2 := by
  obtain ⟨fresh, distinct⟩ := List.nodup_cons.mp walking.distinct
  obtain ⟨-, found⟩ := List.forall_mem_cons.mp walking.found
  obtain ⟨own, unsettled⟩ := List.forall_mem_cons.mp walking.unsettled
  refine ⟨distinct, found, fun other isWalked => ?_, fun other notDone => ?_⟩
  · rw [visit?_settle, if_neg (ne_of_mem_of_not_mem (List.mem_map_of_mem isWalked) fresh)]
    exact unsettled other isWalked
  · rw [visit?_settle] at notDone
    rw [layout?_settle]
    by_cases same : other = type.managed
    · subst same
      have hadNone := walking.bare type.managed (by rcases own with mark | mark <;> simp [mark])
      cases whole with
      | none => simp [hadNone]
      | some whole =>
          have isFailed : pass.visit? type.managed = some .failed := by simpa using notDone
          simp [hadNone, isFailed]
    · rw [if_neg same] at notDone
      rw [if_neg fun both => same both.1]
      exact walking.bare other notDone

end Walking

namespace Traversal

variable {table : TypeTable} {present next final : Traversal} {event : Event}

/-- The types on the stack are being walked, by what is known. -/
def Proper (table : TypeTable) (present : Traversal) : Prop :=
  Walking table (present.stack.map Frame.type) present.pass

/-- A step neither enters a type that is being walked nor settles one before it is left. -/
theorem Step.proper (step : Step table present event next) (proper : present.Proper table) :
    next.Proper table := by
  cases step with
  | turn => exact proper
  | enter _ _ unmarked found => exact Walking.enter proper unmarked found
  | answer _ _ closed =>
      rw [Proper, Frame.map_deliver _ fun _ _ => rfl, snd_walk_of_closed closed]
      split
      · rename_i inProgress
        exact (Walking.fail proper inProgress).report (.inr ⟨_, rfl⟩)
      · exact proper
  | descend => exact proper
  | look _ _ _ _ _ _ noCall =>
      rw [Proper, Frame.map_deliver _ fun _ _ => rfl]
      exact Walking.report proper (snd_fieldLayout_of_noCall noCall)
  | leave _ frame _ _ pass =>
      rw [Proper, Frame.map_deliver _ fun _ _ => rfl]
      exact (Walking.report proper (frame.snd_whole table pass)).settle _

/-- No run does either. -/
theorem Steps.proper {events : List Event} (steps : Steps table present events final)
    (proper : present.Proper table) : final.Proper table := by
  induction steps with
  | refl => exact proper
  | head step _ ih => exact ih (step.proper proper)

/-- How many steps the types being walked have left by themselves: each field is looked at and
may call a type, and at last the type is left. -/
def stackWork : List Frame → Nat
  | [] => 0
  | frame :: outer => 2 * frame.rest.length + 1 + stackWork outer

/-- An answer is no further work. -/
theorem stackWork_deliver (layout : Option Layout) (stack : List Frame) :
    stackWork (Frame.deliver layout stack) = stackWork stack := by
  cases stack <;> rfl

/-- How many steps there can be: types without a mark may still be entered, the others not. -/
def work (table : TypeTable) (present : Traversal) : Nat :=
  unmarked (fun type => stackWork [.enter type]) present.pass table.types
    + 2 * present.waiting.length + present.called.toList.length + stackWork present.stack

/-- Entering a type uses up its mark, and any other step a call, a field or a type to leave. -/
theorem Step.work_lt (step : Step table present event next) :
    next.work table < present.work table := by
  have stays := unmarked_le (fun type => stackWork [.enter type]) step.stays_marked table.types
  cases step with
  | turn =>
      simp only [work, List.length_cons, Option.toList_some, Option.toList_none, List.length_nil]
      omega
  | enter _ _ isUnmarked found =>
      obtain ⟨isType, rfl⟩ := TypeTable.find?_some found
      have lighter := unmarked_mark (fun type => stackWork [.enter type]) isType isUnmarked
        .inProgress
      simp only [work, stackWork, Option.toList_some, Option.toList_none, List.length_cons,
        List.length_nil] at lighter ⊢
      omega
  | answer =>
      simp only [work, stackWork_deliver, Option.toList_some, Option.toList_none,
        List.length_cons, List.length_nil] at stays ⊢
      omega
  | descend =>
      simp only [work, stackWork, List.length_cons, Option.toList_some, Option.toList_none,
        List.length_nil]
      omega
  | look =>
      simp only [work, stackWork_deliver, stackWork, List.length_cons] at stays ⊢
      omega
  | leave =>
      simp only [work, stackWork_deliver, stackWork] at stays ⊢
      omega

/-- From no moment are there steps without end. -/
theorem wellFounded_step (table : TypeTable) :
    WellFounded fun next present : Traversal => ∃ event, Step table present event next :=
  Subrelation.wf (fun ⟨_, step⟩ => step.work_lt) (InvImage.wf (work table) Nat.lt_wfRel.wf)

namespace Event

/-- The type that is entered. -/
def entered? : Event → Option String
  | .entered managed => some managed
  | _ => none

/-- The field of a type that is looked at. -/
def looked? (managed : String) : Event → Option BlittableField
  | .looked owner field => if owner = managed then some field else none
  | _ => none

end Event

/-- A type is entered only without a mark, and it gets one. -/
theorem Step.entered (step : Step table present event next) {managed : String}
    (enters : event.entered? = some managed) :
    present.pass.visit? managed = none ∧ next.pass.visit? managed = some .inProgress := by
  cases step with
  | enter _ _ isUnmarked found =>
      cases enters
      exact ⟨isUnmarked, visit?_mark_self _ _ _⟩
  | turn | answer | descend | look | leave => cases enters

/-- Only the type that is entered gets a mark that it did not have. -/
theorem Step.visit?_ne_none_iff (step : Step table present event next)
    (proper : present.Proper table) (managed : String) :
    next.pass.visit? managed ≠ none ↔
      present.pass.visit? managed ≠ none ∨ event.entered? = some managed := by
  constructor
  · intro isMarked
    cases step with
    | turn => exact .inl isMarked
    | @enter _ entered =>
        by_cases same : managed = entered
        · exact .inr (congrArg some same.symm)
        · rw [visit?_mark_of_ne _ _ same] at isMarked
          exact .inl isMarked
    | @answer _ called _ pass closed =>
        rw [snd_walk_of_closed closed] at isMarked
        split at isMarked
        · rename_i inProgress
          by_cases same : managed = called
          · exact .inl (by simp [same, inProgress])
          · rw [visit?_report, visit?_mark_of_ne _ _ same] at isMarked
            exact .inl isMarked
        · exact .inl isMarked
    | descend => exact .inl isMarked
    | look _ _ _ _ _ _ noCall =>
        rw [visit?_fieldLayout_of_noCall noCall] at isMarked
        exact .inl isMarked
    | leave _ frame =>
        by_cases same : managed = frame.type.managed
        · subst same
          exact .inl (Walking.marked proper List.mem_cons_self)
        · rw [visit?_settle, if_neg same, frame.visit?_whole] at isMarked
          exact .inl isMarked
  · rintro (isMarked | enters)
    · exact step.stays_marked managed isMarked
    · simp [(step.entered enters).2]

/-- Along a run, each type that has a mark at the end without one at the beginning was entered
once, and no other. -/
theorem Steps.entered {events : List Event} (steps : Steps table present events final)
    (proper : present.Proper table) :
    (events.filterMap Event.entered?).Nodup ∧ ∀ managed,
      managed ∈ events.filterMap Event.entered? ↔
        present.pass.visit? managed = none ∧ final.pass.visit? managed ≠ none := by
  induction steps with
  | refl => simp
  | @head present next final event events step rest ih =>
      obtain ⟨once, entered_iff⟩ := ih (step.proper proper)
      have marks := step.visit?_ne_none_iff proper
      cases enters : event.entered? with
      | none =>
          rw [List.filterMap_cons_none enters]
          refine ⟨once, fun managed => (entered_iff managed).trans ?_⟩
          have same : next.pass.visit? managed = none ↔ present.pass.visit? managed = none := by
            simpa [enters] using not_congr (marks managed)
          rw [same]
      | some entered =>
          obtain ⟨wasUnmarked, inProgress⟩ := step.entered enters
          rw [List.filterMap_cons_some enters]
          refine ⟨List.nodup_cons.mpr ⟨fun again => ?_, once⟩, fun managed => ?_⟩
          · -- What is entered later has no mark before that, but this type has one by now.
            have freshNext := ((entered_iff entered).mp again).1
            simp [inProgress] at freshNext
          · by_cases same : managed = entered
            · subst same
              have marked := rest.stays_marked managed (by simp [inProgress])
              simp [wasUnmarked, marked]
            · have others : next.pass.visit? managed = none ↔
                  present.pass.visit? managed = none := by
                simpa [enters, Ne.symm same] using not_congr (marks managed)
              rw [List.mem_cons, or_iff_right same, entered_iff, others]

/-- The fields of a type that its walk, if it is being walked, has left to look at. -/
def leftOf (managed : String) (stack : List Frame) : List BlittableField :=
  (stack.map fun frame => if frame.type.managed = managed then frame.rest else []).flatten

/-- The fields of a type that are still to be looked at: all of them until it is entered. -/
def unlooked (table : TypeTable) (managed : String) (present : Traversal) : List BlittableField :=
  if present.pass.visit? managed = none then ((table.find? managed).map Blittable.fields).getD []
  else leftOf managed present.stack

/-- A type that is not being walked has no field left. -/
theorem leftOf_eq_nil {managed : String} {stack : List Frame}
    (notWalked : ∀ frame ∈ stack, frame.type.managed ≠ managed) : leftOf managed stack = [] := by
  rw [leftOf, List.flatten_eq_nil_iff]
  intro fields isFields
  obtain ⟨frame, isFrame, rfl⟩ := List.mem_map.mp isFields
  exact if_neg (notWalked frame isFrame)

/-- Where no type gets a mark, only looking at a field leaves fewer of them. -/
theorem unlooked_of_leftOf {managed : String} {fields : List BlittableField}
    (kept : next.pass.visit? managed ≠ none ↔ present.pass.visit? managed ≠ none)
    (looked : present.pass.visit? managed = none → fields = [])
    (left : leftOf managed present.stack = fields ++ leftOf managed next.stack) :
    present.unlooked table managed = fields ++ next.unlooked table managed := by
  by_cases isUnmarked : present.pass.visit? managed = none
  · rw [looked isUnmarked, unlooked, unlooked, if_pos isUnmarked,
      if_pos ((not_iff_not.mp kept).mpr isUnmarked), List.nil_append]
  · rw [unlooked, unlooked, if_neg isUnmarked, if_neg (kept.mpr isUnmarked), left]

/-- A field is looked at once: that takes it from the fields that are still to be looked at, and
no other step changes these. -/
theorem Step.unlooked (step : Step table present event next) (proper : present.Proper table)
    (managed : String) :
    present.unlooked table managed
      = (event.looked? managed).toList ++ next.unlooked table managed := by
  have marks := step.visit?_ne_none_iff proper managed
  have delivered := Frame.map_deliver
    (fun frame => if frame.type.managed = managed then frame.rest else []) fun _ _ => rfl
  -- Only a type that is being walked is looked at, and such a type has a mark.
  have looked : ∀ frame ∈ present.stack, present.pass.visit? managed = none →
      frame.type.managed ≠ managed := by
    intro frame isFrame isUnmarked isName
    exact Walking.marked proper (List.mem_map_of_mem isFrame) (isName ▸ isUnmarked)
  cases step with
  | turn => rfl
  | @enter _ entered type stack pass isUnmarked found =>
      have sameName := (TypeTable.find?_some found).2
      by_cases same : managed = entered
      · subst same
        have noneLeft := leftOf_eq_nil fun frame isFrame => looked frame isFrame isUnmarked
        rw [leftOf] at noneLeft
        simp [Traversal.unlooked, Event.looked?, isUnmarked, found, visit?_mark_self, leftOf,
          Frame.enter, sameName, noneLeft]
      · refine unlooked_of_leftOf (by simp [visit?_mark_of_ne _ _ same]) (fun _ => rfl) ?_
        simp [leftOf, Event.looked?, Frame.enter, sameName, Ne.symm same]
  | answer =>
      refine unlooked_of_leftOf (by simpa [Event.entered?] using marks) (fun _ => rfl) ?_
      simp [leftOf, Event.looked?, delivered]
  | @descend _ type field rest layouts outer pass =>
      refine unlooked_of_leftOf Iff.rfl (fun isUnmarked => ?_) ?_
      · simp [Event.looked?, looked _ List.mem_cons_self isUnmarked]
      · by_cases same : type.managed = managed
        · simp [leftOf, Event.looked?, same]
        · simp [leftOf, Event.looked?, same]
  | @look _ type field rest layouts outer pass =>
      refine unlooked_of_leftOf (by simpa [Event.entered?] using marks) (fun isUnmarked => ?_) ?_
      · simp [Event.looked?, looked _ List.mem_cons_self isUnmarked]
      · by_cases same : type.managed = managed
        · simp [leftOf, Event.looked?, delivered, same]
        · simp [leftOf, Event.looked?, delivered, same]
  | leave _ _ last =>
      refine unlooked_of_leftOf (by simpa [Event.entered?] using marks) (fun _ => rfl) ?_
      simp [leftOf, Event.looked?, delivered, last]

/-- Along a run, the fields that were looked at come before those that are still to be. -/
theorem Steps.unlooked {events : List Event} (steps : Steps table present events final)
    (proper : present.Proper table) (managed : String) :
    present.unlooked table managed
      = events.filterMap (Event.looked? managed) ++ final.unlooked table managed := by
  induction steps with
  | refl => rfl
  | @head _ _ _ event _ step rest ih =>
      rw [step.unlooked proper managed, ih (step.proper proper)]
      cases isField : event.looked? managed with
      | none => rw [List.filterMap_cons_none isField, Option.toList_none, List.nil_append]
      | some field =>
          rw [List.filterMap_cons_some isField, Option.toList_some, List.singleton_append,
            List.cons_append]

/-- At the start nothing is being walked. -/
theorem proper_start (table : TypeTable) : (start table).Proper table :=
  Walking.start table

end Traversal

/-- A type that the pass is through with: laid out or failed, and then without a layout. -/
def Settled (pass : LayoutPass) (managed : String) : Prop :=
  (pass.visit? managed = some .done ∧ ∃ layout, pass.layout? managed = some layout) ∨
    (pass.visit? managed = some .failed ∧ pass.layout? managed = none)

/-- The pass is through with every registered type. -/
theorem settled_run {table : TypeTable} {type : Blittable} (isType : type ∈ table.types) :
    Settled (run table) type.managed := by
  obtain ⟨finished, reported, tracks, all⟩ := run_tracks table
  obtain ⟨events, ends⟩ := Traversal.steps_run table
  rcases tracks.settled type.managed (all type isType) with isDone | isFailed
  · obtain ⟨layout, isLayout, -⟩ := tracks.laidOut type.managed isDone
    exact .inl ⟨isDone, layout, isLayout⟩
  · have walking := ends.proper (Traversal.proper_start table)
    exact .inr ⟨isFailed, walking.bare type.managed (by simp [Traversal.ended, isFailed])⟩

/-- A type whose walk is through has a mark. -/
theorem Settled.marked {pass : LayoutPass} {managed : String} (settled : Settled pass managed) :
    pass.visit? managed ≠ none := by
  rcases settled with ⟨isDone, -⟩ | ⟨isFailed, -⟩
  · simp [isDone]
  · simp [isFailed]

/-- After the pass exactly the registered types have a mark. -/
theorem visit?_run_ne_none_iff {table : TypeTable} {managed : String} :
    (run table).visit? managed ≠ none ↔ managed ∈ table.types.map Blittable.managed := by
  constructor
  · intro marked
    obtain ⟨finished, reported, tracks, -⟩ := run_tracks table
    have registered : table.contains managed = true := by
      rcases tracks.seen marked with walked | left
      · cases walked
      · exact tracks.registered managed left
    exact List.mem_map.mpr (TypeTable.contains_iff.mp registered)
  · intro isName
    obtain ⟨type, isType, rfl⟩ := List.mem_map.mp isName
    exact (settled_run isType).marked

namespace Traversal

/-- What happens, from the first step to the last, when all types of a table are walked. -/
structure WalksEachOnce (table : TypeTable) (events : List Event) : Prop where
  /-- The walk ends, with what the layout pass knows. -/
  ends : Steps table (start table) events (ended (run table))
  /-- Nothing else can happen: every other run is a beginning of this one. -/
  only : ∀ earlier present, Steps table (start table) earlier present → earlier <+: events
  /-- Every registered type is entered once, and no other. -/
  entered : (events.filterMap Event.entered?).Perm (table.types.map Blittable.managed)
  /-- Every field of a registered type is looked at once, in the order of the fields. -/
  looked : ∀ type ∈ table.types, events.filterMap (Event.looked? type.managed) = type.fields

/-- The walk of a table without repeated names enters each type once. -/
theorem exists_walksEachOnce {table : TypeTable} (distinct : table.Distinct) :
    ∃ events, WalksEachOnce table events := by
  obtain ⟨events, ends⟩ := steps_run table
  have proper := proper_start table
  obtain ⟨once, entered_iff⟩ := ends.entered proper
  refine ⟨events, ends, ?_, ?_, ?_⟩
  · intro earlier present steps
    obtain ⟨later, rfl, -⟩ := ends.completes (fun _ _ => not_step_ended _) steps
    exact List.prefix_append earlier later
  · refine (List.perm_ext_iff_of_nodup once distinct).mpr fun managed => ?_
    rw [entered_iff, ← visit?_run_ne_none_iff]
    exact and_iff_right rfl
  · intro type isType
    have before : (start table).unlooked table type.managed = type.fields := by
      have unmarked : (start table).pass.visit? type.managed = none := rfl
      simp [Traversal.unlooked, unmarked, TypeTable.find?_managed distinct isType]
    have after : (ended (run table)).unlooked table type.managed = [] :=
      if_neg (settled_run isType).marked
    rw [← before, ends.unlooked proper, after, List.append_nil]

/-- However types are registered, and however they contain each other, the walk of the table
cannot go on for ever, and every call of a type returns what its walk returns. A type is entered
only without a mark, gets one, and never loses it; never are more types being walked than are
registered. So each is entered once and each of its fields looked at once, and at the end each
is done or has failed. -/
theorem pass_enters_each_once (target : Target) (types : List Blittable) :
    let table := TypeTable.ofTypes target types
    (WellFounded fun next present => ∃ event, Step table present event next) ∧
      (∀ waiting managed stack pass, ∃ events,
        Steps table ⟨waiting, some managed, stack, pass⟩ events
          ⟨waiting, none,
            Frame.deliver (walk table (table.types.length + 1) managed pass).1 stack,
            (walk table (table.types.length + 1) managed pass).2⟩) ∧
      (∀ present event next, Step table present event next → ∀ managed,
        (event.entered? = some managed → present.pass.visit? managed = none ∧
          next.pass.visit? managed = some .inProgress) ∧
        (present.pass.visit? managed ≠ none → next.pass.visit? managed ≠ none)) ∧
      (∀ events present, Steps table (start table) events present →
        present.stack.length ≤ table.types.length) ∧
      (∃ events, WalksEachOnce table events) ∧
      ∀ type ∈ table.types, Settled (run table) type.managed := by
  intro table
  have distinct := TypeTable.ofTypes_distinct target types
  refine ⟨wellFounded_step table, ?_, ?_, ?_, ?_, ?_⟩
  · intro waiting managed stack pass
    exact returns _ waiting managed stack pass
      (Nat.lt_succ_of_le (unmarked_one_le pass table.types))
  · intro present event next step managed
    exact ⟨step.entered, step.stays_marked managed⟩
  · intro events present steps
    simpa using Walking.length_le (steps.proper (proper_start table))
  · exact exists_walksEachOnce distinct
  · exact fun type isType => settled_run isType

/-- A structure that contains itself and then another one, a structure of the first one and of
an enumeration, and these two. -/
def nodeTypes : List Blittable :=
  [⟨"Node", "interop", "retro::Node", none,
      .record [⟨"next", .path "Node", ⟨"node.rs", 2, 5, 4⟩⟩,
        ⟨"place", .path "interop::Vec2", ⟨"node.rs", 3, 5, 5⟩⟩], ⟨"node.rs", 1, 1, 8⟩⟩,
    ⟨"Tree", "interop", "retro::Tree", none,
      .record [⟨"root", .path "Node", ⟨"tree.rs", 2, 5, 4⟩⟩,
        ⟨"level", .path "Level", ⟨"tree.rs", 3, 5, 5⟩⟩], ⟨"tree.rs", 1, 1, 8⟩⟩,
    ⟨"Vec2", "interop", "retro::Vector2", none,
      .record [⟨"x", .path "f32", .synthetic⟩, ⟨"y", .path "f32", .synthetic⟩], .synthetic⟩,
    ⟨"Level", "interop", "retro::Level", none, .enumeration .uint8 ["Low", "High"], .synthetic⟩]

/-- A structure fails while it is being walked, and its other field is looked at all the same;
nothing is walked again for the structure around it. -/
theorem pass_enters_each_once_node :
    ∃ events, WalksEachOnce (TypeTable.ofTypes ⟨8, 8⟩ nodeTypes) events ∧
      (events.filterMap Event.entered?).Perm ["Node", "Tree", "Vec2", "Level"] ∧
      (events.filterMap (Event.looked? "Node")).map BlittableField.name = ["next", "place"] ∧
      (∀ managed ∈ ["Node", "Tree"],
        (run (TypeTable.ofTypes ⟨8, 8⟩ nodeTypes)).visit? managed = some .failed ∧
          (run (TypeTable.ofTypes ⟨8, 8⟩ nodeTypes)).layout? managed = none) ∧
      ∀ managed ∈ ["Vec2", "Level"],
        (run (TypeTable.ofTypes ⟨8, 8⟩ nodeTypes)).visit? managed = some .done := by
  obtain ⟨-, -, -, -, ⟨events, walks⟩, settled⟩ := pass_enters_each_once ⟨8, 8⟩ nodeTypes
  have names : (TypeTable.ofTypes ⟨8, 8⟩ nodeTypes).types.map Blittable.managed
      = ["Node", "Tree", "Vec2", "Level"] := by
    decide +kernel
  have node : ∃ type ∈ (TypeTable.ofTypes ⟨8, 8⟩ nodeTypes).types, type.managed = "Node" ∧
      type.fields.map BlittableField.name = ["next", "place"] := by
    decide +kernel
  have failed : ∀ managed ∈ ["Node", "Tree"],
      (run (TypeTable.ofTypes ⟨8, 8⟩ nodeTypes)).visit? managed = some .failed := by
    decide +kernel
  obtain ⟨type, isType, isNode, fields⟩ := node
  refine ⟨events, walks, names ▸ walks.entered, ?_, fun managed isFailed => ?_, by decide +kernel⟩
  · rw [← isNode, walks.looked type isType]
    exact fields
  · have isName : managed ∈ (TypeTable.ofTypes ⟨8, 8⟩ nodeTypes).types.map Blittable.managed := by
      rw [names]
      exact List.mem_append_left ["Vec2", "Level"] isFailed
    obtain ⟨other, isOther, rfl⟩ := List.mem_map.mp isName
    refine ⟨failed _ isFailed, ?_⟩
    rcases settled other isOther with ⟨isDone, -⟩ | ⟨-, noLayout⟩
    · rw [failed _ isFailed] at isDone
      cases isDone
    · exact noLayout

end Traversal

end LayoutPass

end NativeBridge

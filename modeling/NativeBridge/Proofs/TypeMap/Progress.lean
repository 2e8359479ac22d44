import Mathlib.Data.List.Chain
import Mathlib.Data.List.Perm.Subperm
import NativeBridge.Proofs.TypeMap.Containment

/-!
# What the layout pass has done so far

The marks of the pass do not say in which order types were entered and left.
`Progress` adds that: the types being walked, the types that the walk has left
and the types that it has reported. `Tracks` ties a progress to the marks, the
layouts and the faults of the pass.
-/

namespace NativeBridge

/-- The faults of the type registered under a name. -/
def TypeTable.faultsOf (table : TypeTable) (managed : String) : List BindingError :=
  ((table.find? managed).map (Blittable.faults table)).getD []

/-- The fault of a type that contains itself, at the place of the type. -/
def TypeTable.recursiveFault (table : TypeTable) (managed : String) : BindingError :=
  .recursiveLayout managed (((table.find? managed).map Blittable.location).getD .synthetic)

namespace LayoutPass

/-- How far the walk has come. -/
structure Progress where
  /-- The types that are being walked, the innermost first. -/
  stack : List String
  /-- The faults that the types being walked have shown by themselves. -/
  pending : List BindingError
  /-- The types that the walk has left, the latest first. -/
  finished : List String
  /-- The types that were reported as recursive, the latest first. -/
  reported : List String

namespace Progress

/-- The walk has left a type or reported it. -/
def Met (progress : Progress) (managed : String) : Prop :=
  managed ∈ progress.finished ∨ managed ∈ progress.reported

/-- A later progress, with the same types being walked. -/
structure Grows (earlier later : Progress) : Prop where
  stack : later.stack = earlier.stack
  pending : earlier.pending ⊆ later.pending
  finished : earlier.finished ⊆ later.finished
  reported : earlier.reported ⊆ later.reported

/-- Nothing changes at first. -/
theorem Grows.refl (progress : Progress) : progress.Grows progress :=
  ⟨rfl, List.Subset.refl _, List.Subset.refl _, List.Subset.refl _⟩

/-- What grows twice grows. -/
theorem Grows.trans {first second third : Progress} (left : first.Grows second)
    (right : second.Grows third) : first.Grows third where
  stack := right.stack.trans left.stack
  pending := List.Subset.trans left.pending right.pending
  finished := List.Subset.trans left.finished right.finished
  reported := List.Subset.trans left.reported right.reported

/-- What was met stays met. -/
theorem Grows.met {earlier later : Progress} (grows : earlier.Grows later) {managed : String}
    (met : earlier.Met managed) : later.Met managed := by
  rcases met with finished | reported
  · exact .inl (grows.finished finished)
  · exact .inr (grows.reported reported)

end Progress

/-- A pass is where a progress says. -/
structure Tracks (table : TypeTable) (progress : Progress) (pass : LayoutPass) : Prop where
  /-- Each type being walked was entered from a field of the type around it. -/
  chain : progress.stack.IsChain fun inner outer => table.Contains outer inner
  /-- A type is entered once. -/
  distinct : (progress.stack ++ progress.finished).Nodup
  registered : ∀ managed ∈ progress.stack ++ progress.finished, table.contains managed = true
  /-- A type is reported once. -/
  distinctReported : progress.reported.Nodup
  /-- Only types that contain themselves are reported. -/
  recursive : ∀ managed ∈ progress.reported, Relation.TransGen table.Contains managed managed
  /-- Other types have no mark. -/
  unseen : ∀ managed, managed ∉ progress.stack → managed ∉ progress.finished →
    pass.visit? managed = none
  walking : ∀ managed ∈ progress.stack, managed ∉ progress.reported →
    pass.visit? managed = some .inProgress
  failed : ∀ managed ∈ progress.reported, pass.visit? managed = some .failed
  settled : ∀ managed ∈ progress.finished, pass.visit? managed = some .done ∨
    pass.visit? managed = some .failed
  /-- What a type contains was left before it or reported. -/
  ordered : ∀ managed older, (managed :: older) <:+ progress.finished →
    ∀ part, table.Contains managed part → part ∈ older ∨ part ∈ progress.reported
  laidOut : ∀ managed, pass.visit? managed = some .done →
    ∃ layout, pass.layout? managed = some layout ∧ LaidOut table managed layout
  /-- Nothing fails without a fault. -/
  faulty : ∀ managed, pass.visit? managed = some .failed → pass.errors ≠ []
  /-- Every fault is accounted for. -/
  errors : pass.errors.Perm (progress.pending ++ progress.finished.flatMap table.faultsOf
    ++ progress.reported.map table.recursiveFault)

/-- The mark of a type is the latest one that it was given. -/
theorem visit?_mark (pass : LayoutPass) (managed other : String) (visit : Visit) :
    (pass.mark managed visit).visit? other
      = if other = managed then some visit else pass.visit? other := by
  by_cases same : other = managed
  · simp [visit?, mark, same]
  · have differ : (other == managed) = false := by simpa using same
    simp [visit?, mark, List.lookup_cons, same, differ]

/-- A type that is marked has that mark. -/
theorem visit?_mark_self (pass : LayoutPass) (managed : String) (visit : Visit) :
    (pass.mark managed visit).visit? managed = some visit :=
  (visit?_mark pass managed managed visit).trans (if_pos rfl)

/-- Marking a type leaves the marks of the others. -/
theorem visit?_mark_of_ne (pass : LayoutPass) {managed other : String} (visit : Visit)
    (differ : other ≠ managed) : (pass.mark managed visit).visit? other = pass.visit? other :=
  (visit?_mark pass managed other visit).trans (if_neg differ)

/-- Marking a type reports nothing. -/
@[simp] theorem errors_mark (pass : LayoutPass) (managed : String) (visit : Visit) :
    (pass.mark managed visit).errors = pass.errors :=
  rfl

/-- A report marks no type. -/
@[simp] theorem visit?_report (pass : LayoutPass) (fault : BindingError) (managed : String) :
    (pass.report fault).visit? managed = pass.visit? managed :=
  rfl

/-- A report adds a fault at the end. -/
@[simp] theorem errors_report (pass : LayoutPass) (fault : BindingError) :
    (pass.report fault).errors = pass.errors ++ [fault] :=
  rfl

namespace Tracks

variable {table : TypeTable} {progress : Progress} {pass : LayoutPass}

/-- Nothing was done at the start. -/
theorem start (table : TypeTable) : Tracks table ⟨[], [], [], []⟩ LayoutPass.start where
  chain := .nil
  distinct := .nil
  registered := by simp
  distinctReported := .nil
  recursive := by simp
  unseen := fun _ _ _ => rfl
  walking := by simp
  failed := by simp
  settled := by simp
  ordered := by simp
  laidOut := fun managed isDone => by cases isDone
  faulty := fun managed isFailed => by cases isFailed
  errors := .nil

/-- No more types are walked than are registered. -/
theorem stack_length_le (tracks : Tracks table progress pass) :
    progress.stack.length ≤ table.types.length := by
  have distinct : progress.stack.Nodup := (List.nodup_append.mp tracks.distinct).1
  have known : progress.stack ⊆ table.types.map Blittable.managed := by
    intro managed walked
    obtain ⟨type, isType, rfl⟩ := TypeTable.contains_iff.mp
      (tracks.registered managed (List.mem_append_left _ walked))
    exact List.mem_map_of_mem isType
  simpa using (List.subperm_of_subset distinct known).length_le

/-- A type with a mark is being walked or was left. -/
theorem seen (tracks : Tracks table progress pass) {managed : String}
    (marked : pass.visit? managed ≠ none) :
    managed ∈ progress.stack ∨ managed ∈ progress.finished := by
  by_contra neither
  rw [not_or] at neither
  exact marked (tracks.unseen managed neither.1 neither.2)

/-- A type without a mark is neither being walked nor was it left. -/
theorem fresh (tracks : Tracks table progress pass) {managed : String}
    (unmarked : pass.visit? managed = none) :
    managed ∉ progress.stack ∧ managed ∉ progress.finished := by
  constructor
  · intro walked
    by_cases reported : managed ∈ progress.reported
    · simp [tracks.failed managed reported] at unmarked
    · simp [tracks.walking managed walked reported] at unmarked
  · intro left
    rcases tracks.settled managed left with isDone | isFailed
    · simp [isDone] at unmarked
    · simp [isFailed] at unmarked

/-- A type that is done or failed was met. -/
theorem met_of_visit (tracks : Tracks table progress pass) {managed : String}
    (settled : pass.visit? managed = some .done ∨ pass.visit? managed = some .failed) :
    progress.Met managed := by
  have marked : pass.visit? managed ≠ none := by
    rcases settled with isDone | isFailed
    · simp [isDone]
    · simp [isFailed]
  rcases tracks.seen marked with walked | left
  · -- Of the types being walked, only reported ones have lost their mark.
    refine .inr (by_contra fun unreported => ?_)
    have inProgress := tracks.walking managed walked unreported
    rw [inProgress] at settled
    simp at settled
  · exact .inl left

/-- The mark in progress stands for a type that is being walked and was not reported. -/
theorem walked_of_visit (tracks : Tracks table progress pass) {managed : String}
    (inProgress : pass.visit? managed = some .inProgress) :
    managed ∈ progress.stack ∧ managed ∉ progress.finished ∧ managed ∉ progress.reported := by
  have notLeft : managed ∉ progress.finished := by
    intro left
    rcases tracks.settled managed left with isDone | isFailed
    · simp [inProgress] at isDone
    · simp [inProgress] at isFailed
  refine ⟨?_, notLeft, ?_⟩
  · have marked : pass.visit? managed ≠ none := by simp [inProgress]
    rcases tracks.seen marked with walked | left
    · exact walked
    · exact absurd left notLeft
  · intro reported
    have isFailed := tracks.failed managed reported
    simp [inProgress] at isFailed

/-- Faults stay when the progress grows. -/
theorem errors_ne_nil_of_grows {later : Progress} {next : LayoutPass}
    (tracks : Tracks table progress pass) (tracksLater : Tracks table later next)
    (grows : progress.Grows later) (faulty : pass.errors ≠ []) : next.errors ≠ [] := by
  obtain ⟨fault, isFault⟩ := List.exists_mem_of_ne_nil _ faulty
  have accounted := tracks.errors.mem_iff.mp isFault
  have later : fault ∈ later.pending ++ later.finished.flatMap table.faultsOf
      ++ later.reported.map table.recursiveFault := ?_
  · exact List.ne_nil_of_mem (tracksLater.errors.mem_iff.mpr later)
  simp only [List.mem_append, List.mem_flatMap, List.mem_map] at accounted ⊢
  rcases accounted with (pending | ⟨managed, left, own⟩) | ⟨managed, reported, own⟩
  · exact .inl (.inl (grows.pending pending))
  · exact .inl (.inr ⟨managed, grows.finished left, own⟩)
  · exact .inr ⟨managed, grows.reported reported, own⟩

end Tracks

end LayoutPass

end NativeBridge

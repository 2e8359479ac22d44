import NativeBridge.Proofs.TypeMap.Progress

/-!
# Steps of the layout pass

One theorem for each step of the walk says how the progress changes: a type is
entered (`Tracks.enter`), a fault is found (`Tracks.report`), the walk comes back
to a type that it is in (`Tracks.recur`), and a type is left (`Tracks.settle`).
-/

namespace NativeBridge.LayoutPass

namespace Tracks

variable {table : TypeTable} {progress : Progress} {pass : LayoutPass}

/-- A type without a mark is entered from the type around it. -/
theorem enter (tracks : Tracks table progress pass) {managed : String}
    (unmarked : pass.visit? managed = none) (known : table.contains managed = true)
    (inside : ∀ outer ∈ progress.stack.head?, table.Contains outer managed) :
    Tracks table { progress with stack := managed :: progress.stack }
      (pass.mark managed .inProgress) := by
  obtain ⟨notWalked, notLeft⟩ := tracks.fresh unmarked
  have notReported : managed ∉ progress.reported := by
    intro reported
    simp [tracks.failed managed reported] at unmarked
  have settledOther : ∀ {other visit}, visit ≠ .inProgress →
      (pass.mark managed .inProgress).visit? other = some visit →
      pass.visit? other = some visit := by
    intro other visit notEntered marked
    by_cases same : other = managed
    · rw [visit?_mark, if_pos same] at marked
      exact absurd (Option.some.inj marked).symm notEntered
    · rwa [visit?_mark_of_ne pass _ same] at marked
  refine
    { tracks with
      chain := List.isChain_cons.mpr ⟨inside, tracks.chain⟩
      distinct := ?_
      registered := ?_
      unseen := ?_
      walking := ?_
      failed := ?_
      settled := ?_
      laidOut := fun other isDone => tracks.laidOut other (settledOther (by decide) isDone)
      faulty := fun other isFailed => tracks.faulty other (settledOther (by decide) isFailed) }
  · rw [List.cons_append, List.nodup_cons, List.mem_append, not_or]
    exact ⟨⟨notWalked, notLeft⟩, tracks.distinct⟩
  · intro other isOther
    rcases List.mem_cons.mp isOther with rfl | earlier
    · exact known
    · exact tracks.registered other earlier
  · intro other notStacked notFinished
    rw [List.mem_cons, not_or] at notStacked
    rw [visit?_mark_of_ne pass _ notStacked.1]
    exact tracks.unseen other notStacked.2 notFinished
  · intro other walked unreported
    rcases List.mem_cons.mp walked with rfl | earlier
    · exact visit?_mark_self pass other .inProgress
    · rw [visit?_mark_of_ne pass _ (ne_of_mem_of_not_mem earlier notWalked)]
      exact tracks.walking other earlier unreported
  · intro other reported
    rw [visit?_mark_of_ne pass _ (ne_of_mem_of_not_mem reported notReported)]
    exact tracks.failed other reported
  · intro other left
    rw [visit?_mark_of_ne pass _ (ne_of_mem_of_not_mem left notLeft)]
    exact tracks.settled other left

/-- A fault of a type that is being walked is pending until the walk leaves it. -/
theorem report (tracks : Tracks table progress pass) (fault : BindingError) :
    Tracks table { progress with pending := progress.pending ++ [fault] }
      (pass.report fault) :=
  { tracks with
    faulty := fun managed isFailed => by simp
    errors := by
      rw [errors_report, List.append_assoc, List.append_assoc]
      refine (tracks.errors.append_right [fault]).trans ?_
      rw [List.append_assoc, List.append_assoc]
      refine List.Perm.append_left progress.pending ?_
      rw [← List.append_assoc]
      exact List.perm_append_comm }

/-- Whatever the innermost type contains, every type that is being walked leads to. -/
theorem reaches_stack (tracks : Tracks table progress pass) {part : String}
    (inside : ∀ outer ∈ progress.stack.head?, table.Contains outer part) :
    ∀ managed ∈ progress.stack, Relation.TransGen table.Contains managed part := by
  obtain ⟨stack, pending, finished, reported⟩ := progress
  have chain : stack.IsChain fun inner outer => table.Contains outer inner := tracks.chain
  clear tracks
  simp only at inside ⊢
  induction stack generalizing part with
  | nil => simp
  | cons inner rest ih =>
      have direct : table.Contains inner part := inside inner (by simp)
      rw [List.isChain_cons] at chain
      intro managed isManaged
      rcases List.mem_cons.mp isManaged with rfl | outer
      · exact .single direct
      · exact .tail (ih chain.1 chain.2 managed outer) direct

/-- A type that contains itself is reported when the walk comes back to it. -/
theorem recur (tracks : Tracks table progress pass) {managed : String}
    (inProgress : pass.visit? managed = some .inProgress)
    (inside : ∀ outer ∈ progress.stack.head?, table.Contains outer managed) :
    Tracks table { progress with reported := managed :: progress.reported }
      ((pass.mark managed .failed).report (table.recursiveFault managed)) := by
  obtain ⟨walked, notLeft, notReported⟩ := tracks.walked_of_visit inProgress
  refine
    { tracks with
      distinctReported := List.nodup_cons.mpr ⟨notReported, tracks.distinctReported⟩
      recursive := ?_
      unseen := ?_
      walking := ?_
      failed := ?_
      settled := ?_
      ordered := ?_
      laidOut := ?_
      faulty := fun other isFailed => by simp
      errors := ?_ }
  · intro other reported
    rcases List.mem_cons.mp reported with rfl | earlier
    · exact tracks.reaches_stack inside other walked
    · exact tracks.recursive other earlier
  · intro other notStacked notFinished
    rw [visit?_report, visit?_mark_of_ne pass _ (ne_of_mem_of_not_mem walked notStacked).symm]
    exact tracks.unseen other notStacked notFinished
  · intro other isWalked unreported
    rw [List.mem_cons, not_or] at unreported
    rw [visit?_report, visit?_mark_of_ne pass _ unreported.1]
    exact tracks.walking other isWalked unreported.2
  · intro other reported
    rw [visit?_report]
    by_cases same : other = managed
    · rw [visit?_mark, if_pos same]
    · rw [visit?_mark_of_ne pass _ same]
      exact tracks.failed other (List.mem_of_ne_of_mem same reported)
  · intro other left
    rw [visit?_report, visit?_mark_of_ne pass _ (ne_of_mem_of_not_mem left notLeft)]
    exact tracks.settled other left
  · intro owner older isLeft part contained
    rcases tracks.ordered owner older isLeft part contained with before | reported
    · exact .inl before
    · exact .inr (List.mem_cons_of_mem _ reported)
  · intro other isDone
    rw [visit?_report] at isDone
    by_cases same : other = managed
    · rw [visit?_mark, if_pos same] at isDone
      cases isDone
    · rw [visit?_mark_of_ne pass _ same] at isDone
      exact tracks.laidOut other isDone
  · rw [errors_report, errors_mark, List.map_cons]
    refine (tracks.errors.append_right _).trans ?_
    rw [List.append_assoc]
    exact List.Perm.append_left _ List.perm_append_comm

/-- The innermost type is left with a mark, once everything that it contains was met. -/
theorem leave {managed : String} {rest finished reported : List String}
    {before : List BindingError} {next : LayoutPass}
    (tracks : Tracks table
      ⟨managed :: rest, before ++ table.faultsOf managed, finished, reported⟩ pass)
    (parts : ∀ part, table.Contains managed part → part ∈ finished ∨ part ∈ reported)
    (sameErrors : next.errors = pass.errors)
    (others : ∀ {other}, other ≠ managed → next.visit? other = pass.visit? other)
    (sameLayouts : ∀ {other}, other ≠ managed → next.layout? other = pass.layout? other)
    (own : (next.visit? managed = some .done ∧ managed ∉ reported ∧
        ∃ layout, next.layout? managed = some layout ∧ LaidOut table managed layout) ∨
      (next.visit? managed = some .failed ∧ pass.errors ≠ [])) :
    Tracks table ⟨rest, before, managed :: finished, reported⟩ next := by
  have distinct : (managed :: (rest ++ finished)).Nodup := tracks.distinct
  have fresh : managed ∉ rest ++ finished := (List.nodup_cons.mp distinct).1
  refine
    { chain := tracks.chain.tail
      distinct := List.perm_middle.nodup_iff.mpr distinct
      registered := fun other isOther =>
        tracks.registered other (List.perm_middle.mem_iff.mp isOther)
      distinctReported := tracks.distinctReported
      recursive := tracks.recursive
      unseen := ?_
      walking := ?_
      failed := ?_
      settled := ?_
      ordered := ?_
      laidOut := ?_
      faulty := ?_
      errors := ?_ }
  · intro other notStacked notFinished
    rw [List.mem_cons, not_or] at notFinished
    have unmarked := tracks.unseen other
      (List.not_mem_cons_of_ne_of_not_mem notFinished.1 notStacked) notFinished.2
    rw [others notFinished.1, unmarked]
  · intro other walked unreported
    rw [others (ne_of_mem_of_not_mem (List.mem_append_left _ walked) fresh)]
    exact tracks.walking other (List.mem_cons_of_mem _ walked) unreported
  · intro other isReported
    by_cases same : other = managed
    · subst same
      rcases own with ⟨-, unreported, -⟩ | ⟨isFailed, -⟩
      · exact absurd isReported unreported
      · exact isFailed
    · rw [others same]
      exact tracks.failed other isReported
  · intro other left
    rcases List.mem_cons.mp left with rfl | earlier
    · rcases own with ⟨isDone, -, -⟩ | ⟨isFailed, -⟩
      · exact .inl isDone
      · exact .inr isFailed
    · rw [others (ne_of_mem_of_not_mem (List.mem_append_right _ earlier) fresh)]
      exact tracks.settled other earlier
  · intro owner older isLeft part contained
    rcases List.suffix_cons_iff.mp isLeft with whole | earlier
    · obtain ⟨rfl, rfl⟩ := List.cons.inj whole
      exact parts part contained
    · exact tracks.ordered owner older earlier part contained
  · intro other isDone
    by_cases same : other = managed
    · subst same
      rcases own with ⟨-, -, found⟩ | ⟨isFailed, -⟩
      · exact found
      · simp [isFailed] at isDone
    · rw [others same] at isDone
      rw [sameLayouts same]
      exact tracks.laidOut other isDone
  · intro other isFailed
    rw [sameErrors]
    by_cases same : other = managed
    · subst same
      rcases own with ⟨isDone, -, -⟩ | ⟨-, faulty⟩
      · simp [isDone] at isFailed
      · exact faulty
    · rw [others same] at isFailed
      exact tracks.faulty other isFailed
  · rw [sameErrors]
    simpa only [List.flatMap_cons, List.append_assoc] using tracks.errors

end Tracks

/-- What a walk of a type returns is its layout, unless there are faults. -/
structure Outcome (table : TypeTable) (managed : String) (result : Option Layout)
    (pass : LayoutPass) : Prop where
  laidOut : ∀ layout, result = some layout →
    ∃ whole, LaidOut table managed whole ∧ whole.layout = layout
  faulty : result = none → pass.errors ≠ []

/-- Settling the innermost type leaves it. -/
theorem Tracks.settle {table : TypeTable} {pass : LayoutPass} {managed : String}
    {rest finished reported : List String} {before : List BindingError}
    (tracks : Tracks table
      ⟨managed :: rest, before ++ table.faultsOf managed, finished, reported⟩ pass)
    (parts : ∀ part, table.Contains managed part → part ∈ finished ∨ part ∈ reported)
    {layout : Option StructLayout}
    (laidOut : ∀ whole, layout = some whole → LaidOut table managed whole)
    (faulty : layout = none → pass.errors ≠ []) :
    Tracks table ⟨rest, before, managed :: finished, reported⟩
        (LayoutPass.settle managed layout pass).2 ∧
      Outcome table managed (LayoutPass.settle managed layout pass).1
        (LayoutPass.settle managed layout pass).2 := by
  by_cases isFailed : pass.visit? managed = some .failed
  · have unchanged : LayoutPass.settle managed layout pass = (none, pass) := by
      simp [LayoutPass.settle, isFailed]
    rw [unchanged]
    have present := tracks.faulty managed isFailed
    exact ⟨tracks.leave parts rfl (fun _ => rfl) (fun _ => rfl) (.inr ⟨isFailed, present⟩),
      by simp, fun _ => present⟩
  · have unreported : managed ∉ reported := fun isReported =>
      isFailed (tracks.failed managed isReported)
    cases layout with
    | none =>
        have marked : LayoutPass.settle managed none pass
            = (none, pass.mark managed .failed) := by
          simp [LayoutPass.settle, isFailed]
        rw [marked]
        have present := faulty rfl
        refine ⟨tracks.leave parts rfl (visit?_mark_of_ne pass _) (fun _ => rfl) (.inr ⟨?_, present⟩),
          by simp, fun _ => present⟩
        exact visit?_mark_self pass managed .failed
    | some whole =>
        have marked : LayoutPass.settle managed (some whole) pass
            = (some whole.layout, { pass.mark managed .done with
                layouts := (managed, whole) :: pass.layouts }) := by
          simp [LayoutPass.settle, isFailed]
        rw [marked]
        have isLaidOut := laidOut whole rfl
        refine ⟨tracks.leave parts rfl (visit?_mark_of_ne pass _) ?_ (.inl ⟨?_, unreported, whole, ?_, isLaidOut⟩),
          ?_, by simp⟩
        · intro other differ
          have differs : (other == managed) = false := by simpa using differ
          simp [layout?, List.lookup_cons, differs]
        · exact visit?_mark_self pass managed .done
        · simp [layout?]
        · intro layout isLayout
          exact ⟨whole, isLaidOut, Option.some.inj isLayout⟩

end NativeBridge.LayoutPass

import Mathlib.Data.List.Nodup
import NativeBridge.Engine.Entities

/-!
# What the operations do to a world

An operation is described by what it does to three views of a world: which entity an id
finds (`World.find?`), whether a slot is taken and in which generation (`World.status?`),
and how many entities live (`World.count`). The free indices of a consistent world are those
of the slots that hold nothing; `World.Consistent.answer` says that every call keeps it so.
-/

namespace NativeBridge.Engine

/-- Whether a slot holds an entity, and its generation. -/
def Slot.status (slot : Slot) : Bool × UInt32 :=
  (slot.alive, slot.generation)

/-- Ids are the same if they have a slot and a generation in common. -/
theorem EntityId.eq_of_parts {id other : EntityId} (sameIndex : other.index = id.index)
    (sameGeneration : other.generation = id.generation) : other = id := by
  cases id
  cases other
  cases sameIndex
  cases sameGeneration
  rfl

namespace World

/-- The status of the slot with some index. -/
def status? (world : World) (index : UInt32) : Option (Bool × UInt32) :=
  world.slots[index.toNat]?.map Slot.status

/-- Every slot has an index, and the free indices are those of the slots without an entity,
each once. -/
structure Consistent (world : World) : Prop where
  indexed : world.slots.size ≤ 0x100000000
  distinct : world.free.Nodup
  free_iff : ∀ index, index ∈ world.free ↔
    ∃ generation, world.status? index = some (false, generation)

/-- The empty world is consistent. -/
theorem consistent_empty : empty.Consistent where
  indexed := by decide
  distinct := List.nodup_nil
  free_iff := by simp [empty, status?]

/-- An id finds a slot that is taken in the generation of the id. -/
theorem find?_eq_some_iff {world : World} {id : EntityId} {slot : Slot} :
    world.find? id = some slot ↔ world.slots[id.index.toNat]? = some slot ∧
      slot.alive = true ∧ slot.generation = id.generation := by
  rw [find?, Option.filter_eq_some_iff, Bool.and_eq_true, beq_iff_eq]

/-- The slot that an id finds is taken in the generation of the id. -/
theorem status?_of_find? {world : World} {id : EntityId} {slot : Slot}
    (found : world.find? id = some slot) : world.status? id.index = some (true, id.generation) := by
  obtain ⟨isSlot, alive, generation⟩ := find?_eq_some_iff.mp found
  rw [status?, isSlot, Option.map_some, Slot.status, alive, generation]

/-- An id finds something exactly if its slot is taken in its generation. -/
theorem isSome_find?_iff {world : World} {id : EntityId} :
    (world.find? id).isSome = true ↔ world.status? id.index = some (true, id.generation) := by
  constructor
  · intro found
    obtain ⟨slot, isSlot⟩ := Option.isSome_iff_exists.mp found
    exact status?_of_find? isSlot
  · intro taken
    obtain ⟨slot, isSlot, status⟩ := Option.map_eq_some_iff.mp taken
    obtain ⟨alive, generation⟩ := Prod.mk.inj status
    exact Option.isSome_iff_exists.mpr
      ⟨slot, find?_eq_some_iff.mpr ⟨isSlot, alive, generation⟩⟩

/-- Two ids that find something at one index are the same. -/
theorem eq_of_isSome_find? {world : World} {id other : EntityId}
    (found : (world.find? id).isSome = true) (otherFound : (world.find? other).isSome = true)
    (same : other.index = id.index) : other = id := by
  have taken := isSome_find?_iff.mp found
  have otherTaken := isSome_find?_iff.mp otherFound
  rw [same, taken] at otherTaken
  have generations : id.generation = other.generation := by simpa using otherTaken
  exact EntityId.eq_of_parts same generations.symm

section SetSlot

variable (world : World) (index : UInt32) (slot : Slot)

/-- Only the slot that is set is another one, if there is one. -/
theorem getElem?_setSlot (other : UInt32) :
    (world.setSlot index slot).slots[other.toNat]?
      = if other = index then world.slots[index.toNat]?.map fun _ => slot
        else world.slots[other.toNat]? := by
  rw [setSlot, Array.getElem?_setIfInBounds]
  by_cases same : other = index
  · subst same
    by_cases inside : other.toNat < world.slots.size
    · simp [inside]
    · simp [inside]
  · have different : index.toNat ≠ other.toNat := fun equal =>
      same (UInt32.toNat_inj.mp equal).symm
    rw [if_neg different, if_neg same]

/-- Only the status of the slot that is set is another one. -/
theorem status?_setSlot {old : Slot} (isSlot : world.slots[index.toNat]? = some old)
    (other : UInt32) :
    (world.setSlot index slot).status? other
      = if other = index then some slot.status else world.status? other := by
  rw [status?, getElem?_setSlot, isSlot]
  split <;> rfl

/-- The number of entities changes by what is in the slot that is set. -/
theorem count_setSlot {old : Slot} (isSlot : world.slots[index.toNat]? = some old) :
    (world.setSlot index slot).count + old.alive.toNat = world.count + slot.alive.toNat := by
  obtain ⟨inside, isOld⟩ := Array.getElem?_eq_some_iff.mp isSlot
  have changed : (world.setSlot index slot).count
      = world.count - (if old.alive then 1 else 0) + if slot.alive then 1 else 0 := by
    rw [count, setSlot, Array.setIfInBounds, dif_pos inside, Array.countP_set, isOld]
    rfl
  rw [changed]
  cases isAlive : old.alive with
  | false => cases slot.alive <;> simp
  | true =>
      have counted : 0 < world.count :=
        Array.countP_pos_iff.mpr ⟨old, isOld ▸ Array.getElem_mem inside, isAlive⟩
      cases slot.alive <;> simp <;> omega

variable {world slot}

/-- With another content of a slot that is found, in the same generation, only its own id finds
something else. -/
theorem find?_setSlot {id : EntityId} {old : Slot} (found : world.find? id = some old)
    (generation : slot.generation = id.generation) (other : EntityId) :
    (world.setSlot id.index slot).find? other
      = if other = id then (if slot.alive then some slot else none) else world.find? other := by
  have isSlot := (find?_eq_some_iff.mp found).1
  by_cases same : other.index = id.index
  · rw [find?, getElem?_setSlot, if_pos same, isSlot, Option.map_some]
    by_cases own : other = id
    · subst own
      simp [Option.filter, generation]
    · -- Another generation of the slot: neither the old nor the new content answers to it.
      have differs : slot.generation ≠ other.generation := fun equal =>
        own (EntityId.eq_of_parts same (equal.symm.trans generation))
      have unknown : world.find? other = none := by
        rw [← Option.not_isSome_iff_eq_none]
        intro otherFound
        have isFound : (world.find? id).isSome = true := by simp [found]
        exact own (eq_of_isSome_find? isFound otherFound same)
      rw [if_neg own, unknown]
      simp [Option.filter, differs]
  · have own : other ≠ id := fun equal => same (congrArg EntityId.index equal)
    rw [if_neg own, find?, getElem?_setSlot, if_neg same, find?]

end SetSlot

/-- How a world makes an entity: in the slot that was freed last, or in a new one. -/
inductive Makes (world : World) (transform : Transform) : EntityId → World → Prop where
  | reused {index : UInt32} {free : List UInt32} {old : Slot} (isFree : world.free = index :: free)
      (isSlot : world.slots[index.toNat]? = some old) (empty : old.alive = false) :
      Makes world transform ⟨index, old.generation + 1⟩
        { world.setSlot index ⟨old.generation + 1, true, transform, .white⟩ with free := free }
  | added {index : UInt32} (noneFree : world.free = []) (isNext : index.toNat = world.slots.size) :
      Makes world transform ⟨index, 0⟩
        { world with slots := world.slots.push ⟨0, true, transform, .white⟩ }

/-- A world makes an entity unless all slots that can have an index are taken. -/
theorem makes_or_refuses {world : World} (consistent : world.Consistent)
    (transform : Transform) :
    (world.free = [] ∧ world.slots.size = 0x100000000 ∧
        world.spawn transform = (.invalid, world)) ∨
      Makes world transform (world.spawn transform).1 (world.spawn transform).2 := by
  cases isFree : world.free with
  | cons index free =>
      right
      have first : index ∈ world.free := by simp [isFree]
      obtain ⟨generation, status⟩ := (consistent.free_iff index).mp first
      obtain ⟨old, isSlot, isStatus⟩ := Option.map_eq_some_iff.mp status
      have empty : old.alive = false := (Prod.mk.inj isStatus).1
      simp only [spawn, isFree, isSlot, Option.getD_some]
      exact .reused isFree isSlot empty
  | nil =>
      have bound := consistent.indexed
      by_cases room : world.slots.size < 0x100000000
      · right
        have isNext : world.slots.size.toUInt32.toNat = world.slots.size := by
          simp
          omega
        simp only [spawn, isFree, room, if_true]
        rw [← isFree]
        exact .added isFree isNext
      · left
        refine ⟨rfl, by omega, ?_⟩
        simp only [spawn, isFree, room, if_false]

namespace Makes

variable {world next : World} {transform : Transform} {id : EntityId}

/-- Only the slot of the new entity is another one. -/
theorem getElem? (makes : Makes world transform id next) (index : UInt32) :
    next.slots[index.toNat]?
      = if index = id.index then some ⟨id.generation, true, transform, .white⟩
        else world.slots[index.toNat]? := by
  cases makes with
  | @reused own free old isFree isSlot empty =>
      have changed := world.getElem?_setSlot own ⟨old.generation + 1, true, transform, .white⟩ index
      rw [isSlot] at changed
      exact changed
  | @added own noneFree isNext =>
      rw [Array.getElem?_push, ← isNext]
      by_cases same : index = own
      · rw [if_pos same, if_pos (congrArg UInt32.toNat same)]
      · rw [if_neg same, if_neg fun equal => same (UInt32.toNat_inj.mp equal)]

/-- Only the slot of the new entity changes its status. -/
theorem status? (makes : Makes world transform id next) (index : UInt32) :
    next.status? index
      = if index = id.index then some (true, id.generation) else world.status? index := by
  rw [World.status?, makes.getElem?]
  split <;> rfl

/-- The slot of a new entity was empty, or there was none. -/
theorem status?_before (makes : Makes world transform id next) :
    (∃ generation, world.status? id.index = some (false, generation) ∧
        id.generation = generation + 1) ∨
      (world.status? id.index = none ∧ id.generation = 0) := by
  cases makes with
  | reused isFree isSlot empty =>
      refine .inl ⟨_, ?_, rfl⟩
      rw [World.status?, isSlot, Option.map_some, Slot.status, empty]
  | added noneFree isNext =>
      refine .inr ⟨?_, rfl⟩
      rw [World.status?, isNext]
      simp

/-- Nothing is found where an entity is made. -/
theorem find?_before (makes : Makes world transform id next) {other : EntityId}
    (same : other.index = id.index) : world.find? other = none := by
  rw [← Option.not_isSome_iff_eq_none, isSome_find?_iff, same]
  rcases makes.status?_before with ⟨generation, status, -⟩ | ⟨status, -⟩
  · simp [status]
  · simp [status]

/-- The new entity is found, and the others are found as before. -/
theorem find? (makes : Makes world transform id next) (other : EntityId) :
    next.find? other
      = if other = id then some ⟨id.generation, true, transform, .white⟩
        else world.find? other := by
  by_cases same : other.index = id.index
  · rw [World.find?, makes.getElem?, if_pos same]
    by_cases own : other = id
    · subst own
      simp
    · have differs : id.generation ≠ other.generation := fun equal =>
        own (EntityId.eq_of_parts same equal.symm)
      rw [if_neg own, makes.find?_before same]
      simp [differs]
  · have own : other ≠ id := fun equal => same (congrArg EntityId.index equal)
    rw [if_neg own, World.find?, makes.getElem?, if_neg same, World.find?]

/-- One entity more lives. -/
theorem count (makes : Makes world transform id next) : next.count = world.count + 1 := by
  cases makes with
  | @reused index free old isFree isSlot empty =>
      have changed := world.count_setSlot index ⟨old.generation + 1, true, transform, .white⟩ isSlot
      rw [empty] at changed
      exact changed
  | added noneFree isNext => simp [World.count]

/-- A world that makes an entity stays consistent. -/
theorem consistent (makes : Makes world transform id next) (before : world.Consistent) :
    next.Consistent where
  indexed := by
    have indexed := before.indexed
    cases makes with
    | reused isFree isSlot empty => simpa [setSlot] using indexed
    | @added index noneFree isNext =>
        have bound := index.toNat_lt
        rw [Array.size_push]
        omega
  distinct := by
    have distinct := before.distinct
    cases makes with
    | reused isFree isSlot empty =>
        rw [isFree] at distinct
        exact distinct.of_cons
    | added noneFree isNext => exact distinct
  free_iff := by
    intro index
    have free := before.free_iff index
    rw [makes.status?]
    cases makes with
    | @reused own rest old isFree isSlot empty =>
        have distinct := before.distinct
        rw [isFree] at free distinct
        by_cases same : index = own
        · subst same
          simp [(List.nodup_cons.mp distinct).1]
        · simpa [same] using free
    | @added own noneFree isNext =>
        by_cases same : index = own
        · subst same
          simp [noneFree]
        · simpa [same] using free

end Makes

section Despawn

variable (world : World) (id : EntityId)

/-- Exactly an entity that is found can be ended. -/
theorem despawn_fst : (world.despawn id).1 = (world.find? id).isSome := by
  rw [despawn]
  cases world.find? id <;> rfl

/-- An entity that is ended is not found any more, and the others are found as before. -/
theorem find?_despawn (other : EntityId) :
    (world.despawn id).2.find? other = if other = id then none else world.find? other := by
  rw [despawn]
  cases found : world.find? id with
  | none =>
      by_cases same : other = id
      · rw [if_pos same, same]
        exact found
      · rw [if_neg same]
  | some slot =>
      have generation := (find?_eq_some_iff.mp found).2.2
      have ended : ({ slot with alive := false } : Slot).generation = id.generation := generation
      exact find?_setSlot found ended other

/-- The slot of an entity that is ended becomes empty. -/
theorem status?_despawn (index : UInt32) :
    (world.despawn id).2.status? index
      = if (world.find? id).isSome ∧ index = id.index then some (false, id.generation)
        else world.status? index := by
  rw [despawn]
  cases found : world.find? id with
  | none => simp
  | some slot =>
      obtain ⟨isSlot, -, generation⟩ := find?_eq_some_iff.mp found
      have changed := world.status?_setSlot id.index { slot with alive := false } isSlot index
      rw [← generation]
      simp only [Option.isSome_some, true_and]
      exact changed

/-- One entity less lives if one is ended. -/
theorem count_despawn :
    (world.despawn id).2.count + (world.despawn id).1.toNat = world.count := by
  rw [despawn]
  cases found : world.find? id with
  | none => rfl
  | some slot =>
      obtain ⟨isSlot, alive, -⟩ := find?_eq_some_iff.mp found
      have changed := world.count_setSlot id.index { slot with alive := false } isSlot
      rw [alive] at changed
      exact changed

variable {world}

/-- A world that ends an entity stays consistent. -/
theorem Consistent.despawn (before : world.Consistent) : (world.despawn id).2.Consistent := by
  cases found : world.find? id with
  | none =>
      rw [World.despawn, found]
      exact before
  | some slot =>
      have taken := status?_of_find? found
      have notFree : id.index ∉ world.free := by
        rw [before.free_iff, taken]
        simp
      have free : (world.despawn id).2.free = id.index :: world.free := by
        rw [World.despawn, found]
      refine ⟨?_, ?_, ?_⟩
      · have size : (world.despawn id).2.slots.size = world.slots.size := by
          simp [World.despawn, found, setSlot]
        rw [size]
        exact before.indexed
      · rw [free]
        exact List.nodup_cons.mpr ⟨notFree, before.distinct⟩
      · intro index
        rw [free, List.mem_cons, before.free_iff, status?_despawn]
        by_cases same : index = id.index
        · simp [same, found]
        · simp [same]

end Despawn

section Update

variable (world : World) (id : EntityId) {change : Slot → Slot}
  (keeps : ∀ slot, (change slot).status = slot.status)

include keeps

/-- The content of an entity is changed, and the others are found as before. -/
theorem find?_update (other : EntityId) :
    (world.update id change).find? other
      = if other = id then (world.find? id).map change else world.find? other := by
  rw [update]
  cases found : world.find? id with
  | none =>
      by_cases same : other = id
      · rw [if_pos same, same]
        exact found
      · rw [if_neg same]
  | some slot =>
      obtain ⟨-, alive, generation⟩ := find?_eq_some_iff.mp found
      obtain ⟨sameAlive, sameGeneration⟩ := Prod.mk.inj (keeps slot)
      simp only [find?_setSlot found (sameGeneration.trans generation)]
      rw [sameAlive, alive]
      rfl

/-- No slot changes its status. -/
theorem status?_update (index : UInt32) :
    (world.update id change).status? index = world.status? index := by
  rw [update]
  cases found : world.find? id with
  | none => rfl
  | some slot =>
      have isSlot := (find?_eq_some_iff.mp found).1
      simp only [status?_setSlot world id.index (change slot) isSlot]
      split
      · rename_i same
        rw [same, status?, isSlot, keeps]
        rfl
      · rfl

/-- As many entities live. -/
theorem count_update : (world.update id change).count = world.count := by
  rw [update]
  cases found : world.find? id with
  | none => rfl
  | some slot =>
      have isSlot := (find?_eq_some_iff.mp found).1
      have changed := world.count_setSlot id.index (change slot) isSlot
      have sameAlive : (change slot).alive = slot.alive := (Prod.mk.inj (keeps slot)).1
      rw [sameAlive] at changed
      exact Nat.add_right_cancel changed

omit keeps in
/-- No slot is added or freed. -/
theorem update_free_size : (world.update id change).free = world.free ∧
    (world.update id change).slots.size = world.slots.size := by
  rw [update]
  cases world.find? id with
  | none => exact ⟨rfl, rfl⟩
  | some slot => simp [setSlot]

variable {world}

/-- A world in which an entity changes stays consistent. -/
theorem Consistent.update (before : world.Consistent) :
    (world.update id change).Consistent := by
  obtain ⟨free, size⟩ : (world.update id change).free = world.free ∧
      (world.update id change).slots.size = world.slots.size := world.update_free_size id
  refine ⟨?_, ?_, ?_⟩
  · rw [size]
    exact before.indexed
  · rw [free]
    exact before.distinct
  · intro index
    rw [free, status?_update world id keeps]
    exact before.free_iff index

end Update

section Calls

variable {world : World}

/-- Reading the transform of an entity changes nothing. -/
theorem answer_getTransform_snd (world : World) (id : EntityId) (place : Option Transform) :
    (world.answer (.getTransform id place)).2 = world := by
  simp only [answer]
  split <;> rfl

/-- Every call keeps a world consistent. -/
theorem Consistent.answer (before : world.Consistent) (call : EntityCall) :
    (world.answer call).2.Consistent := by
  cases call with
  | spawn transform =>
      rcases makes_or_refuses before transform with ⟨-, -, refused⟩ | makes
      · rw [World.answer, refused]
        exact before
      · exact makes.consistent before
  | despawn id => exact before.despawn id
  | getTransform id place =>
      rw [answer_getTransform_snd]
      exact before
  | translate id delta =>
      cases delta with
      | none => exact before
      | some delta => exact before.update id fun _ => rfl
  | setTint id tint => exact before.update id fun _ => rfl
  | tint id => exact before

/-- Calls are answered up to the last one and then that one. -/
theorem answerAll_append_singleton (world : World) (calls : List EntityCall)
    (call : EntityCall) :
    world.answerAll (calls ++ [call])
      = ((world.answerAll calls).1 ++ [⟨call, ((world.answerAll calls).2.answer call).1⟩],
          ((world.answerAll calls).2.answer call).2) := by
  induction calls generalizing world with
  | nil => rfl
  | cons first rest ih => simp only [List.cons_append, answerAll, ih]

/-- Calls keep a world consistent. -/
theorem Consistent.answerAll (before : world.Consistent) (calls : List EntityCall) :
    (world.answerAll calls).2.Consistent := by
  induction calls generalizing world with
  | nil => exact before
  | cons call rest ih => exact ih (before.answer call)

end Calls

end World

end NativeBridge.Engine

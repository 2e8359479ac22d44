import Mathlib.Data.List.Induction
import NativeBridge.Proofs.Engine.World

/-!
# Worlds as stores of entities

A store knows nothing of slots: it maps ids to entities and remembers the ids that it gave
out, so that it never gives out one twice. `Represents.answer` is the simulation: a world
answers a call as the store that it represents may, as long as the slots last and none is
used so often that its generations come round. `World.calls_refine_store` says what follows
for every sequence of calls.
-/

namespace NativeBridge.Engine

/-- What there is to see of an entity. -/
structure Entity where
  transform : Transform
  tint : Color

/-- The entity moved and turned; its scale stays. -/
def Entity.moved (entity : Entity) (delta : Transform) : Entity :=
  { entity with
    transform :=
      { entity.transform with
        x := entity.transform.x + delta.x
        y := entity.transform.y + delta.y
        rotation := entity.transform.rotation + delta.rotation } }

/-- The entity of a slot. -/
def Slot.entity (slot : Slot) : Entity :=
  ⟨slot.transform, slot.tint⟩

/-- The entity that an id finds. -/
def World.entity? (world : World) (id : EntityId) : Option Entity :=
  (world.find? id).map Slot.entity

/-- Entities by their ids, and all ids that were given out. -/
structure Store where
  entity? : EntityId → Option Entity
  spawned : List EntityId

namespace Store

/-- The store without entities. -/
def empty : Store :=
  ⟨fun _ => none, []⟩

/-- The store with something else under one id. -/
def set (store : Store) (id : EntityId) (entity : Option Entity) : Store :=
  { store with entity? := fun other => if other = id then entity else store.entity? other }

/-- The store with a new entity. -/
def add (store : Store) (id : EntityId) (entity : Entity) : Store :=
  { store.set id (some entity) with spawned := store.spawned ++ [id] }

/-- How a store answers a call, and what it is then. Which id a new entity gets is open, but
no id is given out twice. -/
inductive Step (store : Store) : EntityCall → EntityAnswer → Store → Prop where
  | spawn {transform : Transform} {id : EntityId} (fresh : id ∉ store.spawned) :
      Step store (.spawn transform) (.spawned id) (store.add id ⟨transform, .white⟩)
  | despawn {id : EntityId} :
      Step store (.despawn id) (.despawned (store.entity? id).isSome) (store.set id none)
  | read {id : EntityId} {place : Transform} {entity : Entity}
      (lives : store.entity? id = some entity) :
      Step store (.getTransform id (some place)) (.transform true (some entity.transform)) store
  | unread {id : EntityId} {place : Option Transform}
      (unable : place = none ∨ store.entity? id = none) :
      Step store (.getTransform id place) (.transform false place) store
  | translate {id : EntityId} {delta : Transform} :
      Step store (.translate id (some delta)) .done
        (store.set id ((store.entity? id).map fun entity => entity.moved delta))
  | unmoved {id : EntityId} : Step store (.translate id none) .done store
  | setTint {id : EntityId} {tint : Color} :
      Step store (.setTint id tint) .done
        (store.set id ((store.entity? id).map fun entity => { entity with tint := tint }))
  | tint {id : EntityId} :
      Step store (.tint id) (.tint (((store.entity? id).map Entity.tint).getD .clear)) store

/-- The stores that calls with their answers lead to from the empty one. -/
inductive Runs : List EntityEvent → Store → Prop where
  | start : Runs [] empty
  | step {events : List EntityEvent} {store next : Store} {call : EntityCall}
      {answer : EntityAnswer} (prior : Runs events store) (transition : store.Step call answer next) :
      Runs (events ++ [⟨call, answer⟩]) next

end Store

/-- The id that an answer gives out. -/
def EntityAnswer.spawned? : EntityAnswer → Option EntityId
  | spawned id => some id
  | _ => none

/-- The answer to a call that ends an entity. -/
def EntityAnswer.isEnd : EntityAnswer → Bool
  | despawned lived => lived
  | _ => false

/-- The ids that were given out, in order. -/
def spawnedIds (events : List EntityEvent) : List EntityId :=
  events.filterMap fun event => event.answer.spawned?

/-- How many entities were ended. -/
def ended (events : List EntityEvent) : Nat :=
  events.countP fun event => event.answer.isEnd

/-- How often a slot was used again: the first entity in it made it. -/
def reuses (events : List EntityEvent) (index : UInt32) : Nat :=
  (spawnedIds events).countP (fun id => id.index == index) - 1

/-- An id was given out and no call to end its entity came after that. -/
def Lives (events : List EntityEvent) (id : EntityId) : Prop :=
  ∃ before transform after, events = before ++ ⟨.spawn transform, .spawned id⟩ :: after ∧
    ∀ event ∈ after, event.call ≠ .despawn id

/-- What the next call does to being alive. -/
theorem lives_append_singleton {events : List EntityEvent} {event : EntityEvent}
    {id : EntityId} :
    Lives (events ++ [event]) id ↔
      (∃ transform, event = ⟨.spawn transform, .spawned id⟩) ∨
        (Lives events id ∧ event.call ≠ .despawn id) := by
  constructor
  · rintro ⟨before, transform, after, split, kept⟩
    -- The call that gave out the id is the last one, or came before it.
    rcases List.eq_nil_or_concat after with rfl | ⟨earlier, last, rfl⟩
    · have ends := List.append_inj_right' split rfl
      exact .inl ⟨transform, (List.cons.inj ends).1⟩
    · have regrouped : events ++ [event]
          = (before ++ ⟨.spawn transform, .spawned id⟩ :: earlier) ++ [last] := by
        simpa using split
      obtain ⟨same, ends⟩ := List.append_inj' regrouped rfl
      obtain ⟨rfl, -⟩ := List.cons.inj ends
      refine .inr ⟨⟨before, transform, earlier, same, fun other isOther => ?_⟩, ?_⟩
      · exact kept other (by simp [isOther])
      · exact kept event (by simp)
  · rintro (⟨transform, rfl⟩ | ⟨⟨before, transform, after, rfl, kept⟩, other⟩)
    · exact ⟨events, transform, [], rfl, by simp⟩
    · refine ⟨before, transform, after ++ [event], by simp, ?_⟩
      intro later isLater
      rcases List.mem_append.mp isLater with isKept | isLast
      · exact kept later isKept
      · rw [List.mem_singleton.mp isLast]
        exact other

namespace Store

variable {store next : Store} {call : EntityCall} {answer : EntityAnswer}

/-- The ids that a step gives out are new, and are remembered. -/
theorem Step.spawned (step : store.Step call answer next) :
    next.spawned = store.spawned ++ answer.spawned?.toList ∧
      ∀ id, answer.spawned? = some id → id ∉ store.spawned := by
  cases step with
  | spawn fresh =>
      refine ⟨rfl, ?_⟩
      rintro id ⟨⟩
      exact fresh
  | _ => simp [EntityAnswer.spawned?, set]

/-- Changing an entity does not make or end one. -/
theorem isSome_entity?_set_map (store : Store) (id other : EntityId) (change : Entity → Entity) :
    ((store.set id ((store.entity? id).map change)).entity? other).isSome
      = (store.entity? other).isSome := by
  by_cases own : other = id
  · simp [set, own]
  · simp [set, own]

/-- A step leaves an entity under an id if it gives out the id, or if there was one and the step
does not end it. -/
theorem Step.isSome_entity?_iff (step : store.Step call answer next) (id : EntityId) :
    (next.entity? id).isSome = true ↔
      (∃ transform, call = .spawn transform ∧ answer = .spawned id) ∨
        ((store.entity? id).isSome = true ∧ call ≠ .despawn id) := by
  cases step with
  | @spawn transform new fresh =>
      by_cases own : id = new
      · simp [add, set, own]
      · simp [add, set, own, Ne.symm own]
  | @despawn gone =>
      by_cases own : id = gone
      · simp [set, own]
      · simp [set, own, Ne.symm own]
  | translate => simp [isSome_entity?_set_map]
  | setTint => simp [isSome_entity?_set_map]
  | _ => simp

/-- A store has given out the ids of its answers, none of them twice. -/
theorem Runs.spawned {events : List EntityEvent} (runs : Runs events store) :
    store.spawned = spawnedIds events ∧ store.spawned.Nodup := by
  induction runs with
  | start => exact ⟨rfl, List.nodup_nil⟩
  | @step events store next call answer prior transition ih =>
      obtain ⟨same, distinct⟩ := ih
      obtain ⟨grows, fresh⟩ := transition.spawned
      rw [grows]
      cases given : answer.spawned? with
      | none =>
          refine ⟨?_, by simpa using distinct⟩
          simp [spawnedIds, given, same]
      | some id =>
          refine ⟨by simp [spawnedIds, given, same], ?_⟩
          have unused := fresh id given
          refine List.nodup_append.mpr ⟨distinct, by simp, ?_⟩
          rintro other isOther new isNew rfl
          have isId : other = id := by simpa using isNew
          exact unused (isId ▸ isOther)

/-- A store has an entity under exactly the ids that were given out and not ended since. -/
theorem Runs.isSome_entity?_iff {events : List EntityEvent} (runs : Runs events store)
    (id : EntityId) : (store.entity? id).isSome = true ↔ Lives events id := by
  induction runs with
  | start => simp [empty, Lives]
  | step prior transition ih =>
      rw [lives_append_singleton, ← ih, transition.isSome_entity?_iff]
      simp only [EntityEvent.mk.injEq]

end Store

/-- How many entities a slot has held. -/
def Store.uses (store : Store) (index : UInt32) : Nat :=
  store.spawned.countP fun id => id.index == index

/-- A new entity counts for its slot only. -/
theorem Store.uses_add (store : Store) (id : EntityId) (entity : Entity) (index : UInt32) :
    (store.add id entity).uses index = store.uses index + if index = id.index then 1 else 0 := by
  rw [uses, add, List.countP_append, ← uses]
  by_cases own : index = id.index
  · simp [own]
  · simp [own, Ne.symm own]

/-- A world shows the entities of a store. Each of its slots is in the generation of the entities
that it has held, and these are all that were given out. -/
structure Represents (world : World) (store : Store) : Prop where
  consistent : world.Consistent
  entities : ∀ id, world.entity? id = store.entity? id
  generations : ∀ index alive generation, world.status? index = some (alive, generation) →
    generation.toNat + 1 = store.uses index
  spawned : ∀ id ∈ store.spawned, ∃ alive generation,
    world.status? id.index = some (alive, generation) ∧ id.generation.toNat ≤ generation.toNat

namespace Represents

variable {world : World} {store : Store}

/-- The empty world represents the empty store. -/
theorem empty : Represents .empty .empty where
  consistent := World.consistent_empty
  entities := fun _ => rfl
  generations := by
    intro index alive generation status
    cases status
  spawned := by
    intro id given
    cases given

/-- A slot that is not there has held nothing. -/
theorem uses_eq_zero (represents : Represents world store) {index : UInt32}
    (noSlot : world.status? index = none) : store.uses index = 0 := by
  rw [Store.uses, List.countP_eq_zero]
  intro id given same
  obtain ⟨alive, generation, status, -⟩ := represents.spawned id given
  rw [beq_iff_eq.mp same, noSlot] at status
  cases status

/-- The generation of a new entity counts the entities before it in its slot. -/
theorem generation_of_makes (represents : Represents world store) {transform : Transform}
    {id : EntityId} {next : World} (makes : world.Makes transform id next)
    (rare : store.uses id.index < 0x100000000) :
    id.generation.toNat = store.uses id.index := by
  rcases makes.status?_before with ⟨generation, status, follows⟩ | ⟨noSlot, first⟩
  · have counted := represents.generations _ _ _ status
    rw [follows, UInt32.toNat_add]
    simp only [UInt32.reduceToNat]
    omega
  · rw [represents.uses_eq_zero noSlot, first]
    rfl

/-- An id that was given out belongs to one of the entities before. -/
theorem generation_lt_uses (represents : Represents world store) {id : EntityId}
    (given : id ∈ store.spawned) : id.generation.toNat < store.uses id.index := by
  obtain ⟨alive, generation, status, bound⟩ := represents.spawned id given
  have counted := represents.generations _ _ _ status
  omega

/-- A world makes an entity as a store does. -/
theorem makes (represents : Represents world store) {transform : Transform} {id : EntityId}
    {next : World} (makes : world.Makes transform id next)
    (rare : store.uses id.index < 0x100000000) :
    id ∉ store.spawned ∧ Represents next (store.add id ⟨transform, .white⟩) := by
  have counts := represents.generation_of_makes makes rare
  refine ⟨?fresh, ?consistent, ?entities, ?generations, ?spawned⟩
  case fresh =>
    -- The generation of the id is the number of entities before it, which no earlier one reached.
    intro given
    have before := represents.generation_lt_uses given
    omega
  case consistent => exact makes.consistent represents.consistent
  case entities =>
    intro other
    rw [World.entity?, makes.find?]
    by_cases own : other = id
    · simp [own, Store.add, Store.set, Slot.entity]
    · simpa [own, Store.add, Store.set, World.entity?] using represents.entities other
  case generations =>
    intro index alive generation status
    rw [makes.status?] at status
    rw [Store.uses_add]
    by_cases own : index = id.index
    · rw [if_pos own] at status ⊢
      obtain ⟨-, rfl⟩ := Prod.mk.inj (Option.some.inj status)
      rw [own, counts]
    · rw [if_neg own] at status ⊢
      exact represents.generations index alive generation status
  case spawned =>
    intro other given
    rw [makes.status?]
    by_cases own : other.index = id.index
    · rw [if_pos own]
      refine ⟨true, id.generation, rfl, ?_⟩
      rcases List.mem_append.mp given with before | isNew
      · have earlier := represents.generation_lt_uses before
        rw [own] at earlier
        omega
      · exact Nat.le_of_eq (congrArg (·.generation.toNat) (List.mem_singleton.mp isNew))
    · rw [if_neg own]
      rcases List.mem_append.mp given with before | isNew
      · exact represents.spawned other before
      · exact absurd (congrArg EntityId.index (List.mem_singleton.mp isNew)) own

/-- A world ends an entity as a store does. -/
theorem despawn (represents : Represents world store) (id : EntityId) :
    Represents (world.despawn id).2 (store.set id none) := by
  have status : ∀ index generation, (∃ alive, (world.despawn id).2.status? index
      = some (alive, generation)) ↔ ∃ alive, world.status? index = some (alive, generation) := by
    intro index generation
    rw [World.status?_despawn]
    split
    · rename_i own
      rw [own.2, World.isSome_find?_iff.mp own.1]
      simp
    · rfl
  refine ⟨represents.consistent.despawn id, ?entities, ?generations, ?spawned⟩
  case entities =>
    intro other
    rw [World.entity?, World.find?_despawn]
    by_cases own : other = id
    · simp [own, Store.set]
    · simpa [own, Store.set, World.entity?] using represents.entities other
  case generations =>
    intro index alive generation after
    obtain ⟨before, isBefore⟩ := (status index generation).mp ⟨alive, after⟩
    exact represents.generations index before generation isBefore
  case spawned =>
    intro other given
    obtain ⟨before, generation, isBefore, bound⟩ := represents.spawned other given
    obtain ⟨after, isAfter⟩ := (status other.index generation).mpr ⟨before, isBefore⟩
    exact ⟨after, generation, isAfter, bound⟩

/-- A world changes an entity as a store does. -/
theorem update (represents : Represents world store) (id : EntityId) {change : Slot → Slot}
    {changed : Entity → Entity} (keeps : ∀ slot, (change slot).status = slot.status)
    (shows : ∀ slot, (change slot).entity = changed slot.entity) :
    Represents (world.update id change) (store.set id ((store.entity? id).map changed)) := by
  refine ⟨represents.consistent.update id keeps, ?entities, ?generations, ?spawned⟩
  case entities =>
    intro other
    rw [World.entity?, World.find?_update world id keeps]
    by_cases own : other = id
    · have before := represents.entities id
      rw [World.entity?] at before
      simp only [own, if_true, Store.set, ← before, Option.map_map]
      exact congrArg (fun view => (world.find? id).map view) (funext shows)
    · simpa [own, Store.set, World.entity?] using represents.entities other
  case generations =>
    intro index alive generation status
    rw [World.status?_update world id keeps] at status
    exact represents.generations index alive generation status
  case spawned =>
    intro other given
    rw [World.status?_update world id keeps]
    exact represents.spawned other given

/-- What is found in a world is what the store has. -/
theorem isSome_find? (represents : Represents world store) (id : EntityId) :
    (world.find? id).isSome = (store.entity? id).isSome := by
  rw [← represents.entities, World.entity?, Option.isSome_map]

/-- A world answers a call as its store may, and represents what the store is then. The slots
must not be full, and a slot that is used again must not have gone through all generations. -/
theorem answer (represents : Represents world store) (call : EntityCall)
    (room : (world.answer call).2.slots.size < 0xFFFFFFFF)
    (rare : ∀ id, (world.answer call).1.spawned? = some id → store.uses id.index < 0x100000000) :
    ∃ next, store.Step call (world.answer call).1 next ∧
      Represents (world.answer call).2 next := by
  cases call with
  | spawn transform =>
      rcases World.makes_or_refuses represents.consistent transform with
        ⟨-, full, refused⟩ | makes
      · have size : (world.answer (.spawn transform)).2.slots.size = world.slots.size := by
          simp [World.answer, refused]
        omega
      · obtain ⟨fresh, after⟩ := represents.makes makes (rare _ rfl)
        exact ⟨_, .spawn fresh, after⟩
  | despawn id =>
      have lived := (world.despawn_fst id).trans (represents.isSome_find? id)
      have step : store.Step (.despawn id) (.despawned (store.entity? id).isSome) _ := .despawn
      rw [← lived] at step
      exact ⟨_, step, represents.despawn id⟩
  | getTransform id place =>
      have shown : world.transform? id = (store.entity? id).map Entity.transform := by
        rw [← represents.entities, World.entity?, Option.map_map]
        rfl
      refine ⟨store, ?_, ?_⟩
      · cases place with
        | none => exact .unread (.inl rfl)
        | some place =>
            cases found : store.entity? id with
            | none =>
                simp only [World.answer, shown, found]
                exact .unread (.inr found)
            | some entity =>
                simp only [World.answer, shown, found]
                exact .read found
      · rw [World.answer_getTransform_snd]
        exact represents
  | translate id delta =>
      cases delta with
      | none => exact ⟨store, .unmoved, represents⟩
      | some delta =>
          exact ⟨_, .translate, represents.update id (fun _ => rfl) fun _ => rfl⟩
  | setTint id tint =>
      exact ⟨_, .setTint, represents.update id (fun _ => rfl) fun _ => rfl⟩
  | tint id =>
      refine ⟨store, ?_, represents⟩
      have shown : world.tint id = ((store.entity? id).map Entity.tint).getD .clear := by
        rw [← represents.entities, World.entity?, Option.map_map]
        rfl
      rw [World.answer, shown]
      exact .tint

end Represents

/-- No call takes a slot away. -/
theorem World.size_le_answer (world : World) (call : EntityCall) :
    world.slots.size ≤ (world.answer call).2.slots.size := by
  have updated : ∀ id change, (world.update id change).slots.size = world.slots.size :=
    fun id change => (world.update_free_size id).2
  cases call with
  | spawn transform =>
      simp only [answer, spawn]
      split
      · simp [setSlot]
      · split <;> simp
  | despawn id =>
      simp only [answer, World.despawn]
      split <;> simp [setSlot]
  | getTransform id place => exact Nat.le_of_eq (by rw [answer_getTransform_snd])
  | translate id delta =>
      cases delta with
      | none => exact Nat.le_refl _
      | some delta => exact Nat.le_of_eq (updated id _).symm
  | setTint id tint => exact Nat.le_of_eq (updated id _).symm
  | tint id => exact Nat.le_refl _

/-- Entities are counted up when they are made and down when they are ended. -/
theorem World.count_answer {world : World} (consistent : world.Consistent) (call : EntityCall)
    (room : (world.answer call).2.slots.size < 0xFFFFFFFF) :
    (world.answer call).2.count + (world.answer call).1.isEnd.toNat
      = world.count + (world.answer call).1.spawned?.toList.length := by
  cases call with
  | spawn transform =>
      rcases makes_or_refuses consistent transform with ⟨-, full, -⟩ | makes
      · have grows := world.size_le_answer (.spawn transform)
        omega
      · exact makes.count
  | despawn id => exact world.count_despawn id
  | getTransform id place =>
      rw [answer_getTransform_snd]
      simp only [answer]
      split <;> rfl
  | translate id delta =>
      cases delta with
      | none => rfl
      | some delta => exact world.count_update id fun _ => rfl
  | setTint id tint => exact world.count_update id fun _ => rfl
  | tint id => rfl

/-- A call leaves every entity alone that lives and that it is not about. -/
theorem World.entity?_answer {world : World} (consistent : world.Consistent) {call : EntityCall}
    {id : EntityId} (lives : (world.find? id).isSome = true) (other : call.subject? ≠ some id) :
    (world.answer call).2.entity? id = world.entity? id := by
  have updated : ∀ own {change : Slot → Slot}, (∀ slot, (change slot).status = slot.status) →
      id ≠ own → (world.update own change).entity? id = world.entity? id := by
    intro own change keeps different
    rw [entity?, find?_update world own keeps, if_neg different, entity?]
  cases call with
  | spawn transform =>
      rcases makes_or_refuses consistent transform with ⟨-, -, refused⟩ | makes
      · simp only [answer, refused]
      · have isOld : id ≠ (world.spawn transform).1 := by
          rintro rfl
          rw [makes.find?_before rfl] at lives
          cases lives
        have kept := makes.find? id
        rw [if_neg isOld] at kept
        exact congrArg (Option.map Slot.entity) kept
  | despawn gone =>
      have kept := world.find?_despawn gone id
      rw [if_neg fun own => other (congrArg some own.symm)] at kept
      exact congrArg (Option.map Slot.entity) kept
  | getTransform read place => rw [answer_getTransform_snd]
  | translate moved delta =>
      cases delta with
      | none => rfl
      | some delta => exact updated moved (fun _ => rfl) fun own => other (congrArg some own.symm)
  | setTint tinted tint => exact updated tinted (fun _ => rfl) fun own => other (congrArg some own.symm)
  | tint shown => rfl

/-- What calls did to a world stays within the bounds of its words: there are fewer than
`2 ^ 32 - 1` slots, and none was used again `2 ^ 32` times. -/
structure WithinBounds (events : List EntityEvent) (world : World) : Prop where
  slots : world.slots.size < 0xFFFFFFFF
  reuses : ∀ index, reuses events index < 0x100000000

/-- An answer adds the id that it gives out. -/
theorem spawnedIds_append_singleton (events : List EntityEvent) (event : EntityEvent) :
    spawnedIds (events ++ [event]) = spawnedIds events ++ event.answer.spawned?.toList := by
  cases given : event.answer.spawned? <;> simp [spawnedIds, given]

/-- An answer adds the end of an entity. -/
theorem ended_append_singleton (events : List EntityEvent) (event : EntityEvent) :
    ended (events ++ [event]) = ended events + event.answer.isEnd.toNat := by
  cases ends : event.answer.isEnd <;> simp [ended, ends]

/-- What stays within the bounds was within them before the last call. -/
theorem WithinBounds.before {events : List EntityEvent} {world : World} {call : EntityCall}
    {answer : EntityAnswer} (bounds : WithinBounds (events ++ [⟨call, answer⟩]) (world.answer call).2) :
    WithinBounds events world where
  slots := Nat.lt_of_le_of_lt (world.size_le_answer call) bounds.slots
  reuses := by
    intro index
    have later := bounds.reuses index
    rw [Engine.reuses, spawnedIds_append_singleton, List.countP_append] at later
    rw [Engine.reuses]
    omega

/-- Within the bounds the answers to calls are those of a store, which the world represents then,
and its entities are those that were made and not ended. -/
theorem exists_runs (calls : List EntityCall)
    (bounds : WithinBounds (World.empty.answerAll calls).1 (World.empty.answerAll calls).2) :
    (∃ store, Store.Runs (World.empty.answerAll calls).1 store ∧
        Represents (World.empty.answerAll calls).2 store) ∧
      (World.empty.answerAll calls).2.count + ended (World.empty.answerAll calls).1
        = (spawnedIds (World.empty.answerAll calls).1).length := by
  -- By the last call: the bounds hold before it as well, and a run grows at its end.
  induction calls using List.reverseRecOn with
  | nil => exact ⟨⟨.empty, .start, .empty⟩, rfl⟩
  | append_singleton calls call ih =>
      rw [World.answerAll_append_singleton] at bounds ⊢
      obtain ⟨⟨store, runs, represents⟩, counted⟩ := ih bounds.before
      generalize (World.empty.answerAll calls).1 = events at *
      generalize (World.empty.answerAll calls).2 = world at *
      constructor
      · have rare : ∀ id, (world.answer call).1.spawned? = some id →
            store.uses id.index < 0x100000000 := by
          intro id given
          have reuses := bounds.reuses id.index
          rw [Engine.reuses, spawnedIds_append_singleton, given, ← runs.spawned.1,
            List.countP_append] at reuses
          simpa [Store.uses] using reuses
        obtain ⟨next, step, after⟩ := represents.answer call bounds.slots rare
        exact ⟨next, runs.step step, after⟩
      · have changed := World.count_answer represents.consistent call bounds.slots
        rw [ended_append_singleton, spawnedIds_append_singleton, List.length_append]
        dsimp only
        omega

/-- The free list holds the indices of the slots without an entity. -/
theorem World.Consistent.mem_free_iff {world : World} (consistent : world.Consistent)
    (index : Nat) : index ∈ world.free.map UInt32.toNat ↔
      ∃ slot, world.slots[index]? = some slot ∧ slot.alive = false := by
  have status : ∀ own : UInt32, own ∈ world.free ↔
      ∃ slot, world.slots[own.toNat]? = some slot ∧ slot.alive = false := by
    intro own
    rw [consistent.free_iff]
    simp [status?, Slot.status]
  constructor
  · intro isFree
    obtain ⟨own, isOwn, rfl⟩ := List.mem_map.mp isFree
    exact (status own).mp isOwn
  · rintro ⟨slot, isSlot, empty⟩
    have inside := (Array.getElem?_eq_some_iff.mp isSlot).1
    have indexed := consistent.indexed
    have isWord : index.toUInt32.toNat = index := by
      simp
      omega
    refine List.mem_map.mpr ⟨index.toUInt32, (status _).mpr ⟨slot, ?_, empty⟩, isWord⟩
    rw [isWord]
    exact isSlot

/-- What a world has to do with the calls that it answered. -/
structure RefinesStore (events : List EntityEvent) (world : World) : Prop where
  /-- The answers are those of a store whose entities the world shows. -/
  store : ∃ store, Store.Runs events store ∧ ∀ id, world.entity? id = store.entity? id
  /-- The free list holds the indices of the slots without an entity, each once. -/
  distinctFree : world.free.Nodup
  free_iff : ∀ index, index ∈ world.free.map UInt32.toNat ↔
    ∃ slot, world.slots[index]? = some slot ∧ slot.alive = false
  /-- No id is given out twice. -/
  distinctIds : (spawnedIds events).Nodup
  /-- Exactly the ids that were given out and not ended since find an entity. -/
  found_iff : ∀ id, (world.find? id).isSome = true ↔ Lives events id
  /-- Exactly these entities can be ended. -/
  ended_iff : ∀ id, (world.despawn id).1 = true ↔ Lives events id
  /-- Those entities live that were made and not ended. -/
  count : world.count + ended events = (spawnedIds events).length
  /-- A call leaves every living entity alone that it is not about. -/
  others : ∀ call id, Lives events id → call.subject? ≠ some id →
    (world.answer call).2.entity? id = world.entity? id

/-- Whatever calls the empty world answers, within the bounds of its words it is a store of
entities. -/
theorem World.calls_refine_store (calls : List EntityCall)
    (bounds : WithinBounds (empty.answerAll calls).1 (empty.answerAll calls).2) :
    RefinesStore (empty.answerAll calls).1 (empty.answerAll calls).2 := by
  obtain ⟨⟨store, runs, represents⟩, counted⟩ := exists_runs calls bounds
  have consistent := represents.consistent
  have found_iff : ∀ id, ((empty.answerAll calls).2.find? id).isSome = true ↔
      Lives (empty.answerAll calls).1 id := by
    intro id
    rw [represents.isSome_find?, runs.isSome_entity?_iff]
  refine ⟨⟨store, runs, represents.entities⟩, consistent.distinct, ?free, ?ids, found_iff,
    ?ends, counted, ?others⟩
  case free => exact consistent.mem_free_iff
  case ids =>
    rw [← runs.spawned.1]
    exact runs.spawned.2
  case ends =>
    intro id
    rw [despawn_fst, found_iff]
  case others =>
    intro call id lives other
    exact entity?_answer consistent ((found_iff id).mpr lives) other

/-- An entity is ended once, its slot holds another one then, and the old id does not find it. -/
theorem World.calls_refine_store_reused :
    let calls : List EntityCall :=
      [.spawn ⟨1, 2, 0, 1⟩, .spawn ⟨3, 4, 0, 1⟩, .despawn ⟨0, 0⟩, .despawn ⟨0, 0⟩,
        .spawn ⟨5, 6, 0, 1⟩, .translate ⟨0, 0⟩ (some ⟨1, 1, 0, 1⟩), .setTint ⟨0, 1⟩ .clear]
    spawnedIds (empty.answerAll calls).1 = [⟨0, 0⟩, ⟨1, 0⟩, ⟨0, 1⟩] ∧
      ended (empty.answerAll calls).1 = 1 ∧
      WithinBounds (empty.answerAll calls).1 (empty.answerAll calls).2 ∧
      RefinesStore (empty.answerAll calls).1 (empty.answerAll calls).2 := by
  intro calls
  have given : spawnedIds (empty.answerAll calls).1 = [⟨0, 0⟩, ⟨1, 0⟩, ⟨0, 1⟩] := by rfl
  have bounds : WithinBounds (empty.answerAll calls).1 (empty.answerAll calls).2 := by
    refine ⟨by decide, fun index => ?_⟩
    have few : ((spawnedIds (empty.answerAll calls).1).countP fun id => id.index == index) ≤ 3 := by
      rw [given]
      exact List.countP_le_length
    rw [reuses]
    omega
  exact ⟨given, by rfl, bounds, calls_refine_store calls bounds⟩

end NativeBridge.Engine

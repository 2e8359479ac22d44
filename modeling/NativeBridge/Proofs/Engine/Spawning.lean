import NativeBridge.Proofs.Engine.World

/-!
# What a caller learns when an entity is made

An entity that cannot be made is answered with the invalid id, which is also the first id of
the last slot. `World.spawn_told_iff` says what a world that any calls have led to answers,
and that the answer tells the two cases apart unless this one id is the next; a world of
`2 ^ 32 - 1` entities comes to it (`World.spawn_of_last_slot`).
-/

namespace NativeBridge.Engine.World

/-- Every slot that can have an index holds an entity. -/
def IsFull (world : World) : Prop :=
  world.free = [] ∧ world.slots.size = 0x100000000

/-- The next entity gets the last slot, in the generation of the invalid id. -/
def InvalidIsNext (world : World) : Prop :=
  (world.free = [] ∧ world.slots.size = 0xFFFFFFFF) ∨
    ∃ rest, world.free = 0xFFFFFFFF :: rest ∧
      world.status? 0xFFFFFFFF = some (false, 0xFFFFFFFF)

/-- The answer tells whether an entity is made: the invalid id leaves the world as it is, and
any other id finds an entity at the wanted place. -/
def IsSpawnTold (world : World) (transform : Transform) : Prop :=
  world.spawn transform = (.invalid, world) ∨
    ((world.spawn transform).1 ≠ .invalid ∧
      ∃ slot, (world.spawn transform).2.find? (world.spawn transform).1 = some slot ∧
        slot.transform = transform)

/-- A full world makes nothing. -/
theorem spawn_of_isFull {world : World} (full : world.IsFull) (transform : Transform) :
    world.spawn transform = (.invalid, world) := by
  obtain ⟨noneFree, size⟩ := full
  simp [spawn, noneFree, size]

/-- Only the last generation is followed by the first. -/
theorem add_one_eq_zero_iff {generation : UInt32} :
    generation + 1 = 0 ↔ generation = 0xFFFFFFFF := by
  constructor
  · intro wraps
    have value := congrArg UInt32.toNat wraps
    have bound := generation.toNat_lt
    rw [UInt32.toNat_add] at value
    apply UInt32.toNat_inj.mp
    simp only [UInt32.reduceToNat] at value ⊢
    omega
  · rintro rfl
    rfl

/-- An entity gets the invalid id exactly if that is the next. -/
theorem Makes.eq_invalid_iff {world next : World} {transform : Transform} {id : EntityId}
    (makes : Makes world transform id next) : id = .invalid ↔ world.InvalidIsNext := by
  cases makes with
  | @reused index free old isFree isSlot empty =>
      have status : world.status? index = some (false, old.generation) := by
        rw [World.status?, isSlot, Option.map_some, Slot.status, empty]
      simp only [EntityId.invalid, EntityId.mk.injEq, add_one_eq_zero_iff, InvalidIsNext, isFree]
      constructor
      · rintro ⟨rfl, generation⟩
        exact .inr ⟨free, rfl, generation ▸ status⟩
      · rintro (⟨noneFree, -⟩ | ⟨rest, same, taken⟩)
        · cases noneFree
        · obtain ⟨rfl, -⟩ := List.cons.inj same
          rw [status] at taken
          exact ⟨rfl, by simpa using taken⟩
  | @added index noneFree isNext =>
      rw [EntityId.invalid, EntityId.mk.injEq, InvalidIsNext, noneFree, ← isNext]
      constructor
      · rintro ⟨rfl, -⟩
        exact .inl ⟨rfl, rfl⟩
      · rintro (⟨-, last⟩ | ⟨rest, same, -⟩)
        · exact ⟨UInt32.toNat_inj.mp last, rfl⟩
        · cases same

/-- After any calls, nothing is made exactly in a full world; otherwise the new entity is found
under its id, which is the invalid one exactly if that is the next. So the answer tells whether
an entity was made exactly if the invalid id is not the next. -/
theorem spawn_told_iff (calls : List EntityCall) (transform : Transform) :
    let world := (empty.answerAll calls).2
    (world.spawn transform = (.invalid, world) ↔ world.IsFull) ∧
    (¬ world.IsFull →
      (world.spawn transform).2.find? (world.spawn transform).1
          = some ⟨(world.spawn transform).1.generation, true, transform, .white⟩ ∧
        ((world.spawn transform).1 = .invalid ↔ world.InvalidIsNext)) ∧
    (world.IsSpawnTold transform ↔ ¬ world.InvalidIsNext) := by
  intro world
  have consistent : world.Consistent := consistent_empty.answerAll calls
  rcases makes_or_refuses consistent transform with ⟨noneFree, size, refused⟩ | makes
  · have full : world.IsFull := ⟨noneFree, size⟩
    have notNext : ¬ world.InvalidIsNext := by
      rintro (⟨-, last⟩ | ⟨rest, isFree, -⟩)
      · omega
      · rw [noneFree] at isFree
        cases isFree
    refine ⟨⟨fun _ => full, fun _ => refused⟩, fun notFull => absurd full notFull, ?_⟩
    simp [IsSpawnTold, refused, notNext]
  · have found : (world.spawn transform).2.find? (world.spawn transform).1
        = some ⟨(world.spawn transform).1.generation, true, transform, .white⟩ := by
      rw [makes.find?, if_pos rfl]
    have notRefused : world.spawn transform ≠ (.invalid, world) := by
      intro refused
      have counted := makes.count
      simp [refused] at counted
    have notFull : ¬ world.IsFull := fun full => notRefused (spawn_of_isFull full transform)
    refine ⟨⟨fun refused => absurd refused notRefused, fun full => absurd full notFull⟩,
      fun _ => ⟨found, makes.eq_invalid_iff⟩, ?_⟩
    rw [← makes.eq_invalid_iff]
    simp [IsSpawnTold, notRefused, found]

/-- A world whose next id is the invalid one makes an entity without telling. -/
theorem spawn_untold {world : World} (consistent : world.Consistent) (next : world.InvalidIsNext)
    (transform : Transform) :
    (world.spawn transform).1 = .invalid ∧
      (world.spawn transform).2.count = world.count + 1 ∧ ¬ world.IsSpawnTold transform := by
  rcases makes_or_refuses consistent transform with ⟨noneFree, size, -⟩ | makes
  · rcases next with ⟨-, last⟩ | ⟨rest, isFree, -⟩
    · omega
    · rw [noneFree] at isFree
      cases isFree
  · have invalid := makes.eq_invalid_iff.mpr next
    have counted := makes.count
    refine ⟨invalid, counted, ?_⟩
    rintro (refused | ⟨valid, -⟩)
    · simp [refused] at counted
    · exact valid invalid

/-- As long as there is room, a world without free slots grows by one with every entity. -/
theorem slots_of_spawns {world : World} (noneFree : world.free = []) (transform : Transform)
    {entities : Nat} (room : world.slots.size + entities ≤ 0x100000000) :
    (world.answerAll (List.replicate entities (.spawn transform))).2.free = [] ∧
      (world.answerAll (List.replicate entities (.spawn transform))).2.slots.size
        = world.slots.size + entities := by
  induction entities generalizing world with
  | zero => exact ⟨noneFree, rfl⟩
  | succ entities ih =>
      have fits : world.slots.size < 0x100000000 := by omega
      have free : (world.answer (.spawn transform)).2.free = [] := by
        simp [answer, spawn, noneFree, fits]
      have size : (world.answer (.spawn transform)).2.slots.size = world.slots.size + 1 := by
        simp [answer, spawn, noneFree, fits]
      have rest := ih free (by omega)
      rw [size] at rest
      rw [List.replicate_succ]
      exact ⟨rest.1, by rw [answerAll, rest.2]; omega⟩

/-- The entity after `2 ^ 32 - 1` others gets the invalid id, although it is made. -/
theorem spawn_of_last_slot :
    let world := (empty.answerAll (List.replicate 0xFFFFFFFF (.spawn ⟨0, 0, 0, 1⟩))).2
    (world.spawn ⟨0, 0, 0, 1⟩).1 = .invalid ∧
      (world.spawn ⟨0, 0, 0, 1⟩).2.count = world.count + 1 ∧
      ¬ world.IsSpawnTold ⟨0, 0, 0, 1⟩ :=
  spawn_untold (consistent_empty.answerAll _)
    (.inl (slots_of_spawns (show empty.free = [] from rfl) _ (by decide))) _

end NativeBridge.Engine.World

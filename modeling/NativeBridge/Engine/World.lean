/-!
# Entities of the engine

Entities live in slots. A slot that is free is used again before a new one is made,
the last one freed first, and its generation tells the entities that it held apart.
-/

namespace NativeBridge.Engine

/-- The position, the angle and the size of an entity. -/
structure Transform where
  x : Float32
  y : Float32
  rotation : Float32
  scale : Float
  deriving Inhabited

/-- A color with its opacity. -/
structure Color where
  red : Float32
  green : Float32
  blue : Float32
  alpha : Float32
  deriving Inhabited

/-- The color of a new entity. -/
def Color.white : Color := ⟨1, 1, 1, 1⟩

/-- The color of an entity that is not there. -/
def Color.clear : Color := ⟨0, 0, 0, 0⟩

/-- The slot of an entity and the generation of the slot. -/
structure EntityId where
  index : UInt32
  generation : UInt32
  deriving DecidableEq, Repr, Inhabited

/-- The id that stands for no entity. -/
def EntityId.invalid : EntityId := ⟨0xFFFFFFFF, 0⟩

/-- A place for an entity. -/
structure Slot where
  generation : UInt32
  alive : Bool
  transform : Transform
  tint : Color
  deriving Inhabited

/-- All slots, and the indices of the free ones, the last freed first. -/
structure World where
  slots : Array Slot
  free : List UInt32
  deriving Inhabited

namespace World

/-- The world without entities. -/
def empty : World :=
  ⟨#[], []⟩

/-- The slot of an entity that lives. -/
def find? (world : World) (id : EntityId) : Option Slot :=
  world.slots[id.index.toNat]?.filter fun slot => slot.alive && slot.generation == id.generation

/-- The number of entities that live. -/
def count (world : World) : Nat :=
  world.slots.countP fun slot => slot.alive

/-- The world with another content of a slot. -/
def setSlot (world : World) (index : UInt32) (slot : Slot) : World :=
  { world with slots := world.slots.setIfInBounds index.toNat slot }

/-- Makes an entity. Only 2 ^ 32 slots can have an index. -/
def spawn (world : World) (transform : Transform) : EntityId × World :=
  match world.free with
  | index :: free =>
      let generation := (world.slots[index.toNat]?.getD default).generation + 1
      let reused : Slot := ⟨generation, true, transform, .white⟩
      (⟨index, generation⟩, { world.setSlot index reused with free := free })
  | [] =>
      if world.slots.size < 0x100000000 then
        (⟨world.slots.size.toUInt32, 0⟩,
          { world with slots := world.slots.push ⟨0, true, transform, .white⟩ })
      else (.invalid, world)

/-- Changes the slot of an entity that lives. -/
def update (world : World) (id : EntityId) (change : Slot → Slot) : World :=
  match world.find? id with
  | some slot => world.setSlot id.index (change slot)
  | none => world

/-- Ends an entity, and tells whether it lived. -/
def despawn (world : World) (id : EntityId) : Bool × World :=
  match world.find? id with
  | some slot =>
      (true, { world.setSlot id.index { slot with alive := false } with
        free := id.index :: world.free })
  | none => (false, world)

/-- The transform of an entity that lives. -/
def transform? (world : World) (id : EntityId) : Option Transform :=
  (world.find? id).map (·.transform)

/-- Moves and turns an entity; its scale stays. -/
def translate (world : World) (id : EntityId) (delta : Transform) : World :=
  world.update id fun slot =>
    let old := slot.transform
    let moved : Transform :=
      ⟨old.x + delta.x, old.y + delta.y, old.rotation + delta.rotation, old.scale⟩
    { slot with transform := moved }

/-- Colors an entity. -/
def setTint (world : World) (id : EntityId) (tint : Color) : World :=
  world.update id fun slot => { slot with tint := tint }

/-- The color of an entity. -/
def tint (world : World) (id : EntityId) : Color :=
  ((world.find? id).map (·.tint)).getD .clear

end World

end NativeBridge.Engine

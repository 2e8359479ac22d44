import NativeBridge.Engine.World

/-!
# Calls of the entity functions

The engine answers calls from outside over one world. Two functions take a pointer: nothing
is read or written through the null pointer, and no answer depends on what a caller keeps
behind any other.
-/

namespace NativeBridge.Engine

/-- A call of a function of the entity module. A pointer is what it points to, if it is not
null. -/
inductive EntityCall where
  | spawn (transform : Transform)
  | despawn (id : EntityId)
  | getTransform (id : EntityId) (place : Option Transform)
  | translate (id : EntityId) (delta : Option Transform)
  | setTint (id : EntityId) (tint : Color)
  | tint (id : EntityId)
  deriving Inhabited

/-- The entity that a call is about, unless the call makes one. -/
def EntityCall.subject? : EntityCall → Option EntityId
  | spawn _ => none
  | despawn id | getTransform id _ | translate id _ | setTint id _ | tint id => some id

/-- What comes of a call: what is returned, and what a place holds then that the call may
write to. -/
inductive EntityAnswer where
  | spawned (id : EntityId)
  | despawned (lived : Bool)
  | transform (found : Bool) (place : Option Transform)
  | done
  | tint (tint : Color)
  deriving Inhabited

/-- A call with its answer. -/
structure EntityEvent where
  call : EntityCall
  answer : EntityAnswer
  deriving Inhabited

namespace World

/-- Answers a call. -/
def answer (world : World) : EntityCall → EntityAnswer × World
  | .spawn transform =>
      let (id, next) := world.spawn transform
      (.spawned id, next)
  | .despawn id =>
      let (lived, next) := world.despawn id
      (.despawned lived, next)
  | .getTransform id place =>
      match place, world.transform? id with
      | some _, some transform => (.transform true (some transform), world)
      | _, _ => (.transform false place, world)
  | .translate id delta =>
      match delta with
      | some delta => (.done, world.translate id delta)
      | none => (.done, world)
  | .setTint id tint => (.done, world.setTint id tint)
  | .tint id => (.tint (world.tint id), world)

/-- Answers calls one after another. -/
def answerAll (world : World) : List EntityCall → List EntityEvent × World
  | [] => ([], world)
  | call :: rest =>
      let (answer, next) := world.answer call
      let (events, last) := next.answerAll rest
      (⟨call, answer⟩ :: events, last)

end World

end NativeBridge.Engine

import NativeBridge.Binding.Process

/-!
# Sessions

A session is a process with a workbench: tables of exports under preparation, each
in a slot, and entry points by name. Stand-in hosts answer from the table that is in
a slot at the time of the call, or with a number made from the request. Their calls
are counted.
-/

namespace NativeBridge.Binding

open NativeBridge.Host

/-- A host that stands in for native code. -/
inductive StandIn where
  /-- Answers from the table in a slot. -/
  | slot (number : Nat)
  /-- Answers with a number that tells the lengths of the names and the size apart. -/
  | echo
  deriving DecidableEq, Repr, Inhabited

/-- Prepared tables, and how often stand-in hosts were called. -/
structure Workbench where
  tables : Nat → Option (ExportTable nameKey)
  calls : Nat
  deriving Inhabited

/-- A process together with the entry points that have names. -/
structure Session where
  process : Process nameKey StandIn Workbench
  callbacks : String → Option (Callback StandIn)

/-- The number with which an echo answers. -/
def StandIn.echoed (request : Request) : Nat :=
  (1000000 * request.module.length.toInt + 1000 * request.function.length.toInt
    + request.size.toInt + 1).toNat

/-- What a stand-in host answers. -/
def StandIn.answer (tables : Nat → Option (ExportTable nameKey)) (request : Request) :
    StandIn → Option Address
  | slot number => (tables number).bind fun table => table.answer request
  | echo => Address.ofWord? (echoed request).toUInt64

/-- Calls a stand-in host. -/
def StandIn.ask (host : StandIn) (request : Request) : StateM Workbench (Option Address) := do
  let bench ← get
  set { bench with calls := bench.calls + 1 }
  return host.answer bench.tables request

namespace Session

/-- The session in which nothing is set. -/
def fresh : Session :=
  ⟨.fresh (fun _ => .fresh ⟨"", ""⟩ 0) ⟨fun _ => none, 0⟩, fun _ => none⟩

/-- How often stand-in hosts were called. -/
def calls (session : Session) : Nat :=
  session.process.world.calls

/-- The table in a slot. -/
def table? (session : Session) (slot : Nat) : Option (ExportTable nameKey) :=
  session.process.world.tables slot

/-- The session with a table in a slot, or with an empty slot. -/
def setTable (session : Session) (slot : Nat) (table : Option (ExportTable nameKey)) : Session :=
  let bench := session.process.world
  let tables := fun present => if present = slot then table else bench.tables present
  { session with process := { session.process with world := { bench with tables := tables } } }

/-- The session with a name for an entry point. -/
def setCallback (session : Session) (name : String) (callback : Callback StandIn) : Session :=
  { session with
    callbacks := fun present =>
      if present = name then some callback else session.callbacks present }

/-- Puts the table of listed functions into a slot. -/
def prepare (slot : Nat) (registrations : List Registration) :
    StateM Session (Except (List Fault) (ExportTable nameKey)) := do
  let made := (registrations.foldl Listing.register .empty).build nameKey
  if let .ok table := made then modify fun session => session.setTable slot (some table)
  return made

/-- Does something to the process of a session. -/
def onProcess {α : Type} (action : StateM (Process nameKey StandIn Workbench) α) :
    StateM Session α := do
  let session ← get
  let (result, process) := action session.process
  set { session with process := process }
  return result

/-- Moves the table of a slot into the process and names its entry point. A refused
table is lost. -/
def install (name : String) (slot : Nat) : StateM Session (Option Fault) := do
  match (← get).table? slot with
  | none => return none
  | some table =>
      modify fun session => session.setTable slot none
      match ← onProcess (Process.install table) with
      | .error fault => return some fault
      | .ok callback =>
          modify fun session => session.setCallback name callback
          return none

/-- Calls a named entry point. -/
def call (name : String) (request : Request) : StateM Session (Option Address) := do
  match (← get).callbacks name with
  | none => return none
  | some callback => onProcess (Process.ask StandIn.ask callback request)

/-- Makes a registry without a host. -/
def makeRegistry (name : String) : StateM Session Unit :=
  onProcess (modify fun process => process.setRegistry name .fresh)

/-- Gives a registry a named entry point. -/
def accept (registry callback : String) : StateM Session (Option Fault) := do
  match (← get).callbacks callback with
  | none => return none
  | some given => onProcess (Process.accept registry given)

/-- Asks the host of a registry for a function. -/
def resolve (registry : String) (name : ExportName) (size : Nat) :
    StateM Session (Except Fault Bound) :=
  onProcess (Process.resolve StandIn.ask registry name size)

/-- Makes a call site that nothing was called through yet. -/
def makeSite (site : String) (name : ExportName) (size : Nat) : StateM Session Unit :=
  onProcess (modify fun process => process.setSite site (.fresh name size))

/-- The function of a call site, resolved through a registry when it is not known yet. -/
def bind (site registry : String) : StateM Session (Except Fault Bound) :=
  onProcess (Process.bind StandIn.ask site registry)

end Session

end NativeBridge.Binding

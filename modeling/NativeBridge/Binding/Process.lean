import NativeBridge.Binding.CallSite
import NativeBridge.Binding.Registry
import NativeBridge.Host.ExportTable

/-!
# Processes

A process holds what is set once: the table of exports that is installed, the host
of every registry, and what every call site is bound to. Its operations are atomic,
so any number of threads gives one sequence of them.

Hosts other than the installed table are a parameter. They may have a state of
their own, which is the world of the process.
-/

namespace NativeBridge.Binding

open NativeBridge.Host

/-- The entry point that a registry asks: that of the installed table, or another. -/
inductive Callback (other : Type) where
  | installed
  | other (host : other)
  deriving DecidableEq, Repr, Inhabited

/-- The state of a process, with its registries and call sites by name. -/
structure Process (key : ExportName → UInt64) (other world : Type) where
  installed : Option (ExportTable key)
  registries : String → Registry (Callback other)
  sites : String → CallSite
  world : world

namespace Process

variable {key : ExportName → UInt64} {other world : Type}

/-- The process in which nothing is set. -/
def fresh (sites : String → CallSite) (start : world) : Process key other world :=
  ⟨none, fun _ => .fresh, sites, start⟩

/-- The process with a registry in place of another. -/
def setRegistry (process : Process key other world) (name : String)
    (registry : Registry (Callback other)) : Process key other world :=
  { process with
    registries := fun present => if present = name then registry else process.registries present }

/-- The process with a call site in place of another. -/
def setSite (process : Process key other world) (name : String) (site : CallSite) :
    Process key other world :=
  { process with sites := fun present => if present = name then site else process.sites present }

/-- Makes a table the one of the process, unless there is one. -/
def install (table : ExportTable key) :
    StateM (Process key other world) (Except Fault (Callback other)) := do
  let process ← get
  match process.installed with
  | some _ => return .error .alreadyInstalled
  | none =>
      set { process with installed := some table }
      return .ok .installed

/-- Gives a registry its host. -/
def accept (registry : String) (callback : Callback other) :
    StateM (Process key other world) (Option Fault) := do
  let process ← get
  match (process.registries registry).accept callback with
  | .error fault => return some fault
  | .ok next =>
      set (process.setRegistry registry next)
      return none

variable (askOther : other → Request → StateM world (Option Address))

/-- Calls an entry point. -/
def ask (callback : Callback other) (request : Request) :
    StateM (Process key other world) (Option Address) := do
  let process ← get
  match callback with
  | .installed => return process.installed.bind fun table => table.answer request
  | .other host =>
      let (address, world) := askOther host request process.world
      set { process with world := world }
      return address

/-- Asks the host of a registry for a function. -/
def resolve (registry : String) (name : ExportName) (size : Nat) :
    StateM (Process key other world) (Except Fault Bound) := do
  let process ← get
  (process.registries registry).resolve (ask askOther) name size

/-- The function of a call site, resolved through a registry when it is not known yet. -/
def bind (site registry : String) : StateM (Process key other world) (Except Fault Bound) := do
  let (bound, next) ← ((← get).sites site).get (resolve askOther registry)
  modify fun process => process.setSite site next
  return bound

/-- What threads do to a process, one at a time. -/
inductive Action (key : ExportName → UInt64) (other : Type) where
  | install (table : ExportTable key)
  | accept (registry : String) (callback : Callback other)
  | resolve (registry : String) (name : ExportName) (size : Nat)
  | bind (site registry : String)

/-- What comes of an action. -/
inductive Answer (other : Type) where
  | installed (callback : Except Fault (Callback other))
  | accepted (fault : Option Fault)
  | resolved (bound : Except Fault Bound)
  deriving Inhabited

/-- Does one action. -/
def act : Action key other → StateM (Process key other world) (Answer other)
  | .install table => return .installed (← install table)
  | .accept registry callback => return .accepted (← accept registry callback)
  | .resolve registry name size => return .resolved (← resolve askOther registry name size)
  | .bind site registry => return .resolved (← bind askOther site registry)

end Process

end NativeBridge.Binding

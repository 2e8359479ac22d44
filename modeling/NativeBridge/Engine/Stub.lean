import NativeBridge.Binding.Process
import NativeBridge.Engine.Arithmetic
import NativeBridge.Engine.Interface

/-!
# Stubs of the engine

A stub has a call site for every function of one module and a registry through which
they are resolved. The host lists some functions of the engine, each at an address of
its own.
-/

namespace NativeBridge.Engine

open NativeBridge.Binding
open NativeBridge.Host

/-- The table of a host. -/
abbrev Table := ExportTable nameKey

/-- Functions listed at the addresses 1, 2 and so on. -/
def registrations (listed : List (ExportName × Nat)) : List Registration :=
  listed.zipIdx.map fun ((name, size), index) =>
    ⟨name, Address.ofWord? (index + 1).toUInt64, size⟩

/-- The table of a host that lists some functions. -/
def table? (listed : List (ExportName × Nat)) : Except (List Fault) Table :=
  ExportTable.ofRegistrations nameKey (registrations listed)

/-- The call sites of a module and the registry behind them. -/
structure Stub where
  registry : Registry Table
  sites : List CallSite

namespace Stub

/-- The stub of a module; nothing is resolved yet. -/
def ofInterface (interface : Interface) (registry : Registry Table) : Stub :=
  ⟨registry, interface.exports.map fun (name, size) => .fresh name size⟩

/-- Resolves a function through the registry. -/
def resolve (stub : Stub) (name : ExportName) (size : Nat) : Id (Except Fault Bound) :=
  stub.registry.resolve (fun table request => pure (table.answer request)) name size

/-- Resolves all functions in order, up to the first that fails. -/
def resolveAll (stub : Stub) : Option Fault × Stub :=
  let (fault, sites) := (CallSite.getAll stub.resolve stub.sites).run
  (fault, { stub with sites := sites })

/-- Resolves the first call site of a function. -/
def bind (stub : Stub) (function : String) : Option Fault × Stub :=
  let (earlier, later) := stub.sites.span fun site => site.name.function ≠ function
  let (fault, tried) := (CallSite.getAll stub.resolve (later.take 1)).run
  (fault, { stub with sites := earlier ++ tried ++ later.drop 1 })

/-- Calls the sum of two words. -/
def add (stub : Stub) (a b : Int32) : Except Fault Int32 × Stub :=
  match stub.bind "Add" with
  | (some fault, stub) => (.error fault, stub)
  | (none, stub) => (.ok (Engine.add a b), stub)

end Stub

end NativeBridge.Engine

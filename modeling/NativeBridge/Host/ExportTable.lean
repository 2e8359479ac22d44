import NativeBridge.Host.Request

/-!
# Tables of exports

A host lists its functions with the sizes of their parameter blocks. The table
keeps them in buckets by a key of their names. Names with one key share a bucket
and stay apart in it, so the choice of the key shows in no answer.
-/

namespace NativeBridge.Host

open NativeBridge.Binding

/-- A function as a host lists it; the address may be missing. -/
structure Registration where
  name : ExportName
  address : Option Address
  size : Nat
  deriving DecidableEq, Repr

/-- A listed function with an address. -/
structure Entry where
  name : ExportName
  address : Address
  size : Nat
  deriving DecidableEq, Repr

/-- A function of a known module; the address may be missing. -/
structure ModuleFunction where
  name : String
  address : Option Address
  size : Nat
  deriving DecidableEq, Repr

/-- The function as it is listed under its module. -/
def ModuleFunction.registration (module : String) (function : ModuleFunction) : Registration :=
  ⟨⟨module, function.name⟩, function.address, function.size⟩

/-- The entry of a listed function that has an address. -/
def Registration.entry? (registration : Registration) : Option Entry :=
  registration.address.map fun address => ⟨registration.name, address, registration.size⟩

/-- The fault of a listed function without an address. -/
def Registration.fault? (registration : Registration) : Option Fault :=
  if registration.address.isNone then some (.nullExport registration.name) else none

/-- Buckets by their keys. -/
abbrev Buckets := List (UInt64 × List Entry)

/-- Buckets with one more entry under a key. -/
def Buckets.insert (key : UInt64) (entry : Entry) : Buckets → Buckets
  | [] => [(key, [entry])]
  | (other, entries) :: rest =>
      if other = key then (other, entries ++ [entry]) :: rest
      else (other, entries) :: Buckets.insert key entry rest

/-- A table of entries in buckets by a key of their names. -/
structure ExportTable (key : ExportName → UInt64) where
  buckets : Buckets
  deriving Inhabited

namespace ExportTable

variable {key : ExportName → UInt64}

/-- The table without entries. -/
def empty : ExportTable key :=
  ⟨[]⟩

/-- The entry of a name. -/
def find? (table : ExportTable key) (name : ExportName) : Option Entry :=
  ((table.buckets.lookup (key name)).getD []).find? fun entry => entry.name = name

/-- The table with one more entry. -/
def insert (table : ExportTable key) (entry : Entry) : ExportTable key :=
  ⟨Buckets.insert (key entry.name) entry table.buckets⟩

/-- The number of entries. -/
def size (table : ExportTable key) : Nat :=
  (table.buckets.flatMap Prod.snd).length

/-- The table has no bucket. -/
def isEmpty (table : ExportTable key) : Bool :=
  table.buckets.isEmpty

/-- The address of a function whose listed size is the wanted one. -/
def lookup (table : ExportTable key) (name : ExportName) (size : Nat) : Option Address := do
  let entry ← table.find? name
  if entry.size = size then some entry.address else none

/-- The table with an entry whose name is new, and the faults of names that are not. -/
def enlist (state : ExportTable key × List Fault) (entry : Entry) :
    ExportTable key × List Fault :=
  if (state.1.find? entry.name).isSome then (state.1, state.2 ++ [.duplicateExport entry.name])
  else (state.1.insert entry, state.2)

/-- The table of listed functions. Missing addresses are reported first, then names
that came before. -/
def ofRegistrations (key : ExportName → UInt64) (registrations : List Registration) :
    Except (List Fault) (ExportTable key) :=
  let nulls := registrations.filterMap Registration.fault?
  let (table, duplicates) := (registrations.filterMap Registration.entry?).foldl enlist (empty, [])
  match nulls ++ duplicates with
  | [] => .ok table
  | faults => .error faults

/-- What a table answers to a request. -/
def answer (table : ExportTable key) (request : Request) : Option Address := do
  let name ← request.name?
  if request.size < 0 then none else table.lookup name request.size.toInt.toNat

end ExportTable

/-- What a host has listed so far: functions with addresses, and the faults of those
without. -/
structure Listing where
  entries : List Entry
  faults : List Fault
  deriving DecidableEq, Repr, Inhabited

namespace Listing

/-- Nothing is listed yet. -/
def empty : Listing :=
  ⟨[], []⟩

/-- The listing with one more function. A missing address is noted at once. -/
def register (listing : Listing) (registration : Registration) : Listing :=
  match registration.address with
  | some address =>
      { listing with
        entries := listing.entries ++ [⟨registration.name, address, registration.size⟩] }
  | none => { listing with faults := listing.faults ++ [.nullExport registration.name] }

/-- The listing with more functions of one module. -/
def registerModule (listing : Listing) (module : String) (functions : List ModuleFunction) :
    Listing :=
  functions.foldl (fun present function => present.register (function.registration module)) listing

/-- The table of everything that is listed. Names that are listed again are noted now,
after the missing addresses. -/
def build (key : ExportName → UInt64) (listing : Listing) :
    Except (List Fault) (ExportTable key) :=
  let (table, faults) :=
    listing.entries.foldl ExportTable.enlist (ExportTable.empty, listing.faults)
  if faults.isEmpty then .ok table else .error faults

end Listing

/-- The key of a name: a hash of its two parts with a zero character between. -/
def nameKey (name : ExportName) : UInt64 :=
  hash (name.module ++ "\x00" ++ name.function)

end NativeBridge.Host

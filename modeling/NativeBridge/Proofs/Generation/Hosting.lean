import NativeBridge.Proofs.Binding.Process
import NativeBridge.Proofs.Generation.Run

/-!
# Hosting a generated run

A host that lists every function of a run under its module and its name is
never told of a duplicate, and its table answers each call site with the
function of its own method: `every_export_binds_to_itself`. No key is compared
for that when the run is generated; it follows from the file names of the
classes and from the exported names inside each class.
-/

namespace NativeBridge

open NativeBridge.Binding NativeBridge.Host

/-- How a host lists the function of a method that it has at an address. -/
def registrationOf (address : ExportedClass × ExportedMethod → Address)
    (exported : ExportedClass × ExportedMethod) : Registration :=
  ⟨exportNameOf exported, some (address exported), exported.2.blockSize⟩

/-- The entry that the listing becomes. -/
def entryOf (address : ExportedClass × ExportedMethod → Address)
    (exported : ExportedClass × ExportedMethod) : Entry :=
  ⟨exportNameOf exported, address exported, exported.2.blockSize⟩

/-- A call site that a stub has for a method. -/
def callSiteOf (exported : ExportedClass × ExportedMethod) : CallSite :=
  .fresh (exportNameOf exported) exported.2.blockSize

/-- Functions whose names differ are listed without a fault, and the table holds
exactly those functions. -/
theorem ofRegistrations_exports (key : ExportName → UInt64)
    {order : List (ExportedClass × ExportedMethod)}
    (distinct : (order.map exportNameOf).Nodup)
    (address : ExportedClass × ExportedMethod → Address) :
    ∃ table : ExportTable key,
      ExportTable.ofRegistrations key (order.map (registrationOf address)) = .ok table ∧
        ∀ name entry, table.find? name = some entry ↔
          ∃ exported ∈ order, entryOf address exported = entry ∧ exportNameOf exported = name := by
  have distinctEntries : ((order.map (entryOf address)).map Entry.name).Nodup := by
    rw [List.map_map]
    exact distinct
  obtain ⟨table, built, finds⟩ := ExportTable.ofRegistrations_of_distinct key distinctEntries
  rw [List.map_map] at built
  refine ⟨table, built, fun name entry => ?_⟩
  rw [finds, List.mem_map]
  constructor
  · rintro ⟨⟨exported, isExported, rfl⟩, named⟩
    exact ⟨exported, isExported, rfl, named⟩
  · rintro ⟨exported, isExported, rfl, named⟩
    exact ⟨⟨exported, isExported, rfl⟩, named⟩

/-- A registry binds the methods of a run to their own functions and to no others. -/
structure BindsOwn {key : ExportName → UInt64} {other world : Type}
    (askOther : other → Request → StateM world (Option Address)) (generated : Generated)
    (address : ExportedClass × ExportedMethod → Address) (registry : String)
    (process : Process key other world) : Prop where
  /-- The size of the parameter block decides between the function and nothing. -/
  resolve : ∀ exported ∈ generated.exports, ∀ size ≤ wordLimit,
    ((Process.resolve askOther registry (exportNameOf exported) size).run process).1
      = if size = exported.2.blockSize then
          .ok ⟨address exported, exportNameOf exported, size⟩
        else .error (.notFound (exportNameOf exported) size)
  /-- A call site of a method that is bound now gets the function of that method. -/
  site : ∀ exported ∈ generated.exports, ∀ name, process.sites name = callSiteOf exported →
    ((Process.bind askOther name registry).run process).1
      = .ok ⟨address exported, exportNameOf exported, exported.2.blockSize⟩
  /-- Where every method has an address of its own, only its own request gets it. -/
  apart : (∀ first ∈ generated.exports, ∀ second ∈ generated.exports,
      address first = address second → first = second) →
    ∀ exported ∈ generated.exports, ∀ name size bound,
      ((Process.resolve askOther registry name size).run process).1 = .ok bound →
      bound.address = address exported →
      name = exportNameOf exported ∧ size = exported.2.blockSize

/-- A table of exactly the functions of a run, once in service, binds each method to
its own function. -/
theorem bindsOwn_of_serves {key : ExportName → UInt64} {other world : Type}
    (askOther : other → Request → StateM world (Option Address)) {generated : Generated}
    (askable : ∀ exported ∈ generated.exports, exported.2.blockSize ≤ wordLimit ∧
      IsCountable exported.1.moduleName ∧ IsCountable exported.2.exportName)
    {address : ExportedClass × ExportedMethod → Address} {table : ExportTable key}
    (finds : ∀ name entry, table.find? name = some entry ↔
      ∃ exported ∈ generated.exports, entryOf address exported = entry ∧
        exportNameOf exported = name)
    {process : Process key other world} {registry : String}
    (serves : process.Serves table registry) :
    BindsOwn askOther generated address registry process := by
  have lookups : ∀ exported ∈ generated.exports, ∀ size,
      table.lookup (exportNameOf exported) size
        = if size = exported.2.blockSize then some (address exported) else none := by
    intro exported isExported size
    have found := (finds (exportNameOf exported) (entryOf address exported)).mpr
      ⟨exported, isExported, rfl, rfl⟩
    simp [ExportTable.lookup, found, entryOf, eq_comm]
  have bounds : ∀ exported ∈ generated.exports, ∀ size ≤ wordLimit,
      table.bound (exportNameOf exported) size
        = if size = exported.2.blockSize then
            .ok ⟨address exported, exportNameOf exported, size⟩
          else .error (.notFound (exportNameOf exported) size) := by
    intro exported isExported size bounded
    obtain ⟨-, module, function⟩ := askable exported isExported
    have looked := lookups exported isExported size
    split
    · rename_i own
      rw [if_pos own] at looked
      exact ExportTable.bound_of_lookup module function bounded looked
    · rename_i foreign
      rw [if_neg foreign] at looked
      exact ExportTable.bound_of_lookup_none bounded looked
  constructor
  case resolve =>
    intro exported isExported size bounded
    rw [serves.run_resolve, bounds exported isExported size bounded]
  case site =>
    intro exported isExported name isSite
    rw [serves.run_bind askOther isSite,
      bounds exported isExported _ (askable exported isExported).1, if_pos rfl]
  case apart =>
    intro own exported isExported name size bound resolved sameAddress
    rw [serves.run_resolve] at resolved
    obtain ⟨looked, -, -⟩ := ExportTable.lookup_of_bound resolved
    obtain ⟨entry, found, sized, addressed⟩ := ExportTable.lookup_eq_some_iff.mp looked
    obtain ⟨owner, isOwner, rfl, rfl⟩ := (finds name entry).mp found
    have isOwn : owner = exported :=
      own owner isOwner exported isExported (addressed.trans sameAddress)
    subst isOwn
    exact ⟨rfl, sized.symm⟩

/-- A host that lists every function of a run, in any order and each at some address,
is never told of a duplicate. Once its table is installed and given to a registry,
every method is bound to its own function from then on, whatever else is done. -/
theorem every_export_binds_to_itself {config : Config} {declarations : Declarations}
    {generated : Generated} (success : generate config declarations = .ok generated)
    (askable : ∀ exported ∈ generated.exports, exported.2.blockSize ≤ wordLimit ∧
      IsCountable exported.1.moduleName ∧ IsCountable exported.2.exportName)
    {order : List (ExportedClass × ExportedMethod)} (complete : order.Perm generated.exports)
    (address : ExportedClass × ExportedMethod → Address) (key : ExportName → UInt64) :
    ∃ table, ExportTable.ofRegistrations key (order.map (registrationOf address)) = .ok table ∧
      ∀ {other world : Type} (askOther : other → Request → StateM world (Option Address))
        (process : Process key other world) (registry : String),
        process.installed = none → (process.registries registry).host? = none →
        ∃ callback installed accepted,
          (Process.install table).run process = (.ok callback, installed) ∧
          (Process.accept registry callback).run installed = (none, accepted) ∧
          ∀ actions,
            BindsOwn askOther generated address registry (accepted.after askOther actions) := by
  have distinct : (order.map exportNameOf).Nodup :=
    (complete.map exportNameOf).nodup_iff.mpr (generated.distinct_exportNames success)
  obtain ⟨table, built, finds⟩ := ofRegistrations_exports key distinct address
  have findsExports : ∀ name entry, table.find? name = some entry ↔
      ∃ exported ∈ generated.exports, entryOf address exported = entry ∧
        exportNameOf exported = name := by
    intro name entry
    rw [finds]
    simp only [complete.mem_iff]
  refine ⟨table, built, ?_⟩
  intro other world askOther process registry noTable noHost
  refine ⟨.installed, _, _, Process.run_install table noTable,
    Process.run_accept .installed noHost, fun actions => ?_⟩
  apply bindsOwn_of_serves askOther askable findsExports
  apply Process.Serves.after
  exact ⟨rfl, by simp [Process.setRegistry]⟩

/-- An address of its own for each name that the two exports have. -/
def sharedNameAddress (name : ExportName) : Address :=
  if name = ⟨"EntityModule", "Add"⟩ then ⟨3, by decide⟩
  else if name = ⟨"MathModule", "Add"⟩ then ⟨1, by decide⟩
  else ⟨2, by decide⟩

/-- Two exports with a method of one name, listed last to first in a table that keeps
all names in one bucket, in a process that nothing was done to. -/
theorem every_export_binds_to_itself_sharedName :
    ∃ generated table callback installed accepted,
      generate countingConfig sharedNameDeclarations = .ok generated ∧
      (∀ exported ∈ generated.exports, exported.2.blockSize ≤ wordLimit ∧
        IsCountable exported.1.moduleName ∧ IsCountable exported.2.exportName) ∧
      (generated.exports.map (sharedNameAddress ∘ exportNameOf)).Nodup ∧
      ExportTable.ofRegistrations (fun _ => 0)
        (generated.exports.reverse.map (registrationOf (sharedNameAddress ∘ exportNameOf)))
        = .ok table ∧
      (Process.install table).run (.fresh (fun _ => .fresh ⟨"", ""⟩ 0) ())
        = (.ok callback, installed) ∧
      (Process.accept "main" callback).run installed = (none, accepted) ∧
      ∀ actions, BindsOwn (fun host : Empty => nomatch host) generated
        (sharedNameAddress ∘ exportNameOf) "main"
        (accepted.after (fun host => nomatch host) actions) := by
  obtain ⟨generated, success, listed⟩ := generate_sharedName
  have askable : ∀ exported ∈ generated.exports, exported.2.blockSize ≤ wordLimit ∧
      IsCountable exported.1.moduleName ∧ IsCountable exported.2.exportName := by
    have allAskable : ∀ entry ∈ generated.exports.map
        (fun exported => (exportNameOf exported, exported.2.blockSize)),
        entry.2 ≤ wordLimit ∧ IsCountable entry.1.module ∧ IsCountable entry.1.function := by
      rw [listed]
      simp only [IsCountable]
      decide +kernel
    exact fun exported isExported => allAskable _ (List.mem_map_of_mem isExported)
  have own : (generated.exports.map (sharedNameAddress ∘ exportNameOf)).Nodup := by
    have addresses := congrArg (List.map (sharedNameAddress ∘ Prod.fst)) listed
    rw [List.map_map] at addresses
    exact addresses ▸ (by decide)
  obtain ⟨table, built, binds⟩ := every_export_binds_to_itself success askable
    generated.exports.reverse_perm (sharedNameAddress ∘ exportNameOf) fun _ => 0
  obtain ⟨callback, installed, accepted, first, second, later⟩ :=
    binds (fun host : Empty => nomatch host) (.fresh (fun _ => .fresh ⟨"", ""⟩ 0) ()) "main"
      rfl rfl
  exact ⟨generated, table, callback, installed, accepted, success, askable, own, built, first,
    second, later⟩

end NativeBridge

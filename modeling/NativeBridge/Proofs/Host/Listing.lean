import NativeBridge.Proofs.Host.ExportTable

/-!
# What becomes of a listing

A host lists functions one by one or module by module. What it has listed becomes
a table exactly when every function has an address and a name of its own; then the
table is the listing, whatever the key of the names is. Otherwise each missing
address and each repeated name is reported once, in order: `Listing.build_calls`.
-/

namespace NativeBridge.Host

open NativeBridge.Binding

/-- The faults of a listing: the missing addresses, then each name with an address that
comes again. -/
def listingFaults (listed : List Registration) : List Fault :=
  (listed.filter fun registration => registration.address.isNone).map
    (fun registration => .nullExport registration.name)
  ++ (repeats ((listed.filter fun registration => registration.address.isSome).map
    Registration.name)).map .duplicateExport

/-- The functions without an address are the faults that are noted while listing. -/
theorem missing_addresses (listed : List Registration) :
    listed.filterMap Registration.fault?
      = (listed.filter fun registration => registration.address.isNone).map
        fun registration => .nullExport registration.name := by
  rw [← List.filterMap_eq_map, List.filterMap_filter]
  rfl

/-- The entries have the names of the functions with an address. -/
theorem names_of_entries (listed : List Registration) :
    (listed.filterMap Registration.entry?).map Entry.name
      = (listed.filter fun registration => registration.address.isSome).map
        Registration.name := by
  rw [List.map_filterMap, ← List.filterMap_eq_map, List.filterMap_filter]
  apply List.filterMap_congr
  intro registration _
  cases address : registration.address <;> simp [Registration.entry?, address]

/-- A function with an address is listed exactly when its entry is made. -/
theorem mem_entries_iff {listed : List Registration} {entry : Entry} :
    entry ∈ listed.filterMap Registration.entry? ↔ entry.registration ∈ listed := by
  rw [List.mem_filterMap]
  constructor
  · rintro ⟨⟨name, address, size⟩, isListed, made⟩
    obtain ⟨given, rfl, rfl⟩ := Option.map_eq_some_iff.mp made
    exact isListed
  · intro isListed
    exact ⟨entry.registration, isListed, rfl⟩

/-- Nothing is left out where every function has an address. -/
theorem filter_isSome_of_given {listed : List Registration}
    (given : ∀ registration ∈ listed, registration.address ≠ none) :
    (listed.filter fun registration => registration.address.isSome) = listed := by
  rw [List.filter_eq_self]
  intro registration isListed
  exact Option.isSome_iff_ne_none.mpr (given registration isListed)

/-- A listing has no fault exactly when every function has an address and a name of its own. -/
theorem listingFaults_eq_nil_iff {listed : List Registration} :
    listingFaults listed = [] ↔
      (∀ registration ∈ listed, registration.address ≠ none) ∧
        (listed.map Registration.name).Nodup := by
  have noNulls : (listed.filter fun registration => registration.address.isNone) = [] ↔
      ∀ registration ∈ listed, registration.address ≠ none := by
    simp [List.filter_eq_nil_iff]
  rw [listingFaults, List.append_eq_nil_iff, List.map_eq_nil_iff, List.map_eq_nil_iff,
    repeats_eq_nil_iff, noNulls]
  refine and_congr_right fun given => ?_
  rw [filter_isSome_of_given given]

/-- What is noted while listing and while enlisting are all the faults. -/
theorem faults_append_enlisted (key : ExportName → UInt64) (listed : List Registration) :
    listed.filterMap Registration.fault?
        ++ ((listed.filterMap Registration.entry?).foldl ExportTable.enlist
          ((ExportTable.empty : ExportTable key), [])).2
      = listingFaults listed := by
  rw [missing_addresses, ExportTable.faults_foldl_enlist, names_of_entries,
    listingFaults]

/-- What the listed functions become is decided by their faults. -/
theorem ofRegistrations_eq (key : ExportName → UInt64) (listed : List Registration) :
    ExportTable.ofRegistrations key listed
      = if listingFaults listed = [] then
          .ok ((listed.filterMap Registration.entry?).foldl ExportTable.enlist
            (ExportTable.empty, [])).1
        else .error (listingFaults listed) := by
  simp only [ExportTable.ofRegistrations, faults_append_enlisted]
  cases listingFaults listed with
  | nil => rfl
  | cons fault rest => rfl

/-- A table is the listing that it was made of. -/
theorem ofRegistrations_ok {key : ExportName → UInt64} {listed : List Registration}
    {table : ExportTable key} (ok : ExportTable.ofRegistrations key listed = .ok table) :
    (∀ name size address, table.lookup name size = some address ↔
      ⟨name, some address, size⟩ ∈ listed) ∧
    table.size = listed.length ∧ (table.isEmpty = true ↔ table.size = 0) := by
  rw [ofRegistrations_eq] at ok
  split at ok
  case isFalse => cases ok
  case isTrue noFaults =>
    obtain ⟨given, distinct⟩ := listingFaults_eq_nil_iff.mp noFaults
    have names : (listed.filterMap Registration.entry?).map Entry.name
        = listed.map Registration.name := by
      rw [names_of_entries, filter_isSome_of_given given]
    have length : (listed.filterMap Registration.entry?).length = listed.length := by
      rw [← List.length_map Entry.name, names, List.length_map]
    have noRepeats := @ExportTable.faults_foldl_enlist key
      (listed.filterMap Registration.entry?)
    rw [names, repeats_eq_nil_iff.mpr distinct, List.map_nil] at noRepeats
    have sizes := ExportTable.size_add_length_foldl_enlist
      (listed.filterMap Registration.entry?) ((ExportTable.empty : ExportTable key), [])
    have emptySize : (ExportTable.empty : ExportTable key).size = 0 := rfl
    rw [noRepeats, List.length_nil, emptySize, length] at sizes
    cases ok
    refine ⟨fun name size address => ?_, by omega, ?_⟩
    · rw [ExportTable.lookup_eq_some_iff]
      simp only [ExportTable.find?_foldl_enlist, ExportTable.find?_empty, Option.none_or,
        ExportTable.find?_eq_some_iff_of_distinct (names ▸ distinct)]
      constructor
      · rintro ⟨entry, ⟨isEntry, rfl⟩, rfl, rfl⟩
        exact mem_entries_iff.mp isEntry
      · intro isListed
        exact ⟨⟨name, address, size⟩, ⟨mem_entries_iff.mpr isListed, rfl⟩, rfl, rfl⟩
    · rw [ExportTable.isEmpty_foldl_enlist, List.isEmpty_iff, ← List.length_eq_zero_iff, length]
      omega

namespace Listing

/-- Functions are listed one by one: those with an address as entries, the others as faults. -/
theorem foldl_register (listed : List Registration) (listing : Listing) :
    listed.foldl register listing
      = ⟨listing.entries ++ listed.filterMap Registration.entry?,
          listing.faults ++ listed.filterMap Registration.fault?⟩ := by
  induction listed generalizing listing with
  | nil => simp
  | cons registration rest ih =>
      rw [List.foldl_cons, ih]
      cases address : registration.address <;>
        simp [register, Registration.entry?, Registration.fault?, address]

/-- Functions that are listed one by one become what they become all at once. -/
theorem build_foldl_register (key : ExportName → UInt64) (listed : List Registration) :
    (listed.foldl register empty).build key = ExportTable.ofRegistrations key listed := by
  rw [foldl_register, ofRegistrations_eq, build]
  have carried := @ExportTable.foldl_enlist_append key
    (listed.filterMap Registration.entry?) .empty (listed.filterMap Registration.fault?) []
  rw [List.append_nil, faults_append_enlisted] at carried
  simp only [empty, List.nil_append, carried, List.isEmpty_iff]

/-- What a host does to a listing. -/
inductive Call where
  /-- Lists one function. -/
  | register (registration : Registration)
  /-- Lists several functions of one module. -/
  | registerModule (module : String) (functions : List ModuleFunction)

/-- The functions that are listed by a call, in order. -/
def Call.registrations : Call → List Registration
  | register registration => [registration]
  | registerModule module functions =>
      functions.map fun function => function.registration module

/-- The listing after a call. -/
def call (listing : Listing) : Call → Listing
  | .register registration => listing.register registration
  | .registerModule module functions => listing.registerModule module functions

/-- Calls list their functions one by one. -/
theorem foldl_call (calls : List Call) (listing : Listing) :
    calls.foldl call listing = (calls.flatMap Call.registrations).foldl register listing := by
  induction calls generalizing listing with
  | nil => rfl
  | cons first rest ih =>
      rw [List.foldl_cons, ih, List.flatMap_cons, List.foldl_append]
      cases first with
      | register registration => rfl
      | registerModule module functions =>
          simp only [call, registerModule, Call.registrations, List.foldl_map]

/-- Whatever a host lists, in whatever calls and with whatever key, becomes a table exactly
when every function has an address and a name of its own, and the table is the listing.
Otherwise the faults are the missing addresses in order and then, whatever the sizes are, each
name with an address that comes again. -/
theorem build_calls (key : ExportName → UInt64) (calls : List Call) :
    let listed := calls.flatMap Call.registrations
    let built := (calls.foldl call empty).build key
    ((∃ table, built = .ok table) ↔
      (∀ registration ∈ listed, registration.address ≠ none) ∧
        (listed.map Registration.name).Nodup) ∧
    (∀ table, built = .ok table →
      (∀ name size address, table.lookup name size = some address ↔
        ⟨name, some address, size⟩ ∈ listed) ∧
      table.size = listed.length ∧ (table.isEmpty = true ↔ table.size = 0)) ∧
    ∀ faults, built = .error faults →
      faults = (listed.filter fun registration => registration.address.isNone).map
          (fun registration => .nullExport registration.name)
        ++ (repeats ((listed.filter fun registration => registration.address.isSome).map
          Registration.name)).map .duplicateExport := by
  intro listed built
  have made : built = ExportTable.ofRegistrations key listed := by
    rw [← build_foldl_register, ← foldl_call]
  refine ⟨?_, fun table ok => ofRegistrations_ok (made ▸ ok), fun faults refused => ?_⟩
  · rw [← listingFaults_eq_nil_iff, made, ofRegistrations_eq]
    by_cases noFaults : listingFaults listed = [] <;> simp [noFaults]
  · rw [made, ofRegistrations_eq] at refused
    split at refused
    · cases refused
    · cases refused
      rfl

/-- Functions of two modules, two of them with one name. -/
def acceptedCalls : List Call :=
  [.registerModule "MathModule"
      [⟨"Add", some ⟨0x10, by decide⟩, 8⟩, ⟨"Scale", some ⟨0x20, by decide⟩, 12⟩],
    .register ⟨⟨"Log", "Add"⟩, some ⟨0x30, by decide⟩, 4⟩]

/-- The same functions, then two without an address and two that come again. -/
def refusedCalls : List Call :=
  acceptedCalls ++
    [.register ⟨⟨"MathModule", "Add"⟩, some ⟨0x10, by decide⟩, 12⟩,
      .registerModule "Log"
        [⟨"Add", none, 4⟩, ⟨"Write", none, 4⟩, ⟨"Add", some ⟨0x30, by decide⟩, 4⟩]]

/-- All functions share one bucket, yet each is found under its own name and size; and a
listing is refused with all its faults. -/
theorem build_calls_oneBucket :
    (∃ table, (acceptedCalls.foldl call empty).build (fun _ => 0) = .ok table ∧
      table.lookup ⟨"MathModule", "Add"⟩ 8 = some ⟨0x10, by decide⟩ ∧
      table.lookup ⟨"Log", "Add"⟩ 4 = some ⟨0x30, by decide⟩ ∧
      table.lookup ⟨"Log", "Add"⟩ 8 ≠ some ⟨0x10, by decide⟩ ∧ table.size = 3) ∧
    (refusedCalls.foldl call empty).build (fun _ => 0)
      = .error [.nullExport ⟨"Log", "Add"⟩, .nullExport ⟨"Log", "Write"⟩,
        .duplicateExport ⟨"MathModule", "Add"⟩, .duplicateExport ⟨"Log", "Add"⟩] := by
  constructor
  · obtain ⟨accepts, makes, -⟩ := build_calls (fun _ => 0) acceptedCalls
    obtain ⟨table, built⟩ := accepts.mpr ⟨by decide +kernel, by decide +kernel⟩
    obtain ⟨looks, sized, -⟩ := makes table built
    refine ⟨table, built, (looks _ _ _).mpr ?_, (looks _ _ _).mpr ?_, fun found => ?_, sized⟩
    · decide +kernel
    · decide +kernel
    · exact absurd ((looks _ _ _).mp found) (by decide +kernel)
  · obtain ⟨accepts, -, refuses⟩ := build_calls (fun _ => 0) refusedCalls
    cases built : (refusedCalls.foldl call empty).build (fun _ => 0) with
    | ok table => exact absurd (accepts.mp ⟨table, built⟩).1 (by decide +kernel)
    | error faults =>
        rw [refuses faults built]
        exact congrArg Except.error (by decide +kernel)

end Listing

end NativeBridge.Host

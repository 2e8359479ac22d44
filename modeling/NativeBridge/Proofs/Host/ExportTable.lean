import Mathlib.Data.List.Induction
import Mathlib.Data.List.Nodup
import NativeBridge.Host.ExportTable
import NativeBridge.Proofs.Host.Request

/-!
# What a table of exports answers

The buckets of a table do not show: `ExportTable.find?` sees the entries that
were listed, the first of each name, whatever the key of the names is, and every
later entry of a name is a fault. A list without repeated names becomes a table,
and the table answers a request exactly when an entry has its name and its size.
-/

namespace NativeBridge.Host

open NativeBridge.Binding

/-- An entry as a host lists it. -/
def Entry.registration (entry : Entry) : Registration :=
  ⟨entry.name, some entry.address, entry.size⟩

/-- Inserting an entry changes the bucket of its key only. -/
theorem Buckets.lookup_insert (key other : UInt64) (entry : Entry) (buckets : Buckets) :
    (Buckets.insert key entry buckets).lookup other
      = if other = key then some ((buckets.lookup other).getD [] ++ [entry])
        else buckets.lookup other := by
  induction buckets with
  | nil =>
      by_cases same : other = key
      · simp [Buckets.insert, same]
      · have differs : (other == key) = false := by simpa using same
        simp [Buckets.insert, List.lookup_cons, differs, same]
  | cons bucket rest ih =>
      obtain ⟨present, entries⟩ := bucket
      simp only [Buckets.insert]
      by_cases found : other = present
      · subst found
        by_cases here : other = key <;> simp [here]
      · have differs : (other == present) = false := by simpa using found
        by_cases here : present = key
        · subst here
          simp [List.lookup_cons, differs, found]
        · simp [List.lookup_cons, differs, here, ih]

/-- The names that came before, each time they come again. -/
def repeats (names : List ExportName) : List ExportName :=
  names.zipIdx.filterMap fun (name, position) =>
    if name ∈ names.take position then some name else none

/-- One more name is a repetition exactly when it came before. -/
theorem repeats_append_singleton (names : List ExportName) (name : ExportName) :
    repeats (names ++ [name]) = repeats names ++ if name ∈ names then [name] else [] := by
  have earlier : ∀ entry ∈ names.zipIdx,
      (if entry.1 ∈ (names ++ [name]).take entry.2 then some entry.1 else none)
        = if entry.1 ∈ names.take entry.2 then some entry.1 else none := by
    intro entry isEntry
    have within : entry.2 < names.length := List.snd_lt_of_mem_zipIdx isEntry
    rw [List.take_append_of_le_length (Nat.le_of_lt within)]
  rw [repeats, List.zipIdx_append, List.filterMap_append, List.filterMap_congr earlier, repeats]
  congr 1
  by_cases known : name ∈ names <;> simp [known]

/-- No name is repeated exactly when the names are distinct. -/
theorem repeats_eq_nil_iff {names : List ExportName} : repeats names = [] ↔ names.Nodup := by
  induction names using List.reverseRecOn with
  | nil => simp [repeats]
  | append_singleton names name ih =>
      rw [repeats_append_singleton, List.append_eq_nil_iff, ih, ← List.concat_eq_append,
        List.nodup_concat]
      by_cases known : name ∈ names <;> simp [known]

namespace ExportTable

variable {key : ExportName → UInt64}

/-- The empty table knows no name. -/
@[simp] theorem find?_empty (name : ExportName) :
    (empty : ExportTable key).find? name = none :=
  rfl

/-- A new entry is found under its name, unless an earlier one has the name. -/
theorem find?_insert (table : ExportTable key) (entry : Entry) (name : ExportName) :
    (table.insert entry).find? name
      = (table.find? name).or (if entry.name = name then some entry else none) := by
  simp only [find?, insert, Buckets.lookup_insert]
  by_cases same : key name = key entry.name
  · simp only [if_pos same, Option.getD_some, List.find?_append, List.find?_singleton,
      decide_eq_true_eq]
  · have other : entry.name ≠ name := fun equal => same (by rw [equal])
    simp only [if_neg same, if_neg other, Option.or_none]

/-- Enlisting changes the table only for a name that is new. -/
theorem find?_enlist (state : ExportTable key × List Fault) (entry : Entry)
    (name : ExportName) :
    (enlist state entry).1.find? name
      = (state.1.find? name).or (if entry.name = name then some entry else none) := by
  simp only [enlist]
  split
  · rename_i known
    by_cases same : entry.name = name
    · subst same
      obtain ⟨earlier, found⟩ := Option.isSome_iff_exists.mp known
      simp [found]
    · simp [same]
  · exact find?_insert state.1 entry name

/-- After a list was enlisted, a name is found as before or else as its first entry. -/
theorem find?_foldl_enlist (entries : List Entry) (state : ExportTable key × List Fault)
    (name : ExportName) :
    (entries.foldl enlist state).1.find? name
      = (state.1.find? name).or (entries.find? fun entry => entry.name = name) := by
  induction entries generalizing state with
  | nil => simp
  | cons entry rest ih =>
      rw [List.foldl_cons, ih, find?_enlist, Option.or_assoc, List.find?_cons]
      by_cases same : entry.name = name <;> simp [same]

/-- An entry adds one to the size of its bucket. -/
theorem length_insert (key : UInt64) (entry : Entry) (buckets : Buckets) :
    ((Buckets.insert key entry buckets).flatMap Prod.snd).length
      = (buckets.flatMap Prod.snd).length + 1 := by
  induction buckets with
  | nil => rfl
  | cons bucket rest ih =>
      obtain ⟨present, entries⟩ := bucket
      rw [Buckets.insert]
      split
      · simp
        omega
      · simp [ih]
        omega

/-- Every enlisted entry is in the table or reported. -/
theorem size_add_length_enlist (state : ExportTable key × List Fault) (entry : Entry) :
    (enlist state entry).1.size + (enlist state entry).2.length
      = state.1.size + state.2.length + 1 := by
  rw [enlist]
  split
  · simp
    omega
  · simp only [insert, size, length_insert]
    omega

/-- After a list was enlisted, exactly its names are found. -/
theorem isSome_find?_foldl_enlist (entries : List Entry) (name : ExportName) :
    ((entries.foldl enlist ((empty : ExportTable key), [])).1.find? name).isSome = true ↔
      name ∈ entries.map Entry.name := by
  rw [find?_foldl_enlist, find?_empty, Option.none_or, List.find?_isSome, List.mem_map]
  simp

/-- The faults of enlisting a list are its repeated names. -/
theorem faults_foldl_enlist (entries : List Entry) :
    (entries.foldl enlist ((empty : ExportTable key), [])).2
      = (repeats (entries.map Entry.name)).map .duplicateExport := by
  induction entries using List.reverseRecOn with
  | nil => rfl
  | append_singleton entries entry ih =>
      rw [List.foldl_append, List.foldl_cons, List.foldl_nil, List.map_append, List.map_singleton,
        repeats_append_singleton, List.map_append, ← ih, enlist]
      by_cases known : entry.name ∈ entries.map Entry.name
      · rw [if_pos ((isSome_find?_foldl_enlist entries entry.name).mpr known), if_pos known]
        rfl
      · rw [if_neg (fun found => known ((isSome_find?_foldl_enlist entries entry.name).mp found)),
          if_neg known, List.map_nil, List.append_nil]

/-- Enlisting a list puts all entries into the table but those that are reported. -/
theorem size_add_length_foldl_enlist (entries : List Entry)
    (state : ExportTable key × List Fault) :
    (entries.foldl enlist state).1.size + (entries.foldl enlist state).2.length
      = state.1.size + state.2.length + entries.length := by
  induction entries generalizing state with
  | nil => rfl
  | cons entry rest ih =>
      rw [List.foldl_cons, ih, size_add_length_enlist, List.length_cons]
      omega

/-- A table with an entry of some name has a bucket. -/
theorem isEmpty_of_find? {table : ExportTable key} {name : ExportName}
    (found : (table.find? name).isSome = true) : table.isEmpty = false := by
  rw [isEmpty]
  cases buckets : table.buckets with
  | nil => simp [find?, buckets] at found
  | cons bucket rest => rfl

/-- After a list was enlisted, there is a bucket exactly when the list has an entry. -/
theorem isEmpty_foldl_enlist (entries : List Entry) :
    (entries.foldl enlist ((empty : ExportTable key), [])).1.isEmpty = entries.isEmpty := by
  cases entries with
  | nil => rfl
  | cons entry rest =>
      have found := (@isSome_find?_foldl_enlist key (entry :: rest) entry.name).mpr (by simp)
      exact isEmpty_of_find? found

/-- Earlier faults stay in front and change nothing else. -/
theorem foldl_enlist_append (entries : List Entry) (table : ExportTable key)
    (before faults : List Fault) :
    entries.foldl enlist (table, before ++ faults)
      = ((entries.foldl enlist (table, faults)).1,
          before ++ (entries.foldl enlist (table, faults)).2) := by
  induction entries generalizing table faults with
  | nil => rfl
  | cons entry rest ih =>
      have step : enlist (table, before ++ faults) entry
          = ((enlist (table, faults) entry).1, before ++ (enlist (table, faults) entry).2) := by
        by_cases known : (table.find? entry.name).isSome = true <;> simp [enlist, known]
      rw [List.foldl_cons, List.foldl_cons, step, ih]

/-- Among entries whose names differ, each is the first of its name. -/
theorem find?_eq_some_iff_of_distinct {entries : List Entry}
    (distinct : (entries.map Entry.name).Nodup) {name : ExportName} {entry : Entry} :
    (entries.find? fun present => present.name = name) = some entry ↔
      entry ∈ entries ∧ entry.name = name := by
  constructor
  · intro found
    exact ⟨List.mem_of_find?_eq_some found, by simpa using List.find?_some found⟩
  · rintro ⟨member, rfl⟩
    have some : (entries.find? fun present => present.name = entry.name).isSome := by
      rw [List.find?_isSome]
      exact ⟨entry, member, by simp⟩
    obtain ⟨first, found⟩ := Option.isSome_iff_exists.mp some
    have sameName : first.name = entry.name := by simpa using List.find?_some found
    rw [found, List.inj_on_of_nodup_map distinct (List.mem_of_find?_eq_some found) member
      sameName]

/-- Entries whose names differ are listed as a table that finds each of them. -/
theorem ofRegistrations_of_distinct (key : ExportName → UInt64) {entries : List Entry}
    (distinct : (entries.map Entry.name).Nodup) :
    ∃ table : ExportTable key,
      ofRegistrations key (entries.map Entry.registration) = .ok table ∧
        ∀ name entry, table.find? name = some entry ↔ entry ∈ entries ∧ entry.name = name := by
  have noNulls : (entries.map Entry.registration).filterMap Registration.fault? = [] := by
    simp [List.filterMap_eq_nil_iff, Registration.fault?, Entry.registration]
  have listed : (entries.map Entry.registration).filterMap Registration.entry? = entries := by
    simp [List.filterMap_map, Function.comp_def, Registration.entry?, Entry.registration]
  have noRepeats : (entries.foldl enlist ((empty : ExportTable key), [])).2 = [] := by
    rw [faults_foldl_enlist, repeats_eq_nil_iff.mpr distinct, List.map_nil]
  refine ⟨(entries.foldl enlist (empty, [])).1, ?_, fun name entry => ?_⟩
  · simp only [ofRegistrations, noNulls, listed, noRepeats, List.nil_append]
  · rw [find?_foldl_enlist, find?_empty, Option.none_or, find?_eq_some_iff_of_distinct distinct]

/-- A function is looked up exactly when an entry has its name and its size. -/
theorem lookup_eq_some_iff {table : ExportTable key} {name : ExportName} {size : Nat}
    {address : Address} :
    table.lookup name size = some address ↔
      ∃ entry, table.find? name = some entry ∧ entry.size = size ∧ entry.address = address := by
  simp only [lookup, Option.bind_eq_bind, Option.bind_eq_some_iff]
  constructor
  · rintro ⟨entry, found, given⟩
    split at given
    · exact ⟨entry, found, ‹_›, Option.some.inj given⟩
    · cases given
  · rintro ⟨entry, found, rfl, rfl⟩
    exact ⟨entry, found, if_pos rfl⟩

/-- A table answers a request by looking up the name and the size that were asked for. -/
theorem answer_ofName? {table : ExportTable key} {name : ExportName} {size : Nat}
    {request : Request} (bounded : size ≤ wordLimit)
    (asked : Request.ofName? name (Int32.ofNat size) = some request) :
    table.answer request = table.lookup name size := by
  simp only [answer, Request.name?_ofName? asked, Request.size_ofName? asked,
    Option.bind_eq_bind, Option.bind_some]
  rw [if_neg (not_neg_ofNat_of_le bounded), toInt_ofNat_of_le bounded, Int.toNat_natCast]

end ExportTable

end NativeBridge.Host

import NativeBridge.Binding.Process
import NativeBridge.Proofs.Host.ExportTable

/-!
# Binding through the installed table

Once a table is installed and a registry asks it, nothing that any thread does
changes either: `Process.Serves.after`. From then on every request through that
registry is answered by the table alone, as `ExportTable.bound` says.
-/

namespace NativeBridge.Host.ExportTable

open NativeBridge.Binding

variable {key : ExportName → UInt64}

/-- What a registry makes of the answers of one table. -/
def bound (table : ExportTable key) (name : ExportName) (size : Nat) : Except Fault Bound :=
  if wordLimit < size then .error (.blockTooLarge name size)
  else
    match (Request.ofName? name (Int32.ofNat size)).bind table.answer with
    | some address => .ok ⟨address, name, size⟩
    | none => .error (.notFound name size)

/-- A function of the table is bound when its name can be asked for. -/
theorem bound_of_lookup {table : ExportTable key} {name : ExportName} {size : Nat}
    {address : Address} (module : IsCountable name.module)
    (function : IsCountable name.function) (bounded : size ≤ wordLimit)
    (found : table.lookup name size = some address) :
    table.bound name size = .ok ⟨address, name, size⟩ := by
  obtain ⟨request, asked⟩ :=
    Request.ofName?_of_countable (Int32.ofNat size) module function
  have answered : table.answer request = some address := by
    rw [answer_ofName? bounded asked, found]
  simp only [bound, asked, Option.bind_some, answered]
  exact if_neg (Nat.not_lt.mpr bounded)

/-- What the table does not hold is not found. -/
theorem bound_of_lookup_none {table : ExportTable key} {name : ExportName} {size : Nat}
    (bounded : size ≤ wordLimit) (missing : table.lookup name size = none) :
    table.bound name size = .error (.notFound name size) := by
  have unanswered : (Request.ofName? name (Int32.ofNat size)).bind table.answer = none := by
    rw [Option.bind_eq_none_iff]
    intro request asked
    rw [answer_ofName? bounded asked, missing]
  simp only [bound, unanswered]
  exact if_neg (Nat.not_lt.mpr bounded)

/-- A name that can be asked for is bound exactly as the table holds it. -/
theorem bound_of_countable {name : ExportName} (module : IsCountable name.module)
    (function : IsCountable name.function) (table : ExportTable key) (size : Nat) :
    table.bound name size
      = if wordLimit < size then .error (.blockTooLarge name size)
        else match table.lookup name size with
          | some address => .ok ⟨address, name, size⟩
          | none => .error (.notFound name size) := by
  split
  · rename_i large
    rw [bound, if_pos large]
  · rename_i bounded
    cases found : table.lookup name size with
    | some address => exact bound_of_lookup module function (Nat.not_lt.mp bounded) found
    | none => exact bound_of_lookup_none (Nat.not_lt.mp bounded) found

/-- Only functions of the table are bound, each to its own address. -/
theorem lookup_of_bound {table : ExportTable key} {name : ExportName} {size : Nat}
    {result : Bound} (ok : table.bound name size = .ok result) :
    table.lookup name size = some result.address ∧ result.name = name
      ∧ result.size = size := by
  simp only [bound] at ok
  split at ok
  · cases ok
  · rename_i bounded
    split at ok
    · rename_i address answered
      obtain ⟨request, asked, answer⟩ := Option.bind_eq_some_iff.mp answered
      rw [answer_ofName? (Nat.not_lt.mp bounded) asked] at answer
      cases ok
      exact ⟨answer, rfl, rfl⟩
    · cases ok

end NativeBridge.Host.ExportTable

namespace NativeBridge.Binding.Process

open NativeBridge.Host

variable {key : ExportName → UInt64} {other world : Type}

/-- A registry asks the table that is installed. -/
structure Serves (process : Process key other world) (table : ExportTable key)
    (registry : String) : Prop where
  installed : process.installed = some table
  host : (process.registries registry).host? = some .installed

/-- Two states of a process with the same table and the same hosts. -/
structure SameHosts (before after : Process key other world) : Prop where
  installed : after.installed = before.installed
  registries : after.registries = before.registries

/-- An operation that leaves tables and hosts alone. -/
def KeepsHosts {α : Type} (operation : StateM (Process key other world) α) : Prop :=
  ∀ process, SameHosts process (operation.run process).2

/-- Returning a value leaves tables and hosts alone. -/
theorem KeepsHosts.pure {α : Type} (value : α) :
    KeepsHosts (Pure.pure value : StateM (Process key other world) α) :=
  fun _ => ⟨rfl, rfl⟩

/-- One operation after the other leaves tables and hosts alone when both do. -/
theorem KeepsHosts.bind {α β : Type} {first : StateM (Process key other world) α}
    {next : α → StateM (Process key other world) β} (firstKeeps : KeepsHosts first)
    (nextKeeps : ∀ value, KeepsHosts (next value)) : KeepsHosts (first >>= next) := by
  intro process
  have before := firstKeeps process
  have after := nextKeeps (first.run process).1 (first.run process).2
  exact ⟨after.installed.trans before.installed, after.registries.trans before.registries⟩

/-- Reading the state leaves tables and hosts alone. -/
theorem KeepsHosts.get : KeepsHosts (MonadState.get : StateM (Process key other world) _) :=
  fun _ => ⟨rfl, rfl⟩

/-- Replacing a call site leaves tables and hosts alone. -/
theorem KeepsHosts.setSite (name : String) (site : CallSite) :
    KeepsHosts (modify (Process.setSite · name site) : StateM (Process key other world) _) :=
  fun _ => ⟨rfl, rfl⟩

variable (askOther : other → Request → StateM world (Option Address))

/-- Asking a host changes its world only. -/
theorem keepsHosts_ask (callback : Callback other) (request : Request) :
    KeepsHosts (ask askOther callback request : StateM (Process key other world) _) := by
  intro process
  cases callback with
  | installed => exact ⟨rfl, rfl⟩
  | other host => exact ⟨rfl, rfl⟩

/-- Whatever host a registry has, resolving a function changes worlds only. -/
theorem keepsHosts_registry (registry : Registry (Callback other)) (name : ExportName)
    (size : Nat) :
    KeepsHosts
      (registry.resolve (ask askOther) name size : StateM (Process key other world) _) := by
  unfold Registry.resolve
  split
  · exact .pure _
  · split
    · exact .pure _
    · split
      · exact .pure _
      · apply KeepsHosts.bind (keepsHosts_ask askOther _ _)
        intro answer
        cases answer with
        | none => exact .pure _
        | some address => exact .pure _

/-- Resolving a function leaves tables and hosts alone. -/
theorem keepsHosts_resolve (registry : String) (name : ExportName) (size : Nat) :
    KeepsHosts (resolve askOther registry name size : StateM (Process key other world) _) :=
  .bind .get fun process => keepsHosts_registry askOther (process.registries registry) name size

/-- Binding a call site leaves tables and hosts alone. -/
theorem keepsHosts_bind (site registry : String) :
    KeepsHosts (bind askOther site registry : StateM (Process key other world) _) := by
  have getKeeps : ∀ present : CallSite,
      KeepsHosts (present.get (resolve askOther registry) : StateM (Process key other world) _) := by
    intro present
    unfold CallSite.get
    split
    · exact .pure _
    · apply KeepsHosts.bind (keepsHosts_resolve askOther registry _ _)
      intro outcome
      cases outcome with
      | ok bound => exact .pure _
      | error fault => exact .pure _
  refine .bind .get fun process => .bind (getKeeps (process.sites site)) fun result => ?_
  exact .bind (.setSite site result.2) fun _ => .pure _

/-- The first table is installed. -/
theorem run_install {process : Process key other world} (table : ExportTable key)
    (vacant : process.installed = none) :
    (install table).run process
      = (.ok .installed, { process with installed := some table }) := by
  simp [install, vacant]
  rfl

/-- A second table changes nothing. -/
theorem run_install_again {process : Process key other world} {table : ExportTable key}
    (second : ExportTable key) (installed : process.installed = some table) :
    (install second).run process = (.error .alreadyInstalled, process) := by
  simp [install, installed]
  rfl

/-- A registry without a host takes the first one. -/
theorem run_accept {process : Process key other world} {registry : String}
    (callback : Callback other) (vacant : (process.registries registry).host? = none) :
    (accept registry callback).run process
      = (none, process.setRegistry registry ⟨some callback⟩) := by
  simp [accept, Registry.accept, vacant]
  rfl

/-- A second host changes nothing. -/
theorem run_accept_again {process : Process key other world} {registry : String}
    {callback : Callback other} (second : Callback other)
    (initialized : (process.registries registry).host? = some callback) :
    (accept registry second).run process = (some .alreadyInitialized, process) := by
  simp [accept, Registry.accept, initialized]
  rfl

/-- A registry that is given a host leaves every other registry alone. -/
theorem setRegistry_other (process : Process key other world) {name present : String}
    (registry : Registry (Callback other)) (different : present ≠ name) :
    (process.setRegistry name registry).registries present = process.registries present :=
  if_neg different

/-- The table that an action wants to install. -/
def Action.table? : Action key other → Option (ExportTable key)
  | .install table => some table
  | .accept _ _ | .resolve _ _ _ | .bind _ _ => none

/-- The host that an action wants to give to a registry. -/
def Action.hostOf? (registry : String) : Action key other → Option (Callback other)
  | .accept present callback => if present = registry then some callback else none
  | .install _ | .resolve _ _ _ | .bind _ _ => none

/-- Installing is an action. -/
theorem run_act_install (process : Process key other world) (table : ExportTable key) :
    (act askOther (.install table)).run process
      = (.installed ((install table).run process).1, ((install table).run process).2) :=
  rfl

/-- Giving a host to a registry is an action. -/
theorem run_act_accept (process : Process key other world) (registry : String)
    (callback : Callback other) :
    (act askOther (.accept registry callback)).run process
      = (.accepted ((accept registry callback).run process).1,
          ((accept registry callback).run process).2) :=
  rfl

/-- Resolving a function is an action. -/
theorem run_act_resolve (process : Process key other world) (registry : String)
    (name : ExportName) (size : Nat) :
    (act askOther (.resolve registry name size)).run process
      = (.resolved ((resolve askOther registry name size).run process).1,
          ((resolve askOther registry name size).run process).2) :=
  rfl

/-- Binding a call site is an action. -/
theorem run_act_bind (process : Process key other world) (site registry : String) :
    (act askOther (.bind site registry)).run process
      = (.resolved ((bind askOther site registry).run process).1,
          ((bind askOther site registry).run process).2) :=
  rfl

/-- An action installs its table unless there is one. -/
theorem installed_act (process : Process key other world) (action : Action key other) :
    ((act askOther action).run process).2.installed = process.installed.or action.table? := by
  cases action with
  | install table =>
      rw [run_act_install]
      cases vacant : process.installed with
      | none => rw [run_install table vacant]; rfl
      | some present => rw [run_install_again table vacant, vacant]; rfl
  | accept registry callback =>
      rw [run_act_accept, Action.table?, Option.or_none]
      cases vacant : (process.registries registry).host? with
      | none => rw [run_accept callback vacant]; rfl
      | some present => rw [run_accept_again callback vacant]
  | resolve registry name size =>
      exact (keepsHosts_resolve askOther registry name size process).installed.trans
        (Option.or_none).symm
  | bind site registry =>
      exact (keepsHosts_bind askOther site registry process).installed.trans (Option.or_none).symm

/-- An action gives a registry its host unless it has one. -/
theorem host_act (process : Process key other world) (action : Action key other)
    (registry : String) :
    (((act askOther action).run process).2.registries registry).host?
      = (process.registries registry).host?.or (action.hostOf? registry) := by
  cases action with
  | install table =>
      rw [run_act_install, Action.hostOf?, Option.or_none]
      cases vacant : process.installed with
      | none => rw [run_install table vacant]
      | some present => rw [run_install_again table vacant]
  | accept name callback =>
      rw [run_act_accept, Action.hostOf?]
      by_cases own : name = registry
      · subst own
        rw [if_pos rfl]
        cases vacant : (process.registries name).host? with
        | none => rw [run_accept callback vacant]; simp [setRegistry]
        | some present => rw [run_accept_again callback vacant, vacant]; rfl
      · rw [if_neg own, Option.or_none]
        cases vacant : (process.registries name).host? with
        | none =>
            rw [run_accept callback vacant, setRegistry_other process _ (Ne.symm own)]
        | some present => rw [run_accept_again callback vacant]
  | resolve name function size =>
      have kept := (keepsHosts_resolve askOther name function size process).registries
      exact (congrArg (fun present => (present registry).host?) kept).trans (Option.or_none).symm
  | bind site name =>
      have kept := (keepsHosts_bind askOther site name process).registries
      exact (congrArg (fun present => (present registry).host?) kept).trans (Option.or_none).symm

/-- The process after a sequence of actions. -/
def after (process : Process key other world) (actions : List (Action key other)) :
    Process key other world :=
  actions.foldl (fun present action => ((Process.act askOther action).run present).2) process

/-- The first action is done first. -/
theorem after_cons (process : Process key other world) (action : Action key other)
    (rest : List (Action key other)) :
    process.after askOther (action :: rest)
      = ((act askOther action).run process).2.after askOther rest :=
  rfl

/-- Actions are done one after the other. -/
theorem after_append (process : Process key other world) (first second : List (Action key other)) :
    process.after askOther (first ++ second)
      = (process.after askOther first).after askOther second :=
  List.foldl_append

/-- One more action is done last. -/
theorem after_append_singleton (process : Process key other world)
    (actions : List (Action key other)) (action : Action key other) :
    process.after askOther (actions ++ [action])
      = ((act askOther action).run (process.after askOther actions)).2 :=
  after_append askOther process actions [action]

/-- The first table stays, and without one it is the first that actions install. -/
theorem installed_after (process : Process key other world) (actions : List (Action key other)) :
    (process.after askOther actions).installed
      = process.installed.or (actions.findSome? Action.table?) := by
  induction actions generalizing process with
  | nil => exact (Option.or_none).symm
  | cons action rest ih =>
      rw [after_cons, ih, installed_act, Option.or_assoc, ← List.singleton_append,
        List.findSome?_append, List.findSome?_singleton]

/-- The first host stays, and without one it is the first that actions give. -/
theorem host_after (process : Process key other world) (actions : List (Action key other))
    (registry : String) :
    ((process.after askOther actions).registries registry).host?
      = (process.registries registry).host?.or
        (actions.findSome? (Action.hostOf? registry)) := by
  induction actions generalizing process with
  | nil => exact (Option.or_none).symm
  | cons action rest ih =>
      rw [after_cons, ih, host_act, Option.or_assoc, ← List.singleton_append,
        List.findSome?_append, List.findSome?_singleton]

/-- A table stays in service whatever is done in whatever order. -/
theorem Serves.after {process : Process key other world} {table : ExportTable key}
    {registry : String} (serves : process.Serves table registry)
    (actions : List (Action key other)) :
    (process.after askOther actions).Serves table registry where
  installed := by rw [installed_after, serves.installed, Option.some_or]
  host := by rw [host_after, serves.host, Option.some_or]

/-- A served registry answers from the table and changes nothing. -/
theorem Serves.run_resolve {process : Process key other world} {table : ExportTable key}
    {registry : String} (serves : process.Serves table registry) (name : ExportName)
    (size : Nat) :
    (resolve askOther registry name size).run process = (table.bound name size, process) := by
  have run : (resolve askOther registry name size).run process
      = ((process.registries registry).resolve (ask askOther) name size).run process := rfl
  have asks : ∀ request, (ask askOther .installed request).run process
      = (table.answer request, process) := by
    intro request
    simp [ask, serves.installed]
    rfl
  rw [run, Registry.resolve, ExportTable.bound, serves.host]
  by_cases large : wordLimit < size
  · simp only [if_pos large]
    rfl
  · simp only [if_neg large]
    cases asked : Request.ofName? name (Int32.ofNat size) with
    | none => rfl
    | some request =>
        rw [StateT.run_bind, asks, Option.bind_some]
        cases table.answer request with
        | none => rfl
        | some address => rfl

/-- A call site that is bound for the first time gets what the table answers. -/
theorem Serves.run_bind {process : Process key other world} {table : ExportTable key}
    {registry site : String} (serves : process.Serves table registry) {name : ExportName}
    {size : Nat} (unbound : process.sites site = .fresh name size) :
    ((bind askOther site registry).run process).1 = table.bound name size := by
  have run : ((bind askOther site registry).run process).1
      = (((process.sites site).get (resolve askOther registry)).run process).1.1 := rfl
  have resolved := serves.run_resolve askOther name size
  rw [run, unbound]
  simp only [CallSite.get, CallSite.fresh, StateT.run_bind]
  rw [resolved]
  cases table.bound name size with
  | ok bound => rfl
  | error fault => rfl

/-- A table that was installed and given to a registry is in service. -/
theorem serves_of_accept {before installed initialized : Process key other world}
    {table : ExportTable key} {callback : Callback other} {registry : String}
    (installs : (install table).run before = (.ok callback, installed))
    (between : List (Action key other))
    (accepts : (accept registry callback).run (installed.after askOther between)
      = (none, initialized)) : initialized.Serves table registry := by
  have made : callback = .installed ∧ installed.installed = some table := by
    cases vacant : before.installed with
    | none =>
        rw [run_install table vacant] at installs
        cases installs
        exact ⟨rfl, rfl⟩
    | some present =>
        rw [run_install_again table vacant] at installs
        cases installs
  obtain ⟨rfl, present⟩ := made
  cases vacant : ((installed.after askOther between).registries registry).host? with
  | none =>
      rw [run_accept .installed vacant] at accepts
      cases accepts
      refine ⟨?_, by simp [setRegistry]⟩
      have kept := installed_after askOther installed between
      rwa [present, Option.some_or] at kept
  | some host =>
      rw [run_accept_again .installed vacant] at accepts
      cases accepts

/-- Through the entry point of an installed table a registry answers like the table itself,
for every name that can be asked for and every size: a function is bound to the address that
the table holds for it, a size beyond the limit is refused, and everything else is not found. -/
theorem resolve_is_lookup {before installed initialized : Process key other world}
    {table : ExportTable key} {callback : Callback other} {registry : String}
    (installs : (install table).run before = (.ok callback, installed))
    (between : List (Action key other))
    (accepts : (accept registry callback).run (installed.after askOther between)
      = (none, initialized)) (later : List (Action key other)) {name : ExportName}
    (module : IsCountable name.module) (function : IsCountable name.function) (size : Nat) :
    let result :=
      ((resolve askOther registry name size).run (initialized.after askOther later)).1
    (∀ bound, result = .ok bound ↔
      size ≤ wordLimit ∧ table.lookup name size = some bound.address ∧
        bound.name = name ∧ bound.size = size) ∧
    (result = .error (.blockTooLarge name size) ↔ wordLimit < size) ∧
    (result = .error (.notFound name size) ↔
      size ≤ wordLimit ∧ table.lookup name size = none) ∧
    ∀ fault, result = .error fault →
      fault = .blockTooLarge name size ∨ fault = .notFound name size := by
  intro result
  have serves := (serves_of_accept askOther installs between accepts).after askOther later
  have answer : result = if wordLimit < size then .error (.blockTooLarge name size)
      else match table.lookup name size with
        | some address => .ok ⟨address, name, size⟩
        | none => .error (.notFound name size) := by
    rw [← ExportTable.bound_of_countable module function]
    exact congrArg Prod.fst (serves.run_resolve askOther name size)
  rw [answer]
  rcases Nat.lt_or_ge wordLimit size with large | bounded
  · simp [large, Nat.not_le.mpr large]
  · have small : ¬ wordLimit < size := Nat.not_lt.mpr bounded
    cases found : table.lookup name size with
    | none => simp [small, bounded]
    | some address =>
        rw [if_neg small]
        refine ⟨fun bound => ?_, by simp [small], by simp, by simp⟩
        constructor
        · intro same
          cases same
          exact ⟨bounded, rfl, rfl, rfl⟩
        · rintro ⟨-, sameAddress, rfl, rfl⟩
          cases sameAddress
          rfl

/-- A function without a name in a module whose name is a pair of surrogates. -/
def surrogateName : ExportName :=
  ⟨"🚀", ""⟩

/-- A table of this function alone. -/
def surrogateTable : ExportTable fun _ => 0 :=
  ExportTable.empty.insert ⟨surrogateName, ⟨0x40, by decide⟩, 8⟩

/-- A process whose call sites want this function. -/
def surrogateStart : Process (fun _ => 0) Empty Unit :=
  fresh (fun _ => .fresh surrogateName 8) ()

/-- The same process with the table. -/
def surrogateProcess : Process (fun _ => 0) Empty Unit :=
  { surrogateStart with installed := some surrogateTable }

/-- Pairs of surrogates and empty names survive the way to the table and back, and both
sides of the limit are told apart. -/
theorem resolve_is_lookup_surrogates :
    ∃ initialized : Process (fun _ => 0) Empty Unit,
      (install surrogateTable).run surrogateStart = (.ok .installed, surrogateProcess) ∧
      (accept "main" .installed).run
          (surrogateProcess.after (fun host => nomatch host) [.bind "early" "main"])
        = (none, initialized) ∧
      IsCountable surrogateName.module ∧ IsCountable surrogateName.function ∧
      ∀ later, ((resolve (fun host => nomatch host) "main" surrogateName 8).run
          (initialized.after (fun host => nomatch host) later)).1
          = .ok ⟨⟨0x40, by decide⟩, surrogateName, 8⟩ ∧
        ((resolve (fun host => nomatch host) "main" surrogateName (wordLimit + 1)).run
          (initialized.after (fun host => nomatch host) later)).1
          = .error (.blockTooLarge surrogateName (wordLimit + 1)) ∧
        ((resolve (fun host => nomatch host) "main" surrogateName wordLimit).run
          (initialized.after (fun host => nomatch host) later)).1
          = .error (.notFound surrogateName wordLimit) := by
  have module : IsCountable surrogateName.module := by
    rw [IsCountable]
    decide +kernel
  have function : IsCountable surrogateName.function := by
    rw [IsCountable]
    decide +kernel
  have installs : (install surrogateTable).run surrogateStart
      = (.ok .installed, surrogateProcess) := run_install _ rfl
  have accepts := @run_accept _ _ _
    (surrogateProcess.after (fun host => nomatch host) [.bind "early" "main"]) "main"
    .installed rfl
  refine ⟨_, installs, accepts, module, function, fun later => ⟨?_, ?_, ?_⟩⟩
  · refine ((resolve_is_lookup _ installs _ accepts later module function 8).1 _).mpr ?_
    exact ⟨by decide, by decide +kernel, rfl, rfl⟩
  · exact (resolve_is_lookup _ installs _ accepts later module function _).2.1.mpr
      (Nat.lt_succ_self _)
  · refine (resolve_is_lookup _ installs _ accepts later module function _).2.2.1.mpr ?_
    exact ⟨Nat.le_refl _, by decide +kernel⟩

end NativeBridge.Binding.Process

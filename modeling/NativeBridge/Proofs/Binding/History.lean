import Mathlib.Data.List.Induction
import NativeBridge.Proofs.Binding.Process

/-!
# Histories of a process

Threads take turns, so whatever they do is one sequence of actions. The operations
of a process are written here once more for any way of calling entry points; with
the plain way they are the operations themselves, `actThrough_ask`, and with a way
that keeps a record they also tell which calls were made.

`Process.everything_is_set_once` says what any history leaves behind: the first
table, the first host of every registry, and at every call site the first function
that a host has given for it.
-/

namespace NativeBridge.Binding.Process

open NativeBridge.Host

variable {key : ExportName → UInt64} {other world : Type}

/-- A call of an entry point with its answer. -/
structure Lookup (other : Type) where
  callback : Callback other
  request : Request
  answer : Option Address

section Through

variable {m : Type → Type} [Monad m]
  (perform : {α : Type} → StateM (Process key other world) α → m α)
  (call : Callback other → Request → m (Option Address))

/-- Asks the host of a registry for a function, with some way of calling entry points. -/
def resolveThrough (registry : String) (name : ExportName) (size : Nat) :
    m (Except Fault Bound) := do
  let process ← perform get
  (process.registries registry).resolve call name size

/-- The function of a call site, with some way of calling entry points. -/
def bindThrough (site registry : String) : m (Except Fault Bound) := do
  let process ← perform get
  let (bound, next) ← (process.sites site).get (resolveThrough perform call registry)
  perform (modify fun process => process.setSite site next)
  return bound

/-- Does one action, with some way of calling entry points. -/
def actThrough : Action key other → m (Answer other)
  | .install table => return .installed (← perform (install table))
  | .accept registry callback => return .accepted (← perform (accept registry callback))
  | .resolve registry name size =>
      return .resolved (← resolveThrough perform call registry name size)
  | .bind site registry => return .resolved (← bindThrough perform call site registry)

end Through

variable (askOther : other → Request → StateM world (Option Address))

/-- With the plain way of calling entry points an action is the action itself. -/
theorem actThrough_ask (action : Action key other) :
    actThrough (fun operation => operation) (ask askOther) action
      = (act askOther action : StateM (Process key other world) (Answer other)) := by
  cases action with
  | install table => rfl
  | accept registry callback => rfl
  | resolve registry name size => rfl
  | bind site registry => rfl

/-- Operations with a record of the calls of entry points. -/
abbrev Recorded (key : ExportName → UInt64) (other world : Type) :=
  StateT (List (Lookup other)) (StateM (Process key other world))

/-- Calls an entry point and puts the call on record. -/
def askRecorded (callback : Callback other) (request : Request) :
    Recorded key other world (Option Address) := do
  let answer ← StateT.lift (ask askOther callback request)
  modify (· ++ [⟨callback, request, answer⟩])
  return answer

/-- A call that is put on record is answered as without a record. -/
theorem run_askRecorded (process : Process key other world) (callback : Callback other)
    (request : Request) :
    ((askRecorded askOther callback request).run []).run process
      = let result := (ask askOther callback request).run process
        ((result.1, [⟨callback, request, result.1⟩]), result.2) :=
  rfl

/-- Does one action and tells its answer, the calls on record and the process after it. -/
def actRecorded (process : Process key other world) (action : Action key other) :
    (Answer other × List (Lookup other)) × Process key other world :=
  ((actThrough StateT.lift (askRecorded askOther) action).run []).run process

/-- Resolving a function on record is an action on record. -/
theorem actRecorded_resolve (process : Process key other world) (registry : String)
    (name : ExportName) (size : Nat) :
    actRecorded askOther process (.resolve registry name size)
      = let result := ((resolveThrough StateT.lift (askRecorded askOther) registry name size).run
          []).run process
        ((.resolved result.1.1, result.1.2), result.2) :=
  rfl

/-- Binding a call site on record is an action on record. -/
theorem actRecorded_bind (process : Process key other world) (site registry : String) :
    actRecorded askOther process (.bind site registry)
      = let result := ((bindThrough StateT.lift (askRecorded askOther) site registry).run
          []).run process
        ((.resolved result.1.1, result.1.2), result.2) :=
  rfl

/-- How a registry resolves a function: the outcome, the calls that it makes and the process
that it leaves. -/
inductive Resolution (process : Process key other world) (registry : String)
    (name : ExportName) (size : Nat) :
    Except Fault Bound → List (Lookup other) → Process key other world → Prop where
  /-- No host is asked. -/
  | unasked {fault : Fault} : Resolution process registry name size (.error fault) [] process
  /-- The host has the function. -/
  | found {callback : Callback other} {request : Request} {address : Address}
      {after : Process key other world}
      (host : (process.registries registry).host? = some callback) (bounded : size ≤ wordLimit)
      (asked : Request.ofName? name (Int32.ofNat size) = some request)
      (answered : (ask askOther callback request).run process = (some address, after)) :
      Resolution process registry name size (.ok ⟨address, name, size⟩)
        [⟨callback, request, some address⟩] after
  /-- The host does not have the function. -/
  | missed {callback : Callback other} {request : Request} {after : Process key other world}
      (answered : (ask askOther callback request).run process = (none, after)) :
      Resolution process registry name size (.error (.notFound name size))
        [⟨callback, request, none⟩] after

/-- A function is resolved with at most one call, and the record of it changes nothing. -/
theorem exists_resolution (process : Process key other world) (registry : String)
    (name : ExportName) (size : Nat) :
    ∃ outcome calls after,
      (resolve askOther registry name size).run process = (outcome, after) ∧
      ((resolveThrough StateT.lift (askRecorded askOther) registry name size).run []).run process
        = ((outcome, calls), after) ∧
      Resolution askOther process registry name size outcome calls after := by
  have plain : (resolve askOther registry name size).run process
      = ((process.registries registry).resolve (ask askOther) name size).run process := rfl
  have recorded : ((resolveThrough StateT.lift (askRecorded askOther) registry name size).run
        []).run process
      = (((process.registries registry).resolve (askRecorded askOther) name size).run
        []).run process := rfl
  rw [plain, recorded, Registry.resolve, Registry.resolve]
  cases host : (process.registries registry).host? with
  | none => exact ⟨_, _, _, rfl, rfl, .unasked⟩
  | some callback =>
      by_cases large : wordLimit < size
      · simp only [if_pos large]
        exact ⟨_, _, _, rfl, rfl, .unasked⟩
      · simp only [if_neg large]
        cases asked : Request.ofName? name (Int32.ofNat size) with
        | none => exact ⟨_, _, _, rfl, rfl, .unasked⟩
        | some request =>
            rcases answered : (ask askOther callback request).run process with ⟨answer, after⟩
            have onRecord := run_askRecorded askOther process callback request
            rw [answered] at onRecord
            simp only [StateT.run_bind, answered, onRecord]
            cases answer with
            | none => exact ⟨_, _, _, rfl, rfl, .missed answered⟩
            | some address =>
                exact ⟨_, _, _, rfl, rfl, .found host (Nat.not_lt.mp large) asked answered⟩

/-- Calling an entry point leaves every call site alone. -/
theorem sites_ask (process : Process key other world) (callback : Callback other)
    (request : Request) :
    ((ask askOther callback request).run process).2.sites = process.sites := by
  cases callback with
  | installed => rfl
  | other host => rfl

variable {askOther} in
/-- Resolving a function leaves every call site alone. -/
theorem Resolution.sites {process after : Process key other world} {registry : String}
    {name : ExportName} {size : Nat} {outcome : Except Fault Bound}
    {calls : List (Lookup other)}
    (resolution : Resolution askOther process registry name size outcome calls after) :
    after.sites = process.sites := by
  cases resolution with
  | unasked => rfl
  | found host bounded asked answered =>
      rw [← sites_ask askOther process, answered]
  | missed answered => rw [← sites_ask askOther process, answered]

/-- A process with a call site in its own place is the same process. -/
theorem setSite_self (process : Process key other world) (name : String) :
    process.setSite name (process.sites name) = process := by
  cases process with
  | mk installed registries sites world =>
      simp only [setSite, mk.injEq, true_and, and_true]
      funext present
      by_cases own : present = name <;> simp [own]

/-- A call site is found where it was put. -/
theorem setSite_sites_self (process : Process key other world) (name : String)
    (site : CallSite) : (process.setSite name site).sites name = site :=
  if_pos rfl

/-- A call site that is put somewhere leaves every other one alone. -/
theorem setSite_sites_other (process : Process key other world) {name present : String}
    (site : CallSite) (different : present ≠ name) :
    (process.setSite name site).sites present = process.sites present :=
  if_neg different

/-- What an action does to one call site: its answer, the calls that it makes, and the process
after it. -/
inductive SiteStep (process : Process key other world) (site : String) :
    Action key other → Answer other → List (Lookup other) → Process key other world → Prop where
  /-- The call site is not used. -/
  | unused {action : Action key other} {answer : Answer other} {calls : List (Lookup other)}
      {after : Process key other world} (different : ∀ registry, action ≠ .bind site registry)
      (kept : after.sites site = process.sites site) :
      SiteStep process site action answer calls after
  /-- The function is known, so nothing is done. -/
  | known {registry : String} {bound : Bound}
      (resolved : (process.sites site).bound? = some bound) :
      SiteStep process site (.bind site registry) (.resolved (.ok bound)) [] process
  /-- The function is not known and cannot be resolved. -/
  | failed {registry : String} {fault : Fault} {calls : List (Lookup other)}
      {asked after : Process key other world} (unresolved : (process.sites site).bound? = none)
      (resolution : Resolution askOther process registry (process.sites site).name
        (process.sites site).size (.error fault) calls asked)
      (kept : after.sites site = process.sites site) :
      SiteStep process site (.bind site registry) (.resolved (.error fault)) calls after
  /-- The function is resolved for the first time. -/
  | bound {registry : String} {bound : Bound} {calls : List (Lookup other)}
      {asked after : Process key other world} (unresolved : (process.sites site).bound? = none)
      (resolution : Resolution askOther process registry (process.sites site).name
        (process.sites site).size (.ok bound) calls asked)
      (filled : after.sites site = { process.sites site with bound? := some bound }) :
      SiteStep process site (.bind site registry) (.resolved (.ok bound)) calls after

/-- What binding a call site does to it, and the record of the calls changes nothing. -/
theorem exists_siteStep_bind (process : Process key other world) (site registry : String) :
    ∃ outcome calls after,
      (bind askOther site registry).run process = (outcome, after) ∧
      ((bindThrough StateT.lift (askRecorded askOther) site registry).run []).run process
        = ((outcome, calls), after) ∧
      SiteStep askOther process site (.bind site registry) (.resolved outcome) calls after ∧
      ∀ present, present ≠ site → after.sites present = process.sites present := by
  have plain : (bind askOther site registry).run process
      = let result := ((process.sites site).get (resolve askOther registry)).run process
        (result.1.1, result.2.setSite site result.1.2) := rfl
  have recorded : ((bindThrough StateT.lift (askRecorded askOther) site registry).run []).run
        process
      = let result := (((process.sites site).get
          (resolveThrough StateT.lift (askRecorded askOther) registry)).run []).run process
        ((result.1.1.1, result.1.2), result.2.setSite site result.1.1.2) := rfl
  rw [plain, recorded, CallSite.get, CallSite.get]
  cases resolved : (process.sites site).bound? with
  | some bound =>
      refine ⟨.ok bound, [], process, ?_, ?_, .known resolved, fun present different => rfl⟩
      · exact congrArg (Prod.mk _) (setSite_self process site)
      · exact congrArg (Prod.mk _) (setSite_self process site)
  | none =>
      obtain ⟨outcome, calls, asked, resolves, onRecord, resolution⟩ :=
        exists_resolution askOther process registry (process.sites site).name
          (process.sites site).size
      simp only [StateT.run_bind, resolves, onRecord]
      have others : ∀ next present, present ≠ site →
          (asked.setSite site next).sites present = process.sites present := by
        intro next present different
        rw [setSite_sites_other asked next different, resolution.sites]
      cases outcome with
      | error fault =>
          refine ⟨_, _, _, rfl, rfl, .failed resolved resolution ?_, others _⟩
          exact setSite_sites_self asked site _
      | ok bound =>
          refine ⟨_, _, _, rfl, rfl, .bound resolved resolution ?_, others _⟩
          exact setSite_sites_self asked site _

/-- Installing a table leaves every call site alone. -/
theorem sites_install (process : Process key other world) (table : ExportTable key) :
    ((install table).run process).2.sites = process.sites := by
  cases vacant : process.installed with
  | none => rw [run_install table vacant]
  | some present => rw [run_install_again table vacant]

/-- Giving a host to a registry leaves every call site alone. -/
theorem sites_accept (process : Process key other world) (registry : String)
    (callback : Callback other) :
    ((accept registry callback).run process).2.sites = process.sites := by
  cases vacant : (process.registries registry).host? with
  | none => rw [run_accept callback vacant]; rfl
  | some present => rw [run_accept_again callback vacant]

/-- What an action does to every call site, and the record of the calls changes nothing. -/
theorem exists_siteStep (process : Process key other world) (action : Action key other) :
    ∃ answer calls after, (act askOther action).run process = (answer, after) ∧
      actRecorded askOther process action = ((answer, calls), after) ∧
      ∀ site, SiteStep askOther process site action answer calls after := by
  cases action with
  | install table =>
      refine ⟨_, _, _, rfl, rfl, fun site => .unused (by simp) ?_⟩
      exact congrFun (sites_install process table) site
  | accept registry callback =>
      refine ⟨_, _, _, rfl, rfl, fun site => .unused (by simp) ?_⟩
      exact congrFun (sites_accept process registry callback) site
  | resolve registry name size =>
      obtain ⟨outcome, calls, after, resolves, onRecord, resolution⟩ :=
        exists_resolution askOther process registry name size
      refine ⟨.resolved outcome, calls, after, ?_, ?_, fun site => .unused (by simp) ?_⟩
      · rw [run_act_resolve, resolves]
      · rw [actRecorded_resolve, onRecord]
      · rw [resolution.sites]
  | bind used registry =>
      obtain ⟨outcome, calls, after, binds, onRecord, step, others⟩ :=
        exists_siteStep_bind askOther process used registry
      refine ⟨.resolved outcome, calls, after, ?_, ?_, fun site => ?_⟩
      · rw [run_act_bind, binds]
      · rw [actRecorded_bind, onRecord]
      · by_cases own : site = used
        · subst own
          exact step
        · refine .unused (fun present same => ?_) (others site own)
          cases same
          exact own rfl

/-- What comes of an action. -/
def answer (process : Process key other world) (action : Action key other) : Answer other :=
  ((act askOther action).run process).1

/-- A table is refused exactly when there is one. -/
theorem answer_install (process : Process key other world) (table : ExportTable key) :
    answer askOther process (.install table)
      = .installed (if process.installed.isSome then .error .alreadyInstalled
        else .ok .installed) := by
  rw [answer, run_act_install]
  cases vacant : process.installed with
  | none => rw [run_install table vacant]; rfl
  | some present => rw [run_install_again table vacant]; rfl

/-- A host is refused exactly when the registry has one. -/
theorem answer_accept (process : Process key other world) (registry : String)
    (callback : Callback other) :
    answer askOther process (.accept registry callback)
      = .accepted (if (process.registries registry).host?.isSome then some .alreadyInitialized
        else none) := by
  rw [answer, run_act_accept]
  cases vacant : (process.registries registry).host? with
  | none => rw [run_accept callback vacant]; rfl
  | some present => rw [run_accept_again callback vacant]; rfl

/-- The calls that an action makes. -/
def calls (process : Process key other world) (action : Action key other) : List (Lookup other) :=
  (actRecorded askOther process action).1.2

/-- The record of the calls changes neither the answer nor the process. -/
theorem actRecorded_eq (process : Process key other world) (action : Action key other) :
    actRecorded askOther process action
      = ((answer askOther process action, calls askOther process action),
          ((act askOther action).run process).2) := by
  obtain ⟨made, lookups, after, acts, onRecord, -⟩ :=
    exists_siteStep askOther process action
  rw [answer, calls, acts, onRecord]

/-- Every action is a step of every call site. -/
theorem siteStep (process : Process key other world) (action : Action key other)
    (site : String) :
    SiteStep askOther process site action (answer askOther process action)
      (calls askOther process action) ((act askOther action).run process).2 := by
  obtain ⟨made, lookups, after, acts, onRecord, steps⟩ :=
    exists_siteStep askOther process action
  rw [answer, calls, acts, onRecord]
  exact steps site

/-- How many calls have been answered with an address. -/
def successes (lookups : List (Lookup other)) : Nat :=
  (lookups.filter fun lookup => lookup.answer.isSome).length

/-- Successful calls are counted one list after the other. -/
theorem successes_append (first second : List (Lookup other)) :
    successes (first ++ second) = successes first + successes second := by
  rw [successes, List.filter_append, List.length_append, successes, successes]

/-- The action binds a call site. -/
def Action.binds (site : String) : Action key other → Bool
  | .bind used _ => used = site
  | .install _ | .accept _ _ | .resolve _ _ _ => false

/-- Only binding a call site binds it. -/
theorem Action.binds_iff {site : String} {action : Action key other} :
    action.binds site = true ↔ ∃ registry, action = .bind site registry := by
  cases action <;> simp [binds]

namespace SiteStep

variable {askOther} {process after : Process key other world} {site : String}
  {action : Action key other} {made : Answer other} {lookups : List (Lookup other)}

/-- A call site keeps its function and the size of its parameter block. -/
theorem function (step : SiteStep askOther process site action made lookups after) :
    (after.sites site).name = (process.sites site).name ∧
      (after.sites site).size = (process.sites site).size := by
  cases step with
  | unused different kept => rw [kept]; exact ⟨rfl, rfl⟩
  | known resolved => exact ⟨rfl, rfl⟩
  | failed unresolved resolution kept => rw [kept]; exact ⟨rfl, rfl⟩
  | bound unresolved resolution filled => rw [filled]; exact ⟨rfl, rfl⟩

/-- A call site that is bound stays bound to the same function. -/
theorem stays (step : SiteStep askOther process site action made lookups after) {bound : Bound}
    (resolved : (process.sites site).bound? = some bound) :
    (after.sites site).bound? = some bound := by
  cases step with
  | unused different kept => rw [kept, resolved]
  | known known => exact resolved
  | failed unresolved resolution kept => rw [kept, resolved]
  | bound unresolved resolution filled =>
      rw [resolved] at unresolved
      cases unresolved

/-- Binding a call site that is bound answers with its function. -/
theorem made_of_bound {registry : String} {bound : Bound}
    (step : SiteStep askOther process site (.bind site registry) made lookups after)
    (resolved : (process.sites site).bound? = some bound) : made = .resolved (.ok bound) := by
  cases step with
  | unused different kept => exact absurd rfl (different registry)
  | known known =>
      rw [resolved] at known
      cases known
      rfl
  | failed unresolved resolution kept =>
      rw [resolved] at unresolved
      cases unresolved
  | bound unresolved resolution filled =>
      rw [resolved] at unresolved
      cases unresolved

/-- A call site that could not be bound is not bound. -/
theorem unbound_of_failed {registry : String} {fault : Fault}
    (step : SiteStep askOther process site (.bind site registry) made lookups after)
    (failed : made = .resolved (.error fault)) : (after.sites site).bound? = none := by
  cases step with
  | unused different kept => exact absurd rfl (different registry)
  | known known => cases failed
  | failed unresolved resolution kept => rw [kept, unresolved]
  | bound unresolved resolution filled => cases failed

/-- Only an action that binds a call site changes it. -/
theorem kept (step : SiteStep askOther process site action made lookups after)
    (uses : action.binds site = false) : after.sites site = process.sites site := by
  cases step with
  | unused different kept => exact kept
  | known | failed | bound => simp [Action.binds] at uses

/-- A call site that was not bound is bound by its first successful call. -/
theorem successes_of_bind {registry : String}
    (step : SiteStep askOther process site (.bind site registry) made lookups after) :
    successes lookups + (process.sites site).bound?.toList.length
      = (after.sites site).bound?.toList.length := by
  cases step with
  | unused different kept => exact absurd rfl (different registry)
  | known resolved => simp [successes]
  | failed unresolved resolution kept =>
      rw [kept, unresolved]
      cases resolution <;> rfl
  | bound unresolved resolution filled =>
      rw [filled, unresolved]
      cases resolution
      rfl

end SiteStep

/-- The calls that some actions make for one call site. -/
def callsFor (site : String) (process : Process key other world) :
    List (Action key other) → List (Lookup other)
  | [] => []
  | action :: rest =>
      (if action.binds site then calls askOther process action else [])
        ++ callsFor site ((act askOther action).run process).2 rest

/-- A call site was bound by as many successful calls as it has functions. -/
theorem successes_callsFor (site : String) (process : Process key other world)
    (actions : List (Action key other)) :
    successes (callsFor askOther site process actions)
        + (process.sites site).bound?.toList.length
      = ((process.after askOther actions).sites site).bound?.toList.length := by
  induction actions generalizing process with
  | nil => simp [callsFor, successes, after]
  | cons action rest ih =>
      have step := siteStep askOther process action site
      rw [callsFor, after_cons, ← ih, successes_append]
      cases uses : action.binds site with
      | true =>
          obtain ⟨registry, rfl⟩ := Action.binds_iff.mp uses
          have counted := step.successes_of_bind
          simp only [if_true]
          omega
      | false =>
          rw [step.kept uses]
          simp [successes]

/-- A call site keeps its function and the size of its parameter block. -/
theorem function_after (process : Process key other world) (actions : List (Action key other))
    (site : String) :
    ((process.after askOther actions).sites site).name = (process.sites site).name ∧
      ((process.after askOther actions).sites site).size = (process.sites site).size := by
  induction actions generalizing process with
  | nil => exact ⟨rfl, rfl⟩
  | cons action rest ih =>
      obtain ⟨name, size⟩ := ih ((act askOther action).run process).2
      obtain ⟨sameName, sameSize⟩ := (siteStep askOther process action site).function
      exact ⟨name.trans sameName, size.trans sameSize⟩

/-- A call site that is bound stays bound to the same function. -/
theorem bound_after {process : Process key other world} {site : String} {bound : Bound}
    (resolved : (process.sites site).bound? = some bound) (actions : List (Action key other)) :
    ((process.after askOther actions).sites site).bound? = some bound := by
  induction actions generalizing process with
  | nil => exact resolved
  | cons action rest ih => exact ih ((siteStep askOther process action site).stays resolved)

/-- A call site is bound for the first time, to what the host of a registry returns for
exactly the function and the size of the call site. -/
structure FirstSuccess (process : Process key other world) (site registry : String)
    (bound : Bound) : Prop where
  unresolved : (process.sites site).bound? = none
  answered : answer askOther process (.bind site registry) = .resolved (.ok bound)
  name : bound.name = (process.sites site).name
  size : bound.size = (process.sites site).size
  returned : ∃ callback request, (process.registries registry).host? = some callback ∧
    request.name? = some bound.name ∧ request.size.toInt = (bound.size : Int) ∧
    ((ask askOther callback request).run process).1 = some bound.address

variable {askOther} in
/-- A call site that becomes bound is bound for the first time. -/
theorem SiteStep.firstSuccess {process after : Process key other world} {site : String}
    {action : Action key other} {lookups : List (Lookup other)}
    (step : SiteStep askOther process site action (answer askOther process action) lookups after)
    (unresolved : (process.sites site).bound? = none) {bound : Bound}
    (resolved : (after.sites site).bound? = some bound) :
    ∃ registry, action = .bind site registry ∧
      FirstSuccess askOther process site registry bound := by
  generalize made : answer askOther process action = given at step
  cases step with
  | unused different kept =>
      rw [kept, unresolved] at resolved
      cases resolved
  | known known =>
      rw [unresolved] at known
      cases known
  | failed _ resolution kept =>
      rw [kept, unresolved] at resolved
      cases resolved
  | bound _ resolution filled =>
      rw [filled] at resolved
      cases resolved
      refine ⟨_, rfl, ?_⟩
      cases resolution with
      | found host bounded asked answered =>
          refine ⟨unresolved, made, rfl, rfl, _, _, host, Request.name?_ofName? asked, ?_, ?_⟩
          · rw [Request.size_ofName? asked, toInt_ofNat_of_le bounded]
          · rw [answered]

/-- A call site that is bound was bound for the first time by one of the actions. -/
theorem exists_firstSuccess {process : Process key other world} {site : String}
    (unresolved : (process.sites site).bound? = none) {actions : List (Action key other)}
    {bound : Bound}
    (resolved : ((process.after askOther actions).sites site).bound? = some bound) :
    ∃ earlier registry later, actions = earlier ++ .bind site registry :: later ∧
      FirstSuccess askOther (process.after askOther earlier) site registry bound := by
  induction actions using List.reverseRecOn with
  | nil =>
      rw [after, List.foldl_nil, unresolved] at resolved
      cases resolved
  | append_singleton actions action ih =>
      cases known : ((process.after askOther actions).sites site).bound? with
      | some present =>
          have stays := (siteStep askOther _ action site).stays known
          rw [← after_append_singleton, resolved] at stays
          cases stays
          obtain ⟨earlier, registry, later, rfl, first⟩ := ih known
          exact ⟨earlier, registry, later ++ [action], by simp, first⟩
      | none =>
          rw [after_append_singleton] at resolved
          have step := siteStep askOther (process.after askOther actions) action site
          obtain ⟨registry, rfl, first⟩ := step.firstSuccess known resolved
          exact ⟨actions, registry, [], rfl, first⟩

/-- What is set in a process was set once, after some actions from a first process. -/
structure SetOnce (first : Process key other world) (past : List (Action key other)) : Prop where
  /-- The table is the first one that was to be installed. -/
  table : (first.after askOther past).installed = past.findSome? Action.table?
  /-- It stays whatever follows. -/
  tableStays : ∀ table, (first.after askOther past).installed = some table → ∀ later,
    (first.after askOther (past ++ later)).installed = some table
  /-- Every table but the first is refused. -/
  install : ∀ table, answer askOther (first.after askOther past) (.install table)
    = .installed (if (past.findSome? Action.table?).isSome then .error .alreadyInstalled
      else .ok .installed)
  /-- The host of a registry is the first one that was to be given to it. -/
  host : ∀ registry, ((first.after askOther past).registries registry).host?
    = past.findSome? (Action.hostOf? registry)
  /-- It stays whatever follows. -/
  hostStays : ∀ registry callback,
    ((first.after askOther past).registries registry).host? = some callback → ∀ later,
      ((first.after askOther (past ++ later)).registries registry).host? = some callback
  /-- A registry refuses every host but the first. -/
  accept : ∀ registry callback,
    answer askOther (first.after askOther past) (.accept registry callback)
      = .accepted (if (past.findSome? (Action.hostOf? registry)).isSome then
          some .alreadyInitialized else none)
  /-- After a failure a call site is not bound. -/
  failed : ∀ site registry fault,
    answer askOther (first.after askOther past) (.bind site registry)
        = .resolved (.error fault) →
      ((first.after askOther (past ++ [.bind site registry])).sites site).bound? = none
  /-- A call site that is bound keeps its function, whatever registry it is used with. -/
  siteStays : ∀ site bound, ((first.after askOther past).sites site).bound? = some bound →
    ∀ later, ((first.after askOther (past ++ later)).sites site).bound? = some bound ∧
      ∀ registry, answer askOther (first.after askOther (past ++ later)) (.bind site registry)
        = .resolved (.ok bound)
  /-- A call site that is bound has what a host returned for its own function at the first
  success. -/
  origin : ∀ site bound, ((first.after askOther past).sites site).bound? = some bound →
    bound.name = (first.sites site).name ∧ bound.size = (first.sites site).size ∧
      ∃ earlier registry later, past = earlier ++ .bind site registry :: later ∧
        FirstSuccess askOther (first.after askOther earlier) site registry bound
  /-- At most one call for a call site is answered with an address. -/
  once : ∀ site, successes (callsFor askOther site first past) ≤ 1
  /-- With the plain way of calling entry points, what is done through it is the action itself. -/
  plain : ∀ action, actThrough (fun operation => operation) (ask askOther) action
    = (act askOther action : StateM (Process key other world) (Answer other))
  /-- The calls are those of the actions themselves. -/
  recorded : ∀ action, actRecorded askOther (first.after askOther past) action
    = ((answer askOther (first.after askOther past) action,
        calls askOther (first.after askOther past) action),
      first.after askOther (past ++ [action]))

/-- Whatever threads do in a process of fresh objects, in whatever order: the first table and
the first host of every registry stay, every other one is refused, and a call site fails
until it is bound and then keeps the function that a host returned for it at its only
successful call. -/
theorem everything_is_set_once (functions : String → ExportName × Nat) (start : world)
    (past : List (Action key other)) :
    SetOnce askOther
      (.fresh (fun site => .fresh (functions site).1 (functions site).2) start) past := by
  generalize isFirst : (Process.fresh (fun site => .fresh (functions site).1 (functions site).2)
    start : Process key other world) = first
  have noTable : first.installed = none := by rw [← isFirst]; rfl
  have noHost : ∀ registry, (first.registries registry).host? = none := by
    intro registry
    rw [← isFirst]
    rfl
  have unresolved : ∀ site, (first.sites site).bound? = none := by
    intro site
    rw [← isFirst]
    rfl
  have table := installed_after askOther first past
  rw [noTable, Option.none_or] at table
  have host : ∀ registry, ((first.after askOther past).registries registry).host?
      = past.findSome? (Action.hostOf? registry) := by
    intro registry
    rw [host_after, noHost, Option.none_or]
  constructor
  case table => exact table
  case tableStays =>
    intro present installed later
    rw [after_append, installed_after, installed, Option.some_or]
  case install =>
    intro second
    rw [answer_install, table]
  case host => exact host
  case hostStays =>
    intro registry callback initialized later
    rw [after_append, host_after, initialized, Option.some_or]
  case accept =>
    intro registry callback
    rw [answer_accept, host]
  case failed =>
    intro site registry fault answered
    rw [after_append_singleton]
    exact (siteStep askOther _ _ site).unbound_of_failed answered
  case siteStays =>
    intro site bound resolved later
    have stays : ((first.after askOther (past ++ later)).sites site).bound? = some bound := by
      rw [after_append]
      exact bound_after askOther resolved later
    exact ⟨stays, fun registry => (siteStep askOther _ _ site).made_of_bound stays⟩
  case origin =>
    intro site bound resolved
    obtain ⟨earlier, registry, later, split, success⟩ :=
      exists_firstSuccess askOther (unresolved site) resolved
    obtain ⟨name, size⟩ := function_after askOther first earlier site
    exact ⟨success.name.trans name, success.size.trans size, earlier, registry, later, split,
      success⟩
  case once =>
    intro site
    have counted := successes_callsFor askOther site first past
    rw [unresolved] at counted
    have atMostOne : ((first.after askOther past).sites site).bound?.toList.length ≤ 1 := by
      cases ((first.after askOther past).sites site).bound? <;> simp
    simp only [Option.toList_none, List.length_nil] at counted
    omega
  case plain => exact actThrough_ask askOther
  case recorded =>
    intro action
    rw [after_append_singleton, actRecorded_eq]

/-- A call site is used before its registry has a host, then when it has one, and at last with
a registry that never gets one. -/
def lateActions : List (Action (fun _ => 0) Empty) :=
  [.bind "site" "main", .install surrogateTable, .accept "main" .installed, .bind "site" "main",
    .install .empty, .accept "main" .installed, .bind "site" "other"]

/-- The call site is bound by its second use, with one successful call, and stays bound. -/
theorem everything_is_set_once_late :
    SetOnce (fun host => nomatch host) surrogateStart lateActions ∧
      ((surrogateStart.after (fun host => nomatch host) (lateActions.take 3)).sites "site").bound?
        = none ∧
      ((surrogateStart.after (fun host => nomatch host) lateActions).sites "site").bound?
        = some ⟨⟨0x40, by decide⟩, surrogateName, 8⟩ ∧
      successes (callsFor (fun host => nomatch host) "site" surrogateStart lateActions) = 1 := by
  have history := everything_is_set_once (fun host : Empty => nomatch host)
    (fun _ => (surrogateName, 8)) () lateActions
  refine ⟨history, ?_, ?_, ?_⟩
  · decide +kernel
  · decide +kernel
  · decide +kernel

end NativeBridge.Binding.Process

import Ratash.Scheduler.RefreshRuns
import Ratash.Supervisor.Durable
import Ratash.Supervisor.RuntimeState

/-!
What each operation does while it holds the lock: to the memory that is stored as well as to the
schedule of refreshes and to what is known of the running Core.
-/

namespace Ratash

open Interaction Attempt

/-- The state behind the lock. The schedule of refreshes comes with a record of its tasks. -/
structure SupervisorState (U S V : Type) where
  memory : SupervisorMemory U S V
  refreshes : RefreshRun
  runtime : RuntimeState

abbrev coreCalls (U S V : Type) : Signature := supervisorCalls U S V ManagedCoreHandle Proxy.View

abbrev CoreReplies (U S V : Type) :=
  (c : (coreCalls U S V).Call) → (coreCalls U S V).Reply c → Prop

abbrev CoreAttempt (U S V : Type) := SupervisorAttempt U S V ManagedCoreHandle Proxy.View

abbrev Scope (U S V : Type) := Stateful (coreCalls U S V) (SupervisorState U S V) ApplicationError

def noteStore (memory : SupervisorMemory U S V) :
    (c : (coreCalls U S V).Call) → (coreCalls U S V).Reply c → SupervisorMemory U S V
  | .store new, _ => new
  | _, _ => memory

namespace Supervisor

variable {D U S V : Type}

def ask (c : (coreCalls U S V).Call) : Prog (coreCalls U S V) ((coreCalls U S V).Reply c) :=
  Prog.call c

/-- What an attempt writes to the memory is seen by what comes after it. -/
def locked (x : CoreAttempt U S V α) : Scope U S V α :=
  ExceptT.mk fun state => (x.run.noting noteStore state.memory).bind fun out =>
    .ret (out.1, { state with memory := out.2 })

def modifyRuntime (f : RuntimeState → RuntimeState) : Scope U S V Unit :=
  modify fun state => { state with runtime := f state.runtime }

def updateRuntime (p : ProfileCatalog U S → RuntimeState → Prog (coreCalls U S V) RuntimeState) :
    Scope U S V Unit :=
  Stateful.update fun state => do
    let runtime ← p state.memory.profiles state.runtime
    return { state with runtime }

def callRefreshes (call : RefreshCall) : Scope U S V Unit :=
  modify fun state => { state with refreshes := state.refreshes.step call }

section

variable (parts : ProfileParts U S V)

/-- `runtime_status().ok().and_then(|status| status.managed_core)` -/
def managedCore : Prog (coreCalls U S V) (Option ManagedCoreHandle) := do
  match ← ask .runtimeStatus with
  | .ok core => return core
  | .error _ => return none

def effectiveGroupOrderWithHealth (profiles : ProfileCatalog U S) (state : RuntimeState) :
    Except ApplicationError (List String) × RuntimeState :=
  match effectiveGroupOrder parts.groupOrder profiles with
  | .ok order => (.ok order, state.setHealthReason .configurationProjection false)
  | .error error => (.error error, state.setHealthReason .configurationProjection true)

/-- The loop of `restore_active_selections`; the result is whether something is still pending. -/
def restoreEach (core : ManagedCoreHandle) (view : Proxy.View) :
    List (String × String) → (pending : Bool) → Prog (coreCalls U S V) Bool
  | [], pending => return pending
  | (group, nodeId) :: selections, pending =>
    match selectionBySelector view group nodeId with
    | .ok selection => do
      match ← ask (.selectNode core selection) with
      | .ok _ => restoreEach core view selections pending
      | .error _ => restoreEach core view selections true
    | .error _ => restoreEach core view selections true

def restoreActiveSelections (profiles : ProfileCatalog U S) (core : ManagedCoreHandle)
    (view : Proxy.View) (state : RuntimeState) : Prog (coreCalls U S V) RuntimeState := do
  let pending ← restoreEach core view profiles.activeSelections.toList false
  if pending then
    return { state with selectionRestorePending := true }.consumeSelectionRestoreAttempt
  else return state.restored

def followView (profiles : ProfileCatalog U S) (core : ManagedCoreHandle) (view : Proxy.View)
    (state : RuntimeState) : Prog (coreCalls U S V) RuntimeState := do
  let state := { state with cachedProxyView := some view }
  let state ←
    if state.probeCoreGeneration ≠ some core.instanceGeneration then do
      let now ← ask .nowUnixMs
      pure (state.seedProbes core.instanceGeneration view now)
    else pure state
  if state.selectionRestorePending then restoreActiveSelections profiles core view state
  else return state

def followCore (profiles : ProfileCatalog U S) (core : ManagedCoreHandle) (state : RuntimeState) :
    Prog (coreCalls U S V) RuntimeState :=
  let state := if state.observedCoreGeneration ≠ some core.instanceGeneration then
    state.forgetCore (some core.instanceGeneration) profiles else state
  if state.probeCoreGeneration = some core.instanceGeneration ∧
      state.selectionRestorePending = false ∧ state.cachedProxyView.isSome then return state
  else match effectiveGroupOrderWithHealth parts profiles state with
  | (.error _, state) => return state
  | (.ok order, state) => do
    match ← ask (.proxyView core order) with
    | .error _ => return state.consumeSelectionRestoreAttempt
    | .ok view => followView profiles core view state

/-- A restoration that was given up is begun again. -/
def renewRestore (profiles : ProfileCatalog U S) (state : RuntimeState) : RuntimeState :=
  if state.selectionRestorePending = false ∧ .selectionRestoration ∈ state.healthReasons then
    state.beginSelectionRestore profiles
  else state

/-- `reconcile_runtime_state_locked` -/
def reconcileRuntimeState (profiles : ProfileCatalog U S) (state : RuntimeState) :
    Prog (coreCalls U S V) RuntimeState :=
  if profiles.activeProfileId = none then return state.withoutProfile
  else do
    let state := renewRestore profiles state
    match ← managedCore with
    | none =>
      let state := if state.observedCoreGeneration.isSome then state.forgetCore none profiles
        else state
      return state.consumeSelectionRestoreAttempt
    | some core => followCore parts profiles core state

def resetRuntimeState (profiles : ProfileCatalog U S) (state : RuntimeState) :
    Prog (coreCalls U S V) RuntimeState :=
  reconcileRuntimeState parts profiles
    ({ state with
      observedCoreGeneration := none
      probeCoreGeneration := none
      cachedProxyView := none }.beginSelectionRestore profiles)

def retrySelectionRestore (profiles : ProfileCatalog U S) (state : RuntimeState) :
    Prog (coreCalls U S V) RuntimeState :=
  reconcileRuntimeState parts profiles (renewRestore profiles state)

/-- The part of `status` that has an effect on the state. -/
def refreshView (profiles : ProfileCatalog U S) (state : RuntimeState) :
    Prog (coreCalls U S V) RuntimeState :=
  if profiles.activeProfileId = none then return state
  else do
    match ← managedCore with
    | none => return state
    | some core =>
      match effectiveGroupOrderWithHealth parts profiles state with
      | (.error _, state) => return state
      | (.ok order, state) => do
        match ← ask (.proxyView core order) with
        | .error _ => return state
        | .ok view => return { state with cachedProxyView := some view }

/-- `load_proxy_view`, which also keeps the view. -/
def loadView : Scope U S V (ManagedCoreHandle × Proxy.View) := do
  let state ← get
  let profiles := state.memory.profiles
  Stateful.attempt (require (profiles.activeProfileId ≠ none) noActiveProfile)
  let reply ← Stateful.attempt (supervisorCall .runtimeStatus)
  let status ← Stateful.attempt
    (okOr reply (coreError "The Managed Core is unavailable"))
  let core ← Stateful.attempt (someOr status (coreError "The Managed Core is unavailable"))
  let (order, runtime) := effectiveGroupOrderWithHealth parts profiles state.runtime
  modifyRuntime fun _ => runtime
  let order ← Stateful.attempt (Attempt.ofExcept order)
  let reply ← Stateful.attempt (supervisorCall (.proxyView core order))
  let view ← Stateful.attempt
    (okOr reply (coreError "The Managed Core proxy view is unavailable"))
  modifyRuntime fun runtime => { runtime with cachedProxyView := some view }
  return (core, view)

/-- The profile is scheduled as the catalog has it. -/
def upsertRefresh (profileId : ProfileId) : Scope U S V Unit := do
  let state ← get
  let profile ← Stateful.attempt
    (someOr state.memory.profiles.profiles[profileId]? internalError)
  callRefreshes (.upsert profileId profile.revision profile.nextRefreshAtUnixMs)

variable (X : Codec D)

/-- `profile_add` -/
def addScope (profile : Profile U S) : Scope U S V Unit := do
  let state ← get
  let _ ← locked (addProfileLocked X parts.all profile state.memory)
  upsertRefresh profile.id
  if state.memory.profiles.profiles.isEmpty then updateRuntime (resetRuntimeState parts)

/-- `activate_profile_once` -/
def useScope (selector : String) : Scope U S V Unit := do
  let state ← get
  let profileId ← Stateful.attempt (resolveProfile X state.memory.profiles selector)
  let _ ← locked (activateLocked X parts.all selector state.memory)
  if state.memory.profiles.activeProfileId ≠ some profileId then
    updateRuntime fun profiles runtime =>
      resetRuntimeState parts profiles { runtime with cachedProxyView := none }

/-- `profile_remove` -/
def removeScope (selector : String) : Scope U S V Unit := do
  let state ← get
  let _ ← locked (removeLocked X parts.all selector state.memory)
  match (state.memory.profiles.remove X selector).1 with
  | .ok removed => callRefreshes (.remove removed.id)
  | .error _ => return ()

/-- `record_refresh_failure` -/
def recordScope (profileId : ProfileId) (context : RefreshContext) (stage : RefreshStage)
    (message : String) : Scope U S V Unit := do
  let state ← get
  if state.memory.profiles.refreshIsStale profileId context then return ()
  else do
    locked (recordLocked parts.all profileId context stage message state.memory)
    upsertRefresh profileId

/-- The last scope of `refresh_profile`. -/
def refreshScope (profileId : ProfileId) (context : RefreshContext) (snapshot : S) :
    Scope U S V Unit := do
  let state ← get
  match ← locked (refreshLocked parts.all profileId context snapshot state.memory) with
  | .settled .activeApplied => do
    upsertRefresh profileId
    updateRuntime (resetRuntimeState parts)
  | .settled .inactiveStored => upsertRefresh profileId
  | _ => return ()

def keepSelection (state : RuntimeState) : RuntimeState :=
  ({ state with
    cachedProxyView := none
    selectionRestorePending := false
    selectionRestoreAttemptsRemaining := 0 }.setHealthReason .selectionCompensation
      false).setHealthReason .selectionRestoration false

def takeBackSelection (core : ManagedCoreHandle) (previous : Option NodeSelection) :
    Scope U S V Unit := do
  let compensated ← Stateful.attempt (compensated core previous)
  if !compensated then modifyRuntime (·.setHealthReason .selectionCompensation true)
  throw (.new .externalOperationFailed
    (if compensated then "The Node selection was restored after persistence failed"
      else "The Node selection could not be restored after persistence failed") false)

/-- `proxy_select` -/
def selectScope (groupSelector nodeSelector : String) : Scope U S V Unit := do
  let (core, view) ← loadView parts
  let group ← Stateful.attempt (Attempt.ofExcept (resolveProxyGroup view groupSelector))
  let selection ← Stateful.attempt
    (Attempt.ofExcept (selectionBySelector view group.name nodeSelector))
  let previous := group.selectedName.bind fun name =>
    (selectionBySelector view group.name name).toOption
  let reply ← Stateful.attempt (supervisorCall (.selectNode core selection))
  Stateful.attempt (okOr reply (coreError "Mihomo rejected the Node selection"))
  let state ← get
  let memory := state.memory
  let activeId ← Stateful.attempt (someOr memory.profiles.activeProfileId noActiveProfile)
  let profiles ← Stateful.attempt (someOr (memory.profiles.amend activeId fun profile =>
    { profile with
      selections := profile.selections.insert group.name selection.recordId }) internalError)
  match ← Stateful.attempt (persistMetadata parts.all profiles memory.localRules memory).result with
  | .error _ => takeBackSelection core previous
  | .ok _ => do
    locked (supervisorCall (.store { memory with profiles }))
    modifyRuntime keepSelection

/-- `rule_mutation` -/
def ruleScope (mutation : RuleMutation) : Scope U S V Unit := do
  let state ← get
  let _ ← locked (ruleMutationLocked parts.all mutation state.memory)

/-- `take_due_refreshes` -/
def takeDueRefreshesScope : Scope U S V (List RefreshTask) := do
  let now ← Stateful.attempt (supervisorCall .nowUnixMs)
  let state ← get
  callRefreshes (.takeDue now)
  return (state.refreshes.scheduler.takeDue now).1

/-- The first scope of `execute_refresh_task`. -/
def completeRefreshScope (task : RefreshTask) : Scope U S V Unit := do
  let now ← Stateful.attempt (supervisorCall .nowUnixMs)
  callRefreshes (.complete ⟨task, task.profileRevision, now⟩)

/-- `take_due_probes`; what is asked of the Core follows from the cached view. -/
def takeDueProbesScope : Scope U S V Unit := do
  let now ← Stateful.attempt (supervisorCall .nowUnixMs)
  modifyRuntime fun runtime => { runtime with probes := (runtime.probes.takeDue now).2 }

/-- `complete_probe` -/
def completeProbeScope (completion : ProbeCompletion) : Scope U S V Unit :=
  modifyRuntime fun runtime => match runtime.probes.complete completion with
    | some (_, probes) => { runtime with probes }
    -- a debug assertion, which no run of the scheduler reaches
    | none => runtime

end

inductive RuntimeTurn (U S : Type) where
  | add (id : ProfileId) (name : String) (url : U) (snapshot : S) (now : UInt64)
  | use (selector : String)
  | remove (selector : String)
  | record (profileId : ProfileId) (context : RefreshContext) (stage : RefreshStage)
      (message : String)
  | refresh (profileId : ProfileId) (context : RefreshContext) (snapshot : S)
  | rule (mutation : RuleMutation)
  | takeDueRefreshes
  | completeRefresh (task : RefreshTask)
  | takeDueProbes
  | completeProbe (completion : ProbeCompletion)
  | select (group node : String)
  /-- `proxy_list` and its pages, `latency_list` and `latency_show`. -/
  | browse
  | status
  | reconcile
  | retry

namespace RuntimeTurn

variable (X : Codec D) (parts : ProfileParts U S V)

/-- The scope, with the refresh tasks that it hands out. -/
def scope : RuntimeTurn U S → Scope U S V (List RefreshTask)
  | add id name url snapshot now =>
    addScope parts X (.fresh id name url snapshot now (nextRefreshAt now)) >>= fun _ => pure []
  | use selector => useScope parts X selector >>= fun _ => pure []
  | remove selector => removeScope parts X selector >>= fun _ => pure []
  | record profileId context stage message =>
    recordScope parts profileId context stage message >>= fun _ => pure []
  | refresh profileId context snapshot =>
    refreshScope parts profileId context snapshot >>= fun _ => pure []
  | rule mutation => ruleScope parts mutation >>= fun _ => pure []
  | takeDueRefreshes => takeDueRefreshesScope
  | completeRefresh task => completeRefreshScope task >>= fun _ => pure []
  | takeDueProbes => takeDueProbesScope >>= fun _ => pure []
  | completeProbe completion => completeProbeScope completion >>= fun _ => pure []
  | select group node => selectScope parts group node >>= fun _ => pure []
  | browse => loadView parts >>= fun _ => pure []
  | status => updateRuntime (refreshView parts) >>= fun _ => pure []
  | reconcile => updateRuntime (reconcileRuntimeState parts) >>= fun _ => pure []
  | retry => updateRuntime (retrySelectionRestore parts) >>= fun _ => pure []

def executes (tasks : List RefreshTask) : RuntimeTurn U S → List RefreshTask
  | completeRefresh task => tasks.erase task
  | _ => tasks

end RuntimeTurn

end Supervisor

end Ratash

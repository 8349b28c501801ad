import Ratash.Supervisor.Calls

/-!
Each operation clones the parts of the memory it is going to change, has the change stored by a
transaction, and only then writes it to the memory.
-/

namespace Ratash.Supervisor

open Interaction Attempt

def profileCountMax : Nat := 1000
def profileRefreshIntervalMs : UInt64 := 6 * 60 * 60 * 1000

section

variable {D U S V C W : Type} (X : Codec D) (parts : SupervisorParts U S V W)

def supervisorCall (c : SupervisorCall U S V C W) : SupervisorAttempt U S V C W c.Reply :=
  ExceptT.lift (Prog.call (S := supervisorCalls U S V C W) c)

/-- The value of an optional, or the error that the source reports in its place. -/
def someOr (value : Option α) (error : ApplicationError) : SupervisorAttempt U S V C W α :=
  match value with
  | some a => pure a
  | none => throw error

/-- A scope that holds the lock. The guard is dropped at its end, also after an error. -/
def withState (body : SupervisorMemory U S V → SupervisorAttempt U S V C W α) :
    SupervisorAttempt U S V C W α := do
  let memory ← supervisorCall .lock
  let result ← (body memory).result
  supervisorCall .unlock
  Attempt.ofExcept result

def nextRefreshAt (nowUnixMs : UInt64) : UInt64 :=
  saturatingAdd64 nowUnixMs profileRefreshIntervalMs

def currentRevisions (profiles : ProfileCatalog U S) (localRules : LocalRuleSet)
    (configuration : V) : CandidateRevisions where
  profile := ((profiles.activeProfileId.bind (profiles.profiles[·]?)).map (·.revision)).getD 0
  activeProfile := profiles.activeRevision
  localRuleSet := localRules.revision
  compilerPolicySha256 := parts.compilerPolicySha256 configuration
  coreVersion := parts.coreVersion configuration

def ruleStrings (localRules : LocalRuleSet) : SupervisorAttempt U S V C W (List String) := do
  let list ← Attempt.okOr (localRules.list parts.parseRule) invalidRuleError
  require (list.initialized = true)
    (.new .rulesUninitialized "The Local Rule Set is uninitialized" false)
  return list.entries.map (·.rule)

def cloneRuleSet (localRules : LocalRuleSet) : SupervisorAttempt U S V C W LocalRuleSet := do
  let list ← Attempt.okOr (localRules.list parts.parseRule) invalidRuleError
  if list.initialized then
    return .initializedAt (list.entries.map (·.rule)) localRules.revision
  else
    return .uninitialized

def compile (profile : Profile U S) (rules : List String) : SupervisorAttempt U S V C W V := do
  Attempt.ofExcept (← supervisorCall (.compile profile rules))

def validateConfiguration (configuration : V) (profileId : ProfileId) :
    SupervisorAttempt U S V C W Unit := do
  Attempt.ofExcept (← supervisorCall (.validate configuration profileId))

/-- `apply_candidate` and `settle_transaction`. What they note of the outcome for the status is not
modelled. -/
def applyCandidate (profiles : ProfileCatalog U S) (localRules : LocalRuleSet) (configuration : V)
    (generation : RuntimeGeneration) (failFast : Bool) :
    SupervisorAttempt U S V C W (Except SupervisorTransactionFailure ConfigTransactionSuccess) :=
  supervisorCall (.apply ⟨profiles, localRules, configuration, generation,
    currentRevisions parts profiles localRules configuration⟩ failFast)

def settleTransaction (result : Except SupervisorTransactionFailure ConfigTransactionSuccess) :
    SupervisorAttempt U S V C W ConfigTransactionSuccess :=
  Attempt.ofExcept (result.mapError mapTransactionError)

def persistMetadata (profiles : ProfileCatalog U S) (localRules : LocalRuleSet)
    (memory : SupervisorMemory U S V) : SupervisorAttempt U S V C W Unit := do
  let configuration ← someOr memory.effectiveConfiguration internalError
  let generation ← someOr memory.runtimeGeneration internalError
  let result ← supervisorCall (.persistMetadata ⟨profiles, localRules, configuration, generation,
    currentRevisions parts profiles localRules configuration⟩)
  Attempt.ofExcept (result.mapError mapTransactionError)

/-- The first profile brings its rules with it and is applied. -/
def addFirstProfile (profiles : ProfileCatalog U S) (profileId : ProfileId) :
    SupervisorAttempt U S V C W (ProfileMutationOutcome U) := do
  let (activated, profiles) := profiles.activate X (profileId.toText X)
  let _ ← Attempt.okOr activated internalError
  let profile ← someOr profiles.profiles[profileId]? internalError
  let rules := parts.snapshotRules profile.snapshot
  require (∀ rule ∈ rules, rule.utf8ByteSize ≤ ruleStringMaxBytes) invalidRuleError
  let localRules := LocalRuleSet.initialized rules
  let strings ← ruleStrings parts localRules
  let configuration ← compile profile strings
  let result ← applyCandidate parts profiles localRules configuration 1 false
  let success ← settleTransaction result
  supervisorCall (.store ⟨profiles, localRules, some configuration,
    some success.committedGeneration⟩)
  let profile ← someOr profiles.profiles[profileId]? internalError
  return ⟨.added, profileSummary profile profiles.activeProfileId,
    some (runtimeApplySuccess success)⟩

/-- A further profile is only validated and stored. -/
def addFurtherProfile (memory : SupervisorMemory U S V) (profiles : ProfileCatalog U S)
    (profileId : ProfileId) : SupervisorAttempt U S V C W (ProfileMutationOutcome U) := do
  let added ← someOr profiles.profiles[profileId]? internalError
  let configuration ← compile added (parts.snapshotRules added.snapshot)
  validateConfiguration configuration profileId
  persistMetadata parts profiles memory.localRules memory
  supervisorCall (.store { memory with profiles })
  let profile ← someOr profiles.profiles[profileId]? internalError
  return ⟨.added, profileSummary profile profiles.activeProfileId, none⟩

def checkProfileCount (memory : SupervisorMemory U S V) : SupervisorAttempt U S V C W Unit :=
  require (memory.profiles.profiles.size < profileCountMax)
    (.new .externalOperationFailed "The Profile limit has been reached" false)

def addProfileLocked (profile : Profile U S) (memory : SupervisorMemory U S V) :
    SupervisorAttempt U S V C W (ProfileMutationOutcome U) := do
  let (inserted, profiles) := memory.profiles.insert profile
  Attempt.okOr inserted internalError
  if memory.profiles.profiles.isEmpty then addFirstProfile X parts profiles profile.id
  else addFurtherProfile parts memory profiles profile.id

def profileAdd (url : U) : SupervisorAttempt U S V C W (ApplicationOutput U) := do
  withState checkProfileCount
  let reply ← supervisorCall (.fetch url)
  let fetched ← Attempt.ofExcept (reply.mapError fun error =>
    .new .externalOperationFailed error.message error.retryable)
  let snapshot ← someOr (parts.parseSnapshot fetched.body)
    (.new .externalOperationFailed "The Profile Snapshot is invalid" false)
  let profileId ← supervisorCall .newProfileId
  let name := parts.deriveProfileName fetched.metadataName url profileId
  let now ← supervisorCall .nowUnixMs
  let profile := Profile.fresh profileId name url snapshot now (nextRefreshAt now)
  let outcome ← withState (addProfileLocked X parts profile)
  return .profileMutation outcome

def resolveProfile (profiles : ProfileCatalog U S) (selector : String) :
    SupervisorAttempt U S V C W ProfileId :=
  Attempt.ofExcept ((profiles.resolve X selector).mapError (mapProfileError X profiles))

/-- The profile is not active yet: its configuration is applied. -/
def activateOther (memory : SupervisorMemory U S V) (profileId : ProfileId) :
    SupervisorAttempt U S V C W (ApplicationOutput U) := do
  let (activated, profiles) := memory.profiles.activate X (profileId.toText X)
  let _ ← Attempt.ofExcept (activated.mapError (mapProfileError X memory.profiles))
  let profile ← someOr profiles.profiles[profileId]? internalError
  let rules ← ruleStrings parts memory.localRules
  let configuration ← compile profile rules
  let generation ← someOr (nextRuntimeGeneration memory.runtimeGeneration) internalError
  let result ← applyCandidate parts profiles memory.localRules configuration generation false
  let success ← settleTransaction result
  supervisorCall (.store ⟨profiles, memory.localRules, some configuration,
    some success.committedGeneration⟩)
  let profile ← someOr profiles.profiles[profileId]? internalError
  return .profileMutation ⟨.activated, profileSummary profile (some profileId),
    some (runtimeApplySuccess success)⟩

def activateLocked (selector : String) (memory : SupervisorMemory U S V) :
    SupervisorAttempt U S V C W (ApplicationOutput U) := do
  let profileId ← resolveProfile X memory.profiles selector
  if memory.profiles.activeProfileId = some profileId then do
    let profile ← someOr memory.profiles.profiles[profileId]? internalError
    return .profileMutation ⟨.activated, profileSummary profile (some profileId),
      some (runtimeApplyNotRequired memory.runtimeGeneration)⟩
  else activateOther X parts memory profileId

/-- `activate_profile_once`; `profile_use` decides when it is called. -/
def activateProfileOnce (selector : String) : SupervisorAttempt U S V C W (ApplicationOutput U) :=
  withState (activateLocked X parts selector)

def removeLocked (selector : String) (memory : SupervisorMemory U S V) :
    SupervisorAttempt U S V C W (ApplicationOutput U) := do
  let (result, profiles) := memory.profiles.remove X selector
  let removed ← Attempt.ofExcept (result.mapError (mapProfileError X memory.profiles))
  persistMetadata parts profiles memory.localRules memory
  supervisorCall (.store { memory with profiles })
  return .profileMutation ⟨.removed, profileSummary removed profiles.activeProfileId, none⟩

def profileRemove (selector : String) : SupervisorAttempt U S V C W (ApplicationOutput U) :=
  withState (removeLocked X parts selector)

def noteFailure (failure : RefreshFailure) (nextRefreshAtUnixMs : UInt64) (profile : Profile U S) :
    Profile U S :=
  { profile with lastError := some failure, nextRefreshAtUnixMs }

def recordLocked (profileId : ProfileId) (context : RefreshContext) (stage : RefreshStage)
    (message : String) (memory : SupervisorMemory U S V) : SupervisorAttempt U S V C W Unit := do
  if memory.profiles.refreshIsStale profileId context then return ()
  else do
    let now ← supervisorCall .nowUnixMs
    let profiles ← someOr (memory.profiles.amend profileId
      (noteFailure ⟨stage, boundedMessage message⟩ (nextRefreshAt now))) internalError
    persistMetadata parts profiles memory.localRules memory
    supervisorCall (.store { memory with profiles })
    let _ ← someOr profiles.profiles[profileId]? internalError
    return ()

def recordRefreshFailure (profileId : ProfileId) (context : RefreshContext) (stage : RefreshStage)
    (message : String) : SupervisorAttempt U S V C W Unit :=
  withState (recordLocked parts profileId context stage message)

/-- How the part of a refresh that holds the lock ends. A failure is recorded after the lock has
been dropped. -/
inductive RefreshEnd where
  | settled (disposition : ProfileRefreshDisposition)
  | failed (stage : RefreshStage) (error : ApplicationError)

/-- The profile is active: the refreshed configuration is applied. -/
def refreshActive (memory : SupervisorMemory U S V) (profileId : ProfileId)
    (context : RefreshContext) (snapshot : S) (now : UInt64) :
    SupervisorAttempt U S V C W RefreshEnd := do
  let (committed, profiles) :=
    memory.profiles.commitRefresh profileId context snapshot now (nextRefreshAt now)
  let _ ← Attempt.okOr committed internalError
  let active ← someOr profiles.profiles[profileId]? internalError
  let rules ← ruleStrings parts memory.localRules
  match ← supervisorCall (.compile active rules) with
  | .error error => return .failed .validate error
  | .ok configuration => do
    let generation ← someOr (nextRuntimeGeneration memory.runtimeGeneration) internalError
    let result ← applyCandidate parts profiles memory.localRules configuration generation false
    match result with
    | .error failure =>
      return .failed (refreshStageForTransactionFailure failure) (mapTransactionError failure)
    | .ok success => do
      supervisorCall (.store ⟨profiles, memory.localRules, some configuration,
        some success.committedGeneration⟩)
      let _ ← someOr profiles.profiles[profileId]? internalError
      return .settled .activeApplied

/-- The profile is not active: the refreshed configuration is only validated. -/
def refreshInactive (memory : SupervisorMemory U S V) (profileId : ProfileId)
    (context : RefreshContext) (snapshot : S) (now : UInt64) :
    SupervisorAttempt U S V C W RefreshEnd := do
  let profile ← someOr memory.profiles.profiles[profileId]? internalError
  let validation := Profile.fresh profileId profile.name profile.subscriptionUrl snapshot now
    (nextRefreshAt now)
  match ← supervisorCall (.compile validation (parts.snapshotRules snapshot)) with
  | .error error => return .failed .validate error
  | .ok configuration => do
    match ← supervisorCall (.validate configuration profileId) with
    | .error error => return .failed .validate error
    | .ok _ => do
      let (committed, profiles) :=
        memory.profiles.commitRefresh profileId context snapshot now (nextRefreshAt now)
      let _ ← Attempt.okOr committed internalError
      persistMetadata parts profiles memory.localRules memory
      supervisorCall (.store { memory with profiles })
      return .settled .inactiveStored

def refreshLocked (profileId : ProfileId) (context : RefreshContext) (snapshot : S)
    (memory : SupervisorMemory U S V) : SupervisorAttempt U S V C W RefreshEnd := do
  if memory.profiles.refreshIsStale profileId context then return .settled .discarded
  else do
    let now ← supervisorCall .nowUnixMs
    if memory.profiles.activeProfileId = some profileId then
      refreshActive parts memory profileId context snapshot now
    else
      refreshInactive parts memory profileId context snapshot now

/-- The refresh has failed: that is recorded, and then reported. -/
def failRefresh (profileId : ProfileId) (context : RefreshContext) (stage : RefreshStage)
    (error : ApplicationError) : SupervisorAttempt U S V C W α := do
  recordRefreshFailure parts profileId context stage error.message
  throw error

/-- What a refresh captures, unless the profile is gone. -/
def captureRefresh (profileId : ProfileId) (memory : SupervisorMemory U S V) :
    SupervisorAttempt U S V C W (Option (RefreshContext × U)) :=
  match memory.profiles.refreshContext profileId with
  | .error _ => return none
  | .ok context => do
    let profile ← someOr memory.profiles.profiles[profileId]? internalError
    return some (context, profile.subscriptionUrl)

def refreshProfile (profileId : ProfileId) :
    SupervisorAttempt U S V C W (ApplicationOutput U) := do
  match ← withState (captureRefresh profileId) with
  | none => return .refreshed .discarded
  | some (context, url) => do
    match ← supervisorCall (.fetch url) with
    | .error error =>
      failRefresh parts profileId context .download
        (.new .externalOperationFailed error.message error.retryable)
    | .ok fetched => do
      match parts.parseSnapshot fetched.body with
      | none =>
        failRefresh parts profileId context .parse
          (.new .externalOperationFailed "The refreshed Profile Snapshot is invalid" false)
      | some snapshot => do
        match ← withState (refreshLocked parts profileId context snapshot) with
        | .settled disposition => return .refreshed disposition
        | .failed stage error => failRefresh parts profileId context stage error

def loadProxyView (memory : SupervisorMemory U S V) : SupervisorAttempt U S V C W (C × W) := do
  require (memory.profiles.activeProfileId ≠ none) noActiveProfile
  let status ← Attempt.okOr (← supervisorCall .runtimeStatus)
    (coreError "The Managed Core is unavailable")
  let core ← someOr status (coreError "The Managed Core is unavailable")
  let order ← Attempt.ofExcept (parts.effectiveGroupOrder memory.profiles)
  let view ← Attempt.okOr (← supervisorCall (.proxyView core order))
    (coreError "The Managed Core proxy view is unavailable")
  return (core, view)

def compensated (core : C) : Option NodeSelection → SupervisorAttempt U S V C W Bool
  | none => return false
  | some previous => do
    let selected ← supervisorCall (.selectNode core previous)
    return selected.toBool

def compensateSelection (core : C) (previous : Option NodeSelection) :
    SupervisorAttempt U S V C W α := do
  let compensated ← compensated core previous
  throw (.new .externalOperationFailed
    (if compensated then "The Node selection was restored after persistence failed"
      else "The Node selection could not be restored after persistence failed") false)

def selectLocked (groupSelector nodeSelector : String) (memory : SupervisorMemory U S V) :
    SupervisorAttempt U S V C W (ApplicationOutput U) := do
  let (core, view) ← loadProxyView parts memory
  let group ← Attempt.ofExcept (parts.resolveProxyGroup view groupSelector)
  let selection ← Attempt.ofExcept (parts.selectionBySelector view group.name nodeSelector)
  let previous := group.selectedName.bind fun name =>
    (parts.selectionBySelector view group.name name).toOption
  let _ ← Attempt.okOr (← supervisorCall (.selectNode core selection))
    (coreError "Mihomo rejected the Node selection")
  let activeId ← someOr memory.profiles.activeProfileId noActiveProfile
  let profiles ← someOr (memory.profiles.amend activeId fun profile => { profile with
    selections := profile.selections.insert group.name selection.recordId }) internalError
  match ← (persistMetadata parts profiles memory.localRules memory).result with
  | .error _ => compensateSelection core previous
  | .ok _ => do
    supervisorCall (.store { memory with profiles })
    return .proxySelection ⟨group.id, group.name,
      previous.map fun previous => ⟨previous.recordId, previous.nodeName⟩,
      ⟨selection.recordId, selection.nodeName⟩, true, ⟨.notRequired, none, none⟩⟩

def proxySelect (groupSelector nodeSelector : String) :
    SupervisorAttempt U S V C W (ApplicationOutput U) :=
  withState (selectLocked parts groupSelector nodeSelector)

inductive RuleMutation where
  | add (rule : String) (placement : RulePlacement)
  | replace (oldRule newRule : String)
  | remove (rule : String)
deriving DecidableEq

def checkedRule (rule : String) : SupervisorAttempt U S V C W String := do
  require (rule.utf8ByteSize ≤ ruleStringMaxBytes) invalidRuleError
  let _ ← Attempt.okOr (parts.parseRule rule) invalidRuleError
  return rule

structure RuleChange where
  action : RuleMutationAction
  changedRule : String
  previousRule : Option String
  resultingPosition : Option Nat

def mutateRules (localRules : LocalRuleSet) :
    RuleMutation → SupervisorAttempt U S V C W (RuleChange × LocalRuleSet)
  | .add rule placement => do
    let rule ← checkedRule parts rule
    let (position, localRules) ← Attempt.ofExcept
      ((localRules.add parts.parseRule rule placement).mapError mapRuleError)
    return (⟨.added, rule, none, some position⟩, localRules)
  | .replace oldRule newRule => do
    let oldRule ← checkedRule parts oldRule
    let newRule ← checkedRule parts newRule
    let (position, localRules) ← Attempt.ofExcept
      ((localRules.replace parts.parseRule oldRule newRule).mapError mapRuleError)
    return (⟨.replaced, newRule, some oldRule, some position⟩, localRules)
  | .remove rule => do
    let rule ← checkedRule parts rule
    let (removed, localRules) ← Attempt.ofExcept
      ((localRules.remove (E := Unit) rule).mapError mapRuleError)
    return (⟨.removed, removed, none, none⟩, localRules)

/-- `rule_mutation`, once the transaction is reserved and the lock is held. -/
def ruleMutationLocked (mutation : RuleMutation) (memory : SupervisorMemory U S V) :
    SupervisorAttempt U S V C W (ApplicationOutput U) := do
  let cloned ← cloneRuleSet parts memory.localRules
  let (change, localRules) ← mutateRules parts cloned mutation
  let activeId ← someOr memory.profiles.activeProfileId noActiveProfile
  let active ← someOr memory.profiles.profiles[activeId]? internalError
  let rules ← ruleStrings parts localRules
  let configuration ← compile active rules
  let generation ← someOr (nextRuntimeGeneration memory.runtimeGeneration) internalError
  let result ← supervisorCall (.applyReserved ⟨memory.profiles, localRules, configuration,
    generation, currentRevisions parts memory.profiles localRules configuration⟩)
  let success ← settleTransaction result
  supervisorCall (.store ⟨memory.profiles, localRules, some configuration,
    some success.committedGeneration⟩)
  return .ruleMutation ⟨change.action, change.changedRule, change.previousRule,
    change.resultingPosition, runtimeApplySuccess success⟩

def mapRulePlacement : RulePlacement → SupervisorAttempt U S V C W RulePlacement
  | .prepend => return .prepend
  | .append => return .append
  | .before anchor => do return .before (← checkedRule parts anchor)
  | .after anchor => do return .after (← checkedRule parts anchor)

/-- What `execute` checks of a mutation before it begins. -/
def checkPlacement : RuleMutation → SupervisorAttempt U S V C W RuleMutation
  | .add rule placement => do return .add rule (← mapRulePlacement parts placement)
  | mutation => return mutation

def ruleMutation (mutation : RuleMutation) : SupervisorAttempt U S V C W (ApplicationOutput U) := do
  let reserved ← supervisorCall .tryReserveRule
  Attempt.ofExcept (reserved.mapError mapTransactionError)
  match ← supervisorCall .tryLock with
  | none => throw ruleBusyError
  | some memory => do
    let result ← (ruleMutationLocked parts mutation memory).result
    supervisorCall .unlock
    Attempt.ofExcept result

/-- The operations that change what is stored. `record` is `record_refresh_failure` by itself. -/
inductive SupervisorOperation (U : Type) where
  | add (url : U)
  | use (selector : String)
  | remove (selector : String)
  | refresh (profileId : ProfileId)
  | record (profileId : ProfileId) (context : RefreshContext) (stage : RefreshStage)
      (message : String)
  | select (group node : String)
  | rule (mutation : RuleMutation)

def SupervisorOperation.run :
    SupervisorOperation U → SupervisorAttempt U S V C W (ApplicationOutput U)
  | .add url => profileAdd X parts url
  | .use selector => activateProfileOnce X parts selector
  | .remove selector => profileRemove X parts selector
  | .refresh profileId => refreshProfile parts profileId
  | .record profileId context stage message => do
    recordRefreshFailure parts profileId context stage message
    return .refreshed .discarded
  | .select group node => proxySelect parts group node
  | .rule mutation => do ruleMutation parts (← checkPlacement parts mutation)

end

end Ratash.Supervisor

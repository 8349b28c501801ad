import Mathlib.Logic.Relation
import Ratash.Service.Core

/-!
Every operation runs under the state lock from its first access to the state to its end. A
cancellation takes only the lock of the cancellation state, so it comes between any two calls.
-/

namespace Ratash

open Interaction Attempt

variable (config : PrivilegedServiceConfig) (J : GenerationCodec)

def noRuntimeBundle : CoreRuntimeError :=
  unavailable "unexpected exit has no runtime bundle"

def ServiceState.scheduleInitialRestart (state : ServiceState) (now : Duration) :
    Except CoreRuntimeError UnexpectedExitOutcome × ServiceState :=
  if state.lastBundle = none then (.error noRuntimeBundle, state)
  else (.ok (.pending 0 (deadlineAfter now coreRestartInitialBackoff)), state.initialRestart now)

namespace ServiceState

def restarted (state : ServiceState) (record : ManagedCoreRecord) (now : Duration) : ServiceState :=
  { state.resetRestartState with
    managedCore := some (.active record)
    nextLivenessAt := some (deadlineAfter now coreServiceLivenessInterval) }

def restartLimitReached (state : ServiceState) : ServiceState :=
  { state with
    degraded := true
    diagnostic := some .coreRestartLimitReached
    restartDueAt := none
    restartBackoff := none }

def backedOff (state : ServiceState) (attempt : Nat) (now : Duration) : ServiceState :=
  { state with
    restartDueAt := some (deadlineAfter now (restartBackoffAfter attempt))
    restartBackoff := some (restartBackoffAfter attempt) }

end ServiceState

def restartFrom (owner : ServiceOwner) (bundle : RuntimeBundle) :
    ServiceAttempt ManagedCoreRecord := do
  let reply ← service (.verifyBundle bundle owner.endpoint)
  let verified ← platform reply id
  let tun ← service (.checkTun owner.ownerUid)
  platform tun mapTunPreflightError
  spawnVerified config J owner verified

def concludeRestart (now : Duration) (attempt : Nat) :
    Except CoreRuntimeError ManagedCoreRecord → ServiceAttempt UnexpectedExitOutcome
  | .ok record => do
    modifyState (·.restarted record now)
    return .restarted attempt record.handle
  | .error e => do
    let state ← service .getState
    -- these two ways of failing leave the schedule of restarts as it was
    if e.kind = .invalidBundle ∨ state.cleanupPending = true then throw e
    else if attempt ≥ config.restartLimit then do
      service (.putState state.restartLimitReached)
      return .degraded attempt .coreRestartLimitReached
    else do
      service (.putState (state.backedOff attempt now))
      return .pending attempt (deadlineAfter now (restartBackoffAfter attempt))

def attemptOwnedCoreRestart (owner : ServiceOwner) (now : Duration) :
    ServiceAttempt UnexpectedExitOutcome := do
  let state ← service .getState
  match state.lastBundle with
  | none => throw noRuntimeBundle
  | some bundle => do
    let attempt := saturatingAdd state.consecutiveRestartFailures 1
    service (.putState { state with consecutiveRestartFailures := attempt })
    let restarted ← (restartFrom config J owner bundle).result (δ := CoreRuntimeError)
    concludeRestart config now attempt restarted

/-- An exit has been seen: the record goes, and a restart is scheduled. -/
def acceptExit (record : ManagedCoreRecord) (now : Duration) :
    ServiceAttempt UnexpectedExitOutcome := do
  drainLogs config record
  removeOwnedEndpoint record
  let state ← service .getState
  let scheduled := { state with managedCore := none }.scheduleInitialRestart now
  service (.putState scheduled.2)
  Attempt.ofExcept scheduled.1

def authenticate (proof : OwnerSessionProof) : ServiceAttempt ServiceOwner := do
  let state ← service .getState
  Attempt.ofExcept (state.authenticatedOwner proof)

def ownerSessionId (generation : UInt64) (secret : String) : String :=
  "owner-" ++ toString generation.toNat ++ "-" ++ secret

def ownerEndpointName (generation : UInt64) : String :=
  "owner-" ++ toString generation.toNat ++ ".sock"

def ServiceOwner.Requests (owner : ServiceOwner) (request : OwnerSessionRequest) : Prop :=
  owner.ownerUid = request.ownerUid ∧ owner.supervisorPid = request.supervisorPid ∧
    owner.supervisorStartIdentity = request.supervisorStartIdentity ∧
    owner.instanceToken = request.instanceToken

instance (owner : ServiceOwner) (request : OwnerSessionRequest) :
    Decidable (owner.Requests request) :=
  inferInstanceAs (Decidable (_ ∧ _ ∧ _ ∧ _))

def ServiceOwner.session (owner : ServiceOwner) : OwnerSession :=
  ⟨owner.proof, config.protocolVersion, owner.generation, owner.endpoint⟩

def generateSecret (message : String) : ServiceAttempt String := do
  let reply ← service .generateSecret
  platform reply fun _ => unavailable message

def ServiceState.adopted (state : ServiceState) (owner : ServiceOwner) : ServiceState :=
  { state.resetRestartState with owner := some owner, nextLivenessAt := none }

def adoptOwner (request : OwnerSessionRequest) : ServiceAttempt OwnerSession := do
  let ownerGeneration ← (reserveOwnerGeneration J).left
  let sessionIdSecret ← generateSecret "session ID generation failed"
  let sessionToken ← generateSecret "session token generation failed"
  let endpointSecret ← generateSecret "Core endpoint secret generation failed"
  require (sessionIdSecret ≠ "" ∧ sessionToken ≠ "" ∧ endpointSecret ≠ "")
    (unavailable "random secret generation returned an empty value")
  let owner : ServiceOwner :=
    { ownerUid := request.ownerUid
      supervisorPid := request.supervisorPid
      supervisorStartIdentity := request.supervisorStartIdentity
      instanceToken := request.instanceToken
      generation := ownerGeneration
      proof := ⟨ownerSessionId ownerGeneration sessionIdSecret, sessionToken⟩
      endpoint := ⟨config.controlRoot ++ "/" ++ ownerEndpointName ownerGeneration, endpointSecret⟩ }
  resetApplyCancellation owner.proof ownerGeneration
  modifyState (·.adopted owner)
  return owner.session config

/-- An owner whose process is gone makes room for another one. -/
def openBeside (request : OwnerSessionRequest) (owner : ServiceOwner) :
    ServiceAttempt OwnerSession := do
  if owner.Requests request then return owner.session config
  else do
    let reply ← service (.startIdentity owner.supervisorPid)
    let identity ← platform reply fun _ => unavailable "owner process identity inspection failed"
    require (identity ≠ some owner.supervisorStartIdentity)
      (serviceError .authentication "a live owner session already exists")
    cleanupOwner config
    adoptOwner config J request

def openOwnerSession (request : OwnerSessionRequest) : ServiceAttempt OwnerSession := do
  require (request.protocolVersion = config.protocolVersion)
    (serviceError .protocolMismatch "Core runtime protocol mismatch")
  require (request.supervisorPid ≠ 0 ∧ request.supervisorStartIdentity ≠ "" ∧
      request.instanceToken ≠ "")
    (serviceError .authentication "owner identity is incomplete")
  let valid ← service (.validateCredentials request)
  platform valid fun _ => serviceError .authentication "caller credential validation failed"
  let state ← service .getState
  match state.owner with
  | some owner => openBeside config J request owner
  | none => adoptOwner config J request

def closeOwnerSession (proof : OwnerSessionProof) : ServiceAttempt Unit := do
  let _ ← authenticate proof
  cleanupOwner config

/-- The same as closing the session, for another caller. -/
def revokeOwner (proof : OwnerSessionProof) : ServiceAttempt Unit := do
  let _ ← authenticate proof
  cleanupOwner config

def shutdownService : ServiceAttempt Unit :=
  cleanupOwner config

/-- The running Core makes way for the one to be applied. -/
def replaceActive (proof : OwnerSessionProof) : Option OwnedCoreState → ServiceAttempt Unit
  | some (.active record) => do
    requireOwnedProcess record
    modifyState fun state => { state with managedCore := some (.cleanupPending record) }
    cleanupPendingCore config
    ensureApplyActive proof
  | _ => pure ()

def ServiceState.applied (state : ServiceState) (record : ManagedCoreRecord)
    (bundle : RuntimeBundle) : ServiceState :=
  { state.resetRestartState with
    managedCore := some (.active record)
    lastBundle := some bundle
    nextLivenessAt := none }

/-- The cancellation lock is held from the last check to after the record is stored. -/
def commitActive (proof : OwnerSessionProof) (bundle : RuntimeBundle)
    (record : ManagedCoreRecord) : ServiceAttempt ApplyCandidateResult := do
  orAbandon config record (activeApplyGuard proof)
  modifyState (·.applied record bundle)
  service .unlockCancellation
  return ⟨.spawned, record.handle⟩

def applyCandidate (proof : OwnerSessionProof) (bundle : RuntimeBundle) :
    ServiceAttempt ApplyCandidateResult := do
  let owner ← authenticate proof
  cleanupPendingCore config
  ensureApplyActive proof
  let reply ← service (.verifyBundle bundle owner.endpoint)
  let verified ← platform reply id
  ensureApplyActive proof
  let tun ← service (.checkTun owner.ownerUid)
  platform tun mapTunPreflightError
  ensureApplyActive proof
  let state ← service .getState
  replaceActive config proof state.managedCore
  let record ← spawnVerified config J owner verified
  commitActive config proof bundle record

def ServiceState.stopped (state : ServiceState) : ServiceState :=
  { state.resetRestartState with
    managedCore := none
    lastBundle := none
    nextLivenessAt := none }

def requireIfActive : OwnedCoreState → ServiceAttempt Unit
  | .active record => requireOwnedProcess record
  | .cleanupPending _ => pure ()

def stop (proof : OwnerSessionProof) : ServiceAttempt StopCoreResult := do
  let _ ← authenticate proof
  let state ← service .getState
  match state.managedCore with
  | none => return ⟨false, none⟩
  | some core => do
    requireIfActive core
    stopOwnedRecord config core.record
    modifyState .stopped
    return ⟨true, some core.record.ownedIdentity.instanceGeneration⟩

/-- The Core that is running, and whether an exit has been seen. -/
def observeCore : Option OwnedCoreState → ServiceAttempt (Option ManagedCoreHandle × Bool)
  | some (.active record) => do
    let live ← ownedProcessIsLive record.ownedIdentity
    return if live then (some record.handle, false) else (none, true)
  | _ => return (none, false)

def tunStatus : PlatformResult Unit → ServiceAttempt CoreRuntimeTunStatus
  | .ok _ => return .available
  | .error e =>
    match e.kind with
    | .tunUnavailable => return ⟨false, some .permissionDenied⟩
    | .tunUnsupported => return ⟨false, some .unsupported⟩
    | _ => throw (unavailable "TUN capability inspection failed")

def ServiceState.runtimeStatus (state : ServiceState) (managedCore : Option ManagedCoreHandle)
    (observedExit : Bool) (tun : CoreRuntimeTunStatus) : CoreRuntimeStatus where
  managedCore
  lifecycle :=
    if state.degraded || state.cleanupPending then .degraded
    else if state.restartDueAt.isSome || observedExit then .restartPending
    else if managedCore.isSome then .running
    else .owned
  restart :=
    { pending := (state.restartDueAt.isSome || observedExit) && !state.degraded &&
        !state.cleanupPending
      attempts := state.consecutiveRestartFailures
      backoff := state.restartBackoff.or
        (if observedExit && !state.degraded then some coreRestartInitialBackoff else none)
      diagnostic := state.diagnostic }
  tun

def status (proof : OwnerSessionProof) : ServiceAttempt CoreRuntimeStatus := do
  let owner ← authenticate proof
  let state ← service .getState
  let (managedCore, observedExit) ← observeCore state.managedCore
  let reply ← service (.checkTun owner.ownerUid)
  let tun ← tunStatus reply
  return state.runtimeStatus managedCore observedExit tun

def drainActive : Option OwnedCoreState → ServiceAttempt Unit
  | some (.active record) => do
    requireOwnedProcess record
    drainLogs config record
  | _ => pure ()

def logs (proof : OwnerSessionProof) (afterSequence : Option UInt64) (limit : Nat) :
    ServiceAttempt ForwardedCoreLogBatch := do
  let _ ← authenticate proof
  let state ← service .getState
  drainActive config state.managedCore
  let state ← service .getState
  return state.logsAfter config afterSequence limit

def exitedRecord (exited : CoreExitIdentity) :
    Option OwnedCoreState → Except CoreRuntimeError ManagedCoreRecord
  | none => .error (serviceError .processIdentityMismatch "unexpected exit has no owned Core")
  | some (.cleanupPending _) => .error uncommittedCleanupPending
  | some (.active record) =>
    if record.ownedIdentity = ⟨exited.pid, exited.processStartIdentity,
        exited.instanceGeneration⟩ then .ok record
    else .error (serviceError .processIdentityMismatch "unexpected exit identity mismatch")

def handleUnexpectedExitAt (proof : OwnerSessionProof) (exited : CoreExitIdentity)
    (now : Duration) : ServiceAttempt UnexpectedExitOutcome := do
  let _ ← authenticate proof
  let state ← service .getState
  let record ← Attempt.ofExcept (exitedRecord exited state.managedCore)
  let live ← ownedProcessIsLive record.ownedIdentity
  require (live = false)
    (serviceError .processIdentityMismatch "unexpected exit process remains live")
  acceptExit config record now

def ServiceState.isDue (deadline : Option Duration) (now : Duration) : Bool :=
  deadline.any (· ≤ now)

def ServiceState.armLiveness (state : ServiceState) (now : Duration) : ServiceState :=
  if state.nextLivenessAt.isNone then { state with nextLivenessAt := some now } else state

def ServiceState.nextLiveness (state : ServiceState) (now : Duration) : ServiceState :=
  { state with nextLivenessAt := some (deadlineAfter now coreServiceLivenessInterval) }

def maintenanceAnswer (outcome : ServiceMaintenanceOutcome) :
    ServiceAttempt ServiceMaintenanceStep := do
  let state ← service .getState
  return state.maintenanceResult outcome

/-- Whether the owner's process is still the one that opened the session. -/
def ownerIsLive (owner : ServiceOwner) : ServiceAttempt Bool := do
  let reply ← service (.startIdentity owner.supervisorPid)
  let identity ← platform reply fun _ => unavailable "owner process identity inspection failed"
  return identity = some owner.supervisorStartIdentity

def ServiceState.unchanged (state : ServiceState) : ServiceMaintenanceOutcome :=
  match state.restartDueAt, state.degraded with
  | some nextAttemptAt, false =>
    .unexpectedExit (.pending state.consecutiveRestartFailures nextAttemptAt)
  | _, _ => .unchanged state.lifecycle

def maintenanceUnchanged : ServiceAttempt ServiceMaintenanceStep := do
  let state ← service .getState
  return state.maintenanceResult state.unchanged

/-- A Core that is found to have exited is restarted later. -/
def maintainActive (now : Duration) (record : ManagedCoreRecord) :
    ServiceAttempt ServiceMaintenanceStep := do
  let live ← ownedProcessIsLive record.ownedIdentity
  if live then maintenanceUnchanged
  else do
    let outcome ← acceptExit config record now
    maintenanceAnswer (.unexpectedExit outcome)

def maintainCore (owner : ServiceOwner) (now : Duration) (restartIsDue livenessIsDue : Bool) :
    ServiceAttempt ServiceMaintenanceStep := do
  whenever (restartIsDue = true ∨ livenessIsDue = true) (cleanupPendingCore config)
  let state ← service .getState
  if restartIsDue = true ∧ state.degraded = false then do
    let outcome ← attemptOwnedCoreRestart config J owner now
    maintenanceAnswer (.unexpectedExit outcome)
  else if livenessIsDue = true ∧ state.degraded = false then
    match state.managedCore with
    | some (.active record) => maintainActive config now record
    | _ => maintenanceUnchanged
  else maintenanceUnchanged

/-- The owner is looked at only when something is due. -/
def checkOwner (owner : ServiceOwner) (due : Bool) : ServiceAttempt Bool :=
  if due then ownerIsLive owner else pure true

def maintainOwned (owner : ServiceOwner) (now : Duration) (restartIsDue livenessIsDue : Bool) :
    ServiceAttempt ServiceMaintenanceStep := do
  let live ← checkOwner owner (restartIsDue || livenessIsDue)
  if live then do
    whenever (livenessIsDue = true) (modifyState (·.nextLiveness now))
    maintainCore config J owner now restartIsDue livenessIsDue
  else do
    cleanupOwner config
    modifyState (·.nextLiveness now)
    maintenanceAnswer .ownerRevoked

def maintenanceStep (now : Duration) : ServiceAttempt ServiceMaintenanceStep := do
  modifyState (·.armLiveness now)
  let state ← service .getState
  match state.owner with
  | none => do
    modifyState (·.nextLiveness now)
    maintenanceAnswer (.unchanged .idle)
  | some owner =>
    maintainOwned config J owner now (ServiceState.isDue state.restartDueAt now)
      (ServiceState.isDue state.nextLivenessAt now)

@[reducible] def ServiceRequest.Answer : ServiceRequest → Type
  | .openOwnerSession _ => OwnerSession
  | .applyCandidate _ _ => ApplyCandidateResult
  | .status _ => CoreRuntimeStatus
  | .logs _ _ _ => ForwardedCoreLogBatch
  | .stop _ => StopCoreResult
  | .maintenanceStep _ => ServiceMaintenanceStep
  | .handleUnexpectedExitAt _ _ _ => UnexpectedExitOutcome
  | .closeOwnerSession _ | .revokeOwner _ | .shutdownService => Unit

def ServiceRequest.perform : (q : ServiceRequest) → ServiceAttempt q.Answer
  | .openOwnerSession request => Ratash.openOwnerSession config J request
  | .applyCandidate proof bundle => Ratash.applyCandidate config J proof bundle
  | .status proof => Ratash.status proof
  | .logs proof afterSequence limit => Ratash.logs config proof afterSequence limit
  | .stop proof => Ratash.stop config proof
  | .closeOwnerSession proof => Ratash.closeOwnerSession config proof
  | .revokeOwner proof => Ratash.revokeOwner config proof
  | .maintenanceStep now => Ratash.maintenanceStep config J now
  | .handleUnexpectedExitAt proof exited now =>
    Ratash.handleUnexpectedExitAt config proof exited now
  | .shutdownService => Ratash.shutdownService config

def ServiceRoom.asked (room : ServiceRoom) (q : ServiceRequest) : ServiceRoom :=
  (room.1, { room.2 with request := q, history := .began q :: room.2.history })

def Handles (room : ServiceRoom) (q : ServiceRequest) (answer : Except CoreRuntimeError q.Answer)
    (room' : ServiceRoom) : Prop :=
  Finishes anyService (q.perform config J).run (room.asked q) answer room'

inductive Serves : ServiceRoom → ServiceRoom → Prop where
  | request : Handles config J room q answer room' → Serves room room'
  | cancel : Cancels w w' → Serves (counters, w) (counters, w')

def Served (room : ServiceRoom) : Prop :=
  ∃ counters, Relation.ReflTransGen (Serves config J) (counters, .initial) room

def Serving (room : ServiceRoom) : Prop :=
  ∃ room₀, Served config J room₀ ∧
    (room = room₀ ∨ ∃ q, Reaches anyService (q.perform config J).run (room₀.asked q) room)

end Ratash

import Ratash.Service.Calls

namespace Ratash

open Interaction Attempt

def modifyState (f : ServiceState → ServiceState) : ServiceAttempt Unit := do
  let state ← service .getState
  service (.putState (f state))

def cancellationOwnerMismatch : CoreRuntimeError :=
  serviceError .authentication "Runtime Apply cancellation owner mismatch"

def resetApplyCancellation (owner : OwnerSessionProof) (ownerGeneration : UInt64) :
    ServiceAttempt Unit := do
  let _ ← service .lockCancellation
  service (.putCancellation ⟨some owner, some ownerGeneration, false⟩)
  service .unlockCancellation
  service (.resetApplyCancellation ownerGeneration)

def clearApplyCancellation (owner : ServiceOwner) : ServiceAttempt Unit := do
  let cancellation ← service .lockCancellation
  if cancellation.owner ≠ some owner.proof ∨
      cancellation.ownerGeneration ≠ some owner.generation then do
    service .unlockCancellation
    throw cancellationOwnerMismatch
  else do
    service (.putCancellation ⟨none, none, true⟩)
    service .unlockCancellation

/-- Take the cancellation lock, and keep it if the owner's applies are not cancelled. -/
def activeApplyGuard (owner : OwnerSessionProof) : ServiceAttempt Unit := do
  let cancellation ← service .lockCancellation
  if cancellation.owner ≠ some owner then do
    service .unlockCancellation
    throw cancellationOwnerMismatch
  else if cancellation.requested = true then do
    service .unlockCancellation
    throw (serviceError .reloadTimeout "Runtime Apply was cancelled during Supervisor shutdown")
  else return ()

def ensureApplyActive (owner : OwnerSessionProof) : ServiceAttempt Unit := do
  activeApplyGuard owner
  service .unlockCancellation

def ownedProcessIsLive (identity : OwnedProcessIdentity) : ServiceAttempt Bool := do
  let reply ← service (.reapIfExited identity)
  let exited ← platform reply fun _ => unavailable "Core process inspection failed"
  if exited then return false
  else do
    let reply ← service (.startIdentity identity.pid)
    let actual ← platform reply fun _ => unavailable "process identity inspection failed"
    return actual = some identity.processStartIdentity

def requireOwnedProcess (record : ManagedCoreRecord) : ServiceAttempt Unit := do
  let live ← ownedProcessIsLive record.ownedIdentity
  require (live = true)
    (serviceError .processIdentityMismatch "owned Core identity mismatch")

def drainLogs (config : PrivilegedServiceConfig) (record : ManagedCoreRecord) :
    ServiceAttempt Unit := do
  let reply ← service (.takeLogs record.ownedIdentity config.logCapacity)
  let incoming ← platform reply fun _ => unavailable "Core log forwarding failed"
  modifyState (.acceptBatch config record.ownedIdentity.instanceGeneration incoming)

def removeOwnedEndpoint (record : ManagedCoreRecord) : ServiceAttempt Unit := do
  match record.endpointIdentity with
  | none => return ()
  | some expected => do
    let found ← service (.inspectEndpoint record.handle.endpoint.socketPath)
    match found with
    | .error kind =>
      require (kind = .notFound) (unavailable "owned Core endpoint inspection failed")
    | .ok identity =>
      if identity = some expected then do
        let removed ← service (.removeEndpoint record.handle.endpoint.socketPath)
        platform removed fun _ => unavailable "owned Core endpoint cleanup failed"
      else return ()

def ServiceState.captured (state : ServiceState) (process : OwnedProcessIdentity)
    (endpointIdentity : Option OwnedEndpointIdentity) : ServiceState :=
  { state with managedCore := state.managedCore.map fun retained =>
      if retained.record.ownedIdentity = process then
        retained.setRecord { retained.record with endpointIdentity }
      else retained }

/-- A record that still lacks the identity of its endpoint gets it, here and in the state. -/
def captureEndpoint (record : ManagedCoreRecord) : ServiceAttempt ManagedCoreRecord := do
  match record.endpointIdentity with
  | some _ => return record
  | none => do
    let captured ← service (.captureEndpointIdentity record.handle.endpoint.socketPath)
    modifyState (·.captured record.ownedIdentity captured)
    return { record with endpointIdentity := captured }

def stopIfLive (identity : OwnedProcessIdentity) : ServiceAttempt Unit := do
  let live ← ownedProcessIsLive identity
  if live then do
    let stopped ← service (.stop identity)
    platform stopped mapStopError
  else return ()

def stopOwnedRecord (config : PrivilegedServiceConfig) (record : ManagedCoreRecord) :
    ServiceAttempt Unit := do
  let record ← captureEndpoint record
  stopIfLive record.ownedIdentity
  drainLogs config record
  removeOwnedEndpoint record

def cleanupPendingCore (config : PrivilegedServiceConfig) : ServiceAttempt Unit := do
  let state ← service .getState
  match state.managedCore with
  | some (.cleanupPending record) => do
    stopOwnedRecord config record
    modifyState fun state => { state with managedCore := none }
  | _ => return ()

def uncommittedCleanupPending : CoreRuntimeError :=
  unavailable "uncommitted Core cleanup is pending"

/-- The error to report for a Core that was spawned and is not to be kept. -/
def failAfterUncommittedSpawn (config : PrivilegedServiceConfig) (record : ManagedCoreRecord)
    (primary : CoreRuntimeError) : ServiceAttempt α := do
  modifyState fun state => { state with managedCore := some (.cleanupPending record) }
  let cleaned ← (cleanupPendingCore config).result (δ := CoreRuntimeError)
  match cleaned with
  | .ok _ => throw primary
  | .error _ => throw uncommittedCleanupPending

/-- A check on a Core that was spawned and is not recorded yet: if it fails the Core is given up. -/
def orAbandon (config : PrivilegedServiceConfig) (record : ManagedCoreRecord)
    (check : ServiceAttempt α) : ServiceAttempt α := do
  let checked ← check.result (δ := CoreRuntimeError)
  match checked with
  | .ok a => return a
  | .error e => failAfterUncommittedSpawn config record e

def confirmSpawned (record : ManagedCoreRecord) : ServiceAttempt Unit := do
  let live ← ownedProcessIsLive record.ownedIdentity
  require (live = true)
    (serviceError .processIdentityMismatch "spawned Core identity could not be confirmed")

def ManagedCoreRecord.spawned (owner : ServiceOwner) (bundle : VerifiedRuntimeBundle)
    (instanceGeneration : CoreInstanceGeneration) (spawned : SpawnedCoreProcess) :
    ManagedCoreRecord where
  handle :=
    { pid := spawned.pid
      processStartIdentity := spawned.processStartIdentity
      endpoint := owner.endpoint
      instanceGeneration
      runtimeGeneration := bundle.bundle.generation }
  ownedIdentity := ⟨spawned.pid, spawned.processStartIdentity, instanceGeneration⟩
  endpointIdentity := none

def recaptureEndpoint (path : Path) (record : ManagedCoreRecord) :
    PlatformResult Unit → ServiceAttempt ManagedCoreRecord
  | .ok _ => do
    let captured ← service (.captureEndpointIdentity path)
    return { record with endpointIdentity := captured }
  | .error _ => return record

def prepareSpawned (config : PrivilegedServiceConfig) (owner : ServiceOwner)
    (record : ManagedCoreRecord) : ServiceAttempt ManagedCoreRecord := do
  orAbandon config record (ensureApplyActive owner.proof)
  orAbandon config record (confirmSpawned record)
  let readiness ← service (.readiness record.ownedIdentity owner.endpoint)
  let captured ← service (.captureEndpointIdentity owner.endpoint.socketPath)
  let record := { record with endpointIdentity := captured }
  orAbandon config record (platform readiness mapReadinessError)
  orAbandon config record (ensureApplyActive owner.proof)
  let access ← service (.grantEndpointAccess owner.endpoint owner.ownerUid)
  let record ← recaptureEndpoint owner.endpoint.socketPath record access
  orAbandon config record
    (platform access fun _ => serviceError .apply "Core control endpoint access setup failed")
  orAbandon config record (ensureApplyActive owner.proof)
  return record

def spawnVerified (config : PrivilegedServiceConfig) (J : GenerationCodec) (owner : ServiceOwner)
    (bundle : VerifiedRuntimeBundle) : ServiceAttempt ManagedCoreRecord := do
  let instanceGeneration ← (reserveCoreInstanceGeneration J).left
  let reply ← service (.spawn bundle owner.endpoint instanceGeneration)
  let spawned ← platform reply mapSpawnError
  require (spawned.pid ≠ 0 ∧ spawned.processStartIdentity ≠ "")
    (serviceError .processIdentityMismatch "spawned Core identity is invalid")
  prepareSpawned config owner (.spawned owner bundle instanceGeneration spawned)

def stopTracked (config : PrivilegedServiceConfig) : Option OwnedCoreState → ServiceAttempt Unit
  | some core => stopOwnedRecord config core.record
  | none => pure ()

def clearOwnerCancellation : Option ServiceOwner → ServiceAttempt Unit
  | some owner => clearApplyCancellation owner
  | none => pure ()

def ServiceState.dismissed (state : ServiceState) : ServiceState :=
  { state.resetRestartState with
    managedCore := none
    owner := none
    lastBundle := none
    nextLivenessAt := none
    logs := []
    logBytes := 0
    nextLogSequence := 1
    droppedLogSequence := 0 }

def cleanupOwner (config : PrivilegedServiceConfig) : ServiceAttempt Unit := do
  let state ← service .getState
  stopTracked config state.managedCore
  clearOwnerCancellation state.owner
  modifyState .dismissed

end Ratash

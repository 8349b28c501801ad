import Ratash.Service.Platform

/-!
Everything the service keeps in memory behind its state lock, except the two generation counters,
which live with the generation file.
-/

namespace Ratash

/-- A configuration that the constructor of the service accepts. -/
structure PrivilegedServiceConfig where
  protocolVersion : UInt16
  controlRoot : Path
  restartLimit : Nat
  logCapacity : Nat
  maxLogLineBytes : Nat
  protocolVersion_ne_zero : protocolVersion ≠ 0
  restartLimit_pos : 0 < restartLimit
  restartLimit_le : restartLimit ≤ usizeMax
  logCapacity_pos : 0 < logCapacity
  maxLogLineBytes_pos : 0 < maxLogLineBytes

def PrivilegedServiceConfig.productDefaults (controlRoot : Path) : PrivilegedServiceConfig where
  protocolVersion := 1
  controlRoot
  restartLimit := 3
  logCapacity := 256
  maxLogLineBytes := 64 * 1024
  protocolVersion_ne_zero := by decide
  restartLimit_pos := by decide
  restartLimit_le := by decide
  logCapacity_pos := by decide
  maxLogLineBytes_pos := by decide

inductive PrivilegedServiceLifecycle where
  | idle
  | owned
  | running
  | degraded
deriving DecidableEq

structure CoreExitIdentity where
  pid : UInt32
  processStartIdentity : String
  instanceGeneration : CoreInstanceGeneration
deriving DecidableEq

inductive UnexpectedExitOutcome where
  | pending (attempts : Nat) (nextAttemptAt : Duration)
  | restarted (attempts : Nat) (managedCore : ManagedCoreHandle)
  | degraded (attempts : Nat) (diagnostic : CoreRuntimeDiagnosticCategory)
deriving DecidableEq

inductive ServiceMaintenanceOutcome where
  | unchanged (lifecycle : PrivilegedServiceLifecycle)
  | ownerRevoked
  | unexpectedExit (outcome : UnexpectedExitOutcome)
deriving DecidableEq

structure ServiceMaintenanceStep where
  outcome : ServiceMaintenanceOutcome
  nextDeadline : Duration
deriving DecidableEq

structure ServiceOwner where
  ownerUid : UInt32
  supervisorPid : UInt32
  supervisorStartIdentity : String
  instanceToken : String
  generation : UInt64
  proof : OwnerSessionProof
  endpoint : CoreControlEndpoint
deriving DecidableEq

structure ManagedCoreRecord where
  handle : ManagedCoreHandle
  ownedIdentity : OwnedProcessIdentity
  endpointIdentity : Option OwnedEndpointIdentity
deriving DecidableEq

inductive OwnedCoreState where
  | active (record : ManagedCoreRecord)
  | cleanupPending (record : ManagedCoreRecord)
deriving DecidableEq

namespace OwnedCoreState

def active? : OwnedCoreState → Option ManagedCoreRecord
  | .active record => some record
  | .cleanupPending _ => none

def record : OwnedCoreState → ManagedCoreRecord
  | .active record | .cleanupPending record => record

def setRecord (record : ManagedCoreRecord) : OwnedCoreState → OwnedCoreState
  | .active _ => .active record
  | .cleanupPending _ => .cleanupPending record

def isCleanupPending : OwnedCoreState → Bool
  | .active _ => false
  | .cleanupPending _ => true

end OwnedCoreState

structure ServiceState where
  owner : Option ServiceOwner
  managedCore : Option OwnedCoreState
  lastBundle : Option RuntimeBundle
  degraded : Bool
  consecutiveRestartFailures : Nat
  diagnostic : Option CoreRuntimeDiagnosticCategory
  restartDueAt : Option Duration
  restartBackoff : Option Duration
  nextLivenessAt : Option Duration
  logs : List ForwardedCoreLog
  logBytes : Nat
  nextLogSequence : UInt64
  droppedLogSequence : UInt64
deriving DecidableEq

def ServiceState.initial : ServiceState :=
  ⟨none, none, none, false, 0, none, none, none, none, [], 0, 1, 0⟩

structure ApplyCancellationState where
  owner : Option OwnerSessionProof
  ownerGeneration : Option UInt64
  requested : Bool
deriving DecidableEq

def ApplyCancellationState.initial : ApplyCancellationState :=
  ⟨none, none, false⟩

/-- What the process controller knows of cancellations. -/
structure ApplyCancellationEpoch where
  latestGeneration : UInt64
  ownerGeneration : Option UInt64
  applyCancelled : Bool
deriving DecidableEq

namespace ApplyCancellationEpoch

def initial : ApplyCancellationEpoch :=
  ⟨0, none, false⟩

def resetApplyCancellation (epoch : ApplyCancellationEpoch) (ownerGeneration : UInt64) :
    ApplyCancellationEpoch :=
  if ownerGeneration ≤ epoch.latestGeneration then epoch
  else ⟨ownerGeneration, some ownerGeneration, false⟩

def cancelPendingApply (epoch : ApplyCancellationEpoch) (ownerGeneration : UInt64) :
    ApplyCancellationEpoch :=
  if epoch.ownerGeneration = some ownerGeneration then { epoch with applyCancelled := true }
  else epoch

theorem ownerGeneration_cancel (epoch : ApplyCancellationEpoch) (ownerGeneration : UInt64) :
    (epoch.cancelPendingApply ownerGeneration).ownerGeneration = epoch.ownerGeneration := by
  unfold cancelPendingApply
  split <;> rfl

theorem latestGeneration_cancel (epoch : ApplyCancellationEpoch) (ownerGeneration : UInt64) :
    (epoch.cancelPendingApply ownerGeneration).latestGeneration = epoch.latestGeneration := by
  unfold cancelPendingApply
  split <;> rfl

end ApplyCancellationEpoch

def deadlineAfter (now delay : Duration) : Duration :=
  if now + delay ≤ durationMax then now + delay else durationMax

def restartBackoffAfter (failedAttempts : Nat) : Duration :=
  let multiplier := if failedAttempts < 32 then 2 ^ failedAttempts else 2 ^ 32 - 1
  min (coreRestartInitialBackoff * multiplier) coreRestartMaxBackoff

namespace ServiceState

def resetRestartState (state : ServiceState) : ServiceState :=
  { state with
    degraded := false
    consecutiveRestartFailures := 0
    diagnostic := none
    restartDueAt := none
    restartBackoff := none }

def cleanupPending (state : ServiceState) : Bool :=
  state.managedCore.any OwnedCoreState.isCleanupPending

def authenticatedOwner (state : ServiceState) (proof : OwnerSessionProof) :
    Except CoreRuntimeError ServiceOwner :=
  match state.owner.filter (·.proof = proof) with
  | some owner => .ok owner
  | none => .error (serviceError .authentication "owner session proof mismatch")

def lifecycle (state : ServiceState) : PrivilegedServiceLifecycle :=
  if state.degraded || state.cleanupPending then .degraded
  else if state.managedCore.any fun core => core.active?.isSome then .running
  else if state.owner.isSome then .owned
  else .idle

def maintenanceResult (state : ServiceState) (outcome : ServiceMaintenanceOutcome) :
    ServiceMaintenanceStep where
  outcome
  nextDeadline := match state.restartDueAt, state.nextLivenessAt with
    | some restart, some liveness => min restart liveness
    | some restart, none => restart
    | none, some liveness => liveness
    | none, none => durationMax

def initialRestart (state : ServiceState) (now : Duration) : ServiceState :=
  { state with
    degraded := false
    consecutiveRestartFailures := 0
    diagnostic := none
    restartDueAt := some (deadlineAfter now coreRestartInitialBackoff)
    restartBackoff := some coreRestartInitialBackoff }

end ServiceState

/-- The longest run of characters that fits. -/
def takeBytes : Nat → List Char → List Char
  | _, [] => []
  | budget, c :: rest =>
    if c.utf8Size ≤ budget then c :: takeBytes (budget - c.utf8Size) rest else []

def truncateUtf8 (value : String) (maxBytes : Nat) : String :=
  if value.utf8ByteSize ≤ maxBytes then value else .ofList (takeBytes maxBytes value.toList)

namespace ServiceState

/-- Drop the oldest records until a message of some length fits. -/
def evictLogs (capacity messageBytes : Nat) (state : ServiceState) : ServiceState :=
  go state.logs state.logBytes state.droppedLogSequence
where
  go : List ForwardedCoreLog → Nat → UInt64 → ServiceState
    | [], bytes, dropped =>
      { state with logs := [], logBytes := bytes, droppedLogSequence := dropped }
    | log :: logs, bytes, dropped =>
      if (log :: logs).length = capacity ∨
          saturatingAdd bytes messageBytes > coreLogForwardMaxBytes then
        go logs (bytes - log.message.utf8ByteSize) (max dropped log.sequence)
      else
        { state with logs := log :: logs, logBytes := bytes, droppedLogSequence := dropped }

/-- The sequence numbers of records the controller itself has dropped. -/
def recordDropped (dropped : UInt64) (state : ServiceState) : ServiceState :=
  if dropped > 0 then
    let lastDropped := saturatingAdd64 state.nextLogSequence (dropped - 1)
    { state with
      droppedLogSequence := max state.droppedLogSequence lastDropped
      nextLogSequence := saturatingAdd64 lastDropped 1 }
  else state

def acceptLogs (config : PrivilegedServiceConfig) (generation : CoreInstanceGeneration) :
    List CoreProcessLog → ServiceState → ServiceState
  | [], state => state
  | log :: logs, state =>
    match checkedSucc state.nextLogSequence with
    | none => state
    | some next =>
      let message := truncateUtf8 log.message (min config.maxLogLineBytes coreLogForwardMaxBytes)
      let evicted := evictLogs config.logCapacity message.utf8ByteSize
        { state with nextLogSequence := next }
      acceptLogs config generation logs
        { evicted with
          logBytes := saturatingAdd evicted.logBytes message.utf8ByteSize
          logs := evicted.logs ++
            [⟨state.nextLogSequence, log.timestampUnixMs, log.source, message, generation⟩] }

def acceptBatch (config : PrivilegedServiceConfig) (generation : CoreInstanceGeneration)
    (batch : CoreProcessLogBatch) (state : ServiceState) : ServiceState :=
  acceptLogs config generation batch.records (recordDropped batch.dropped state)

/-- The records of one answer, under a bound on the bytes of their messages. -/
def takeBatch : Nat → List ForwardedCoreLog → List ForwardedCoreLog
  | _, [] => []
  | messageBytes, record :: rest =>
    let total := saturatingAdd messageBytes record.message.utf8ByteSize
    if total > coreLogForwardBatchMaxBytes then [] else record :: takeBatch total rest

def logsAfter (config : PrivilegedServiceConfig) (afterSequence : Option UInt64) (limit : Nat)
    (state : ServiceState) : ForwardedCoreLogBatch :=
  let wanted := state.logs.filter fun record => afterSequence.all (· < record.sequence)
  let records := takeBatch 0 (wanted.take (min limit config.logCapacity))
  let pageCursor := (records.getLast?.map (·.sequence)).or afterSequence
  let hasMoreRecords := state.logs.any fun record => pageCursor.all (· < record.sequence)
  let sequenceHorizon :=
    if state.nextLogSequence > 1 then some (state.nextLogSequence - 1) else none
  let nextSequence :=
    if hasMoreRecords then pageCursor
    else match pageCursor, sequenceHorizon with
      | some cursor, some horizon => some (max cursor horizon)
      | cursor, horizon => cursor.or horizon
  let missing := (nextSequence.getD 0).toNat - (afterSequence.getD 0).toNat - records.length
  { records
    nextSequence
    droppedBefore := state.droppedLogSequence
    droppedSinceAfter := .ofNat missing }

end ServiceState

end Ratash

import Ratash.Interaction.Attempt
import Ratash.Service.State

/-! Both counters are kept in memory and in a file of the control root. -/

namespace Ratash

open Interaction Attempt

structure ServiceGenerationState where
  schemaVersion : UInt16
  ownerGeneration : UInt64
  coreInstanceGeneration : UInt64
deriving DecidableEq

structure GenerationCounters where
  ownerGeneration : UInt64
  coreInstanceGeneration : UInt64
deriving DecidableEq

def ServiceGenerationState.new (counters : GenerationCounters) : ServiceGenerationState :=
  ⟨1, counters.ownerGeneration, counters.coreInstanceGeneration⟩

def ServiceGenerationState.counters (state : ServiceGenerationState) : GenerationCounters :=
  ⟨state.ownerGeneration, state.coreInstanceGeneration⟩

def generationStateMaxBytes : Nat := 1024
def serviceDirectoryMode : Nat := 0o711
def generationStateMode : Nat := 0o600

structure GenerationCodec where
  encode : ServiceGenerationState → Bytes
  decode : Bytes → Option ServiceGenerationState
  decode_encode : ∀ state, decode (encode state) = some state
  encode_ne_nil : ∀ state, encode state ≠ []
  length_encode : ∀ state, (encode state).length ≤ generationStateMaxBytes

inductive CommitFault where
  | write
  | fileSync
  | rename
  | directorySync
deriving DecidableEq

inductive ControlName where
  | generationState
  | generationLock
  | pending (uuid : BitVec 128)
  | other (name : String)
deriving DecidableEq

structure ControlMetadata where
  isFile : Bool
  isDirectory : Bool
  length : Nat
  uid : Nat
  mode : Nat
  links : Nat
  device : Nat
  inode : Nat
deriving DecidableEq

inductive FileCall where
  | rootMetadata
  | metadata (name : ControlName)
  | openMetadata (name : ControlName)
  | read (name : ControlName)
  | createNew (name : ControlName) (mode : Nat)
  | setPermissions (name : ControlName) (mode : Nat)
  | write (name : ControlName) (content : Bytes)
  | sync (name : ControlName)
  | rename (source target : ControlName)
  | remove (name : ControlName)
  | readDir
  | syncRoot
  | flock

@[reducible] def FileCall.Value : FileCall → Type
  | .rootMetadata | .openMetadata _ | .createNew _ _ => ControlMetadata
  | .metadata _ => Option ControlMetadata
  | .read _ => Bytes
  | .readDir => List ControlName
  | _ => Unit

inductive ControlCall where
  | counters
  | setCounters (counters : GenerationCounters)
  | takeCommitFault
  | newUuid
  | effectiveUid
  | unlock
  | file (c : FileCall)

@[reducible] def ControlCall.Reply : ControlCall → Type
  | .counters => GenerationCounters
  | .setCounters _ | .unlock => Unit
  | .takeCommitFault => Option CommitFault
  | .newUuid => BitVec 128
  | .effectiveUid => Nat
  | .file c => IoResult c.Value

abbrev controlCalls : Signature :=
  ⟨ControlCall, ControlCall.Reply⟩

abbrev ControlAttempt := Attempt controlCalls CoreRuntimeError

def control (c : ControlCall) : ControlAttempt c.Reply :=
  ExceptT.lift (Prog.call (S := controlCalls) c)

/-- A file operation whose failure is reported with a message. -/
def file (c : FileCall) (message : String) : ControlAttempt c.Value := do
  let reply ← control (.file c)
  okOr reply (unavailable message)

def validateServiceDirectoryMetadata (metadata : ControlMetadata) (diagnostic : String) :
    ControlAttempt Unit := do
  let uid ← control .effectiveUid
  require (metadata.isDirectory = true ∧ metadata.uid = uid ∧
    metadata.mode % 0o10000 = serviceDirectoryMode) (unavailable diagnostic)

def validateControlRoot : ControlAttempt Unit := do
  let metadata ← file .rootMetadata "control root validation failed"
  validateServiceDirectoryMetadata metadata
    "control root ownership, permissions, or type are invalid"

def syncPrivateServiceDirectory : ControlAttempt Unit := do
  let metadata ← file .rootMetadata "service directory sync open failed"
  validateServiceDirectoryMetadata metadata
    "service directory ownership, permissions, or type are invalid"
  file .syncRoot "service directory sync failed"

def validateGenerationLockMetadata (metadata : ControlMetadata) : ControlAttempt Unit := do
  let uid ← control .effectiveUid
  require (metadata.isFile = true ∧ metadata.length = 0 ∧ metadata.uid = uid ∧
      metadata.mode % 0o10000 = generationStateMode ∧ metadata.links = 1)
    (unavailable "service generation state lock ownership, permissions, or type are invalid")

/-- One turn of the loop that opens the lock file: whether it is open, or another process has
created it meanwhile. -/
def openGenerationStateLockOnce : ControlAttempt Bool := do
  let found ← file (.metadata .generationLock) "service generation state lock validation failed"
  match found with
  | some pathMetadata => do
    validateGenerationLockMetadata pathMetadata
    let openedMetadata ← file (.openMetadata .generationLock)
      "service generation state lock open failed"
    validateGenerationLockMetadata openedMetadata
    require (pathMetadata.device = openedMetadata.device ∧
        pathMetadata.inode = openedMetadata.inode)
      (unavailable "service generation state lock identity changed")
    return true
  | none => do
    let created ← control (.file (.createNew .generationLock generationStateMode))
    match created with
    | .ok _ => do
      file (.setPermissions .generationLock generationStateMode)
        "service generation state lock permission update failed"
      let metadata ← file (.openMetadata .generationLock)
        "service generation state lock validation failed"
      validateGenerationLockMetadata metadata
      file (.sync .generationLock) "service generation state lock sync failed"
      syncPrivateServiceDirectory
      return true
    | .error e =>
      if e.kind = .alreadyExists then return false
      else throw (unavailable "service generation state lock creation failed")

def openGenerationStateLock : ControlAttempt Unit := do
  validateControlRoot
  let opened ← openGenerationStateLockOnce
  if opened then return ()
  else do
    let opened ← openGenerationStateLockOnce
    require (opened = true)
      (unavailable "service generation state lock creation raced")

def withGenerationStateLock (operation : ControlAttempt α) : ControlAttempt α := do
  openGenerationStateLock
  file .flock "service generation state lock is unavailable"
  let result ← operation.result
  control .unlock
  Attempt.ofExcept result

def validateGenerationStateMetadata (metadata : ControlMetadata) : ControlAttempt Unit := do
  require (metadata.isFile = true ∧ 0 < metadata.length ∧
      metadata.length ≤ generationStateMaxBytes)
    (unavailable "service generation state shape is invalid")
  let uid ← control .effectiveUid
  require (metadata.uid = uid ∧ metadata.mode % 0o10000 = generationStateMode ∧
      metadata.links = 1)
    (unavailable "service generation state ownership or permissions are invalid")

variable (J : GenerationCodec)

def parseGenerationState (content : Bytes) : Except CoreRuntimeError ServiceGenerationState :=
  if content = [] ∨ content.length > generationStateMaxBytes then
    .error (unavailable "service generation state size is invalid")
  else
    match J.decode content with
    | none => .error (unavailable "service generation state is invalid")
    | some state =>
      if state.schemaVersion ≠ 1 then
        .error (unavailable "service generation state version is unsupported")
      else .ok state

theorem parseGenerationState_encode (counters : GenerationCounters) :
    parseGenerationState J (J.encode (.new counters)) = .ok (.new counters) := by
  have hsize : ¬(J.encode (.new counters) = [] ∨
      (J.encode (.new counters)).length > generationStateMaxBytes) := by
    have hne := J.encode_ne_nil (.new counters)
    have hlength := J.length_encode (.new counters)
    simp [hne, hlength]
  rw [parseGenerationState, if_neg hsize, J.decode_encode]
  rfl

def readGenerationState (pathMetadata : ControlMetadata) :
    ControlAttempt ServiceGenerationState := do
  validateGenerationStateMetadata pathMetadata
  let openedMetadata ← file (.openMetadata .generationState)
    "service generation state open failed"
  validateGenerationStateMetadata openedMetadata
  require (pathMetadata.device = openedMetadata.device ∧
      pathMetadata.inode = openedMetadata.inode)
    (unavailable "service generation state identity changed")
  let content ← file (.read .generationState) "service generation state read failed"
  Attempt.ofExcept (parseGenerationState J content)

def loadGenerationState : ControlAttempt ServiceGenerationState := do
  validateControlRoot
  let found ← file (.metadata .generationState) "service generation state validation failed"
  match found with
  | some metadata => readGenerationState J metadata
  | none => throw (unavailable "service generation state validation failed")

def CommitFault.diagnostic : CommitFault → String
  | .write => "injected service generation state write failure"
  | .fileSync => "injected service generation state file sync failure"
  | .rename => "injected service generation state rename failure"
  | .directorySync => "injected service generation state directory sync failure"

def injectGenerationStateCommitFault (armed : Option CommitFault) (stage : CommitFault) :
    ControlAttempt Unit :=
  require (armed ≠ some stage) (unavailable stage.diagnostic)

/-- Fill the pending file and move it into place. -/
def commitGenerationState (temporary : ControlName) (content : Bytes)
    (fault : Option CommitFault) : ControlAttempt Unit := do
  file (.setPermissions temporary generationStateMode)
    "service generation state staging permission update failed"
  injectGenerationStateCommitFault fault .write
  file (.write temporary content) "service generation state write failed"
  injectGenerationStateCommitFault fault .fileSync
  file (.sync temporary) "service generation state sync failed"
  injectGenerationStateCommitFault fault .rename
  file (.rename temporary .generationState) "service generation state commit failed"
  injectGenerationStateCommitFault fault .directorySync
  syncPrivateServiceDirectory

def removeCreatedPendingGenerationState (temporary : ControlName) (staged : ControlMetadata) :
    ControlAttempt Unit := do
  let found ← control (.file (.metadata temporary))
  match found with
  | .ok (some metadata) =>
    if metadata.isFile = true ∧ metadata.device = staged.device ∧
        metadata.inode = staged.inode then do
      let _ ← control (.file (.remove temporary))
      return ()
    else return ()
  | _ => return ()

def validateReplacedGenerationState : Option ControlMetadata → ControlAttempt Unit
  | some metadata => validateGenerationStateMetadata metadata
  | none => pure ()

def persistGenerationStateWithFault (state : ServiceGenerationState)
    (fault : Option CommitFault) : ControlAttempt Unit := do
  validateControlRoot
  let content := J.encode state
  require (content ≠ [] ∧ content.length ≤ generationStateMaxBytes)
    (unavailable "service generation state serialization is invalid")
  let found ← file (.metadata .generationState) "service generation state validation failed"
  validateReplacedGenerationState found
  let uuid ← control .newUuid
  let staged ← file (.createNew (.pending uuid) generationStateMode)
    "service generation state staging failed"
  let result ← (commitGenerationState (.pending uuid) content fault).result
  match result with
  | .ok _ => return ()
  | .error e => do
    removeCreatedPendingGenerationState (.pending uuid) staged
    throw e

def loadOrInitializeGenerationState : ControlAttempt ServiceGenerationState := do
  validateControlRoot
  let found ← file (.metadata .generationState) "service generation state validation failed"
  match found with
  | some metadata => readGenerationState J metadata
  | none => do
    let state := ServiceGenerationState.new ⟨0, 0⟩
    persistGenerationStateWithFault J state none
    return state

def isPrivatePendingGenerationState (uid : Nat) (metadata : ControlMetadata) : Bool :=
  metadata.isFile && metadata.length ≤ generationStateMaxBytes && metadata.uid = uid &&
    -- no permission bit beyond those of the state file
    metadata.mode % 0o10000 &&& generationStateMode = metadata.mode % 0o10000 &&
    metadata.links = 1

/-- Remove one left-over pending file, and say whether it was one. -/
def cleanupPendingGenerationState (name : ControlName) : ControlAttempt Bool := do
  match name with
  | .pending uuid => do
    let found ← file (.metadata (.pending uuid)) "pending generation state validation failed"
    match found with
    | none => throw (unavailable "pending generation state validation failed")
    | some metadata => do
      let uid ← control .effectiveUid
      if isPrivatePendingGenerationState uid metadata then do
        file (.remove (.pending uuid)) "pending generation state cleanup failed"
        return true
      else return false
  | _ => return false

def cleanupPendingEntries : List ControlName → ControlAttempt Bool
  | [] => return false
  | name :: names => do
    let removed ← cleanupPendingGenerationState name
    let more ← cleanupPendingEntries names
    return removed || more

def cleanupPendingGenerationStates : ControlAttempt Unit := do
  validateControlRoot
  let names ← file .readDir "control root cleanup scan failed"
  let removed ← cleanupPendingEntries names
  whenever (removed = true) syncPrivateServiceDirectory

/-- The part of the constructor that finds the counters. -/
def loadInitialGenerations : ControlAttempt Unit := do
  let state ← withGenerationStateLock do
    cleanupPendingGenerationStates
    loadOrInitializeGenerationState J
  control (.setCounters state.counters)

def persistGenerationState : ControlAttempt Unit := do
  let fault ← control .takeCommitFault
  let counters ← control .counters
  persistGenerationStateWithFault J (.new counters) fault

def reserveOwnerGeneration : ControlAttempt UInt64 :=
  withGenerationStateLock do
    let persisted ← loadGenerationState J
    let counters ← control .counters
    match checkedSucc (max counters.ownerGeneration persisted.ownerGeneration) with
    | none => throw (unavailable "owner generation exhausted")
    | some owner => do
      control (.setCounters ⟨owner,
        max counters.coreInstanceGeneration persisted.coreInstanceGeneration⟩)
      persistGenerationState J
      return owner

def reserveCoreInstanceGeneration : ControlAttempt CoreInstanceGeneration :=
  withGenerationStateLock do
    let persisted ← loadGenerationState J
    let counters ← control .counters
    let owner := max counters.ownerGeneration persisted.ownerGeneration
    control (.setCounters { counters with ownerGeneration := owner })
    match checkedSucc (max counters.coreInstanceGeneration persisted.coreInstanceGeneration) with
    | none => throw (unavailable "Core Instance Generation exhausted")
    | some instanceGeneration => do
      control (.setCounters ⟨owner, instanceGeneration⟩)
      persistGenerationState J
      return instanceGeneration

end Ratash

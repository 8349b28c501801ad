import Ratash.Domain

namespace Ratash

/-- A `std::time::Duration`, in nanoseconds. -/
abbrev Duration := Nat

def durationMax : Duration := (2 ^ 64 - 1) * 10 ^ 9 + 999999999

def seconds (n : Nat) : Duration := n * 10 ^ 9

def coreRestartInitialBackoff : Duration := seconds 1
def coreRestartMaxBackoff : Duration := seconds 30
def coreServiceLivenessInterval : Duration := seconds 5

def coreLogForwardMaxBytes : Nat := 4 * 1024 * 1024
def coreLogForwardBatchMaxBytes : Nat := 512 * 1024

def usizeMax : Nat := 2 ^ 64 - 1

def saturatingAdd (a b : Nat) : Nat := min (a + b) usizeMax

inductive CoreRuntimeErrorKind where
  | authentication
  | protocolMismatch
  | tunPermissionDenied
  | tunUnsupported
  | invalidBundle
  | processIdentityMismatch
  | apply
  | reloadTimeout
  | readiness
  | unavailable
deriving DecidableEq

structure CoreRuntimeError where
  kind : CoreRuntimeErrorKind
  diagnostic : String
deriving DecidableEq

def serviceError (kind : CoreRuntimeErrorKind) (message : String) : CoreRuntimeError :=
  ⟨kind, message⟩

def unavailable (message : String) : CoreRuntimeError :=
  serviceError .unavailable message

inductive ServicePlatformErrorKind where
  | credential
  | processInspection
  | spawn
  | reload
  | reloadTimeout
  | applyCancelled
  | stop
  | readiness
  | readinessTimeout
  | logs
  | tunUnavailable
  | tunUnsupported
  | configurationPolicy
  | randomness
deriving DecidableEq

structure ServicePlatformError where
  kind : ServicePlatformErrorKind
deriving DecidableEq

abbrev PlatformResult := Except ServicePlatformError

def mapSpawnError (error : ServicePlatformError) : CoreRuntimeError :=
  if error.kind = .applyCancelled then
    serviceError .reloadTimeout "Core spawn was cancelled during Supervisor shutdown"
  else serviceError .apply "Core spawn failed"

def mapReadinessError (error : ServicePlatformError) : CoreRuntimeError :=
  if error.kind = .applyCancelled then
    serviceError .reloadTimeout "Core readiness was cancelled during Supervisor shutdown"
  else serviceError .readiness "Core readiness confirmation failed"

def mapStopError (_ : ServicePlatformError) : CoreRuntimeError :=
  serviceError .apply "Core stop failed"

def mapTunPreflightError (error : ServicePlatformError) : CoreRuntimeError :=
  match error.kind with
  | .tunUnavailable => serviceError .tunPermissionDenied "TUN capability permission check failed"
  | .tunUnsupported => serviceError .tunUnsupported "TUN control sockets are unsupported"
  | _ => unavailable "TUN capability inspection failed"

structure OwnerSessionRequest where
  protocolVersion : UInt16
  ownerUid : UInt32
  supervisorPid : UInt32
  supervisorStartIdentity : String
  instanceToken : String
deriving DecidableEq

structure OwnerSession where
  proof : OwnerSessionProof
  protocolVersion : UInt16
  ownerGeneration : UInt64
  endpoint : CoreControlEndpoint
deriving DecidableEq

structure StopCoreResult where
  stopped : Bool
  instanceGeneration : Option CoreInstanceGeneration
deriving DecidableEq

structure OwnedProcessIdentity where
  pid : UInt32
  processStartIdentity : String
  instanceGeneration : CoreInstanceGeneration
deriving DecidableEq

structure SpawnedCoreProcess where
  pid : UInt32
  processStartIdentity : String
deriving DecidableEq

inductive ProcessOutputSource where
  | stdout
  | stderr
deriving DecidableEq

structure CoreProcessLog where
  timestampUnixMs : UInt64
  source : ProcessOutputSource
  message : String
deriving DecidableEq

structure CoreProcessLogBatch where
  records : List CoreProcessLog
  dropped : UInt64
deriving DecidableEq

structure ForwardedCoreLog where
  sequence : UInt64
  timestampUnixMs : UInt64
  source : ProcessOutputSource
  message : String
  instanceGeneration : CoreInstanceGeneration
deriving DecidableEq

structure ForwardedCoreLogBatch where
  records : List ForwardedCoreLog
  nextSequence : Option UInt64
  droppedBefore : UInt64
  droppedSinceAfter : UInt64
deriving DecidableEq

structure VerifiedRuntimeBundle where
  bundle : RuntimeBundle
  manifestPath : Path
  executablePath : Path
  configurationPath : Path
deriving DecidableEq

/-- Device, inode and change time of a socket. -/
structure OwnedEndpointIdentity where
  device : UInt64
  inode : UInt64
  changeTimeSeconds : Int
  changeTimeNanoseconds : Int
deriving DecidableEq

end Ratash

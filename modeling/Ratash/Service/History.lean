import Ratash.Service.Operations

/-!
Which processes are still to be accounted for, which one is in nobody's records yet, how often a
restart has been tried, and what the last look at the cancellation state showed.
-/

namespace Ratash

namespace ServiceEvent

def isSpawn : ServiceEvent → Bool
  | ⟨_, _, .spawn _ _ _, _⟩ => true
  | _ => false

def spawned : ServiceEvent → Option OwnedProcessIdentity
  | ⟨_, _, .spawn _ _ instanceGeneration, .ok process⟩ =>
    some ⟨process.pid, process.processStartIdentity, instanceGeneration⟩
  | _ => none

/-- The call shows that the process has ended: it was stopped or reaped, or its pid is free or
another's. -/
def ends (process : OwnedProcessIdentity) : ServiceEvent → Bool
  | ⟨_, _, .stop stopped, .ok _⟩ => stopped = process
  | ⟨_, _, .reapIfExited reaped, .ok exited⟩ => exited && reaped = process
  | ⟨_, _, .startIdentity pid, .ok identity⟩ =>
    pid = process.pid && identity ≠ some process.processStartIdentity
  | _ => false

def stores : ServiceEvent → Option ServiceState
  | ⟨_, _, .putState state, _⟩ => some state
  | _ => none

/-- A try to restart the Core: a maintenance step verifies the bundle. -/
def isRestartAttempt (e : ServiceEvent) : Bool :=
  match e.call, e.request with
  | .verifyBundle _ _, .maintenanceStep _ => true
  | _, _ => false

def rejectsBundle : ServiceEvent → Bool
  | ⟨_, _, .verifyBundle _ _, .error _⟩ => true
  | _ => false

/-- A call fails that is made to clean up behind a Core. -/
def failsCleanup : ServiceEvent → Bool
  | ⟨_, _, .reapIfExited _, .error _⟩ | ⟨_, _, .startIdentity _, .error _⟩
  | ⟨_, _, .stop _, .error _⟩ | ⟨_, _, .takeLogs _ _, .error _⟩
  | ⟨_, _, .removeEndpoint _, .error _⟩ => true
  | ⟨_, _, .inspectEndpoint _, .error kind⟩ => kind ≠ .notFound
  | _ => false

end ServiceEvent

namespace ServiceState

def active (state : ServiceState) : Option ManagedCoreRecord :=
  state.managedCore.bind OwnedCoreState.active?

def tracked (state : ServiceState) : Option OwnedProcessIdentity :=
  state.managedCore.map (·.record.ownedIdentity)

end ServiceState

namespace ServiceEvent

def activates (e : ServiceEvent) : Bool :=
  e.stores.any fun after => e.before.active.isNone && after.active.isSome

/-- An exit has been detected, a restart or an apply has succeeded, the Core has been stopped, or
the owner has changed. -/
def closesEpisode (e : ServiceEvent) : Bool :=
  e.stores.any fun after =>
    (e.before.active.isSome && after.managedCore.isNone) || e.activates ||
      (e.before.lastBundle.isSome && after.lastBundle.isNone) || e.before.owner ≠ after.owner

def countsAttempt (e : ServiceEvent) : Bool :=
  e.stores.any fun after =>
    e.before.consecutiveRestartFailures < after.consecutiveRestartFailures

end ServiceEvent

/-- The processes that were started and have not been shown to have ended. -/
def outstanding : List HistoryEvent → List OwnedProcessIdentity
  | [] => []
  | .made e :: older => e.spawned.toList ++ (outstanding older).filter (!e.ends ·)
  | _ :: older => outstanding older

/-- The process started since the last store of the state. -/
def held : List HistoryEvent → Option OwnedProcessIdentity
  | [] => none
  | .made e :: older => if e.stores.isSome then none else e.spawned.or (held older)
  | _ :: older => held older

/-- How often a restart was tried since an episode was last closed. -/
def attempts : List HistoryEvent → Nat
  | [] => 0
  | .made e :: older =>
    if e.closesEpisode then 0 else attempts older + if e.isRestartAttempt then 1 else 0
  | _ :: older => attempts older

/-- Such a call was made in the operation that runs. -/
def happened (P : ServiceEvent → Bool) : List HistoryEvent → Bool
  | [] => false
  | .began _ :: _ => false
  | .made e :: older => P e || happened P older
  | .cancelled _ _ :: older | .returned _ _ :: older => happened P older

/-- A restart was counted in the operation that runs. -/
def attempted (h : List HistoryEvent) : Bool := happened ServiceEvent.countsAttempt h

def counting : List HistoryEvent → Bool
  | .made e :: _ => e.countsAttempt
  | .cancelled _ _ :: older | .returned _ _ :: older => counting older
  | _ => false

def bundleRejected (h : List HistoryEvent) : Bool := happened ServiceEvent.rejectsBundle h

/-- A Core was started, and it could not be looked at, stopped or cleaned up. -/
def cleanupFailed (h : List HistoryEvent) : Bool :=
  happened (·.spawned.isSome) h && happened ServiceEvent.failsCleanup h

/-- What the last look at the cancellation state showed, and whether a cancellation by the owner it
showed has returned since. -/
def lastCheck : List HistoryEvent → Option (ApplyCancellationState × Bool)
  | [] => none
  | .returned owner _ :: older =>
    (lastCheck older).map fun check => (check.1, check.2 || check.1.owner = some owner)
  | .made ⟨_, _, .lockCancellation, cancellation⟩ :: _ => some (cancellation, false)
  | .made ⟨_, _, .putCancellation _, _⟩ :: _ => none
  | _ :: older => lastCheck older

/-- The process was alive, under the recorded identity, when last looked at. -/
def observedLive (process : OwnedProcessIdentity) : List HistoryEvent → Bool
  | .made ⟨_, _, .startIdentity pid, .ok identity⟩ :: _ =>
    pid = process.pid && identity = some process.processStartIdentity
  | .cancelled _ _ :: older | .returned _ _ :: older => observedLive process older
  | _ => false

end Ratash

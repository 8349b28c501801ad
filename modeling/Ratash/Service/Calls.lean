import Ratash.Service.GenerationState

/-!
The service reads and writes its own memory, which two locks guard, and calls its platform: process
identities, the TUN check, bundle verification, secrets, the process controller and the control
socket.
-/

namespace Ratash

open Interaction

inductive ServiceCall where
  | getState
  | putState (state : ServiceState)
  | lockCancellation
  | putCancellation (cancellation : ApplyCancellationState)
  | unlockCancellation
  | validateCredentials (request : OwnerSessionRequest)
  | startIdentity (pid : UInt32)
  | checkTun (ownerUid : UInt32)
  | verifyBundle (bundle : RuntimeBundle) (endpoint : CoreControlEndpoint)
  | generateSecret
  | spawn (bundle : VerifiedRuntimeBundle) (endpoint : CoreControlEndpoint)
      (instanceGeneration : CoreInstanceGeneration)
  | stop (process : OwnedProcessIdentity)
  | readiness (process : OwnedProcessIdentity) (endpoint : CoreControlEndpoint)
  | grantEndpointAccess (endpoint : CoreControlEndpoint) (ownerUid : UInt32)
  | reapIfExited (process : OwnedProcessIdentity)
  | takeLogs (process : OwnedProcessIdentity) (limit : Nat)
  | resetApplyCancellation (ownerGeneration : UInt64)
  | captureEndpointIdentity (path : Path)
  | inspectEndpoint (path : Path)
  | removeEndpoint (path : Path)

@[reducible] def ServiceCall.Reply : ServiceCall → Type
  | .getState => ServiceState
  | .lockCancellation => ApplyCancellationState
  | .startIdentity _ => PlatformResult (Option String)
  | .verifyBundle _ _ => Except CoreRuntimeError VerifiedRuntimeBundle
  | .generateSecret => PlatformResult String
  | .spawn _ _ _ => PlatformResult SpawnedCoreProcess
  | .reapIfExited _ => PlatformResult Bool
  | .takeLogs _ _ => PlatformResult CoreProcessLogBatch
  | .captureEndpointIdentity _ => Option OwnedEndpointIdentity
  -- the identity of the entry if it is a socket
  | .inspectEndpoint _ => Except IoErrorKind (Option OwnedEndpointIdentity)
  | .removeEndpoint _ => Except IoErrorKind Unit
  | .validateCredentials _ | .checkTun _ | .stop _ | .readiness _ _ | .grantEndpointAccess _ _ =>
    PlatformResult Unit
  | _ => Unit

abbrev serviceCalls : Signature :=
  controlCalls.sum ⟨ServiceCall, ServiceCall.Reply⟩

abbrev ServiceAttempt := Attempt serviceCalls CoreRuntimeError

def service (c : ServiceCall) : ServiceAttempt c.Reply :=
  ExceptT.lift (Prog.call (S := serviceCalls) (.inr c))

/-- A platform call whose error is replaced by one of the service. -/
def platform (reply : Except δ α) (error : δ → CoreRuntimeError) : ServiceAttempt α :=
  Attempt.ofExcept (reply.mapError error)

inductive ServiceRequest where
  | openOwnerSession (request : OwnerSessionRequest)
  | applyCandidate (proof : OwnerSessionProof) (bundle : RuntimeBundle)
  | status (proof : OwnerSessionProof)
  | logs (proof : OwnerSessionProof) (afterSequence : Option UInt64) (limit : Nat)
  | stop (proof : OwnerSessionProof)
  | closeOwnerSession (proof : OwnerSessionProof)
  | revokeOwner (proof : OwnerSessionProof)
  | maintenanceStep (now : Duration)
  | handleUnexpectedExitAt (proof : OwnerSessionProof) (exited : CoreExitIdentity) (now : Duration)
  | shutdownService
deriving DecidableEq

def ServiceRequest.isApply : ServiceRequest → Bool
  | .applyCandidate _ _ => true
  | _ => false

def ServiceRequest.isMaintenance : ServiceRequest → Bool
  | .maintenanceStep _ => true
  | _ => false

structure ServiceEvent where
  request : ServiceRequest
  before : ServiceState
  call : ServiceCall
  reply : call.Reply

inductive HistoryEvent where
  | began (request : ServiceRequest)
  | made (event : ServiceEvent)
  /-- Another thread has had its cancellation accepted. -/
  | cancelled (owner : OwnerSessionProof) (ownerGeneration : UInt64)
  /-- The process controller knows of it, and the cancellation has returned. -/
  | returned (owner : OwnerSessionProof) (ownerGeneration : UInt64)

structure ServiceWorld where
  request : ServiceRequest
  state : ServiceState
  cancellation : ApplyCancellationState
  cancellationLocked : Bool
  controller : ApplyCancellationEpoch
  /-- Accepted cancellations that have not got to the process controller. -/
  undelivered : List (OwnerSessionProof × UInt64)
  history : List HistoryEvent

namespace ServiceWorld

def initial : ServiceWorld :=
  ⟨.shutdownService, .initial, .initial, false, .initial, [], []⟩

def record (w : ServiceWorld) (c : ServiceCall) (r : c.Reply) : ServiceWorld :=
  { w with history := .made ⟨w.request, w.state, c, r⟩ :: w.history }

def store (w : ServiceWorld) : ServiceCall → ServiceWorld
  | .putState state => { w with state := state }
  | .lockCancellation => { w with cancellationLocked := true }
  | .putCancellation cancellation => { w with cancellation := cancellation }
  | .unlockCancellation => { w with cancellationLocked := false }
  | .resetApplyCancellation ownerGeneration =>
    { w with controller := w.controller.resetApplyCancellation ownerGeneration }
  | _ => w

/-- The replies a call can get. Memory holds what was last written, a verified bundle is of the
generation asked for, and the process controller gives cancellation as a reason only after one has
got to it. Everything else may reply anything. -/
def Replies (w : ServiceWorld) : (c : ServiceCall) → c.Reply → Prop
  | .getState, r => r = w.state
  | .lockCancellation, r => r = w.cancellation
  | .verifyBundle bundle _, r =>
    (∀ e, r = .error e → e.kind = .invalidBundle) ∧
      ∀ verified, r = .ok verified → verified.bundle.generation = bundle.generation
  -- a spawn fails without a process, or reports its identity
  | .spawn _ _ _, r =>
    (∀ spawned, r = .ok spawned → spawned.pid ≠ 0 ∧ spawned.processStartIdentity ≠ "") ∧
      (r = .error ⟨.applyCancelled⟩ → w.controller.applyCancelled = true)
  | .readiness _ _, r => r = .error ⟨.applyCancelled⟩ → w.controller.applyCancelled = true
  | _, _ => True

end ServiceWorld

/-- `cancel_pending_apply`, on the cancellation state: the new state, and the generation that the
process controller is told afterwards. -/
def ApplyCancellationState.cancelPendingApply (cancellation : ApplyCancellationState)
    (owner : OwnerSessionProof) : Except CoreRuntimeError (ApplyCancellationState × UInt64) :=
  if cancellation.owner ≠ some owner then
    .error (serviceError .authentication "Runtime Apply cancellation owner mismatch")
  else match cancellation.ownerGeneration with
    | none => .error (serviceError .authentication
        "Runtime Apply cancellation owner generation is unavailable")
    | some ownerGeneration => .ok ({ cancellation with requested := true }, ownerGeneration)

theorem ApplyCancellationState.cancelPendingApply_ok {cancellation : ApplyCancellationState}
    (h : cancellation.cancelPendingApply proof = .ok (cancellation', generation)) :
    cancellation'.owner = cancellation.owner ∧
      cancellation'.ownerGeneration = cancellation.ownerGeneration ∧
      cancellation.owner = some proof ∧ cancellation.ownerGeneration = some generation ∧
      cancellation'.requested = true := by
  unfold cancelPendingApply at h
  split at h
  · cases h
  case isFalse howner =>
    split at h
    · cases h
    case h_2 hgeneration =>
      cases h
      exact ⟨rfl, rfl, not_not.1 howner, hgeneration, rfl⟩

inductive Cancels : ServiceWorld → ServiceWorld → Prop where
  | accept {w : ServiceWorld} (hfree : w.cancellationLocked = false)
      (hok : w.cancellation.cancelPendingApply owner = .ok (cancellation, ownerGeneration)) :
      Cancels w { w with
        cancellation
        undelivered := (owner, ownerGeneration) :: w.undelivered
        history := .cancelled owner ownerGeneration :: w.history }
  | deliver {w : ServiceWorld} (hmem : (owner, ownerGeneration) ∈ w.undelivered) :
      Cancels w { w with
        controller := w.controller.cancelPendingApply ownerGeneration
        undelivered := w.undelivered.erase (owner, ownerGeneration)
        history := .returned owner ownerGeneration :: w.history }

inductive Interferes : ServiceWorld → ServiceWorld → Prop where
  | refl : Interferes w w
  | step : Cancels w w' → Interferes w' w'' → Interferes w w''

def anyPlatform : Environment ⟨ServiceCall, ServiceCall.Reply⟩ ServiceWorld :=
  fun w c r w' => ∃ w₁, Interferes w w₁ ∧ w₁.Replies c r ∧ w' = (w₁.record c r).store c

/-- The counters are real; the files behind them may reply anything. -/
def anyControl : Environment controlCalls GenerationCounters
  | counters, .counters, r, counters' => r = counters ∧ counters' = counters
  | _, .setCounters new, _, counters' => counters' = new
  | counters, _, _, counters' => counters' = counters

abbrev ServiceRoom := GenerationCounters × ServiceWorld

/-- Every way in which the platform and other threads can behave. -/
def anyService : Environment serviceCalls ServiceRoom :=
  anyControl.sum anyPlatform

end Ratash

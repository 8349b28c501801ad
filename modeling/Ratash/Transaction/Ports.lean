import Ratash.Config.Effective
import Ratash.Persistence.Prune

/-!
Besides the store, the coordinator calls the Core runtime, the health probe, the configuration
validator, the revision source, the bundle resolver, two locks and the shutdown flag.
-/

namespace Ratash

open Interaction

structure CandidateRevisions where
  profile : ProfileRevision
  activeProfile : ActiveProfileRevision
  localRuleSet : LocalRuleSetRevision
  compilerPolicySha256 : String
  coreVersion : String
deriving DecidableEq

structure ConfigTransactionCandidate (D : Type) where
  transaction : TransactionBundle D
  runtime : RuntimeBundle
  configuration : EffectiveConfiguration
  revisions : CandidateRevisions
deriving DecidableEq

inductive RuntimeApplyFailure where
  | definite
  | indeterminate
  | tunPermissionDenied
  | tunUnsupported
deriving DecidableEq

inductive PortCall (D : Type) where
  | lockCoordinator
  | lockLifecycle
  | shutdownIsRequested
  | applyCandidate (bundle : RuntimeBundle)
  | status
  | stop
  | confirmReady (managedCore : ManagedCoreHandle)
  | validate (configuration : EffectiveConfiguration) (generationRoot : Path)
  | currentRevisions
  | resolve (transaction : TransactionBundle D)
  | pruneGenerations (retention : RuntimeGenerationRetention)

/-- The replies. The coordinator looks into no error but the failure of an apply. -/
@[reducible] def PortCall.Reply : PortCall D → Type
  | .lockCoordinator | .lockLifecycle => Except Unit Unit
  | .shutdownIsRequested => Bool
  | .applyCandidate _ => Except RuntimeApplyFailure ApplyCandidateResult
  | .status => Except Unit CoreRuntimeStatus
  | .stop => Except Unit Unit
  | .confirmReady _ => Except Unit Unit
  | .validate _ _ => Except Unit Unit
  | .currentRevisions => CandidateRevisions
  | .resolve _ => Except Unit RuntimeBundle
  | .pruneGenerations _ => Except Unit RuntimeGenerationPruneResult

abbrev portCalls (D : Type) : Signature :=
  ⟨PortCall D, PortCall.Reply⟩

abbrev coordinatorCalls (D : Type) : Signature :=
  (storeCalls D).sum (portCalls D)

abbrev CoordinatorAttempt (D ε : Type) := Attempt (coordinatorCalls D) ε

variable {D : Type}

def store (x : StoreAttempt D α) : CoordinatorAttempt D IoError α :=
  x.left

/-- Call a port and look at the reply. -/
def port (c : PortCall D) : CoordinatorAttempt D ε c.Reply :=
  ExceptT.lift (Prog.call (S := coordinatorCalls D) (.inr c))

/-- What is known of the running Core from the calls made so far. -/
inductive RuntimeView where
  | unknown
  | stopped
  | healthy (generation : RuntimeGeneration)
deriving DecidableEq

/-- The ports as an observer sees them; `ρ` is what the generation directories hold. -/
structure PortWorld (ρ : Type) where
  shutdown : Bool
  applied : Bool
  runtime : RuntimeView
  generations : ρ

namespace PortWorld

/-- A port may give any reply at all, except that a requested shutdown stays requested and that
pruning acts on the generation directories. -/
def Allows (prunes : ρ → RuntimeGenerationRetention →
      Except Unit RuntimeGenerationPruneResult → ρ → Prop)
    (v : PortWorld ρ) : (c : PortCall D) → c.Reply → PortWorld ρ → Prop
  | .shutdownIsRequested, r, v' => (v.shutdown = true → r = true) ∧ v' = { v with shutdown := r }
  | .applyCandidate _, _, v' => v' = { v with applied := true, runtime := .unknown }
  | .stop, r, v' =>
    v' = { v with runtime := match r with | .ok _ => .stopped | .error _ => .unknown }
  | .confirmReady core, r, v' =>
    v' = { v with runtime := match r with
      | .ok _ => .healthy core.runtimeGeneration
      | .error _ => .unknown }
  | .pruneGenerations retention, r, v' =>
    ∃ generations, prunes v.generations retention r generations ∧
      v' = { v with generations := generations }
  | _, _, v' => v' = v

end PortWorld

def anyPorts (prunes : ρ → RuntimeGenerationRetention →
      Except Unit RuntimeGenerationPruneResult → ρ → Prop) :
    Environment (portCalls D) (PortWorld ρ) :=
  fun v c r v' => v.Allows prunes c r v'

end Ratash

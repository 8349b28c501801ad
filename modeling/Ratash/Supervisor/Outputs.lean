import Ratash.Supervisor.Errors

namespace Ratash

inductive ProfileRefreshState where
  | error
  | fresh
deriving DecidableEq

structure ProfileSummary (U : Type) where
  id : ProfileId
  name : String
  subscriptionUrl : U
  active : Bool
  refreshState : ProfileRefreshState
  lastSuccessAtUnixMs : UInt64
  nextRefreshAtUnixMs : UInt64
  lastError : Option RefreshFailure
deriving DecidableEq

def profileSummary {U S : Type} (profile : Profile U S) (active : Option ProfileId) :
    ProfileSummary U where
  id := profile.id
  name := profile.name
  subscriptionUrl := profile.subscriptionUrl
  active := active = some profile.id
  refreshState := if profile.lastError.isSome then .error else .fresh
  lastSuccessAtUnixMs := profile.lastSuccessAtUnixMs
  nextRefreshAtUnixMs := profile.nextRefreshAtUnixMs
  lastError := profile.lastError

inductive RuntimeApplyStatus where
  | notRequired
  | applied
  | recovered
  | failed
deriving DecidableEq

structure RuntimeApplyOutcome where
  status : RuntimeApplyStatus
  candidateGeneration : Option RuntimeGeneration
  committedGeneration : Option RuntimeGeneration
  recovery : ApplicationRecoveryOutcome
deriving DecidableEq

def runtimeApplySuccess (success : ConfigTransactionSuccess) : RuntimeApplyOutcome where
  status := match success.recovery with
    | .notRequired => .applied
    | .converged _ => .recovered
    | .pending _ | .failed _ => .applied
  candidateGeneration := some success.candidateGeneration
  committedGeneration := some success.committedGeneration
  recovery := applicationRecovery success.recovery

def runtimeApplyNotRequired (generation : Option RuntimeGeneration) : RuntimeApplyOutcome :=
  ⟨.notRequired, none, generation, ⟨.notRequired, none, none⟩⟩

inductive ProfileMutationAction where
  | added
  | activated
  | removed
deriving DecidableEq

structure ProfileMutationOutcome (U : Type) where
  action : ProfileMutationAction
  profile : ProfileSummary U
  runtimeApply : Option RuntimeApplyOutcome
deriving DecidableEq

structure SelectorIdentity where
  id : String
  name : String
deriving DecidableEq

structure ProxySelectionOutcome where
  groupId : String
  group : String
  previousNode : Option SelectorIdentity
  selectedNode : SelectorIdentity
  persisted : Bool
  recovery : ApplicationRecoveryOutcome
deriving DecidableEq

inductive RuleMutationAction where
  | added
  | replaced
  | removed
deriving DecidableEq

structure RuleMutationOutcome where
  action : RuleMutationAction
  changedRule : String
  previousRule : Option String
  resultingPosition : Option Nat
  runtimeApply : RuntimeApplyOutcome
deriving DecidableEq

inductive ProfileRefreshDisposition where
  | activeApplied
  | inactiveStored
  | discarded
deriving DecidableEq

inductive ApplicationOutput (U : Type) where
  | profileMutation (outcome : ProfileMutationOutcome U)
  | proxySelection (outcome : ProxySelectionOutcome)
  | ruleMutation (outcome : RuleMutationOutcome)
  | refreshed (disposition : ProfileRefreshDisposition)
deriving DecidableEq

end Ratash

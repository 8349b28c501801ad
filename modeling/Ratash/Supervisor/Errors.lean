import Ratash.Profile.Catalog
import Ratash.Rule.LocalRules
import Ratash.Transaction.Coordinator

namespace Ratash

inductive ErrorCode where
  | usage
  | supervisorUnavailable
  | protocolMismatch
  | profileAmbiguous
  | profileActive
  | profileNotFound
  | proxyGroupNotFound
  | nodeNotFound
  | nodeAmbiguous
  | invalidSubscriptionUrl
  | rulesUninitialized
  | ruleBusy
  | ruleNotFound
  | ruleAmbiguous
  | ruleAlreadyExists
  | policyTargetNotFound
  | profileFieldUnsupported
  | tunPermissionDenied
  | tunUnsupported
  | coreUnavailable
  | externalOperationFailed
  | internal
  | operationUnavailable
deriving DecidableEq

inductive SelectorKind where
  | profile
  | proxyGroup
  | node
  | rule
deriving DecidableEq

structure SelectorCandidate where
  id : String
  name : String
deriving DecidableEq

structure SelectorCandidateDetails where
  selector : SelectorKind
  candidates : List SelectorCandidate
deriving DecidableEq

inductive RecoveryStatus where
  | notRequired
  | succeeded
  | pending
  | failed
deriving DecidableEq

structure ApplicationRecoveryOutcome where
  status : RecoveryStatus
  restoredGeneration : Option RuntimeGeneration
  message : Option String
deriving DecidableEq

inductive RuntimeApplyFailureStage where
  | state
  | bundle
  | lock
  | recoveryRequired
  | staleCandidate
  | invalidCandidate
  | validation
  | prepare
  | apply
  | indeterminateApply
  | health
  | commit
  | cleanup
  | recovery
deriving DecidableEq

structure RuntimeApplyFailureDetails where
  candidateGeneration : Option RuntimeGeneration
  committedGeneration : Option RuntimeGeneration
  stage : RuntimeApplyFailureStage
  recovery : ApplicationRecoveryOutcome
deriving DecidableEq

/-- Of the details an error can carry only these come from the Supervisor. -/
inductive ApplicationErrorDetails where
  | runtimeApplyFailure (details : RuntimeApplyFailureDetails)
deriving DecidableEq

structure ApplicationError where
  code : ErrorCode
  message : String
  retryable : Bool
  details : Option ApplicationErrorDetails := none
  selectorCandidates : Option SelectorCandidateDetails := none
deriving DecidableEq

def ApplicationError.new (code : ErrorCode) (message : String) (retryable : Bool) :
    ApplicationError :=
  { code, message, retryable }

def ApplicationError.withDetails (error : ApplicationError) (details : ApplicationErrorDetails) :
    ApplicationError :=
  { error with details := some details }

def ApplicationError.withSelectorCandidates (error : ApplicationError) (selector : SelectorKind)
    (candidates : List SelectorCandidate) : ApplicationError :=
  { error with selectorCandidates := some ⟨selector, candidates⟩ }

def internalError : ApplicationError :=
  .new .internal "The Supervisor state is unavailable" false

def invalidRuleError : ApplicationError :=
  .new .externalOperationFailed "The Rule String is invalid" false

def ruleBusyError : ApplicationError :=
  .new .ruleBusy "The configuration transaction is busy" true

def coreError (message : String) : ApplicationError := .new .coreUnavailable message true

def noActiveProfile : ApplicationError :=
  .new .profileNotFound "No Active Profile is configured" false

def boundedMessage (message : String) : String := .ofList (message.toList.take 1024)

def mapProfileError {D U S : Type} (X : Codec D) (profiles : ProfileCatalog U S) :
    ProfileSelectorError → ApplicationError
  | .notFound => .new .profileNotFound "The Profile was not found" false
  | .active => .new .profileActive "The Active Profile cannot be removed" false
  | .ambiguous candidateIds =>
    (ApplicationError.new .profileAmbiguous "The Profile selector is ambiguous" false
      ).withSelectorCandidates .profile (candidateIds.map fun id =>
        ⟨id.toText X, (profiles.profiles[id]?).elim (id.toText X) (·.name)⟩)
  | .activeRevisionExhausted => internalError

def mapRuleError {E : Type} : RuleSetError E → ApplicationError
  | .rulesUninitialized =>
    .new .rulesUninitialized "The Local Rule Set is uninitialized" false
  | .ruleNotFound => .new .ruleNotFound "The Rule String was not found" false
  | .ruleAmbiguous matchingIndexes =>
    (ApplicationError.new .ruleAmbiguous "The Rule String is ambiguous" false
      ).withSelectorCandidates .rule (matchingIndexes.map fun i => ⟨toString i, toString i⟩)
  | .ruleAlreadyExists matchingIndexes =>
    (ApplicationError.new .ruleAlreadyExists "The Rule String already exists" false
      ).withSelectorCandidates .rule (matchingIndexes.map fun i => ⟨toString i, toString i⟩)
  | .invalidRule _ => invalidRuleError
  | .revisionExhausted => internalError

/-- `SupervisorTransactionFailureKind`, all of it: metadata alone never gives the first or the third
of these. -/
inductive TransactionFailureKind where
  | busy
  | state
  | bundle
  | coordinator (kind : ConfigTransactionErrorKind)
deriving DecidableEq

structure SupervisorTransactionFailure where
  kind : TransactionFailureKind
  candidateGeneration : Option RuntimeGeneration
  committedGeneration : Option RuntimeGeneration
  recovery : RecoveryOutcome
deriving DecidableEq

def applicationRecovery : RecoveryOutcome → ApplicationRecoveryOutcome
  | .notRequired => ⟨.notRequired, none, none⟩
  | .converged generation =>
    ⟨.succeeded, generation, some "The committed Runtime Generation was confirmed"⟩
  | .pending target =>
    ⟨.pending, target, some "Committed Runtime Generation cleanup is pending"⟩
  | .failed target => ⟨.failed, target, some "Committed Runtime Generation recovery failed"⟩

def transactionFailureStage : TransactionFailureKind → RuntimeApplyFailureStage
  | .busy => .lock
  | .state => .state
  | .bundle => .bundle
  | .coordinator kind => match kind with
    | .busy | .lockPoisoned => .lock
    | .recoveryRequired => .recoveryRequired
    | .staleCandidate => .staleCandidate
    | .invalidCandidate => .invalidCandidate
    | .validation => .validation
    | .prepare => .prepare
    | .tunPermissionDenied | .tunUnsupported => .apply
    | .apply => .apply
    | .indeterminateApply => .indeterminateApply
    | .health => .health
    | .commit => .commit
    | .cleanup => .cleanup
    | .recovery => .recovery
    | .shutdown => .recoveryRequired

def SupervisorTransactionFailure.details (error : SupervisorTransactionFailure)
    (stage : RuntimeApplyFailureStage) : ApplicationErrorDetails :=
  .runtimeApplyFailure ⟨error.candidateGeneration, error.committedGeneration, stage,
    applicationRecovery error.recovery⟩

def mapTransactionError (error : SupervisorTransactionFailure) : ApplicationError :=
  match error.kind with
  | .busy => ruleBusyError
  | .coordinator .tunPermissionDenied =>
    (ApplicationError.new .tunPermissionDenied
      "TUN capability is unavailable for the Managed Core" false).withDetails (error.details .apply)
  | .coordinator .tunUnsupported =>
    (ApplicationError.new .tunUnsupported
      "TUN is unsupported on this platform" false).withDetails (error.details .apply)
  | .coordinator .shutdown =>
    (ApplicationError.new .operationUnavailable
      "The Supervisor is shutting down" true).withDetails (error.details .recoveryRequired)
  | kind =>
    (ApplicationError.new .externalOperationFailed
      "Runtime Apply failed and the committed configuration was retained" false).withDetails
        (error.details (transactionFailureStage kind))

def refreshStageForTransactionFailure (failure : SupervisorTransactionFailure) : RefreshStage :=
  match failure.kind with
  | .coordinator .validation => .validate
  | _ => .apply

end Ratash

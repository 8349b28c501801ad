import Ratash.Transaction.Ports

namespace Ratash

open Interaction Attempt

inductive ApplyPath where
  | direct
  | candidateRestart
deriving DecidableEq

inductive RecoveryOutcome where
  | notRequired
  | converged (generation : Option RuntimeGeneration)
  | pending (target : Option RuntimeGeneration)
  | failed (target : Option RuntimeGeneration)
deriving DecidableEq

structure ConfigTransactionSuccess where
  candidateGeneration : RuntimeGeneration
  committedGeneration : RuntimeGeneration
  applyPath : ApplyPath
  recovery : RecoveryOutcome
deriving DecidableEq

inductive ConfigTransactionErrorKind where
  | busy
  | lockPoisoned
  | recoveryRequired
  | staleCandidate
  | invalidCandidate
  | validation
  | prepare
  | tunPermissionDenied
  | tunUnsupported
  | apply
  | indeterminateApply
  | health
  | commit
  | cleanup
  | recovery
  | shutdown
deriving DecidableEq

structure ConfigTransactionError where
  kind : ConfigTransactionErrorKind
  candidateGeneration : Option RuntimeGeneration
  committedGeneration : Option RuntimeGeneration
  recovery : RecoveryOutcome
deriving DecidableEq

def ConfigTransactionError.simple (kind : ConfigTransactionErrorKind) : ConfigTransactionError :=
  ⟨kind, none, none, .notRequired⟩

inductive FailureRecoveryMode where
  | convergeCommitted
  | stopStartupCandidate
deriving DecidableEq

abbrev TransactionAttempt (D : Type) := CoordinatorAttempt D ConfigTransactionError

def shutdownError (candidateGeneration : RuntimeGeneration)
    (committedGeneration : Option RuntimeGeneration) (prepared : Bool) : ConfigTransactionError :=
  ⟨.shutdown, some candidateGeneration, committedGeneration,
    if prepared then .pending committedGeneration else .notRequired⟩

variable {D : Type} [DecidableEq D] (X : Codec D)

def unlessShutdown (e : ConfigTransactionError) : TransactionAttempt D Unit := do
  let requested ← port .shutdownIsRequested
  require (requested = false) e

def generationFromTransaction (transaction : TransactionId D) :
    CoordinatorAttempt D Unit RuntimeGeneration := do
  let bundle ← (store (loadTransaction X transaction)).orThrow ()
  return bundle.runtimeGeneration

def generationOf : Option (TransactionId D) → CoordinatorAttempt D Unit (Option RuntimeGeneration)
  | none => return none
  | some transaction => do
    let generation ← generationFromTransaction X transaction
    return some generation

def generationFromManifest (manifest : Option (CommittedManifest D)) :
    CoordinatorAttempt D Unit (Option RuntimeGeneration) :=
  generationOf X (manifest.map CommittedManifest.current)

def runtimeRetention (committed : Option (CommittedManifest D))
    (prepared : Option RuntimeGeneration) :
    CoordinatorAttempt D Unit RuntimeGenerationRetention := do
  let current ← generationOf X (committed.map CommittedManifest.current)
  let previous ← generationOf X (committed.bind CommittedManifest.previous)
  return { current, previous, prepared }

def pruneRuntimeState (state : RecoveryState D) : CoordinatorAttempt D Unit Unit := do
  let prepared ← generationOf X (state.prepared.map PreparedTransaction.candidate)
  let retention ← runtimeRetention X state.committed prepared
  let pruned ← port (.pruneGenerations retention)
  let _ ← Attempt.okOr pruned ()
  return ()

def clearPreparedAndPrune (prepared : PreparedTransaction D) :
    CoordinatorAttempt D IoError Unit := do
  store (clearPrepared prepared)
  let _ ← (store (pruneUnreachable X)).result (δ := IoError)
  let state ← store recover
  (pruneRuntimeState X state).orThrow ⟨.other, "Runtime Generation cleanup failed"⟩

def confirm (applied : ApplyCandidateResult) (expectedGeneration : RuntimeGeneration) :
    CoordinatorAttempt D Unit Unit := do
  let status ← port .status
  let status ← Attempt.okOr status ()
  let actual ← Attempt.ofExcept (status.managedCore.elim (.error ()) .ok)
  let expected := applied.managedCore
  require (actual.pid = expected.pid
    ∧ actual.processStartIdentity = expected.processStartIdentity
    ∧ actual.endpoint = expected.endpoint
    ∧ actual.instanceGeneration = expected.instanceGeneration
    ∧ actual.runtimeGeneration = expectedGeneration
    ∧ expected.runtimeGeneration = expectedGeneration) ()
  let ready ← port (.confirmReady actual)
  Attempt.okOr ready ()

def restartCandidate (bundle : RuntimeBundle) : CoordinatorAttempt D Unit ApplyCandidateResult := do
  let stopped ← port .stop
  Attempt.okOr stopped ()
  let applied ← port (.applyCandidate bundle)
  let applied ← Attempt.okOr applied ()
  confirm applied bundle.generation
  return applied

/-- Whether the running Core already is a healthy one of this generation. -/
def alreadyConverged (generation : RuntimeGeneration) : CoordinatorAttempt D Unit Bool := do
  let status ← port .status
  match status with
  | .error _ => return false
  | .ok status =>
    match status.managedCore with
    | none => return false
    | some managedCore =>
      if managedCore.runtimeGeneration = generation then
        let ready ← port (.confirmReady managedCore)
        return ready.isOk
      else
        return false

def convergeToTransaction : Option (TransactionId D) → CoordinatorAttempt D Unit Unit
  | none => do
    let stopped ← port .stop
    Attempt.okOr stopped ()
  | some transaction => do
    let transaction ← (store (loadTransaction X transaction)).orThrow ()
    let bundle ← port (.resolve transaction)
    let bundle ← Attempt.okOr bundle ()
    require (bundle.generation = transaction.runtimeGeneration) ()
    let converged ← alreadyConverged bundle.generation
    whenever (converged = false) do
      let _ ← restartCandidate bundle
      return ()

def convergeToManifest (manifest : Option (CommittedManifest D)) : CoordinatorAttempt D Unit Unit :=
  convergeToTransaction X (manifest.map CommittedManifest.current)

def rollback (prepared : PreparedTransaction D) (target : Option RuntimeGeneration) :
    TransactionAttempt D RecoveryOutcome := do
  match ← (convergeToTransaction X prepared.previous).result with
  | .error _ => return .failed target
  | .ok _ =>
    match ← (clearPreparedAndPrune X prepared).result with
    | .error _ => return .failed target
    | .ok _ => return .converged target

def recoverFailedCandidate (prepared : PreparedTransaction D) (target : Option RuntimeGeneration) :
    FailureRecoveryMode → TransactionAttempt D RecoveryOutcome
  | .convergeCommitted => rollback X prepared target
  | .stopStartupCandidate => do
    let _ ← port (ε := ConfigTransactionError) .stop
    let _ ← (clearPreparedAndPrune X prepared).result (δ := ConfigTransactionError)
    return .failed target

def clearPreparedUnapplied (prepared : PreparedTransaction D)
    (committedGeneration : Option RuntimeGeneration) : TransactionAttempt D RecoveryOutcome := do
  match ← (clearPreparedAndPrune X prepared).result with
  | .ok _ => return .converged committedGeneration
  | .error _ => return .failed committedGeneration

def clearUnappliedJournal (committedGeneration : Option RuntimeGeneration) :
    TransactionAttempt D RecoveryOutcome := do
  match ← (store recover).result with
  | .ok ⟨_, some prepared⟩ => clearPreparedUnapplied X prepared committedGeneration
  | .ok ⟨_, none⟩ => return .notRequired
  | .error _ => return .failed committedGeneration

def recoverCommitFailure (prepared : PreparedTransaction D)
    (candidateGeneration : RuntimeGeneration) (previousGeneration : Option RuntimeGeneration)
    (mode : FailureRecoveryMode) : TransactionAttempt D RecoveryOutcome := do
  let state ← (store recover).orThrow
    ⟨.commit, some candidateGeneration, previousGeneration, .failed previousGeneration⟩
  if state.committed.map CommittedManifest.current = some prepared.candidate then
    match ← (clearPreparedAndPrune X prepared).result with
    | .ok _ => return .converged (some candidateGeneration)
    | .error _ => return .pending (some candidateGeneration)
  else
    let recovery ← recoverFailedCandidate X prepared previousGeneration mode
    throw ⟨.commit, some candidateGeneration, previousGeneration, recovery⟩

def generationIsNewer (candidateGeneration : RuntimeGeneration) :
    Option RuntimeGeneration → Bool
  | none => 0 < candidateGeneration
  | some current => current < candidateGeneration

def validateCandidate (candidate : ConfigTransactionCandidate D)
    (committedGeneration : Option RuntimeGeneration) : TransactionAttempt D Unit := do
  let candidateGeneration := candidate.runtime.generation
  let revisions ← port .currentRevisions
  require (revisions = candidate.revisions)
    ⟨.staleCandidate, some candidateGeneration, committedGeneration, .notRequired⟩
  let effectiveObject ← (store (readObjectLimited X candidate.transaction.effectiveConfiguration
    (some effectiveConfigurationMaxBytes))).result
  require
    (generationIsNewer candidateGeneration committedGeneration
    ∧ candidate.transaction.runtimeGeneration = candidateGeneration
    ∧ candidate.transaction.profileRevision = candidate.revisions.profile
    ∧ candidate.transaction.localRuleSetRevision = candidate.revisions.localRuleSet
    ∧ candidate.runtime.compilerPolicySha256 = candidate.revisions.compilerPolicySha256
    ∧ candidate.configuration.compilerPolicySha256 = candidate.revisions.compilerPolicySha256
    ∧ candidate.configuration.coreVersion = candidate.revisions.coreVersion
    ∧ candidate.runtime.generationRoot.toList.head? = some '/'
    ∧ candidate.runtime.manifestSha256 ≠ ""
    ∧ candidate.runtime.mihomoBinarySha256 ≠ ""
    ∧ effectiveObject.toOption = some candidate.configuration.yaml)
    ⟨.invalidCandidate, some candidateGeneration, committedGeneration, .notRequired⟩

end Ratash

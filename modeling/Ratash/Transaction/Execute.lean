import Ratash.Transaction.Coordinator

/-!
`execute_guarded` is split where the source's own comments of control change: up to the journal,
from the journal to a confirmed Core, and the commit.
-/

namespace Ratash

open Interaction Attempt

variable {D : Type} [DecidableEq D] (X : Codec D)

/-- Fail after a candidate that may have reached the Core. -/
def failCandidate (candidate : ConfigTransactionCandidate D) (mode : FailureRecoveryMode)
    (committedGeneration : Option RuntimeGeneration) (prepared : PreparedTransaction D)
    (kind : ConfigTransactionErrorKind) : TransactionAttempt D α := do
  let recovery ← recoverFailedCandidate X prepared committedGeneration mode
  throw ⟨kind, some candidate.runtime.generation, committedGeneration, recovery⟩

/-- Fail with the journal written and the Core untouched. -/
def failUnapplied (candidate : ConfigTransactionCandidate D)
    (committedGeneration : Option RuntimeGeneration) (prepared : PreparedTransaction D)
    (kind : ConfigTransactionErrorKind) : TransactionAttempt D Unit := do
  let recovery ← clearPreparedUnapplied X prepared committedGeneration
  throw ⟨kind, some candidate.runtime.generation, committedGeneration, recovery⟩

def commitApplied (candidate : ConfigTransactionCandidate D) (mode : FailureRecoveryMode)
    (committedGeneration : Option RuntimeGeneration) (prepared : PreparedTransaction D) :
    TransactionAttempt D RecoveryOutcome := do
  match ← (store (commitPrepared X prepared)).result with
  | .error _ =>
    recoverCommitFailure X prepared candidate.runtime.generation committedGeneration mode
  | .ok _ =>
    match ← (clearPreparedAndPrune X prepared).result with
    | .error _ => return .pending (some candidate.runtime.generation)
    | .ok _ => return .notRequired

def settleApply (candidate : ConfigTransactionCandidate D) (mode : FailureRecoveryMode)
    (committedGeneration : Option RuntimeGeneration) (prepared : PreparedTransaction D) :
    Except RuntimeApplyFailure ApplyCandidateResult →
      TransactionAttempt D (ApplyCandidateResult × ApplyPath)
  | .ok applied => return (applied, .direct)
  | .error .definite => failCandidate X candidate mode committedGeneration prepared .apply
  | .error .tunPermissionDenied =>
    failCandidate X candidate mode committedGeneration prepared .tunPermissionDenied
  | .error .tunUnsupported =>
    failCandidate X candidate mode committedGeneration prepared .tunUnsupported
  | .error .indeterminate => do
    match ← (restartCandidate candidate.runtime).result with
    | .ok applied => return (applied, .candidateRestart)
    | .error _ =>
      failCandidate X candidate mode committedGeneration prepared .indeterminateApply

/-- A directly applied candidate is confirmed here; a restarted one already was. -/
def confirmDirect (candidate : ConfigTransactionCandidate D) (mode : FailureRecoveryMode)
    (committedGeneration : Option RuntimeGeneration) (prepared : PreparedTransaction D)
    (applied : ApplyCandidateResult) : ApplyPath → TransactionAttempt D Unit
  | .candidateRestart => return ()
  | .direct => do
    let confirmation ← (confirm applied candidate.runtime.generation).result
    unlessShutdown (shutdownError candidate.runtime.generation committedGeneration true)
    match confirmation with
    | .ok _ => return ()
    | .error _ => failCandidate X candidate mode committedGeneration prepared .health

/-- From a written journal to the end. -/
def executePrepared (candidate : ConfigTransactionCandidate D) (mode : FailureRecoveryMode)
    (committedGeneration : Option RuntimeGeneration) (prepared : PreparedTransaction D) :
    TransactionAttempt D ConfigTransactionSuccess := do
  let generation := candidate.runtime.generation
  let interrupted := shutdownError generation committedGeneration true
  unlessShutdown interrupted
  let validation ← port (.validate candidate.configuration candidate.runtime.generationRoot)
  unlessShutdown interrupted
  whenever (validation.isOk = false)
    (failUnapplied X candidate committedGeneration prepared .validation)
  let revisions ← port .currentRevisions
  whenever (revisions ≠ candidate.revisions)
    (failUnapplied X candidate committedGeneration prepared .staleCandidate)
  let lifecycle ← port .lockLifecycle
  okOr lifecycle
    ⟨.lockPoisoned, some generation, committedGeneration, .pending committedGeneration⟩
  unlessShutdown interrupted
  let applyResult ← port (.applyCandidate candidate.runtime)
  unlessShutdown interrupted
  let (applied, applyPath) ← settleApply X candidate mode committedGeneration prepared applyResult
  confirmDirect X candidate mode committedGeneration prepared applied applyPath
  unlessShutdown interrupted
  let recovery ← commitApplied X candidate mode committedGeneration prepared
  return {
    candidateGeneration := generation
    committedGeneration := generation
    applyPath
    recovery }

/-- A journal left by a transaction that did commit is only cleaned up. -/
def reconcileFinished (generation : RuntimeGeneration)
    (committedGeneration : Option RuntimeGeneration) (initial : RecoveryState D) :
    TransactionAttempt D (RecoveryState D) :=
  match initial with
  | ⟨some committed, some prepared⟩ =>
    if committed.current = prepared.candidate then do
      (clearPreparedAndPrune X prepared).orThrow
        ⟨.recoveryRequired, some generation, committedGeneration, .pending committedGeneration⟩
      (store recover).orThrow
        ⟨.recovery, some generation, committedGeneration, .failed committedGeneration⟩
    else
      return initial
  | _ => return initial

def executeGuarded (candidate : ConfigTransactionCandidate D) (mode : FailureRecoveryMode) :
    TransactionAttempt D ConfigTransactionSuccess := do
  let generation := candidate.runtime.generation
  unlessShutdown (shutdownError generation none false)
  let initial ← (store recover).orThrow ⟨.recovery, some generation, none, .failed none⟩
  let committedGeneration ← (generationFromManifest X initial.committed).orThrow
    ⟨.recovery, some generation, none, .failed none⟩
  unlessShutdown (shutdownError generation committedGeneration false)
  let initial ← reconcileFinished X generation committedGeneration initial
  require (initial.prepared = none)
    ⟨.recoveryRequired, some generation, committedGeneration, .pending committedGeneration⟩
  validateCandidate X candidate committedGeneration
  let retention ← (runtimeRetention X initial.committed (some generation)).orThrow
    ⟨.recovery, some generation, committedGeneration, .failed committedGeneration⟩
  let pruned ← port (.pruneGenerations retention)
  let _ ← okOr pruned ⟨.cleanup, some generation, committedGeneration, .notRequired⟩
  match ← (store (prepare X candidate.transaction)).result with
  | .error _ =>
    let recovery ← clearUnappliedJournal X committedGeneration
    throw ⟨.prepare, some generation, committedGeneration, recovery⟩
  | .ok prepared => executePrepared X candidate mode committedGeneration prepared

def lockCoordinator : TransactionAttempt D Unit := do
  let guard ← port .lockCoordinator
  okOr guard (.simple .lockPoisoned)

def execute (candidate : ConfigTransactionCandidate D) :
    TransactionAttempt D ConfigTransactionSuccess := do
  lockCoordinator
  executeGuarded X candidate .convergeCommitted

def executeStartupReapply (candidate : ConfigTransactionCandidate D) :
    TransactionAttempt D ConfigTransactionSuccess := do
  lockCoordinator
  executeGuarded X candidate .stopStartupCandidate

structure StartupRecovery where
  committedGeneration : Option RuntimeGeneration
  clearedPreparedJournal : Bool
deriving DecidableEq

structure StartupReapply where
  committedGeneration : Option RuntimeGeneration
  candidateGeneration : RuntimeGeneration
  clearedPreparedJournal : Bool
deriving DecidableEq

/-- Drop the journal found at startup, if there is one. -/
def clearStartupJournal (committedGeneration : Option RuntimeGeneration) :
    Option (PreparedTransaction D) → TransactionAttempt D Unit
  | none => return ()
  | some prepared => (clearPreparedAndPrune X prepared).orThrow
      ⟨.cleanup, none, committedGeneration, .pending committedGeneration⟩

def recoverStartup : TransactionAttempt D StartupRecovery := do
  lockCoordinator
  let lifecycle ← port .lockLifecycle
  okOr lifecycle (.simple .lockPoisoned)
  let state ← (store recover).orThrow (.simple .recovery)
  let committedGeneration ← (generationFromManifest X state.committed).orThrow (.simple .recovery)
  (pruneRuntimeState X state).orThrow
    ⟨.cleanup, none, committedGeneration, .pending committedGeneration⟩
  (convergeToManifest X state.committed).orThrow
    ⟨.recovery, none, committedGeneration, .failed committedGeneration⟩
  clearStartupJournal X committedGeneration state.prepared
  return { committedGeneration, clearedPreparedJournal := state.prepared.isSome }

/-- The generation of the journaled candidate, when it can still be read. -/
def preparedGeneration : Option (PreparedTransaction D) →
    TransactionAttempt D (Option RuntimeGeneration)
  | none => return none
  | some prepared => do
    let transaction ← (store (loadTransaction X prepared.candidate)).result
    return transaction.toOption.map TransactionBundle.runtimeGeneration

def highestGeneration (committed prepared : Option RuntimeGeneration) : RuntimeGeneration :=
  max (committed.getD 0) (prepared.getD 0)

def prepareStartupReapply (expectedCommittedGeneration : Option RuntimeGeneration) :
    TransactionAttempt D StartupReapply := do
  lockCoordinator
  let state ← (store recover).orThrow (.simple .recovery)
  let committedGeneration ← (generationFromManifest X state.committed).orThrow (.simple .recovery)
  (pruneRuntimeState X state).orThrow
    ⟨.cleanup, none, committedGeneration, .pending committedGeneration⟩
  require (committedGeneration = expectedCommittedGeneration)
    ⟨.recovery, none, committedGeneration, .failed expectedCommittedGeneration⟩
  let preparedGeneration ← preparedGeneration X state.prepared
  let candidateGeneration ← Attempt.ofExcept
    ((checkedSucc (highestGeneration committedGeneration preparedGeneration)).elim
      (.error ⟨.recovery, none, committedGeneration, .failed committedGeneration⟩) .ok)
  clearStartupJournal X committedGeneration state.prepared
  return {
    committedGeneration
    candidateGeneration
    clearedPreparedJournal := state.prepared.isSome }

end Ratash

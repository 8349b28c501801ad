import Mathlib.Data.Finset.Card
import Ratash.Interaction.Promises
import Ratash.Transaction.Execute

/-!
The `DrainController` counts the mutations that are under way and refuses new ones once a shutdown
has been requested. Each call below is one lock taken and dropped, or one atomic access. The loops
of the main thread are taken round by round; a `MainPhase` says where it stands.
-/

namespace Ratash

open Interaction Attempt

namespace Production

structure DrainState where
  requested : Bool
  activeMutations : Nat
deriving DecidableEq

/-- Installed wakers and cancellations are told apart by numbers. -/
structure DrainController where
  state : DrainState
  waker : Option Nat
  cancellation : Option Nat
deriving DecidableEq

def DrainController.default : DrainController := ⟨⟨false, 0⟩, none, none⟩

inductive ShutdownError where
  | deadlineExpired
  | drainExpired
  | backgroundExpired
  | backgroundPanicked
  | observerFailed
  | applyNotCancelled
  | lifecycleLockUnavailable
  | coreNotStopped
  | ownerNotClosed
  | serverFailed
deriving DecidableEq

abbrev IoResult := Except ShutdownError Unit

inductive TryLock where
  | acquired
  | poisoned
  | wouldBlock
deriving DecidableEq

inductive ShutdownCall where
  /-- What `request` does with the state: it tells whether it was the first. -/
  | setRequested
  | cancellation
  | cancel (id : Nat)
  /-- Wake what is installed, while its lock is held. -/
  | wakeInstalled
  | wake (id : Nat)
  | setWaker (id : Nat)
  | setCancellation (id : Nat)
  | isRequested
  | beginMutation
  | dropMutation
  | activeMutations
  /-- Wait on the condition variable; the reply is whether it timed out. -/
  | waitReady (remaining : Nat)
  | signalRequested
  | waitWaker
  | now
  | sleep
  | cancelPendingApply (remaining : Nat)
  | requestBackgroundShutdown
  | backgroundShutdownIsRequested
  | isFinished (thread : Nat)
  /-- Join a thread that is finished; the reply is whether it panicked. -/
  | join (thread : Nat)
  | requestObserverShutdown
  | observerIsFinished
  | joinObserver
  | tryLockLifecycle
  | unlockLifecycle
  | stopCore (remaining : Nat)
  | closeOwnerSession (remaining : Nat)
  | deferCleanup
  | shutdownIpcServer
  | shutdownControlServer
  | endTransaction
deriving DecidableEq

@[reducible] def ShutdownCall.Reply : ShutdownCall → Type
  | .setRequested | .isRequested | .beginMutation | .waitReady _ | .signalRequested
  | .backgroundShutdownIsRequested | .isFinished _ | .join _ | .observerIsFinished => Bool
  | .cancellation => Option Nat
  | .activeMutations | .now => Nat
  | .cancelPendingApply _ | .joinObserver | .stopCore _ | .closeOwnerSession _ => Except Unit Unit
  | .shutdownIpcServer | .shutdownControlServer => Except Unit Unit
  | .tryLockLifecycle => TryLock
  | .cancel _ | .wakeInstalled | .wake _ | .setWaker _ | .setCancellation _ | .dropMutation
  | .waitWaker | .sleep | .requestBackgroundShutdown | .requestObserverShutdown | .unlockLifecycle
  | .deferCleanup | .endTransaction => Unit

abbrev threadCalls (D : Type) : Signature :=
  Signature.sum ⟨ShutdownCall, ShutdownCall.Reply⟩ (coordinatorCalls D)

abbrev ThreadAttempt (D α : Type) := Attempt (threadCalls D) ShutdownError α

variable {D : Type}

def call (c : ShutdownCall) : ThreadAttempt D c.Reply :=
  ExceptT.lift (Prog.call (S := threadCalls D) (.inl c))

def cancelInstalled : ThreadAttempt D Unit := do
  match ← call .cancellation with
  | some cancellation => call (.cancel cancellation)
  | none => return ()

def request : ThreadAttempt D Unit := do
  let firstRequest ← call .setRequested
  whenever (firstRequest = true) cancelInstalled
  call .wakeInstalled

def installWaker (waker : Nat) : ThreadAttempt D Unit := do
  call (.setWaker waker)
  if ← call .isRequested then call (.wake waker)

def installCancellation (cancellation : Nat) : ThreadAttempt D Unit := do
  call (.setCancellation cancellation)
  if ← call .isRequested then call (.cancel cancellation)

section

variable [DecidableEq D] (X : Codec D)

/-- What the coordinator is asked to do: `execute`, and `try_execute_rule`, which fails if the lock
is held or poisoned. -/
inductive Transaction : TransactionAttempt D ConfigTransactionSuccess → Prop where
  | execute (candidate : ConfigTransactionCandidate D) : Transaction (execute X candidate)
  | rule (candidate : ConfigTransactionCandidate D) {kind : ConfigTransactionErrorKind} :
      kind = .busy ∨ kind = .lockPoisoned →
      Transaction (do
        let guard ← port .lockCoordinator
        okOr guard (.simple kind)
        executeGuarded X candidate .convergeCommitted)

end

abbrev Transactions (D : Type) := List (TransactionAttempt D ConfigTransactionSuccess)

def transact : Transactions D → ThreadAttempt D Unit
  | [] => pure ()
  | transaction :: transactions => do
    let _ ← transaction.right.result
    call .endTransaction
    transact transactions

/-- `SupervisorApplication::execute` of a mutation. -/
def mutation (transactions : Transactions D) :
    ThreadAttempt D Unit := do
  if ← call .beginMutation then
    transact transactions
    call .dropMutation

/-- A task of a background thread; the result is whether the thread ends instead. -/
def backgroundTask (transactions : Transactions D) :
    ThreadAttempt D Bool := do
  if ← call .backgroundShutdownIsRequested then return true
  else
    transact transactions
    return false

structure ShutdownResults where
  cancel : IoResult
  background : IoResult
  observer : IoResult
  core : IoResult

def IoResult.and (a b : IoResult) : IoResult := a.bind fun _ => b

inductive MainPhase where
  | starting
  | waiting
  | cancelling
  /-- The threads that are still to be joined, and how many timed out or panicked. -/
  | joining (deadline : Nat) (cancel : IoResult) (threads : List Nat)
      (timedOut panicked : Nat)
  | observing (deadline : Nat) (results : ShutdownResults)
  /-- In `wait_for_mutations`, with the number that was read last. -/
  | draining (deadline waitDeadline active : Nat) (results : ShutdownResults)
  | locking (deadline : Nat) (results : ShutdownResults)
  | stopping (deadline : Nat) (results : ShutdownResults)
  | closing (deadline : Nat) (stop : IoResult) (results : ShutdownResults)
  | servers (results : ShutdownResults)
  | ended (result : IoResult)

def remainingShutdownBudget (deadline : Nat) : ThreadAttempt D Nat := do
  let now ← call .now
  require (deadline - now ≠ 0) .deadlineExpired
  return deadline - now

/-- In milliseconds. -/
def daemonShutdownTimeout : Nat := 10000

/-- One round of `wait_until_finished`, with `none` if there is to be another. -/
def waitUntilFinished (isFinished : ThreadAttempt D Bool) (deadline : Nat) :
    ThreadAttempt D (Option Bool) := do
  if ← isFinished then return some true
  else
    let now ← call .now
    if deadline - now = 0 then return some false
    else
      call .sleep
      return none

/-- The result of `BackgroundRuntime::shutdown_until`. -/
def backgroundResult (timedOut panicked : Nat) : IoResult :=
  if timedOut > 0 then .error .backgroundExpired
  else if panicked > 0 then .error .backgroundPanicked
  else .ok ()

def coreDone (results : ShutdownResults) (drain : IoResult) : ThreadAttempt D MainPhase := do
  let core := results.cancel.and drain
  whenever (core.isOk = false) (call .deferCleanup)
  return .servers { results with core }

/-- The observer is gone, or its time is up: the mutations are drained if there is time left. -/
def beginDrain (deadline : Nat) (results : ShutdownResults) : ThreadAttempt D MainPhase := do
  match ← (remainingShutdownBudget deadline).result with
  | .error error => coreDone results (.error error)
  | .ok remaining =>
    let now ← call .now
    let active ← call .activeMutations
    return .draining deadline (now + remaining) active results

/-- One round of the main thread. The background threads are numbered from zero. -/
def MainPhase.round (threads mainWaker : Nat) : MainPhase → ThreadAttempt D MainPhase
  | .starting => do
    installWaker mainWaker
    return .waiting
  | .waiting => do
    let signalled ← call .signalRequested
    whenever (signalled = true) request
    if ← call .isRequested then return .cancelling
    else
      call .waitWaker
      return .waiting
  | .cancelling => do
    let now ← call .now
    let deadline := now + daemonShutdownTimeout
    let cancel ← (do
      let remaining ← remainingShutdownBudget deadline
      let cancelled ← call (.cancelPendingApply remaining)
      okOr cancelled .applyNotCancelled : ThreadAttempt D Unit).result
    call .requestBackgroundShutdown
    return .joining deadline cancel (List.range threads) 0 0
  | .joining deadline cancel [] timedOut panicked => do
    call .requestObserverShutdown
    return .observing deadline ⟨cancel, backgroundResult timedOut panicked, .ok (), .ok ()⟩
  | .joining deadline cancel (thread :: rest) timedOut panicked => do
    match ← waitUntilFinished (call (.isFinished thread)) deadline with
    | none => return .joining deadline cancel (thread :: rest) timedOut panicked
    | some false => return .joining deadline cancel rest (timedOut + 1) panicked
    | some true =>
      let threadPanicked ← call (.join thread)
      return .joining deadline cancel rest timedOut
        (if threadPanicked then panicked + 1 else panicked)
  | .observing deadline results => do
    match ← waitUntilFinished (call .observerIsFinished) deadline with
    | none => return .observing deadline results
    | some false => beginDrain deadline { results with observer := .error .observerFailed }
    | some true =>
      let joined ← call .joinObserver
      beginDrain deadline { results with observer := joined.mapError fun _ => .observerFailed }
  | .draining deadline waitDeadline active results => do
    if active = 0 then return .locking deadline results
    else
      let now ← call .now
      if waitDeadline - now = 0 then coreDone results (.error .drainExpired)
      else
        let timedOut ← call (.waitReady (waitDeadline - now))
        let active ← call .activeMutations
        if timedOut = true ∧ active > 0 then coreDone results (.error .drainExpired)
        else return .draining deadline waitDeadline active results
  | .locking deadline results => do
    match ← call .tryLockLifecycle with
    | .acquired => return .stopping deadline results
    | .poisoned => return .closing deadline (.error .lifecycleLockUnavailable) results
    | .wouldBlock =>
      match ← (remainingShutdownBudget deadline).result with
      | .error error => return .closing deadline (.error error) results
      | .ok _ =>
        call .sleep
        return .locking deadline results
  | .stopping deadline results => do
    let stop ← (do
      let remaining ← remainingShutdownBudget deadline
      let stopped ← call (.stopCore remaining)
      okOr stopped .coreNotStopped : ThreadAttempt D Unit).result
    call .unlockLifecycle
    return .closing deadline stop results
  | .closing deadline stop results => do
    match ← (remainingShutdownBudget deadline).result with
    | .error error => coreDone results (.error error)
    | .ok remaining =>
      let closed ← call (.closeOwnerSession remaining)
      coreDone results (stop.and (closed.mapError fun _ => .ownerNotClosed))
  | .servers results => do
    let ipc ← call .shutdownIpcServer
    let control ← call .shutdownControlServer
    return .ended ((((results.background.and results.observer).and results.core).and
      (ipc.mapError fun _ => .serverFailed)).and (control.mapError fun _ => .serverFailed))
  | .ended result => return .ended result

inductive Thread where
  | main
  | requester (n : Nat)
  | installer (n : Nat)
  | client (n : Nat)
  | background (n : Nat)
deriving DecidableEq

inductive ThreadAnswer where
  | returned
  | phase (phase : MainPhase)
  | over

/-- Below the objects that are shared stands what has happened so far. -/
structure ShutdownWorld where
  drain : DrainController
  shutdownRequested : Bool
  coordinatorLock : Option Thread
  lifecycleLock : Option Thread
  backgroundShutdown : Bool
  finished : Finset Nat
  now : Nat
  main : MainPhase
  /-- The threads that hold a `MutationGuard`. -/
  guards : Finset Thread
  /-- The cancellations that have been invoked, and the wakers. -/
  cancelled : List Nat
  woken : List Nat
  applies : Nat
  /-- `wait_for_mutations` has returned true. -/
  drained : Bool
  stopped : Bool

namespace ShutdownWorld

def start : ShutdownWorld where
  drain := .default
  shutdownRequested := false
  coordinatorLock := none
  lifecycleLock := none
  backgroundShutdown := false
  finished := ∅
  now := 0
  main := .starting
  guards := ∅
  cancelled := []
  woken := []
  applies := 0
  drained := false
  stopped := false

def requested (w : ShutdownWorld) : Bool := w.drain.state.requested

def release (w : ShutdownWorld) (i : Thread) : ShutdownWorld :=
  { w with
    coordinatorLock := if w.coordinatorLock = some i then none else w.coordinatorLock
    lifecycleLock := if w.lifecycleLock = some i then none else w.lifecycleLock }

/-- `MutationGuard::drop` -/
def dropGuard (w : ShutdownWorld) (i : Thread) : ShutdownWorld :=
  { w with
    drain := { w.drain with
      state := { w.drain.state with activeMutations := w.drain.state.activeMutations - 1 } }
    guards := w.guards.erase i }

def Answers (w : ShutdownWorld) : (c : ShutdownCall) → c.Reply → Prop
  | .setRequested, r | .beginMutation, r => r = !w.requested
  | .isRequested, r => r = w.requested
  | .cancellation, r => r = w.drain.cancellation
  | .activeMutations, r => r = w.drain.state.activeMutations
  | .now, r => w.now ≤ r
  | .backgroundShutdownIsRequested, r => r = w.backgroundShutdown
  | .isFinished thread, r => r = decide (thread ∈ w.finished)
  | .tryLockLifecycle, r => r = .acquired → w.lifecycleLock = none
  | _, _ => True

/-- What a call of a thread does. The cancellation is `cancel_pending_mutations`, which requests the
shutdown of the coordinator. -/
def after (w : ShutdownWorld) (i : Thread) : (c : ShutdownCall) → c.Reply → ShutdownWorld
  | .setRequested, _ =>
    { w with drain := { w.drain with state := { w.drain.state with requested := true } } }
  | .cancel id, _ => { w with cancelled := id :: w.cancelled, shutdownRequested := true }
  | .wakeInstalled, _ => { w with woken := w.drain.waker.toList ++ w.woken }
  | .wake id, _ => { w with woken := id :: w.woken }
  | .setWaker id, _ => { w with drain := { w.drain with waker := some id } }
  | .setCancellation id, _ => { w with drain := { w.drain with cancellation := some id } }
  | .beginMutation, true =>
    { w with
      drain := { w.drain with
        state := { w.drain.state with activeMutations := w.drain.state.activeMutations + 1 } }
      guards := insert i w.guards }
  | .dropMutation, _ => w.dropGuard i
  | .now, r => { w with now := r }
  | .requestBackgroundShutdown, _ => { w with backgroundShutdown := true }
  | .tryLockLifecycle, .acquired => { w with lifecycleLock := some i }
  | .unlockLifecycle, _ => { w with lifecycleLock := none }
  | .stopCore _, _ => { w with stopped := true }
  | .endTransaction, _ => w.release i
  | _, _ => w

/-- The outside of the coordinator: the two locks, the flag, and the Core. Everything else may reply
anything. -/
def coordinate (w : ShutdownWorld) (i : Thread) :
    (c : (coordinatorCalls D).Call) → (coordinatorCalls D).Reply c → ShutdownWorld → Prop
  | .inr .lockCoordinator, .ok _, w' =>
    w.coordinatorLock = none ∧ w' = { w with coordinatorLock := some i }
  | .inr .lockLifecycle, .ok _, w' =>
    w.lifecycleLock = none ∧ w' = { w with lifecycleLock := some i }
  | .inr .shutdownIsRequested, r, w' => r = w.shutdownRequested ∧ w' = w
  | .inr (.applyCandidate _), _, w' => w' = { w with applies := w.applies + 1 }
  | _, _, w' => w' = w

def enter (w : ShutdownWorld) (phase : MainPhase) : ShutdownWorld :=
  { w with
    main := phase
    drained := w.drained || match w.main, phase with
      | .draining _ _ _ _, .locking _ _ => true
      | _, _ => false }

end ShutdownWorld

def threadCall (i : Thread) : Environment (threadCalls D) ShutdownWorld
  | w, .inl c, r, w' => w.Answers c r ∧ w' = w.after i c r
  | w, .inr c, r, w' => w.coordinate i c r w'

section

variable [DecidableEq D] (X : Codec D) (threads mainWaker : Nat)

inductive Begins (w : ShutdownWorld) : Thread → ThreadAttempt D ThreadAnswer → Prop where
  | main : (∀ result, w.main ≠ .ended result) → Begins w .main do
      let phase ← w.main.round threads mainWaker
      return .phase phase
  | request : Begins w (.requester n) do
      request
      return .returned
  | installWaker (waker : Nat) : Begins w (.installer n) do
      installWaker waker
      return .returned
  | installCancellation (cancellation : Nat) : Begins w (.installer n) do
      installCancellation cancellation
      return .returned
  | mutation {transactions : Transactions D} :
      (∀ transaction ∈ transactions, Transaction X transaction) → Begins w (.client n) do
        mutation transactions
        return .returned
  | background {transactions : Transactions D} :
      n < threads → n ∉ w.finished →
      (∀ transaction ∈ transactions, Transaction X transaction) → Begins w (.background n) do
        let ended ← backgroundTask transactions
        return if ended then .over else .returned

def ShutdownWorld.answered (w : ShutdownWorld) :
    Thread → Except ShutdownError ThreadAnswer → ShutdownWorld
  | .main, .ok (.phase phase) => w.enter phase
  | .main, .error error => w.enter (.ended (.error error))
  | .background n, .ok .over => { w with finished := insert n w.finished }
  | _, _ => w

/-- A thread that panics drops what it holds. -/
inductive Panics (w : ShutdownWorld) : Thread → ShutdownWorld → Prop where
  | client : .client n ∉ w.guards → Panics w (.client n) (w.release (.client n))
  | mutation : .client n ∈ w.guards →
      Panics w (.client n) ((w.release (.client n)).dropGuard (.client n))
  | background : n < threads →
      Panics w (.background n)
        { w.release (.background n) with finished := insert n w.finished }

def shutdownThreads :
    Processes Thread (threadCalls D) ShutdownWorld (Except ShutdownError ThreadAnswer) where
  call := threadCall
  begins i w p w' := w' = w ∧ ∃ x, Begins X threads mainWaker w i x ∧ p = x.run
  ends i w answer w' := w' = w.answered i answer
  dies i w w' := Panics threads w i w'

end

end Production

end Ratash

import Mathlib.Logic.Function.Basic
import Ratash.Supervisor.Errors

/-!
One caller of `profile_use` at a time activates profiles, its own first and then whatever has been
asked for in the meantime.
-/

namespace Ratash

/-- A selector in the queue, and the caller whose completion is waited on. -/
structure PendingActivation where
  selector : String
  completion : Nat
deriving DecidableEq

structure ActivationQueue where
  running : Bool
  pending : Option PendingActivation
deriving DecidableEq

def superseded : ApplicationError :=
  .new .operationUnavailable "Profile activation was superseded by a newer request" true

abbrev ActivationResult (O : Type) := Except ApplicationError O

inductive CallerPhase (O : Type) where
  | calling
  /-- In `wait`, about to lock the slot of its completion. -/
  | waiting
  /-- In `wait`, asleep on the condition variable. -/
  | sleeping
  /-- In the activation of its own selector. -/
  | activating
  | draining (initial : ActivationResult O)
  /-- In the activation of another caller's selector. -/
  | serving (initial : ActivationResult O) (next : PendingActivation)
  /-- About to hand over the result of that activation. -/
  | completing (initial : ActivationResult O) (next : PendingActivation)
      (result : ActivationResult O)
  | returned (result : ActivationResult O)

/-- The effect of `notify_one`. -/
def CallerPhase.notified : CallerPhase O → CallerPhase O
  | .sleeping => .waiting
  | phase => phase

/-- The callers, numbered as they arrive, and what they share. The last four fields only record what
has happened: who came to the queue, which activations were begun, newest first, what the activation
of each caller gave, and whose completion was completed. -/
structure ActivationWorld (O : Type) where
  arrived : Nat
  queue : ActivationQueue
  phase : Nat → CallerPhase O
  slot : Nat → Option (ActivationResult O)
  entered : List PendingActivation
  began : List PendingActivation
  ended : Nat → Option (ActivationResult O)
  completed : List Nat

namespace ActivationWorld

variable {O : Type}

def initial : ActivationWorld O :=
  ⟨0, ⟨false, none⟩, fun _ => .calling, fun _ => none, [], [], fun _ => none, []⟩

def goTo (w : ActivationWorld O) (i : Nat) (phase : CallerPhase O) : ActivationWorld O :=
  { w with phase := Function.update w.phase i phase }

/-- `ActivationCompletion::complete`: the slot is filled, and one who sleeps is notified. -/
def complete (w : ActivationWorld O) (i : Nat) (result : ActivationResult O) : ActivationWorld O :=
  { w with
    slot := Function.update w.slot i (some result)
    phase := Function.update w.phase i (w.phase i).notified
    completed := i :: w.completed }

/-- The activation that stood in the queue is not going to take place. -/
def supersede (w : ActivationWorld O) : Option PendingActivation → ActivationWorld O
  | some old => w.complete old.completion (.error superseded)
  | none => w

def enqueue (w : ActivationWorld O) (next : PendingActivation) : ActivationWorld O :=
  { w.supersede w.queue.pending with
    queue := { w.queue with pending := some next }
    entered := next :: w.entered }

def elect (w : ActivationWorld O) (own : PendingActivation) : ActivationWorld O :=
  { w with queue := { w.queue with running := true }, entered := own :: w.entered }

def begin (w : ActivationWorld O) (i : Nat) (activation : PendingActivation)
    (phase : CallerPhase O) : ActivationWorld O :=
  { w.goTo i phase with began := activation :: w.began }

def finish (w : ActivationWorld O) (i : Nat) (result : ActivationResult O) : ActivationWorld O :=
  { w with ended := Function.update w.ended i (some result) }

end ActivationWorld

/-- Who causes a step: a new caller, the condition variable by waking somebody for no reason, or one
of the callers in the course of `profile_use`. -/
inductive ActivationTurn where
  | arrival
  | spurious
  | own
deriving DecidableEq

/-- The steps of `profile_use`, for callers with any selectors. An activation may give anything. -/
inductive ActivationStep {O : Type} (selectors : Nat → String) :
    ActivationTurn → ActivationWorld O → ActivationWorld O → Prop where
  | arrive {w : ActivationWorld O} :
      ActivationStep selectors .arrival w { w with arrived := w.arrived + 1 }
  | enqueue {w : ActivationWorld O} {i : Nat} (hi : i < w.arrived) (hphase : w.phase i = .calling)
      (hrunning : w.queue.running = true) :
      ActivationStep selectors .own w ((w.enqueue ⟨selectors i, i⟩).goTo i .waiting)
  | elect {w : ActivationWorld O} {i : Nat} (hi : i < w.arrived) (hphase : w.phase i = .calling)
      (hrunning : w.queue.running = false) :
      ActivationStep selectors .own w
        ((w.elect ⟨selectors i, i⟩).begin i ⟨selectors i, i⟩ .activating)
  | activated {w : ActivationWorld O} {i : Nat} (hphase : w.phase i = .activating)
      (result : ActivationResult O) :
      ActivationStep selectors .own w ((w.finish i result).goTo i (.draining result))
  | take {w : ActivationWorld O} {i : Nat} {first : ActivationResult O} {next : PendingActivation}
      (hphase : w.phase i = .draining first) (hpending : w.queue.pending = some next) :
      ActivationStep selectors .own w
        ({ w with queue := { w.queue with pending := none } }.begin i next (.serving first next))
  | settle {w : ActivationWorld O} {i : Nat} {first : ActivationResult O}
      (hphase : w.phase i = .draining first) (hpending : w.queue.pending = none) :
      ActivationStep selectors .own w
        ({ w with queue := { w.queue with running := false } }.goTo i (.returned first))
  | served {w : ActivationWorld O} {i : Nat} {first : ActivationResult O}
      {next : PendingActivation} (hphase : w.phase i = .serving first next)
      (result : ActivationResult O) :
      ActivationStep selectors .own w
        ((w.finish next.completion result).goTo i (.completing first next result))
  | complete {w : ActivationWorld O} {i : Nat} {first result : ActivationResult O}
      {next : PendingActivation} (hphase : w.phase i = .completing first next result) :
      ActivationStep selectors .own w
        ((w.complete next.completion result).goTo i (.draining first))
  | sleep {w : ActivationWorld O} {i : Nat} (hphase : w.phase i = .waiting)
      (hslot : w.slot i = none) :
      ActivationStep selectors .own w (w.goTo i .sleeping)
  | receive {w : ActivationWorld O} {i : Nat} {result : ActivationResult O}
      (hphase : w.phase i = .waiting) (hslot : w.slot i = some result) :
      ActivationStep selectors .own w
        ({ w with slot := Function.update w.slot i none }.goTo i (.returned result))
  | wake {w : ActivationWorld O} {i : Nat} (hphase : w.phase i = .sleeping) :
      ActivationStep selectors .spurious w (w.goTo i .waiting)

/-- A run, with the numbers of arrivals, of wake-ups for no reason, and of steps of the callers. -/
inductive ActivationRuns {O : Type} (selectors : Nat → String) :
    ActivationWorld O → Nat → Nat → Nat → ActivationWorld O → Prop where
  | refl : ActivationRuns selectors w 0 0 0 w
  | arrival (hrun : ActivationRuns selectors w a s n w')
      (hstep : ActivationStep selectors .arrival w' w'') :
      ActivationRuns selectors w (a + 1) s n w''
  | spurious (hrun : ActivationRuns selectors w a s n w')
      (hstep : ActivationStep selectors .spurious w' w'') :
      ActivationRuns selectors w a (s + 1) n w''
  | own (hrun : ActivationRuns selectors w a s n w')
      (hstep : ActivationStep selectors .own w' w'') :
      ActivationRuns selectors w a s (n + 1) w''

end Ratash

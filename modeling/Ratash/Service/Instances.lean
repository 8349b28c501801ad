import Mathlib.Logic.Function.Basic
import Ratash.Interaction.Promises
import Ratash.Service.ControlRoot
import Ratash.Service.Reserve

/-!
Each instance has counters of its own; the files of the control root and the lock on one of them are
shared.
-/

namespace Ratash

open Interaction

inductive GenerationKind where
  | owner
  | coreInstance
deriving DecidableEq

def GenerationCounters.of (counters : GenerationCounters) : GenerationKind → UInt64
  | .owner => counters.ownerGeneration
  | .coreInstance => counters.coreInstanceGeneration

/-- A generation that was returned, with the turn of the lock it was reserved in. -/
structure Issue where
  turn : Nat
  kind : GenerationKind
  value : UInt64
deriving DecidableEq

variable {ι : Type} [DecidableEq ι]

structure ControlWorld (ι : Type) where
  root : ControlRoot
  holder : Option ι
  counters : ι → GenerationCounters
  constructed : ι → Bool
  /-- What the state file held when the lock was taken, turn after turn. -/
  turns : List (Option GenerationCounters)
  turn : ι → Option Nat
  issued : List Issue

namespace ControlWorld

variable (J : GenerationCodec)

def persisted (w : ControlWorld ι) : Option GenerationCounters :=
  w.root.persisted J

def locked (w : ControlWorld ι) (i : ι) : ControlWorld ι :=
  { w with
    holder := some i
    turns := w.turns ++ [w.persisted J]
    turn := Function.update w.turn i (some w.turns.length) }

def unlocked (w : ControlWorld ι) (i : ι) : ControlWorld ι :=
  { w with holder := if w.holder = some i then none else w.holder }

def issue (w : ControlWorld ι) (i : ι) (kind : GenerationKind) (value : UInt64) : ControlWorld ι :=
  { w with issued := w.issued ++ ((w.turn i).map fun turn => ⟨turn, kind, value⟩).toList }

end ControlWorld

/-- The calls of an instance. File operations may fail; the lock is refused while it is held. -/
def instanceCall (J : GenerationCodec) (i : ι) : Environment controlCalls (ControlWorld ι)
  | w, .counters, r, w' => r = w.counters i ∧ w' = w
  | w, .setCounters counters, _, w' =>
    w' = { w with counters := Function.update w.counters i counters }
  | w, .takeCommitFault, _, w' | w, .newUuid, _, w' => w' = w
  | w, .effectiveUid, r, w' => r = w.root.uid ∧ w' = w
  | w, .unlock, _, w' => w' = w.unlocked i
  | w, .file .flock, r, w' =>
    r = .ok () ∧ w.holder = none ∧ w' = w.locked J i ∨ (∃ e, r = .error e) ∧ w' = w
  | w, .file c, r, w' => ∃ root, w' = { w with root } ∧
    (performControl w.root c = (r, root) ∨ (∃ e, r = .error e) ∧ ControlOutcome w.root c root)

inductive InstanceTask where
  | construct
  | reserve (kind : GenerationKind)
deriving DecidableEq

def InstanceTask.program (J : GenerationCodec) :
    InstanceTask → ControlAttempt (Option (GenerationKind × UInt64))
  | construct => do
    loadInitialGenerations J
    return none
  | reserve .owner => do
    let generation ← reserveOwnerGeneration J
    return some (.owner, generation)
  | reserve .coreInstance => do
    let generation ← reserveCoreInstanceGeneration J
    return some (.coreInstance, generation)

abbrev InstanceAnswer := Except CoreRuntimeError (Option (GenerationKind × UInt64))

def ControlWorld.answered (w : ControlWorld ι) (i : ι) : InstanceAnswer → ControlWorld ι
  | .ok none => { w with constructed := Function.update w.constructed i true }
  | .ok (some (kind, value)) => w.issue i kind value
  | .error _ => w

/-- An instance is constructed before it reserves anything; when it is killed, its lock is gone and
it has to be constructed again. -/
def serviceInstances (J : GenerationCodec) :
    Processes ι controlCalls (ControlWorld ι) InstanceAnswer where
  call := instanceCall J
  begins i w p w' := w' = w ∧ ∃ task : InstanceTask, p = (task.program J).run ∧
    (w.constructed i = true ↔ task ≠ .construct)
  ends i w answer w' := w' = w.answered i answer
  dies i w w' := w' = { w.unlocked i with constructed := Function.update w.constructed i false }

def ControlWorld.start (root : ControlRoot) : ControlWorld ι where
  root
  holder := none
  counters _ := ⟨0, 0⟩
  constructed _ := false
  turns := []
  turn _ := none
  issued := []

end Ratash

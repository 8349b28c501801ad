import Ratash.Proxy.NodeRecord
import Ratash.Scheduler.Serial

/-!
Every node of the active profile either waits in the queue for its next probe or is being probed.
-/

namespace Ratash

open Std (ExtTreeMap ExtTreeSet TransOrd LawfulEqOrd TransCmp LawfulEqCmp)

abbrev ProbeGeneration := UInt64

def probeWorkerCount : Nat := 16

/-- `duration_ms(PROBE_INTERVAL)` -/
def probeIntervalMs : UInt64 := 5 * 60 * 1000

/-- `duration_ms(LATENCY_FRESHNESS)` -/
def latencyFreshnessMs : UInt64 := 10 * 60 * 1000

def maxActiveNodes : Nat := 10000

structure DueProbe where
  dueAtUnixMs : UInt64
  nodeId : NodeRecordId
deriving DecidableEq

instance : Ord DueProbe :=
  ⟨compareLex (compareOn DueProbe.dueAtUnixMs) (compareOn DueProbe.nodeId)⟩

instance : TransOrd DueProbe :=
  inferInstanceAs (TransCmp (compareLex (compareOn DueProbe.dueAtUnixMs)
    (compareOn DueProbe.nodeId)))

instance : LawfulEqOrd DueProbe where
  eq_of_compare {a b} h := by
    change compareLex (compareOn DueProbe.dueAtUnixMs) (compareOn DueProbe.nodeId) a b = .eq at h
    rw [compareLex, Ordering.then_eq_eq] at h
    have hdue : a.dueAtUnixMs = b.dueAtUnixMs := Std.compare_eq_iff_eq.1 h.1
    have hnode : a.nodeId = b.nodeId := Std.compare_eq_iff_eq.1 h.2
    cases a
    cases b
    cases hdue
    cases hnode
    rfl

structure InFlightProbe where
  attemptId : UInt64
  generation : ProbeGeneration
deriving DecidableEq

inductive ProbeOutcome where
  | success (delayMs : UInt64)
  | timedOut
  | unavailable
deriving DecidableEq

structure StoredProbeSample where
  outcome : ProbeOutcome
  sampledAtUnixMs : UInt64
  generation : ProbeGeneration
deriving DecidableEq

structure ProbeTask where
  attemptId : UInt64
  generation : ProbeGeneration
  nodeId : NodeRecordId
  dueAtUnixMs : UInt64
deriving DecidableEq

structure ProbeCompletion where
  task : ProbeTask
  outcome : ProbeOutcome
  completedAtUnixMs : UInt64
deriving DecidableEq

inductive ProbeCompletionStatus where
  | rescheduled (nextProbeAtUnixMs : UInt64)
  | lateGeneration
  | unknownTask
deriving DecidableEq

inductive ProbeStatus where
  | notSampled
  | queued
  | inFlight
  | available
  | timedOut
  | unavailable
deriving DecidableEq

inductive SampleState where
  | fresh
  | stale
  | unavailable
deriving DecidableEq

structure LatencySample where
  nodeId : NodeRecordId
  delayMs : Option UInt64
  sampledAtUnixMs : Option UInt64
  state : SampleState
  probeGeneration : ProbeGeneration
deriving DecidableEq

structure ProbeNodeSnapshot where
  nodeId : NodeRecordId
  sample : Option LatencySample
  status : ProbeStatus
deriving DecidableEq

inductive ProbeResetError where
  | nonIncreasingGeneration
  | nodeLimitExceeded (limit actual : Nat)
deriving DecidableEq

structure ProbeScheduler where
  generation : Option ProbeGeneration
  lastGeneration : Option ProbeGeneration
  activeNodes : ExtTreeSet NodeRecordId
  queue : ExtTreeSet DueProbe
  queuedDeadlines : ExtTreeMap NodeRecordId UInt64
  inFlight : ExtTreeMap NodeRecordId InFlightProbe
  samples : ExtTreeMap NodeRecordId StoredProbeSample
  nextAttemptId : UInt64

def sampleState (sample : StoredProbeSample) (nowUnixMs : UInt64) : SampleState :=
  match sample.outcome with
  | .success _ =>
    -- A sample of the future is of age zero.
    let age := if sample.sampledAtUnixMs ≤ nowUnixMs then nowUnixMs - sample.sampledAtUnixMs else 0
    if age ≤ latencyFreshnessMs then .fresh else .stale
  | .timedOut | .unavailable => .unavailable

namespace ProbeScheduler

def new : ProbeScheduler := ⟨none, none, ∅, ∅, ∅, ∅, ∅, 1⟩

def collectActive : List NodeRecordId → ExtTreeSet NodeRecordId →
    Except ProbeResetError (ExtTreeSet NodeRecordId)
  | [], activeNodes => .ok activeNodes
  | nodeId :: nodes, activeNodes =>
    let activeNodes := activeNodes.insert nodeId
    if maxActiveNodes < activeNodes.size then
      .error (.nodeLimitExceeded maxActiveNodes activeNodes.size)
    else
      collectActive nodes activeNodes

def enqueue (nowUnixMs : UInt64) (scheduler : ProbeScheduler) (nodeId : NodeRecordId) :
    ProbeScheduler :=
  { scheduler with
    queue := scheduler.queue.insert ⟨nowUnixMs, nodeId⟩
    queuedDeadlines := scheduler.queuedDeadlines.insert nodeId nowUnixMs }

def reset (generation : ProbeGeneration) (nodes : List NodeRecordId) (nowUnixMs : UInt64)
    (scheduler : ProbeScheduler) : Except ProbeResetError Unit × ProbeScheduler :=
  if scheduler.lastGeneration.any (fun current => generation ≤ current) then
    (.error .nonIncreasingGeneration, scheduler)
  else match collectActive nodes ∅ with
  | .error error => (.error error, scheduler)
  | .ok activeNodes =>
    (.ok (), activeNodes.toList.foldl (enqueue nowUnixMs)
      { scheduler with
        generation := some generation
        lastGeneration := some generation
        activeNodes
        queue := ∅
        queuedDeadlines := ∅
        inFlight := ∅
        samples := ∅ })

def deactivate (scheduler : ProbeScheduler) : ProbeScheduler :=
  { scheduler with
    generation := none
    activeNodes := ∅
    queue := ∅
    queuedDeadlines := ∅
    inFlight := ∅
    samples := ∅ }

def nextDue (nowUnixMs : UInt64) (scheduler : ProbeScheduler) : Option DueProbe :=
  scheduler.queue.min?.filter fun entry => entry.dueAtUnixMs ≤ nowUnixMs

def dispatch (generation : ProbeGeneration) (entry : DueProbe) (scheduler : ProbeScheduler) :
    ProbeTask × ProbeScheduler :=
  let attemptId := scheduler.nextAttemptId
  (⟨attemptId, generation, entry.nodeId, entry.dueAtUnixMs⟩,
    { scheduler with
      queue := scheduler.queue.erase entry
      queuedDeadlines := scheduler.queuedDeadlines.erase entry.nodeId
      inFlight := scheduler.inFlight.insert entry.nodeId ⟨attemptId, generation⟩
      nextAttemptId := nextNonzero attemptId })

/-- The loop of `take_due`, with the number of workers that are free. -/
def dispatchDue (generation : ProbeGeneration) (nowUnixMs : UInt64) :
    (available : Nat) → ProbeScheduler → List ProbeTask × ProbeScheduler
  | 0, scheduler => ([], scheduler)
  | available + 1, scheduler =>
    match scheduler.nextDue nowUnixMs with
    | none => ([], scheduler)
    | some entry =>
      let (task, scheduler) := scheduler.dispatch generation entry
      let (tasks, scheduler) := dispatchDue generation nowUnixMs available scheduler
      (task :: tasks, scheduler)

def takeDue (nowUnixMs : UInt64) (scheduler : ProbeScheduler) : List ProbeTask × ProbeScheduler :=
  match scheduler.generation with
  | none => ([], scheduler)
  | some generation =>
    dispatchDue generation nowUnixMs (probeWorkerCount - scheduler.inFlight.size) scheduler

/-- `none` is a debug assertion that fires. -/
def schedule (nodeId : NodeRecordId) (dueAtUnixMs : UInt64) (scheduler : ProbeScheduler) :
    Option ProbeScheduler :=
  if scheduler.queuedDeadlines.contains nodeId then none
  else if scheduler.inFlight.contains nodeId then none
  else some (enqueue dueAtUnixMs scheduler nodeId)

def complete (completion : ProbeCompletion) (scheduler : ProbeScheduler) :
    Option (ProbeCompletionStatus × ProbeScheduler) :=
  let task := completion.task
  if scheduler.generation ≠ some task.generation then some (.lateGeneration, scheduler)
  else match scheduler.inFlight[task.nodeId]? with
  | none => some (.unknownTask, scheduler)
  | some inFlight =>
    if inFlight.attemptId ≠ task.attemptId ∨ inFlight.generation ≠ task.generation then
      some (.unknownTask, scheduler)
    else
      let nextProbeAtUnixMs := saturatingAdd64 completion.completedAtUnixMs probeIntervalMs
      let scheduler := { scheduler with
        inFlight := scheduler.inFlight.erase task.nodeId
        samples := scheduler.samples.insert task.nodeId
          ⟨completion.outcome, completion.completedAtUnixMs, task.generation⟩ }
      (scheduler.schedule task.nodeId nextProbeAtUnixMs).map
        (.rescheduled nextProbeAtUnixMs, ·)

def sample (nodeId : NodeRecordId) (nowUnixMs : UInt64) (scheduler : ProbeScheduler) :
    Option LatencySample :=
  scheduler.samples[nodeId]?.map fun stored =>
    let delayMs := match stored.outcome with
      | .success delayMs => some delayMs
      | .timedOut | .unavailable => none
    ⟨nodeId, delayMs, some stored.sampledAtUnixMs, sampleState stored nowUnixMs, stored.generation⟩

def probeStatus (nodeId : NodeRecordId) (scheduler : ProbeScheduler) : ProbeStatus :=
  if scheduler.inFlight.contains nodeId then .inFlight
  else match scheduler.samples[nodeId]?.map StoredProbeSample.outcome with
  | some (.success _) => .available
  | some .timedOut => .timedOut
  | some .unavailable => .unavailable
  | none => if scheduler.queuedDeadlines.contains nodeId then .queued else .notSampled

def nodeSnapshot (nodeId : NodeRecordId) (nowUnixMs : UInt64) (scheduler : ProbeScheduler) :
    Option ProbeNodeSnapshot :=
  if scheduler.activeNodes.contains nodeId then
    some ⟨nodeId, scheduler.sample nodeId nowUnixMs, scheduler.probeStatus nodeId⟩
  else none

end ProbeScheduler

end Ratash

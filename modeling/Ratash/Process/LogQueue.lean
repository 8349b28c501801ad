import Ratash.Bounded.Queue
import Ratash.Service.Platform

namespace Ratash

open Bounded

def CoreProcessLog.messageBytes (log : CoreProcessLog) : Nat := log.message.utf8ByteSize

structure LogQueue where
  generation : Option CoreInstanceGeneration
  capacity : Nat
  retainedBytes : Nat
  records : List CoreProcessLog
  dropped : UInt64
  /-- `NativeCoreProcessController::new` refuses a capacity of zero. -/
  capacity_pos : 0 < capacity

namespace LogQueue

def new (capacity : Nat) (h : 0 < capacity) : LogQueue := ⟨none, capacity, 0, [], 0, h⟩

def beginGeneration (generation : CoreInstanceGeneration) (queue : LogQueue) : LogQueue :=
  { queue with generation := some generation, records := [], retainedBytes := 0, dropped := 0 }

def push (generation : CoreInstanceGeneration) (log : CoreProcessLog) (queue : LogQueue) :
    LogQueue :=
  if queue.generation ≠ some generation then queue
  else if log.messageBytes > coreLogForwardMaxBytes then
    { queue with dropped := saturatingAdd64 queue.dropped 1 }
  else
    let room := makeRoom CoreProcessLog.messageBytes queue.capacity coreLogForwardMaxBytes
      log.messageBytes queue.records queue.retainedBytes
    { queue with
      retainedBytes := room.2.1 + log.messageBytes
      records := room.1 ++ [log]
      dropped := Nat.repeat (saturatingAdd64 · 1) room.2.2 queue.dropped }

def take (limit : Nat) (queue : LogQueue) : CoreProcessLogBatch × LogQueue :=
  if limit = 0 then (⟨[], 0⟩, queue)
  else
    let excess := queue.records.length - min limit queue.capacity
    (⟨queue.records.drop excess,
        saturatingAdd64 queue.dropped (.ofNat (min excess (UInt64.size - 1)))⟩,
      { queue with records := [], retainedBytes := 0, dropped := 0 })

end LogQueue

def Unsaturated (dropped : UInt64) : Prop := dropped.toNat < UInt64.size - 1

theorem unsaturated_add {a b : UInt64} (h : Unsaturated (saturatingAdd64 a b)) :
    Unsaturated a ∧ (saturatingAdd64 a b).toNat = a.toNat + b.toNat := by
  unfold Unsaturated at h ⊢
  rw [toNat_saturatingAdd64] at h ⊢
  omega

theorem unsaturated_right {a : UInt64}
    (h : Unsaturated (saturatingAdd64 a (.ofNat (min n (UInt64.size - 1))))) :
    (UInt64.ofNat (min n (UInt64.size - 1))).toNat = n := by
  have hlt : min n (UInt64.size - 1) < UInt64.size :=
    Nat.lt_of_le_of_lt (Nat.min_le_right ..) (by decide)
  have hadd := (unsaturated_add h).2
  unfold Unsaturated at h
  rw [UInt64.toNat_ofNat_of_lt' hlt] at hadd ⊢
  omega

theorem unsaturated_repeat {dropped : UInt64}
    (h : Unsaturated (Nat.repeat (saturatingAdd64 · 1) n dropped)) : Unsaturated dropped ∧
      (Nat.repeat (saturatingAdd64 · 1) n dropped).toNat = dropped.toNat + n := by
  induction n with
  | zero => exact ⟨h, rfl⟩
  | succ n ih =>
    obtain ⟨hbefore, hadd⟩ := unsaturated_add h
    obtain ⟨hstart, hcount⟩ := ih hbefore
    refine ⟨hstart, hadd.trans ?_⟩
    rw [hcount]
    rfl

inductive LogQueueCall where
  | push (generation : CoreInstanceGeneration) (log : CoreProcessLog)
  | take (limit : Nat)
deriving DecidableEq

/-- The queue, what was pushed for its generation and what was taken from it. -/
structure LogQueueRun where
  queue : LogQueue
  pushed : List CoreProcessLog
  batches : List CoreProcessLogBatch

namespace LogQueueRun

def step (run : LogQueueRun) : LogQueueCall → LogQueueRun
  | .push generation log =>
    ⟨run.queue.push generation log,
      if run.queue.generation = some generation then run.pushed ++ [log] else run.pushed,
      run.batches⟩
  | .take limit =>
    ⟨(run.queue.take limit).2, run.pushed, run.batches ++ [(run.queue.take limit).1]⟩

def after (queue : LogQueue) (generation : CoreInstanceGeneration) (calls : List LogQueueCall) :
    LogQueueRun :=
  calls.foldl step ⟨queue.beginGeneration generation, [], []⟩

def taken (run : LogQueueRun) : List CoreProcessLog := run.batches.flatMap (·.records)

def reported (run : LogQueueRun) : Nat := (run.batches.map (·.dropped.toNat)).sum

structure Conserving (run : LogQueueRun) : Prop where
  counted : (∀ batch ∈ run.batches, Unsaturated batch.dropped) → Unsaturated run.queue.dropped →
    run.pushed.length = run.taken.length + run.reported + run.queue.records.length +
      run.queue.dropped.toNat
  retained : run.queue.retainedBytes = total CoreProcessLog.messageBytes run.queue.records
  length_le : run.queue.records.length ≤ run.queue.capacity
  bytes_le : run.queue.retainedBytes ≤ coreLogForwardMaxBytes
  ordered : List.Sublist (run.taken ++ run.queue.records) run.pushed
  others : ∀ generation log, run.queue.generation ≠ some generation →
    run.queue.push generation log = run.queue

theorem push_other (queue : LogQueue) (generation : CoreInstanceGeneration) (log : CoreProcessLog)
    (h : queue.generation ≠ some generation) : queue.push generation log = queue :=
  if_pos h

variable {run : LogQueueRun}

theorem Conserving.push (h : run.Conserving) (generation : CoreInstanceGeneration)
    (log : CoreProcessLog) : (run.step (.push generation log)).Conserving := by
  by_cases hgeneration : run.queue.generation = some generation
  case neg =>
    have hstep : run.step (.push generation log) = run := by
      rw [step, push_other _ _ _ hgeneration, if_neg hgeneration]
    rw [hstep]
    exact h
  by_cases hlong : log.messageBytes > coreLogForwardMaxBytes
  · have hstep : run.step (.push generation log) =
        ⟨{ run.queue with dropped := saturatingAdd64 run.queue.dropped 1 },
          run.pushed ++ [log], run.batches⟩ := by
      rw [step, LogQueue.push, if_neg (not_not_intro hgeneration), if_pos hlong, if_pos hgeneration]
    rw [hstep]
    refine ⟨fun hbatches hdropped => ?_, h.retained, h.length_le, h.bytes_le,
      h.ordered.trans (List.sublist_append_left ..), push_other _⟩
    obtain ⟨hbefore, hadd⟩ := unsaturated_add hdropped
    have hcounted := h.counted hbatches hbefore
    rw [List.length_append, hcounted, hadd]
    rfl
  · have hstep : run.step (.push generation log) =
        let room := makeRoom CoreProcessLog.messageBytes run.queue.capacity coreLogForwardMaxBytes
          log.messageBytes run.queue.records run.queue.retainedBytes
        ⟨{ run.queue with
            retainedBytes := room.2.1 + log.messageBytes
            records := room.1 ++ [log]
            dropped := Nat.repeat (saturatingAdd64 · 1) room.2.2 run.queue.dropped },
          run.pushed ++ [log], run.batches⟩ := by
      rw [step, LogQueue.push, if_neg (not_not_intro hgeneration), if_neg hlong, if_pos hgeneration]
    rw [hstep, h.retained]
    have hroom : Room CoreProcessLog.messageBytes _ _ _ _ _ :=
      makeRoom_spec run.queue.capacity_pos (Nat.not_lt.1 hlong) h.length_le
    have hlength := length_makeRoom CoreProcessLog.messageBytes run.queue.capacity
      coreLogForwardMaxBytes log.messageBytes run.queue.records
      (total CoreProcessLog.messageBytes run.queue.records)
    generalize makeRoom CoreProcessLog.messageBytes run.queue.capacity coreLogForwardMaxBytes
      log.messageBytes run.queue.records (total CoreProcessLog.messageBytes run.queue.records) =
        room at hroom hlength
    refine ⟨fun hbatches hdropped => ?_, ?_, ?_, ?_, ?_, push_other _⟩
    · obtain ⟨hbefore, hadd⟩ := unsaturated_repeat hdropped
      have hcounted := h.counted hbatches hbefore
      simp only [List.length_append, List.length_singleton, hadd, hcounted, taken, reported]
      omega
    · simp [hroom.bytes_eq]
    · rw [List.length_append]
      exact hroom.length_lt
    · exact Nat.le_trans (Nat.le_of_eq (congrArg (· + _) hroom.bytes_eq)) hroom.fits
    · rw [← List.append_assoc]
      apply List.Sublist.append_right (List.Sublist.trans _ h.ordered)
      apply List.Sublist.append_left
      rw [← hroom.left_eq]
      exact List.drop_sublist ..

theorem Conserving.take (h : run.Conserving) (limit : Nat) :
    (run.step (.take limit)).Conserving := by
  by_cases hlimit : limit = 0
  · have hstep : run.step (.take limit) = ⟨run.queue, run.pushed, run.batches ++ [⟨[], 0⟩]⟩ := by
      rw [step, LogQueue.take, if_pos hlimit]
    rw [hstep]
    refine ⟨fun hbatches hdropped => ?_, h.retained, h.length_le, h.bytes_le, ?_, push_other _⟩
    · have hcounted := h.counted
        (fun batch hbatch => hbatches batch (List.mem_append_left _ hbatch)) hdropped
      simpa [taken, reported] using hcounted
    · simpa [taken] using h.ordered
  · rw [step, LogQueue.take, if_neg hlimit]
    refine ⟨fun hbatches _ => ?_, rfl, Nat.zero_le _, Nat.zero_le _, ?_, push_other _⟩
    · have hlast := hbatches _ List.mem_concat_self
      obtain ⟨hbefore, hadd⟩ := unsaturated_add hlast
      have hcounted := h.counted
        (fun batch hbatch => hbatches batch (List.mem_append_left _ hbatch)) hbefore
      have hexcess := unsaturated_right hlast
      simp only [taken, reported, List.flatMap_append, List.flatMap_singleton, List.map_append,
        List.map_singleton, List.sum_append, List.sum_singleton, List.length_append,
        List.length_drop, List.length_nil, hadd, hexcess] at hcounted ⊢
      have hzero : (0 : UInt64).toNat = 0 := rfl
      omega
    · simp only [taken, List.flatMap_append, List.flatMap_singleton, List.append_nil]
      exact ((List.drop_sublist _ _).append_left _).trans h.ordered

/-- Every line pushed for the generation is taken, queued or counted, and what is taken comes in the
order in which it was pushed. -/
theorem log_queue_conserves (queue : LogQueue) (generation : CoreInstanceGeneration)
    (calls : List LogQueueCall) : (after queue generation calls).Conserving := by
  unfold after
  generalize hstart : (⟨queue.beginGeneration generation, [], []⟩ : LogQueueRun) = start
  have hinit : start.Conserving := by
    subst hstart
    exact ⟨fun _ _ => rfl, rfl, Nat.zero_le _, Nat.zero_le _, .slnil, push_other _⟩
  clear hstart
  induction calls generalizing start with
  | nil => exact hinit
  | cons call calls ih =>
    apply ih
    cases call with
    | push generation log => exact hinit.push generation log
    | take limit => exact hinit.take limit

end LogQueueRun

end Ratash

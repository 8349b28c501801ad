import Mathlib.Data.List.Sort
import Ratash.Profile.Catalog
import Ratash.Scheduler.Serial

namespace Ratash

open Std (ExtTreeMap)

structure RefreshTask where
  attemptId : UInt64
  profileId : ProfileId
  profileRevision : ProfileRevision
  dueAtUnixMs : UInt64
  registrationId : UInt64
deriving DecidableEq

structure RefreshCompletion where
  task : RefreshTask
  profileRevision : ProfileRevision
  completedAtUnixMs : UInt64
deriving DecidableEq

inductive RefreshCompletionStatus where
  | rescheduled (nextRefreshAtUnixMs : UInt64)
  | staleRevision
  | profileRemoved
  | unknownTask
deriving DecidableEq

structure RefreshEntry where
  profileRevision : ProfileRevision
  dueAtUnixMs : UInt64
  registrationId : UInt64
deriving DecidableEq

structure InFlightRefresh where
  attemptId : UInt64
  registrationId : UInt64
deriving DecidableEq

structure ProfileRefreshScheduler where
  entries : ExtTreeMap ProfileId RefreshEntry
  inFlight : ExtTreeMap ProfileId InFlightRefresh
  nextAttemptId : UInt64
  nextRegistrationId : UInt64

def profileRefreshConcurrency : Nat := 2

/-- `duration_ms(PROFILE_REFRESH_INTERVAL)` -/
def refreshIntervalMs : UInt64 := 6 * 60 * 60 * 1000

/-- A profile whose time has come, as the tuple that the source sorts. -/
structure DueRefresh where
  dueAtUnixMs : UInt64
  profileId : ProfileId
  profileRevision : ProfileRevision
  registrationId : UInt64
deriving DecidableEq

instance : Ord DueRefresh :=
  ⟨compareLex (compareOn DueRefresh.dueAtUnixMs) (compareLex (compareOn DueRefresh.profileId)
    (compareLex (compareOn DueRefresh.profileRevision) (compareOn DueRefresh.registrationId)))⟩

instance : Std.TransOrd DueRefresh :=
  inferInstanceAs (Std.TransCmp (compareLex (compareOn DueRefresh.dueAtUnixMs)
    (compareLex (compareOn DueRefresh.profileId)
      (compareLex (compareOn DueRefresh.profileRevision) (compareOn DueRefresh.registrationId)))))

def DueRefresh.Before (a b : DueRefresh) : Prop := (compare a b).isLE = true

instance : DecidableRel DueRefresh.Before := fun _ _ => inferInstanceAs (Decidable (_ = true))

namespace ProfileRefreshScheduler

def new : ProfileRefreshScheduler := ⟨∅, ∅, 1, 1⟩

def takeAttemptId (scheduler : ProfileRefreshScheduler) : UInt64 × ProfileRefreshScheduler :=
  (scheduler.nextAttemptId,
    { scheduler with nextAttemptId := nextNonzero scheduler.nextAttemptId })

def takeRegistrationId (scheduler : ProfileRefreshScheduler) : UInt64 × ProfileRefreshScheduler :=
  (scheduler.nextRegistrationId,
    { scheduler with nextRegistrationId := nextNonzero scheduler.nextRegistrationId })

def upsert (profileId : ProfileId) (profileRevision : ProfileRevision)
    (nextRefreshAtUnixMs : UInt64) (scheduler : ProfileRefreshScheduler) :
    ProfileRefreshScheduler :=
  let (registrationId, scheduler) := match scheduler.entries[profileId]? with
    | some entry => (entry.registrationId, scheduler)
    | none => scheduler.takeRegistrationId
  { scheduler with
    entries := scheduler.entries.insert profileId
      ⟨profileRevision, nextRefreshAtUnixMs, registrationId⟩ }

def remove (profileId : ProfileId) (scheduler : ProfileRefreshScheduler) :
    Bool × ProfileRefreshScheduler :=
  (scheduler.entries.contains profileId,
    { scheduler with entries := scheduler.entries.erase profileId })

def due (nowUnixMs : UInt64) (scheduler : ProfileRefreshScheduler) : List DueRefresh :=
  (scheduler.entries.toList.filter fun entry =>
    entry.2.dueAtUnixMs ≤ nowUnixMs && !scheduler.inFlight.contains entry.1).map fun entry =>
      ⟨entry.2.dueAtUnixMs, entry.1, entry.2.profileRevision, entry.2.registrationId⟩

def handOut : List DueRefresh → ProfileRefreshScheduler →
    List RefreshTask × ProfileRefreshScheduler
  | [], scheduler => ([], scheduler)
  | due :: rest, scheduler =>
    let (attemptId, scheduler) := scheduler.takeAttemptId
    let (tasks, scheduler) := handOut rest { scheduler with
      inFlight := scheduler.inFlight.insert due.profileId ⟨attemptId, due.registrationId⟩ }
    (⟨attemptId, due.profileId, due.profileRevision, due.dueAtUnixMs, due.registrationId⟩ :: tasks,
      scheduler)

def takeDue (nowUnixMs : UInt64) (scheduler : ProfileRefreshScheduler) :
    List RefreshTask × ProfileRefreshScheduler :=
  let available := profileRefreshConcurrency - scheduler.inFlight.size
  handOut (((scheduler.due nowUnixMs).insertionSort DueRefresh.Before).take available) scheduler

def complete (completion : RefreshCompletion) (scheduler : ProfileRefreshScheduler) :
    RefreshCompletionStatus × ProfileRefreshScheduler :=
  let task := completion.task
  match scheduler.inFlight[task.profileId]? with
  | none => (.unknownTask, scheduler)
  | some inFlight =>
    if inFlight.attemptId ≠ task.attemptId ∨ inFlight.registrationId ≠ task.registrationId then
      (.unknownTask, scheduler)
    else
      let scheduler := { scheduler with inFlight := scheduler.inFlight.erase task.profileId }
      match scheduler.entries[task.profileId]? with
      | none => (.profileRemoved, scheduler)
      | some entry =>
        if entry.registrationId ≠ task.registrationId ∨
            entry.profileRevision ≠ task.profileRevision then
          (.staleRevision, scheduler)
        else
          let nextRefreshAtUnixMs := saturatingAdd64 completion.completedAtUnixMs refreshIntervalMs
          (.rescheduled nextRefreshAtUnixMs, { scheduler with
            entries := scheduler.entries.insert task.profileId
              ⟨completion.profileRevision, nextRefreshAtUnixMs, entry.registrationId⟩ })

end ProfileRefreshScheduler

end Ratash

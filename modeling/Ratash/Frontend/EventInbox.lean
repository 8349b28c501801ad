import Mathlib.Data.List.Perm.Basic
import Mathlib.Logic.Function.Basic
import Ratash.Domain

namespace Ratash

def eventSourceCapacity : Nat := 256

inductive EventSource where
  | terminal
  | commandResult
  | deadline
  | telemetry
deriving DecidableEq

/-- A `UiEvent`, as far as the inbox looks at it. -/
inductive UiEvent (ε : Type) where
  | shutdown
  | statusSnapshot (event : ε)
  | other (event : ε)
deriving DecidableEq

def UiEvent.isShutdown : UiEvent ε → Bool
  | .shutdown => true
  | _ => false

def UiEvent.isStatusSnapshot : UiEvent ε → Bool
  | .statusSnapshot _ => true
  | _ => false

inductive EventInboxError where
  | invalidCapacity
  | invalidBudget
deriving DecidableEq

/-- What `FairEventInbox::new` accepts. -/
structure EventLimits where
  capacityPerSource : Nat
  budgets : EventSource → Nat
  capacity_pos : 0 < capacityPerSource
  budgets_pos : ∀ source, 0 < budgets source

structure FairEventInbox (ε : Type) extends EventLimits where
  shutdown : Option (UiEvent ε) := none
  queues : EventSource → List (UiEvent ε) := fun _ => []
  dropped : EventSource → UInt64 := fun _ => 0

def replaceLast (p : α → Bool) (f : α → α) : List α → Option (List α)
  | [] => none
  | x :: xs =>
    match replaceLast p f xs with
    | some ys => some (x :: ys)
    | none => if p x then some (f x :: xs) else none

namespace FairEventInbox

def new (capacityPerSource : Nat) (budgets : EventSource → Nat) :
    Except EventInboxError (FairEventInbox ε) :=
  if hcapacity : 0 < capacityPerSource then
    if hbudgets : 0 < budgets .terminal ∧ 0 < budgets .commandResult ∧ 0 < budgets .deadline ∧
        0 < budgets .telemetry then
      .ok { capacityPerSource, budgets, capacity_pos := hcapacity,
            budgets_pos := fun source => by cases source <;> simp [hbudgets] }
    else .error .invalidBudget
  else .error .invalidCapacity

def coalesces (source : EventSource) (event : UiEvent ε) : Bool :=
  source = .telemetry && event.isStatusSnapshot

/-- A queue with one event more, and whether its oldest event had to go. -/
def enqueue (capacity : Nat) (coalesces : Bool) (event : UiEvent ε) (queue : List (UiEvent ε)) :
    List (UiEvent ε) × Bool :=
  match if coalesces then replaceLast UiEvent.isStatusSnapshot (fun _ => event) queue else none with
  | some queue => (queue, false)
  | none =>
    if queue.length = capacity then (queue.tail ++ [event], true) else (queue ++ [event], false)

def push (source : EventSource) (event : UiEvent ε) (inbox : FairEventInbox ε) :
    FairEventInbox ε :=
  if event.isShutdown then { inbox with shutdown := some event }
  else
    let (queue, full) := enqueue inbox.capacityPerSource (coalesces source event) event
      (inbox.queues source)
    { inbox with
      queues := Function.update inbox.queues source queue
      dropped := Function.update inbox.dropped source
        (if full then saturatingAdd64 (inbox.dropped source) 1 else inbox.dropped source) }

def roundOrder : List EventSource := [.terminal, .telemetry, .commandResult, .deadline]

def drainRound (inbox : FairEventInbox ε) : List (UiEvent ε) × FairEventInbox ε :=
  match inbox.shutdown with
  | some event => ([event], { inbox with shutdown := none })
  | none =>
    (roundOrder.flatMap fun source => (inbox.queues source).take (inbox.budgets source),
      { inbox with queues := fun source => (inbox.queues source).drop (inbox.budgets source) })

end FairEventInbox

/-- A place in a queue: the event that took it and those that replaced it. -/
structure Entry (ε : Type) where
  first : UiEvent ε
  later : List (UiEvent ε) := []

namespace Entry

def events (entry : Entry ε) : List (UiEvent ε) := entry.first :: entry.later

def current (entry : Entry ε) : UiEvent ε := entry.later.getLast?.getD entry.first

def replace (event : UiEvent ε) (entry : Entry ε) : Entry ε :=
  { entry with later := entry.later ++ [event] }

@[simp] theorem current_replace (event : UiEvent ε) (entry : Entry ε) :
    (entry.replace event).current = event := by
  simp [current, replace]

theorem events_replace (event : UiEvent ε) (entry : Entry ε) :
    (entry.replace event).events = entry.events ++ [event] := rfl

end Entry

/-- The places in the order in which they were taken: those that are gone, with whether they were
delivered, and those in the queue. -/
structure Ledger (ε : Type) where
  departed : List (Entry ε × Bool) := []
  waiting : List (Entry ε) := []

namespace Ledger

variable {ledger : Ledger ε}

def entries (ledger : Ledger ε) : List (Entry ε) := ledger.departed.map (·.1) ++ ledger.waiting

def delivered (ledger : Ledger ε) : List (UiEvent ε) :=
  (ledger.departed.filter (·.2)).map (·.1.current)

def dropped (ledger : Ledger ε) : Nat := ledger.departed.countP (! ·.2)

def push (capacity : Nat) (coalesces : Bool) (event : UiEvent ε) (ledger : Ledger ε) : Ledger ε :=
  match if coalesces then replaceLast (·.current.isStatusSnapshot) (·.replace event) ledger.waiting
      else none with
  | some waiting => { ledger with waiting }
  | none =>
    if ledger.waiting.length = capacity then
      ⟨ledger.departed ++ (ledger.waiting.take 1).map (·, false),
        ledger.waiting.drop 1 ++ [⟨event, []⟩]⟩
    else { ledger with waiting := ledger.waiting ++ [⟨event, []⟩] }

def round (budget : Nat) (ledger : Ledger ε) : Ledger ε :=
  ⟨ledger.departed ++ (ledger.waiting.take budget).map (·, true), ledger.waiting.drop budget⟩

/-- Every event that was pushed has one place, the places are taken in the order of the pushes, and
only what coalesces shares one. -/
structure Accounts (coalesces : UiEvent ε → Bool) (pushed : List (UiEvent ε))
    (ledger : Ledger ε) : Prop where
  conserved : pushed.Perm (ledger.entries.flatMap Entry.events)
  opened : List.Sublist (ledger.entries.map Entry.first) pushed
  ordered : ∀ entry ∈ ledger.entries, List.Sublist entry.events pushed
  shared : ∀ entry ∈ ledger.entries, entry.later ≠ [] →
    ∀ event ∈ entry.events, coalesces event = true

end Ledger

theorem replaceLast_eq_some (h : replaceLast p f xs = some ys) :
    ∃ before x behind, xs = before ++ x :: behind ∧ p x = true ∧ ys = before ++ f x :: behind := by
  induction xs generalizing ys with
  | nil => cases h
  | cons x xs ih =>
    unfold replaceLast at h
    split at h
    · rename_i zs hzs
      cases h
      obtain ⟨before, y, behind, rfl, hy, rfl⟩ := ih hzs
      exact ⟨x :: before, y, behind, rfl, hy, rfl⟩
    · split at h
      · rename_i hx
        cases h
        exact ⟨[], x, xs, rfl, hx, rfl⟩
      · cases h

theorem replaceLast_map {g : α → β} (hp : ∀ x, p (g x) = q x) (hf : ∀ x, f (g x) = g (k x))
    (xs : List α) : replaceLast p f (xs.map g) = (replaceLast q k xs).map (·.map g) := by
  induction xs with
  | nil => rfl
  | cons x xs ih =>
    simp only [List.map_cons, replaceLast, ih, hp, hf]
    cases replaceLast q k xs with
    | some ys => rfl
    | none =>
      simp only [Option.map_none]
      split <;> rfl

namespace Ledger

variable {ledger : Ledger ε} {coalesces : UiEvent ε → Bool} {pushed : List (UiEvent ε)}
  {event : UiEvent ε}

theorem push_cases (ledger : Ledger ε) (capacity : Nat) (coalesces : Bool) (event : UiEvent ε) :
    (∃ before entry behind, coalesces = true ∧ entry.current.isStatusSnapshot = true ∧
      ledger.entries = ledger.departed.map (·.1) ++ before ++ entry :: behind ∧
      (ledger.push capacity coalesces event).entries =
        ledger.departed.map (·.1) ++ before ++ entry.replace event :: behind) ∨
    (ledger.push capacity coalesces event).entries = ledger.entries ++ [⟨event, []⟩] := by
  unfold push
  split
  · rename_i waiting hwaiting
    split at hwaiting
    · rename_i hcoalesces
      obtain ⟨before, entry, behind, hbefore, hentry, rfl⟩ := replaceLast_eq_some hwaiting
      refine .inl ⟨before, entry, behind, hcoalesces, hentry, ?_, ?_⟩
      · rw [entries, hbefore, List.append_assoc]
      · rw [entries, List.append_assoc]
    · cases hwaiting
  · right
    split
    · simp only [entries, List.map_append, List.map_map, Function.comp_def, List.map_id',
        List.append_assoc]
      rw [← List.append_assoc (List.take 1 _), List.take_append_drop]
    · exact (List.append_assoc ..).symm

theorem Accounts.push (h : ledger.Accounts coalesces pushed) (capacity : Nat)
    (hcoalesces : coalesces event = true → ∀ x : UiEvent ε, x.isStatusSnapshot = true →
      coalesces x = true) :
    (ledger.push capacity (coalesces event) event).Accounts coalesces (pushed ++ [event]) := by
  have hleft : List.Sublist pushed (pushed ++ [event]) := List.sublist_append_left ..
  rcases ledger.push_cases capacity (coalesces event) event with
    ⟨before, entry, behind, hevent, hentry, hbefore, hafter⟩ | hafter
  · obtain ⟨hconserved, hopened, hordered, hshared⟩ := h
    rw [hbefore] at hconserved hopened hordered hshared
    have hmem : entry ∈ ledger.departed.map (·.1) ++ before ++ entry :: behind := by simp
    refine ⟨?_, ?_, fun x hx => ?_, fun x hx hlater => ?_⟩
    · rw [hafter]
      simp only [List.flatMap_append, List.flatMap_cons] at hconserved ⊢
      refine (hconserved.append_right [event]).trans ?_
      rw [List.append_assoc]
      apply List.Perm.append_left
      rw [Entry.events_replace, List.append_assoc, List.append_assoc]
      exact List.Perm.append_left _ List.perm_append_comm
    · rw [hafter]
      simpa [Entry.replace] using hopened.trans hleft
    · rw [hafter, List.mem_append, List.mem_cons] at hx
      rcases hx with hx | rfl | hx
      · exact (hordered x (List.mem_append_left _ hx)).trans hleft
      · exact (hordered entry hmem).append (List.Sublist.refl [event])
      · exact (hordered x (List.mem_append_right _ (List.mem_cons_of_mem _ hx))).trans hleft
    · rw [hafter, List.mem_append, List.mem_cons] at hx
      rcases hx with hx | rfl | hx
      · exact hshared x (List.mem_append_left _ hx) hlater
      · intro e he
        rw [Entry.events_replace, List.mem_append] at he
        rcases he with he | he
        · by_cases hfirst : entry.later = []
          · have hcurrent : entry.current = e := by simp_all [Entry.events, Entry.current]
            exact hcoalesces hevent e (hcurrent ▸ hentry)
          · exact hshared entry hmem hfirst e he
        · exact List.mem_singleton.1 he ▸ hevent
      · exact hshared x (List.mem_append_right _ (List.mem_cons_of_mem _ hx)) hlater
  · refine ⟨?_, ?_, fun x hx => ?_, fun x hx hlater => ?_⟩
    · rw [hafter, List.flatMap_append]
      exact h.conserved.append_right _
    · rw [hafter, List.map_append]
      exact h.opened.append (List.Sublist.refl _)
    · rw [hafter, List.mem_append, List.mem_singleton] at hx
      rcases hx with hx | rfl
      · exact (h.ordered x hx).trans hleft
      · exact List.sublist_append_right ..
    · rw [hafter, List.mem_append, List.mem_singleton] at hx
      rcases hx with hx | rfl
      · exact h.shared x hx hlater
      · exact absurd rfl hlater

theorem entries_round (ledger : Ledger ε) (budget : Nat) :
    (ledger.round budget).entries = ledger.entries := by
  simp only [entries, round, List.map_append, List.map_map, Function.comp_def, List.map_id',
    List.append_assoc, List.take_append_drop]

theorem dropped_round (ledger : Ledger ε) (budget : Nat) :
    (ledger.round budget).dropped = ledger.dropped := by
  have hnone : List.countP (! ·.2) ((ledger.waiting.take budget).map (·, true)) = 0 := by
    rw [List.countP_map]
    exact List.countP_eq_zero.2 (by simp)
  rw [dropped, round, List.countP_append, hnone]
  rfl

theorem delivered_round (ledger : Ledger ε) (budget : Nat) : (ledger.round budget).delivered =
      ledger.delivered ++ (ledger.waiting.map Entry.current).take budget := by
  have hall : ((ledger.waiting.take budget).map (·, true)).filter (·.2) =
      (ledger.waiting.take budget).map (·, true) := by
    rw [List.filter_map]
    exact congrArg _ (List.filter_eq_self.2 fun _ _ => rfl)
  rw [delivered, round, List.filter_append, hall, List.map_append, List.map_map, List.map_take]
  rfl

theorem delivered_push (ledger : Ledger ε) (capacity : Nat) (coalesces : Bool) (event : UiEvent ε) :
    (ledger.push capacity coalesces event).delivered = ledger.delivered := by
  unfold push
  split
  · rfl
  · split
    · have hnone : ((ledger.waiting.take 1).map (·, false)).filter (·.2) = [] := by
        rw [List.filter_map, List.map_eq_nil_iff]
        exact List.filter_eq_nil_iff.2 fun _ _ => Bool.false_ne_true
      rw [delivered, List.filter_append, hnone, List.append_nil]
      rfl
    · rfl

theorem length_departed_push (ledger : Ledger ε) (capacity : Nat) (coalesces : Bool)
    (event : UiEvent ε) :
    ledger.departed.length ≤ (ledger.push capacity coalesces event).departed.length := by
  unfold push
  split
  · exact Nat.le_refl _
  · split
    · exact List.length_append ▸ Nat.le_add_right ..
    · exact Nat.le_refl _

theorem length_entries_push (ledger : Ledger ε) (capacity : Nat) (coalesces : Bool)
    (event : UiEvent ε) :
    ledger.entries.length ≤ (ledger.push capacity coalesces event).entries.length := by
  rcases ledger.push_cases capacity coalesces event with
    ⟨before, entry, behind, _, _, hbefore, hafter⟩ | hafter
  · rw [hbefore, hafter]
    simp
  · rw [hafter]
    simp

end Ledger

inductive InboxCall (ε : Type) where
  | push (source : EventSource) (event : UiEvent ε)
  | drainRound

/-- The inbox beside its ledgers; `rounds` are those without a shutdown. -/
structure InboxRun (ε : Type) where
  inbox : FairEventInbox ε
  pushed : EventSource → List (UiEvent ε) := fun _ => []
  ledgers : EventSource → Ledger ε := fun _ => {}
  rounds : Nat := 0

namespace InboxRun

open FairEventInbox

variable {run : InboxRun ε}

def start (limits : EventLimits) : InboxRun ε := { inbox := { limits with } }

def step (run : InboxRun ε) : InboxCall ε → InboxRun ε
  | .push source event =>
    if event.isShutdown then { run with inbox := run.inbox.push source event }
    else
      { run with
        inbox := run.inbox.push source event
        pushed := Function.update run.pushed source (run.pushed source ++ [event])
        ledgers := Function.update run.ledgers source
          ((run.ledgers source).push run.inbox.capacityPerSource (coalesces source event) event) }
  | .drainRound =>
    match run.inbox.shutdown with
    | some _ => { run with inbox := run.inbox.drainRound.2 }
    | none =>
      { run with
        inbox := run.inbox.drainRound.2
        ledgers := fun source => (run.ledgers source).round (run.inbox.budgets source)
        rounds := run.rounds + 1 }

structure Mirrored (run : InboxRun ε) (source : EventSource) : Prop where
  accounts : (run.ledgers source).Accounts (coalesces source) (run.pushed source)
  queue : run.inbox.queues source = (run.ledgers source).waiting.map Entry.current
  dropped : (run.inbox.dropped source).toNat =
    min (run.ledgers source).dropped (UInt64.size - 1)
  length_le : (run.inbox.queues source).length ≤ run.inbox.capacityPerSource

theorem enqueue_waiting (ledger : Ledger ε) (hcapacity : 0 < capacity) (coalesces : Bool)
    (event : UiEvent ε) : (enqueue capacity coalesces event (ledger.waiting.map Entry.current)).1 =
      (ledger.push capacity coalesces event).waiting.map Entry.current ∧
    (ledger.push capacity coalesces event).dropped = ledger.dropped +
      (enqueue capacity coalesces event (ledger.waiting.map Entry.current)).2.toNat := by
  have hreplaced : (if coalesces then replaceLast UiEvent.isStatusSnapshot (fun _ => event)
      (ledger.waiting.map Entry.current) else none) =
      (if coalesces then replaceLast (·.current.isStatusSnapshot) (·.replace event) ledger.waiting
        else none).map (·.map Entry.current) := by
    split
    · exact replaceLast_map (fun _ => rfl) (fun _ => (Entry.current_replace ..).symm) _
    · rfl
  unfold enqueue Ledger.push
  rw [hreplaced, List.length_map]
  generalize (if coalesces then replaceLast (·.current.isStatusSnapshot) (·.replace event)
    ledger.waiting else none) = replaced
  cases replaced with
  | some waiting => exact ⟨rfl, rfl⟩
  | none =>
    simp only [Option.map_none]
    split
    · rename_i hfull
      cases hwaiting : ledger.waiting with
      | nil => exact absurd (hfull.symm.trans (congrArg _ hwaiting)) (Nat.ne_of_gt hcapacity)
      | cons entry waiting => simp [Ledger.dropped, Entry.current]
    · simp [Ledger.dropped, Entry.current]

theorem length_enqueue_le (hcapacity : 0 < capacity) (h : queue.length ≤ capacity)
    (coalesces : Bool) (event : UiEvent ε) :
    (enqueue capacity coalesces event queue).1.length ≤ capacity := by
  unfold enqueue
  split
  · rename_i replaced hreplaced
    split at hreplaced
    · obtain ⟨before, x, behind, rfl, _, rfl⟩ := replaceLast_eq_some hreplaced
      simpa using h
    · cases hreplaced
  · split
    · simp only [List.length_append, List.length_tail, List.length_singleton]
      omega
    · simp only [List.length_append, List.length_singleton]
      omega

theorem Mirrored.push (h : run.Mirrored source) (pushedTo : EventSource) (event : UiEvent ε) :
    (run.step (.push pushedTo event)).Mirrored source := by
  cases hshutdown : event.isShutdown with
  | true =>
    simp only [step, FairEventInbox.push, hshutdown, if_true]
    exact ⟨h.accounts, h.queue, h.dropped, h.length_le⟩
  | false =>
  simp only [step, FairEventInbox.push, hshutdown, Bool.false_eq_true, if_false]
  by_cases hsource : source = pushedTo
  · subst hsource
    have hwaiting := enqueue_waiting (run.ledgers source) run.inbox.capacity_pos
      (coalesces source event) event
    rw [← h.queue] at hwaiting
    refine ⟨?_, ?_, ?_, ?_⟩
    · simp only [Function.update_self]
      apply h.accounts.push
      intro hevent x hx
      simp_all [coalesces]
    · simp only [Function.update_self]
      exact hwaiting.1
    · simp only [Function.update_self, hwaiting.2]
      have hdropped := h.dropped
      cases (enqueue run.inbox.capacityPerSource (coalesces source event) event
        (run.inbox.queues source)).2 with
      | true =>
        rw [if_pos rfl, toNat_saturatingAdd64, hdropped, UInt64.toNat_one, Bool.toNat_true]
        omega
      | false => exact hdropped
    · simp only [Function.update_self]
      exact length_enqueue_le run.inbox.capacity_pos h.length_le ..
  · constructor
    all_goals simp only [Function.update_of_ne hsource]
    · exact h.accounts
    · exact h.queue
    · exact h.dropped
    · exact h.length_le

theorem Mirrored.drainRound (h : run.Mirrored source) : (run.step .drainRound).Mirrored source := by
  cases hshutdown : run.inbox.shutdown with
  | some event =>
    simp only [step, FairEventInbox.drainRound, hshutdown]
    exact ⟨h.accounts, h.queue, h.dropped, h.length_le⟩
  | none =>
    simp only [step, FairEventInbox.drainRound, hshutdown]
    refine ⟨?_, ?_, ?_, ?_⟩
    · obtain ⟨hconserved, hopened, hordered, hshared⟩ := h.accounts
      rw [← (run.ledgers source).entries_round (run.inbox.budgets source)] at *
      exact ⟨hconserved, hopened, hordered, hshared⟩
    · simp only [h.queue, Ledger.round, List.map_drop]
    · rw [Ledger.dropped_round]
      exact h.dropped
    · rw [List.length_drop]
      exact Nat.le_trans (Nat.sub_le ..) h.length_le

structure Progress (source : EventSource) (run run' : InboxRun ε) : Prop where
  limits : run'.inbox.toEventLimits = run.inbox.toEventLimits
  entries_le : (run.ledgers source).entries.length ≤ (run'.ledgers source).entries.length
  rounds : ∃ k, run'.rounds = run.rounds + k ∧
    min (run.ledgers source).entries.length
      ((run.ledgers source).departed.length + k * run.inbox.budgets source) ≤
        (run'.ledgers source).departed.length

theorem Progress.refl (source : EventSource) (run : InboxRun ε) : Progress source run run :=
  ⟨rfl, Nat.le_refl _, 0, rfl, by simp only [Nat.zero_mul, Nat.add_zero, Nat.min_le_right]⟩

theorem Progress.trans {run' run'' : InboxRun ε} (h : Progress source run run')
    (h' : Progress source run' run'') : Progress source run run'' := by
  obtain ⟨k, hk, hdeparted⟩ := h.rounds
  obtain ⟨k', hk', hdeparted'⟩ := h'.rounds
  refine ⟨h'.limits.trans h.limits, Nat.le_trans h.entries_le h'.entries_le, k + k', by omega, ?_⟩
  have hentries := h.entries_le
  rw [h.limits] at hdeparted'
  rw [Nat.add_mul]
  omega

theorem progress_step (run : InboxRun ε) (call : InboxCall ε) (source : EventSource) :
    Progress source run (run.step call) := by
  have hstay := Progress.refl source run
  cases call with
  | push pushedTo event =>
    cases hshutdown : event.isShutdown with
    | true =>
      simp only [step, FairEventInbox.push, hshutdown, if_true]
      exact ⟨rfl, hstay.entries_le, hstay.rounds⟩
    | false =>
      simp only [step, FairEventInbox.push, hshutdown, Bool.false_eq_true, if_false]
      by_cases hsource : source = pushedTo
      · subst hsource
        refine ⟨rfl, ?_, 0, rfl, ?_⟩
        · simp only [Function.update_self]
          exact Ledger.length_entries_push ..
        · simp only [Function.update_self, Nat.zero_mul, Nat.add_zero]
          exact Nat.le_trans (Nat.min_le_right ..) (Ledger.length_departed_push ..)
      · refine ⟨rfl, ?_, 0, rfl, ?_⟩
        · simp only [Function.update_of_ne hsource, Nat.le_refl]
        · simp only [Function.update_of_ne hsource, Nat.zero_mul, Nat.add_zero]
          exact Nat.min_le_right ..
  | drainRound =>
    cases hshutdown : run.inbox.shutdown with
    | some event =>
      simp only [step, FairEventInbox.drainRound, hshutdown]
      exact ⟨rfl, hstay.entries_le, hstay.rounds⟩
    | none =>
      simp only [step, FairEventInbox.drainRound, hshutdown]
      refine ⟨rfl, ?_, 1, rfl, ?_⟩
      · exact Nat.le_of_eq (congrArg _ (Ledger.entries_round ..).symm)
      · simp only [Ledger.entries, Ledger.round, List.length_append, List.length_map,
          List.length_take, Nat.one_mul]
        omega

theorem progress_run (run : InboxRun ε) (calls : List (InboxCall ε)) (source : EventSource) :
    Progress source run (calls.foldl step run) := by
  induction calls generalizing run with
  | nil => exact .refl source run
  | cons call calls ih => exact (run.progress_step call source).trans (ih _)

structure Fair (run : InboxRun ε) : Prop where
  mirrored : ∀ source, run.Mirrored source
  delivers : run.inbox.shutdown = none →
    run.inbox.drainRound.1 = roundOrder.flatMap (fun source =>
      (run.inbox.queues source).take (run.inbox.budgets source)) ∧
    ∀ source, ((run.step .drainRound).ledgers source).delivered =
      (run.ledgers source).delivered ++
        (run.inbox.queues source).take (run.inbox.budgets source)
  timely : ∀ source (calls : List (InboxCall ε)) p, p < (run.inbox.queues source).length →
    p + 1 ≤ ((calls.foldl step run).rounds - run.rounds) * run.inbox.budgets source →
    (run.ledgers source).departed.length + p + 1 ≤
      ((calls.foldl step run).ledgers source).departed.length

theorem Mirrored.timely (h : run.Mirrored source) (calls : List (InboxCall ε))
    (hp : p < (run.inbox.queues source).length)
    (hrounds : p + 1 ≤ ((calls.foldl step run).rounds - run.rounds) * run.inbox.budgets source) :
    (run.ledgers source).departed.length + p + 1 ≤
      ((calls.foldl step run).ledgers source).departed.length := by
  obtain ⟨k, hk, hdeparted⟩ := (run.progress_run calls source).rounds
  rw [hk, Nat.add_sub_cancel_left] at hrounds
  rw [h.queue, List.length_map] at hp
  simp only [Ledger.entries, List.length_append, List.length_map] at hdeparted
  omega

theorem mirrored_run (limits : EventLimits) (calls : List (InboxCall ε)) (source : EventSource) :
    (calls.foldl step (start limits)).Mirrored source := by
  generalize hstart : start limits = run
  have hrun : run.Mirrored source := by
    subst hstart
    exact ⟨⟨.refl [], .refl [], fun _ h => absurd h List.not_mem_nil,
      fun _ h => absurd h List.not_mem_nil⟩, rfl, rfl, Nat.zero_le _⟩
  clear hstart
  induction calls generalizing run with
  | nil => exact hrun
  | cons call calls ih =>
    apply ih
    cases call with
    | push pushedTo event => exact hrun.push pushedTo event
    | drainRound => exact hrun.drainRound

/-- In every run every event but a shutdown is delivered once, dropped and counted as long as the
counter can, replaced by a later snapshot, or waiting; it waits no longer than its place says. -/
theorem inbox_conserves (limits : EventLimits) (calls : List (InboxCall ε)) :
    (calls.foldl step (start limits)).Fair := by
  have hmirrored := mirrored_run limits calls
  refine ⟨hmirrored, fun hshutdown => ⟨?_, fun source => ?_⟩, fun source more p hp hrounds => ?_⟩
  · rw [drainRound, hshutdown]
  · simp only [step, hshutdown]
    rw [Ledger.delivered_round, (hmirrored source).queue]
  · exact (hmirrored source).timely more hp hrounds

theorem run_pushes (run : InboxRun Unit) (n : Nat) :
    ((((List.replicate n (.push .terminal (.other ()))).foldl step run).pushed .terminal).length =
      (run.pushed .terminal).length + n) ∧
    (((List.replicate n (.push .terminal (.other ()))).foldl step run).ledgers
      .terminal).delivered = (run.ledgers .terminal).delivered := by
  induction n generalizing run with
  | zero => exact ⟨rfl, rfl⟩
  | succ n ih =>
    rw [List.replicate_succ, List.foldl_cons]
    obtain ⟨hpushed, hdelivered⟩ := ih (run.step (.push .terminal (.other ())))
    rw [hpushed, hdelivered]
    simp only [step, UiEvent.isShutdown, Bool.false_eq_true, if_false, Function.update_self,
      List.length_append, List.length_singleton, Ledger.delivered_push]
    exact ⟨by omega, trivial⟩

def smallestLimits : EventLimits := ⟨1, fun _ => 1, Nat.one_pos, fun _ => Nat.one_pos⟩

/-- After 2⁶⁴ + 1 events that nobody reads, not all that are lost have been counted. -/
theorem inbox_miscounts : ∃ calls : List (InboxCall Unit),
    let run := calls.foldl step (start smallestLimits)
    (run.ledgers .terminal).delivered.length + (run.inbox.queues .terminal).length +
      (run.inbox.dropped .terminal).toNat < (run.pushed .terminal).length := by
  obtain ⟨hpushed, hdelivered⟩ := run_pushes (start smallestLimits) (UInt64.size + 1)
  generalize List.replicate (UInt64.size + 1) (InboxCall.push .terminal (.other ())) = calls
    at hpushed hdelivered
  have hlength := (mirrored_run smallestLimits calls .terminal).length_le
  rw [((start smallestLimits).progress_run calls .terminal).limits] at hlength
  refine ⟨calls, ?_⟩
  generalize calls.foldl step (start smallestLimits) = run at *
  have hcount := (run.inbox.dropped .terminal).toNat_lt
  have hnone : (run.ledgers .terminal).delivered.length = 0 := congrArg List.length hdelivered
  have hcapacity : (run.inbox.queues .terminal).length ≤ 1 := hlength
  have hpushed' : (run.pushed .terminal).length = 0 + (2 ^ 64 + 1) := hpushed
  omega

end InboxRun

end Ratash

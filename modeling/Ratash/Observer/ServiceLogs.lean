import Mathlib.Data.List.TakeWhile
import Ratash.Service.LogCursor

/-!
The observer polls the service, hands the records on to the Supervisor and reports the lines that
were dropped.
-/

namespace Ratash

open Numbered
open ForwardedCoreLog (number bytes)

/-- What `observer_loop` remembers of the service's logs. -/
structure ObserverLogs where
  serviceLogSequence : Option UInt64
  pendingServiceDrops : UInt64
deriving DecidableEq

/-- The answers of the ports in one iteration. -/
structure ObserverPorts (ε : Type) where
  currentCore : Option CoreInstanceGeneration
  recordCoreLogDrop : Except ε Bool
  publishCoreLog : ForwardedCoreLog → Except ε Bool

namespace ObserverPorts

def passes (ports : ObserverPorts ε) (record : ForwardedCoreLog) : Bool :=
  ports.currentCore.all (· ≠ record.instanceGeneration) ||
    match ports.publishCoreLog record with
    | .ok accepted => accepted
    | .error _ => false

/-- The records of a batch up to the first that is refused: the cursor behind them, and whether the
batch was consumed. -/
def forwardRecords (ports : ObserverPorts ε) :
    List ForwardedCoreLog → Option UInt64 → Option UInt64 × Bool
  | [], cursor => (cursor, true)
  | record :: records, cursor =>
    if ports.currentCore.all (· ≠ record.instanceGeneration) then
      ports.forwardRecords records (some record.sequence)
    else match ports.publishCoreLog record with
      | .ok true => ports.forwardRecords records (some record.sequence)
      | .ok false | .error _ => (cursor, false)

def acceptsDrops (ports : ObserverPorts ε) (pending : UInt64) : Bool :=
  pending > 0 && ports.currentCore.isSome &&
    match ports.recordCoreLogDrop with
    | .ok accepted => accepted
    | .error _ => false

end ObserverPorts

namespace ObserverLogs

def initial : ObserverLogs := ⟨none, 0⟩

def pendingWith (logs : ObserverLogs) (batch : ForwardedCoreLogBatch) : UInt64 :=
  saturatingAdd64 logs.pendingServiceDrops batch.droppedSinceAfter

/-- One iteration of `observer_loop`, as far as the service's logs go. -/
def observe (ports : ObserverPorts ε) (batch : ForwardedCoreLogBatch) (logs : ObserverLogs) :
    ObserverLogs :=
  let pending := logs.pendingWith batch
  let (cursor, consumedBatch) := ports.forwardRecords batch.records logs.serviceLogSequence
  { serviceLogSequence := if consumedBatch then batch.nextSequence.or cursor else cursor
    pendingServiceDrops := if ports.acceptsDrops pending then 0 else pending }

end ObserverLogs

/-- The service, the observer, and what it has done: the drops it has reported and the records it
has handed on or left out. -/
structure ObserverSession where
  state : ServiceState
  observer : ObserverLogs
  reported : Nat
  passed : List ForwardedCoreLog

namespace ObserverSession

def start : ObserverSession := ⟨.initial, .initial, 0, []⟩

def observe (ports : ObserverPorts ε) (batch : ForwardedCoreLogBatch) (session : ObserverSession) :
    ObserverSession :=
  let pending := session.observer.pendingWith batch
  { session with
    observer := session.observer.observe ports batch
    reported := session.reported + if ports.acceptsDrops pending then pending.toNat else 0
    passed := session.passed ++ batch.records.takeWhile ports.passes }

/-- The numbers that no record stands for any more, and that the observer has seen no record of. -/
def lost (session : ObserverSession) : Finset Nat :=
  (Finset.Ioo 0 session.state.nextLogSequence.toNat).filter fun n =>
    n ∉ session.state.logs.map number ∧ n ∉ session.passed.map number

end ObserverSession

def ObserverSession.poll (config : PrivilegedServiceConfig) (session : ObserverSession)
    (limit : Nat) : ForwardedCoreLogBatch :=
  session.state.logsAfter config session.observer.serviceLogSequence limit

/-- Lines arrive, the observer goes round once, or the service does something else. An iteration
whose poll fails changes nothing. -/
inductive ObserverStep (config : PrivilegedServiceConfig)
    (Allowed : Option UInt64 → ForwardedCoreLogBatch → ObserverPorts ε → Prop) :
    ObserverSession → ObserverSession → Prop where
  | drain (generation : CoreInstanceGeneration) (batch : CoreProcessLogBatch) :
      ObserverStep config Allowed session
        { session with state := session.state.acceptBatch config generation batch }
  | other {state : ServiceState} (h : session.state.SameLogs state) :
      ObserverStep config Allowed session { session with state }
  | observe (limit : Nat) (ports : ObserverPorts ε)
      (hallowed : Allowed session.observer.serviceLogSequence (session.poll config limit) ports) :
      ObserverStep config Allowed session (session.observe ports (session.poll config limit))

def ObserverRuns (config : PrivilegedServiceConfig)
    (Allowed : Option UInt64 → ForwardedCoreLogBatch → ObserverPorts ε → Prop)
    (session : ObserverSession) : Prop :=
  Relation.ReflTransGen (ObserverStep config Allowed) .start session

/-- The batch is consumed, or every dropped line it reports comes before a record that is. -/
def ObserverPorts.Settles (cursor : Option UInt64) (batch : ForwardedCoreLogBatch)
    (ports : ObserverPorts ε) : Prop :=
  (∀ record ∈ batch.records, ports.passes record = true) ∨
    ∀ n ∈ ServiceState.missingNumbers cursor batch,
      ∃ record ∈ batch.records.takeWhile ports.passes, n < number record

theorem forwardRecords_eq (ports : ObserverPorts ε) (records : List ForwardedCoreLog)
    (cursor : Option UInt64) : ports.forwardRecords records cursor =
      (((records.takeWhile ports.passes).getLast?.map (·.sequence)).or cursor,
        records.all ports.passes) := by
  induction records generalizing cursor with
  | nil => rfl
  | cons record records ih =>
    have hlast : ∀ rest : List ForwardedCoreLog,
        ((record :: rest).getLast?.map (·.sequence)).or cursor =
          (rest.getLast?.map (·.sequence)).or (some record.sequence) := by
      intro rest
      rw [List.getLast?_cons]
      cases rest.getLast? <;> rfl
    unfold ObserverPorts.forwardRecords
    rw [List.takeWhile_cons, List.all_cons]
    split
    · rename_i hother
      have hpasses : ports.passes record = true := by
        simp only [ObserverPorts.passes, hother, Bool.true_or]
      rw [if_pos hpasses, hpasses, Bool.true_and, hlast, ih]
    · rename_i hcore
      split <;> rename_i hreply
      · have hpasses : ports.passes record = true := by simp [ObserverPorts.passes, hreply]
        rw [if_pos hpasses, hpasses, Bool.true_and, hlast, ih]
      · have hpasses : ports.passes record = false := by simp_all [ObserverPorts.passes]
        rw [hpasses]
        rfl
      · have hpasses : ports.passes record = false := by simp_all [ObserverPorts.passes]
        rw [hpasses]
        rfl

theorem reported_observe_le (ports : ObserverPorts ε) (logs : ObserverLogs)
    (batch : ForwardedCoreLogBatch) :
    (if ports.acceptsDrops (logs.pendingWith batch) then (logs.pendingWith batch).toNat else 0) +
        (logs.observe ports batch).pendingServiceDrops.toNat ≤
      logs.pendingServiceDrops.toNat + batch.droppedSinceAfter.toNat := by
  have hle : (logs.pendingWith batch).toNat ≤
      logs.pendingServiceDrops.toNat + batch.droppedSinceAfter.toNat := by
    rw [ObserverLogs.pendingWith, toNat_saturatingAdd64]
    exact Nat.min_le_left ..
  unfold ObserverLogs.observe
  simp only
  split
  · exact hle
  · exact (Nat.zero_add _).trans_le hle

section

variable (ports : ObserverPorts ε) {logs : ObserverLogs} {batch : ForwardedCoreLogBatch}
  {state : ServiceState} (h : state.Polled logs.serviceLogSequence batch)

include h

theorem position_observe :
    position (logs.observe ports batch).serviceLogSequence =
      if batch.records.all ports.passes then position batch.nextSequence
      else reached number (position logs.serviceLogSequence)
        (batch.records.takeWhile ports.passes) := by
  unfold ObserverLogs.observe
  rw [forwardRecords_eq]
  simp only
  split
  · cases hnext : batch.nextSequence with
    | some n => rfl
    | none =>
      have hle : position logs.serviceLogSequence ≤ 0 := by simpa [hnext] using h.le_next
      have hnil : batch.records = [] := by
        apply List.eq_nil_iff_forall_not_mem.2
        intro record hrecord
        have hwithin := h.within record hrecord
        have hlt := (mem_after.1 (h.mem_records hrecord)).2
        rw [hnext, position_none] at hwithin
        omega
      rw [hnil]
      exact Nat.le_zero.1 hle
  · exact ServiceState.position_page ..

theorem passed_page (hkept : state.LogsKept config)
    :
    after number (position logs.serviceLogSequence) state.logs =
      batch.records.takeWhile ports.passes ++
        after number (position (logs.observe ports batch).serviceLogSequence) state.logs := by
  rw [position_observe ports h]
  split
  · rename_i hall
    have hwhole : batch.records.takeWhile ports.passes = batch.records :=
      List.takeWhile_eq_self_iff.2 (by simpa using hall)
    rw [hwhole, ← h.rest]
  · apply after_eq_append hkept.ascending
    rw [h.rest]
    exact (List.takeWhile_prefix _).trans (List.prefix_append ..)

theorem le_position_observe :
    position logs.serviceLogSequence ≤ position (logs.observe ports batch).serviceLogSequence := by
  rw [position_observe ports h]
  split
  · exact h.le_next
  · apply le_reached
    intro record hrecord
    exact (mem_after.1 (h.mem_records (List.takeWhile_subset _ hrecord))).2

theorem position_observe_le :
    position (logs.observe ports batch).serviceLogSequence ≤ position batch.nextSequence := by
  rw [position_observe ports h]
  split
  · exact Nat.le_refl _
  · apply reached_le _ h.le_next
    exact fun record hrecord => h.within record (List.takeWhile_subset _ hrecord)

theorem passed_le_position_observe (hkept : state.LogsKept config)
    (hrecord : record ∈ batch.records.takeWhile ports.passes) :
    number record ≤ position (logs.observe ports batch).serviceLogSequence := by
  rw [position_observe ports h]
  split
  · exact h.within record (List.takeWhile_subset _ hrecord)
  · have hasc := (h.ascending_records hkept).sublist (List.takeWhile_sublist ports.passes)
    exact hasc.le_reached hrecord

theorem missing_le_of_settles (hkept : state.LogsKept config)
    (hsettles : ports.Settles logs.serviceLogSequence batch)
    (hn : n ∈ ServiceState.missingNumbers logs.serviceLogSequence batch) :
    n ≤ position (logs.observe ports batch).serviceLogSequence := by
  rcases hsettles with hpasses | hbefore
  · rw [position_observe ports h, if_pos (List.all_eq_true.2 hpasses)]
    exact (Finset.mem_Ioc.1 (Finset.mem_filter.1 hn).1).2
  · obtain ⟨record, hrecord, hlt⟩ := hbefore n hn
    exact hlt.le.trans (passed_le_position_observe ports h hkept hrecord)

end

namespace ObserverSession

structure Sound (config : PrivilegedServiceConfig) (session : ObserverSession) : Prop where
  kept : session.state.LogsKept config
  cursor_lt : position session.observer.serviceLogSequence < session.state.nextLogSequence.toNat
  passed_le : ∀ record ∈ session.passed,
    number record ≤ position session.observer.serviceLogSequence
  seen : ∀ record ∈ session.state.logs,
    number record ≤ position session.observer.serviceLogSequence → record ∈ session.passed

def skipped (session : ObserverSession) : Finset Nat :=
  (Finset.Ioc 0 (position session.observer.serviceLogSequence)).filter fun n =>
    n ∉ session.passed.map number

theorem mem_skipped : n ∈ skipped session ↔
    0 < n ∧ n ≤ position session.observer.serviceLogSequence ∧ n ∉ session.passed.map number := by
  rw [skipped, Finset.mem_filter, Finset.mem_Ioc, and_assoc]

namespace Sound

theorem start : Sound config .start where
  kept := ServiceState.logsKept_initial
  cursor_lt := Nat.one_pos
  passed_le := nofun
  seen := nofun

theorem later {s : ServiceState} (h : Sound config session) (hkept : s.LogsKept config)
    (hlater : session.state.LogsLater s) : Sound config { session with state := s } :=
  { h with
    kept := hkept
    cursor_lt := h.cursor_lt.trans_le hlater.next_le
    seen := by
      intro record hrecord hle
      rcases hlater.old_or_new record hrecord with hold | hnew
      · exact h.seen record hold hle
      · exact absurd (hnew.trans hle) (Nat.not_le.2 h.cursor_lt) }

theorem polled (h : Sound config session) (limit : Nat) :
    session.state.Polled session.observer.serviceLogSequence (session.poll config limit) :=
  ServiceState.logsAfter_polled h.kept h.cursor_lt limit

theorem observe (h : Sound config session) (limit : Nat) (ports : ObserverPorts ε) :
    Sound config (session.observe ports (session.poll config limit)) := by
  have hpolled := h.polled limit
  refine ⟨h.kept, (position_observe_le ports hpolled).trans_lt hpolled.next_lt, ?_, ?_⟩
  · intro record hrecord
    rcases List.mem_append.1 hrecord with hold | hnew
    · exact (h.passed_le record hold).trans (le_position_observe ports hpolled)
    · exact passed_le_position_observe ports hpolled h.kept hnew
  · intro record hrecord hle
    by_cases hold : number record ≤ position session.observer.serviceLogSequence
    · exact List.mem_append_left _ (h.seen record hrecord hold)
    · have hmem := passed_page ports hpolled h.kept ▸ mem_after.2 ⟨hrecord, Nat.not_le.1 hold⟩
      rcases List.mem_append.1 hmem with hin | hrest
      · exact List.mem_append_right _ hin
      · exact absurd (mem_after.1 hrest).2 (Nat.not_lt.2 hle)

theorem skipped_subset_lost (h : Sound config session) : session.skipped ⊆ session.lost := by
  intro n hn
  obtain ⟨hpos, hle, hnot⟩ := mem_skipped.1 hn
  refine Finset.mem_filter.2 ⟨Finset.mem_Ioo.2 ⟨hpos, hle.trans_lt h.cursor_lt⟩, ?_, hnot⟩
  intro hretained
  obtain ⟨record, hrecord, rfl⟩ := List.mem_map.1 hretained
  exact hnot (List.mem_map_of_mem (h.seen record hrecord hle))

theorem not_mem_passed_observe {session : ObserverSession} {batch : ForwardedCoreLogBatch}
    (hpassed : n ∉ session.passed.map number) (hrecords : n ∉ batch.records.map number) :
    n ∉ (session.observe ports batch).passed.map number := by
  intro hmem
  obtain ⟨record, hrecord, rfl⟩ := List.mem_map.1 hmem
  rcases List.mem_append.1 hrecord with hold | hnew
  · exact hpassed (List.mem_map_of_mem hold)
  · exact hrecords (List.mem_map_of_mem (List.takeWhile_subset _ hnew))

theorem card_skipped_observe (h : Sound config session) (limit : Nat) (ports : ObserverPorts ε)
    (hsettles : ports.Settles session.observer.serviceLogSequence (session.poll config limit)) :
    session.skipped.card + (session.poll config limit).droppedSinceAfter.toNat ≤
      (session.observe ports (session.poll config limit)).skipped.card := by
  have hpolled := h.polled limit
  have hbehind : ∀ n ∈ session.skipped, n ∉ (session.poll config limit).records.map number := by
    intro n hn hmem
    obtain ⟨record, hrecord, rfl⟩ := List.mem_map.1 hmem
    have hlt := (mem_after.1 (hpolled.mem_records hrecord)).2
    exact absurd (mem_skipped.1 hn).2.1 (Nat.not_le.2 hlt)
  have hrange : ∀ n ∈ ServiceState.missingNumbers session.observer.serviceLogSequence
      (session.poll config limit), position session.observer.serviceLogSequence < n :=
    fun n hn => (Finset.mem_Ioc.1 (Finset.mem_filter.1 hn).1).1
  rw [hpolled.dropped_eq_card h.kept, ← Finset.card_union_of_disjoint]
  · apply Finset.card_le_card
    intro n hn
    rcases Finset.mem_union.1 hn with hold | hnew
    · obtain ⟨hpos, hle, hnot⟩ := mem_skipped.1 hold
      exact mem_skipped.2 ⟨hpos, hle.trans (le_position_observe ports hpolled),
        not_mem_passed_observe hnot (hbehind n hold)⟩
    · have hnot : n ∉ session.passed.map number := by
        intro hmem
        obtain ⟨record, hrecord, rfl⟩ := List.mem_map.1 hmem
        exact absurd (h.passed_le record hrecord) (Nat.not_le.2 (hrange _ hnew))
      exact mem_skipped.2 ⟨Nat.zero_lt_of_lt (hrange n hnew),
        missing_le_of_settles ports hpolled h.kept hsettles hnew,
        not_mem_passed_observe hnot (Finset.mem_filter.1 hnew).2⟩
  · apply Finset.disjoint_left.2
    intro n hskipped hmissing
    exact absurd (mem_skipped.1 hskipped).2.1 (Nat.not_le.2 (hrange n hmissing))

end Sound

def Counted (session : ObserverSession) : Prop :=
  session.reported + session.observer.pendingServiceDrops.toNat ≤ session.skipped.card

theorem Counted.observe (h : Counted session) (hsound : Sound config session) (limit : Nat)
    (ports : ObserverPorts ε)
    (hsettles : ports.Settles session.observer.serviceLogSequence (session.poll config limit)) :
    Counted (session.observe ports (session.poll config limit)) := by
  have hreported := reported_observe_le ports session.observer (session.poll config limit)
  calc (session.observe ports (session.poll config limit)).reported + _
      ≤ session.reported + (session.observer.pendingServiceDrops.toNat +
          (session.poll config limit).droppedSinceAfter.toNat) := by
        rw [ObserverSession.observe, Nat.add_assoc]
        exact Nat.add_le_add_left hreported _
    _ ≤ session.skipped.card + (session.poll config limit).droppedSinceAfter.toNat := by
        rw [← Nat.add_assoc]
        exact Nat.add_le_add_right h _
    _ ≤ _ := hsound.card_skipped_observe limit ports hsettles

theorem Sound.step (h : Sound config session)
    (hstep : ObserverStep config Allowed session session') : Sound config session' := by
  cases hstep with
  | drain generation batch => exact h.later h.kept.acceptBatch ServiceState.acceptBatch_later
  | other hsame => exact h.later (h.kept.same hsame) (.of_same hsame)
  | observe limit ports hallowed => exact h.observe limit ports

theorem Sound.run (hrun : ObserverRuns config Allowed session) : Sound config session := by
  induction hrun with
  | refl => exact start
  | tail _ hstep ih => exact ih.step hstep

theorem Counted.run (hrun : ObserverRuns config
    (fun cursor batch (ports : ObserverPorts ε) => ports.Settles cursor batch) session) :
    Counted session := by
  induction hrun with
  | refl => exact Nat.zero_le _
  | tail hrun hstep ih =>
    cases hstep with
    | drain generation batch => exact ih
    | other hsame => exact ih
    | observe limit ports hsettles => exact ih.observe (.run hrun) limit ports hsettles

end ObserverSession

/-- Where every batch is settled, each lost line is counted at most once. -/
theorem observer_drops_at_most_lost (hrun : ObserverRuns config
    (fun cursor batch (ports : ObserverPorts ε) => ports.Settles cursor batch) session) :
    session.reported + session.observer.pendingServiceDrops.toNat ≤ session.lost.card :=
  (ObserverSession.Counted.run hrun).trans
    (Finset.card_le_card (ObserverSession.Sound.run hrun).skipped_subset_lost)

def observedConfig : PrivilegedServiceConfig := .productDefaults "control"

/-- The Supervisor has not heard of the Core yet: it takes neither drops nor records. -/
def unreadyPorts : ObserverPorts Unit := ⟨some 1, .ok false, fun _ => .ok false⟩

def fiveDropped : CoreProcessLogBatch := ⟨[⟨0, .stdout, "ready"⟩], 5⟩

def afterDrops : ObserverSession :=
  { ObserverSession.start with
    state := ServiceState.initial.acceptBatch observedConfig 1 fiveDropped }

def observedOnce : ObserverSession :=
  afterDrops.observe unreadyPorts (afterDrops.poll observedConfig 256)

def observedTwice : ObserverSession :=
  observedOnce.observe unreadyPorts (observedOnce.poll observedConfig 256)

theorem observedTwice_runs :
    ObserverRuns observedConfig (fun _ _ (_ : ObserverPorts Unit) => True) observedTwice :=
  ((Relation.ReflTransGen.single (.drain 1 fiveDropped)).tail
    (.observe 256 unreadyPorts trivial)).tail (.observe 256 unreadyPorts trivial)

/-- Ten lines are pending where five were lost. -/
theorem observer_counts_drops_twice :
    ObserverRuns observedConfig (fun _ _ (_ : ObserverPorts Unit) => True) observedTwice ∧
      observedTwice.lost.card = 5 ∧
      observedTwice.reported + observedTwice.observer.pendingServiceDrops.toNat = 10 :=
  ⟨observedTwice_runs, by decide +kernel, by decide +kernel⟩

def readyPorts : ObserverPorts Unit := ⟨some 1, .ok true, fun _ => .ok true⟩

def observedReady : ObserverSession :=
  afterDrops.observe readyPorts (afterDrops.poll observedConfig 256)

theorem observedReady_runs : ObserverRuns observedConfig
    (fun cursor batch (ports : ObserverPorts Unit) => ports.Settles cursor batch) observedReady :=
  (Relation.ReflTransGen.single (.drain 1 fiveDropped)).tail
    (.observe 256 readyPorts (.inl (by decide +kernel)))

theorem observer_drops_at_most_lost_ready :
    observedReady.reported = 5 ∧ observedReady.lost.card = 5 ∧
      observedReady.reported + observedReady.observer.pendingServiceDrops.toNat ≤
        observedReady.lost.card :=
  ⟨by decide +kernel, by decide +kernel, observer_drops_at_most_lost observedReady_runs⟩

end Ratash

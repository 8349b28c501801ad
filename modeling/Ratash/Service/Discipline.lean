import Ratash.Service.History
import Ratash.Service.Reserve

/-!
`Stores` and `Permits` say when the service may store a state and make a call, in terms of its
memory and its history only. What follows from these rules alone is in this module; that the
operations keep to them is proved afterwards, once.
-/

namespace Ratash

def OwnedCoreState.bare (core : OwnedCoreState) : OwnedCoreState :=
  core.setRecord { core.record with endpointIdentity := none }

def ManagedCoreRecord.Same (record record' : ManagedCoreRecord) : Prop :=
  record'.handle = record.handle ∧ record'.ownedIdentity = record.ownedIdentity

structure ServiceState.Alike (s t : ServiceState) : Prop where
  owner : t.owner = s.owner
  core : t.managedCore.map OwnedCoreState.bare = s.managedCore.map OwnedCoreState.bare
  lastBundle : t.lastBundle = s.lastBundle
  degraded : t.degraded = s.degraded
  failures : t.consecutiveRestartFailures = s.consecutiveRestartFailures
  diagnostic : t.diagnostic = s.diagnostic
  restartDueAt : t.restartDueAt = s.restartDueAt
  restartBackoff : t.restartBackoff = s.restartBackoff

namespace OwnedCoreState

@[simp] theorem record_setRecord (core : OwnedCoreState) (record : ManagedCoreRecord) :
    (core.setRecord record).record = record := by
  cases core <;> rfl

@[simp] theorem isCleanupPending_setRecord (core : OwnedCoreState) (record : ManagedCoreRecord) :
    (core.setRecord record).isCleanupPending = core.isCleanupPending := by
  cases core <;> rfl

theorem ownedIdentity_bare (core : OwnedCoreState) :
    core.bare.record.ownedIdentity = core.record.ownedIdentity := by
  rw [bare, record_setRecord]

theorem isCleanupPending_bare (core : OwnedCoreState) :
    core.bare.isCleanupPending = core.isCleanupPending :=
  isCleanupPending_setRecord ..

theorem handle_active_bare (core : OwnedCoreState) :
    core.bare.active?.map (·.handle) = core.active?.map (·.handle) := by
  cases core <;> rfl

end OwnedCoreState

namespace ServiceState

@[refl] theorem Alike.refl (s : ServiceState) : s.Alike s :=
  ⟨rfl, rfl, rfl, rfl, rfl, rfl, rfl, rfl⟩

theorem Alike.trans {s t u : ServiceState} (hst : s.Alike t) (htu : t.Alike u) : s.Alike u where
  owner := htu.owner.trans hst.owner
  core := htu.core.trans hst.core
  lastBundle := htu.lastBundle.trans hst.lastBundle
  degraded := htu.degraded.trans hst.degraded
  failures := htu.failures.trans hst.failures
  diagnostic := htu.diagnostic.trans hst.diagnostic
  restartDueAt := htu.restartDueAt.trans hst.restartDueAt
  restartBackoff := htu.restartBackoff.trans hst.restartBackoff

def activeHandle (s : ServiceState) : Option ManagedCoreHandle :=
  s.active.map (·.handle)

def Uses (s : ServiceState) (generation : RuntimeGeneration) : Prop :=
  (∃ handle, s.activeHandle = some handle ∧ handle.runtimeGeneration = generation) ∨
    s.restartDueAt.isSome ∧ ∃ bundle, s.lastBundle = some bundle ∧ bundle.generation = generation

def Lessens (s t : ServiceState) : Prop :=
  ∀ generation, t.Uses generation → s.Uses generation

theorem Lessens.trans {s t u : ServiceState} (hst : s.Lessens t) (htu : t.Lessens u) :
    s.Lessens u :=
  fun generation h => hst generation (htu generation h)

theorem lessens_setCore (s : ServiceState) {core : Option OwnedCoreState}
    (hcore : core.bind OwnedCoreState.active? = none) :
    s.Lessens { s with managedCore := core } := by
  rintro generation (⟨handle, hhandle, _⟩ | hpending)
  · rw [activeHandle, active, hcore] at hhandle
    cases hhandle
  · exact .inr hpending

section Alike

variable {s t : ServiceState}

theorem Alike.managedCore_none (h : s.Alike t) : t.managedCore = none ↔ s.managedCore = none := by
  have hcore := congrArg Option.isSome h.core
  simp only [Option.isSome_map] at hcore
  rw [← Option.not_isSome_iff_eq_none, ← Option.not_isSome_iff_eq_none, hcore]

theorem Alike.tracked (h : s.Alike t) : t.tracked = s.tracked := by
  have hcore := congrArg (Option.map fun core => core.record.ownedIdentity) h.core
  simpa only [ServiceState.tracked, Option.map_map, Function.comp_def,
    OwnedCoreState.ownedIdentity_bare] using hcore

theorem Alike.cleanupPending (h : s.Alike t) : t.cleanupPending = s.cleanupPending := by
  have hcore := congrArg (fun core => core.any OwnedCoreState.isCleanupPending) h.core
  simpa only [ServiceState.cleanupPending, Option.any_map, Function.comp_def,
    OwnedCoreState.isCleanupPending_bare] using hcore

theorem Alike.activeHandle (h : s.Alike t) : t.activeHandle = s.activeHandle := by
  have hcore := congrArg (fun core => core.bind fun c => c.active?.map (·.handle)) h.core
  simp only [Option.bind_map, Function.comp_def, OwnedCoreState.handle_active_bare] at hcore
  simpa only [ServiceState.activeHandle, ServiceState.active, Option.map_bind,
    Function.comp_def] using hcore

theorem Alike.lessens (h : s.Alike t) : s.Lessens t := by
  intro generation huses
  rw [Uses, h.activeHandle, h.restartDueAt, h.lastBundle] at huses
  exact huses

theorem isSome_activeHandle (s : ServiceState) : s.activeHandle.isSome = s.active.isSome :=
  Option.isSome_map ..

theorem Alike.active_isSome (h : s.Alike t) : t.active.isSome = s.active.isSome := by
  rw [← isSome_activeHandle, ← isSome_activeHandle, h.activeHandle]

theorem cleanupPending_iff :
    s.cleanupPending = true ↔ ∃ record, s.managedCore = some (.cleanupPending record) := by
  unfold cleanupPending
  rcases s.managedCore with _ | ⟨r | r⟩ <;> simp [OwnedCoreState.isCleanupPending]

theorem Alike.pending (h : s.Alike t) (hcore : s.managedCore = some (.cleanupPending record)) :
    ∃ record', t.managedCore = some (.cleanupPending record') ∧ record.Same record' := by
  obtain ⟨record', hcore'⟩ := cleanupPending_iff.1
    (h.cleanupPending.trans (cleanupPending_iff.2 ⟨record, hcore⟩))
  have hbare := h.core
  rw [hcore, hcore'] at hbare
  simp only [Option.map_some, OwnedCoreState.bare, OwnedCoreState.setRecord, OwnedCoreState.record,
    Option.some.injEq, OwnedCoreState.cleanupPending.injEq, ManagedCoreRecord.mk.injEq] at hbare
  exact ⟨record', hcore', hbare.1, hbare.2.1⟩

theorem active_eq_some {record : ManagedCoreRecord} :
    s.active = some record ↔ s.managedCore = some (.active record) := by
  unfold active
  rcases s.managedCore with _ | ⟨r | r⟩ <;> simp [OwnedCoreState.active?]

theorem Alike.activeRecord (h : s.Alike t) (hcore : s.managedCore = some (.active record)) :
    ∃ record', t.managedCore = some (.active record') ∧ record.Same record' := by
  have hsome := h.active_isSome
  rw [active_eq_some.2 hcore, Option.isSome_some, Option.isSome_iff_exists] at hsome
  obtain ⟨record', hcore'⟩ := hsome
  rw [active_eq_some] at hcore'
  have hbare := h.core
  rw [hcore, hcore'] at hbare
  simp only [Option.map_some, OwnedCoreState.bare, OwnedCoreState.setRecord, OwnedCoreState.record,
    Option.some.injEq, OwnedCoreState.active.injEq, ManagedCoreRecord.mk.injEq] at hbare
  exact ⟨record', hcore', hbare.1, hbare.2.1⟩

end Alike

theorem alike_evictLogs (capacity messageBytes : Nat) (s : ServiceState) :
    s.Alike (s.evictLogs capacity messageBytes) := by
  suffices hgo : ∀ logs bytes dropped,
      s.Alike (evictLogs.go capacity messageBytes s logs bytes dropped) from hgo ..
  intro logs
  induction logs with
  | nil => exact fun _ _ => ⟨rfl, rfl, rfl, rfl, rfl, rfl, rfl, rfl⟩
  | cons log logs ih =>
    intro bytes dropped
    rw [evictLogs.go]
    split
    · exact ih ..
    · exact ⟨rfl, rfl, rfl, rfl, rfl, rfl, rfl, rfl⟩

theorem alike_recordDropped (dropped : UInt64) (s : ServiceState) :
    s.Alike (s.recordDropped dropped) := by
  unfold recordDropped
  split
  · exact ⟨rfl, rfl, rfl, rfl, rfl, rfl, rfl, rfl⟩
  · exact .refl s

theorem alike_acceptLogs (config : PrivilegedServiceConfig) (generation : CoreInstanceGeneration)
    (logs : List CoreProcessLog) (s : ServiceState) :
    s.Alike (acceptLogs config generation logs s) := by
  induction logs generalizing s with
  | nil => exact .refl s
  | cons log logs ih =>
    rw [acceptLogs]
    split
    · exact .refl s
    · refine Alike.trans ?_ (ih _)
      have hevicted := alike_evictLogs config.logCapacity
        (truncateUtf8 log.message (min config.maxLogLineBytes coreLogForwardMaxBytes)).utf8ByteSize
        { s with nextLogSequence := ‹UInt64› }
      exact ⟨hevicted.owner, hevicted.core, hevicted.lastBundle, hevicted.degraded,
        hevicted.failures, hevicted.diagnostic, hevicted.restartDueAt, hevicted.restartBackoff⟩

theorem alike_acceptBatch (config : PrivilegedServiceConfig) (generation : CoreInstanceGeneration)
    (batch : CoreProcessLogBatch) (s : ServiceState) :
    s.Alike (s.acceptBatch config generation batch) :=
  (alike_recordDropped batch.dropped s).trans (alike_acceptLogs ..)

theorem alike_captured (s : ServiceState) (process : OwnedProcessIdentity)
    (endpointIdentity : Option OwnedEndpointIdentity) :
    s.Alike (s.captured process endpointIdentity) := by
  refine ⟨rfl, ?_, rfl, rfl, rfl, rfl, rfl, rfl⟩
  rw [captured, Option.map_map]
  congr 1
  funext retained
  simp only [Function.comp_apply]
  split
  · cases retained <;> rfl
  · rfl

theorem scheduleInitialRestart_snd {s : ServiceState} (h : s.lastBundle ≠ none) :
    (s.scheduleInitialRestart now).2 = s.initialRestart now := by
  rw [scheduleInitialRestart, if_neg h]

theorem owner_scheduleInitialRestart (s : ServiceState) (now : Duration) :
    (s.scheduleInitialRestart now).2.owner = s.owner := by
  unfold scheduleInitialRestart
  split <;> rfl

end ServiceState

def Accounted (w : ServiceWorld) (core : OwnedCoreState) : Prop :=
  core.record.ownedIdentity ∉ outstanding w.history

inductive Stores (config : PrivilegedServiceConfig) (w : ServiceWorld) : ServiceState → Prop where
  | alike (hheld : held w.history = none) (h : w.state.Alike s) : Stores config w s
  | demote (hrequest : w.request = .applyCandidate proof bundle)
      (hcore : w.state.managedCore = some (.active record)) (hsame : record.Same record') :
      Stores config w { w.state with managedCore := some (.cleanupPending record') }
  | cleaned (hcore : w.state.managedCore = some (.cleanupPending record))
      (hended : Accounted w (.cleanupPending record)) :
      Stores config w { w.state with managedCore := none }
  | stopped (hrequest : w.request = .stop proof) (hcore : w.state.managedCore = some core)
      (hended : Accounted w core) : Stores config w w.state.stopped
  | dismissed (hheld : held w.history = none)
      (hended : ∀ core, w.state.managedCore = some core → Accounted w core)
      (hcancellation : w.cancellation.owner = none) : Stores config w w.state.dismissed
  | exited (hcore : w.state.managedCore = some (.active record))
      (hended : Accounted w (.active record)) :
      Stores config w ({ w.state with managedCore := none }.scheduleInitialRestart now).2
  | counted (hrequest : w.request = .maintenanceStep now) (hheld : held w.history = none)
      (hcore : w.state.managedCore = none) (hdue : w.state.restartDueAt.isSome)
      (honce : attempted w.history = false) :
      Stores config w { w.state with
        consecutiveRestartFailures := saturatingAdd w.state.consecutiveRestartFailures 1 }
  | adopted (hheld : held w.history = none) (howner : w.state.owner = none)
      (hproof : w.cancellation.owner = some owner.proof)
      (hgeneration : w.cancellation.ownerGeneration = some owner.generation) :
      Stores config w (w.state.adopted owner)
  | abandoned (hheld : held w.history = some record.ownedIdentity) :
      Stores config w { w.state with managedCore := some (.cleanupPending record) }
  | applied (hrequest : w.request = .applyCandidate proof bundle)
      (hheld : held w.history = some record.ownedIdentity)
      (hgeneration : record.handle.runtimeGeneration = bundle.generation)
      (howner : w.state.owner = some owner) (hproof : owner.proof = proof)
      (hcancellation : w.cancellation.owner = some proof)
      (hactive : w.cancellation.requested = false) :
      Stores config w (w.state.applied record bundle)
  | restarted (hrequest : w.request = .maintenanceStep now)
      (hheld : held w.history = some record.ownedIdentity)
      (hbundle : w.state.lastBundle = some bundle)
      (hgeneration : record.handle.runtimeGeneration = bundle.generation)
      (howner : w.state.owner = some owner)
      (hcheck : lastCheck w.history = some (cancellation, since))
      (hcancellation : cancellation.owner = some owner.proof)
      (hactive : cancellation.requested = false) (hdue : w.state.restartDueAt.isSome) :
      Stores config w (w.state.restarted record now)
  | limitReached (hrequest : w.request = .maintenanceStep now) (hheld : held w.history = none)
      (hcore : w.state.managedCore = none)
      (hlimit : config.restartLimit ≤ w.state.consecutiveRestartFailures) :
      Stores config w w.state.restartLimitReached
  | backedOff (hrequest : w.request = .maintenanceStep now) (hheld : held w.history = none)
      (hcore : w.state.managedCore = none) (hdue : w.state.restartDueAt.isSome)
      (hlimit : w.state.consecutiveRestartFailures < config.restartLimit) :
      Stores config w (w.state.backedOff attempt now)

def MayStart (w : ServiceWorld) : Prop :=
  (∃ proof bundle, w.request = .applyCandidate proof bundle) ∨
    (∃ now, w.request = .maintenanceStep now) ∧ w.state.restartDueAt.isSome

def Counted (w : ServiceWorld) : Prop :=
  counting w.history = true ∨ attempted w.history = false ∧ w.state.restartDueAt.isSome ∧
    usizeMax ≤ w.state.consecutiveRestartFailures

structure FreshEpoch (room : ServiceRoom) (generation : UInt64) : Prop where
  reserved : generation ≤ room.1.ownerGeneration
  cancelled : ∀ p g, .cancelled p g ∈ room.2.history → g < generation

inductive Permits (config : PrivilegedServiceConfig) (room : ServiceRoom) : ServiceCall → Prop where
  | getState : Permits config room .getState
  | putState (h : Stores config room.2 state) : Permits config room (.putState state)
  | lockCancellation (h : room.2.cancellationLocked = false) :
      Permits config room .lockCancellation
  | unlockCancellation : Permits config room .unlockCancellation
  | resetCancellation (hrequest : room.2.request.isApply = false)
      (hfresh : FreshEpoch room generation) : Permits config room
        (.putCancellation ⟨some ⟨ownerSessionId generation secret, token⟩, some generation, false⟩)
  | clearCancellation (hrequest : room.2.request.isApply = false) :
      Permits config room (.putCancellation ⟨none, none, true⟩)
  | resetApplyCancellation (hrequest : room.2.request.isApply = false)
      (hreserved : generation ≤ room.1.ownerGeneration)
      (hlatest : room.2.controller.latestGeneration < generation)
      (hgeneration : room.2.cancellation.ownerGeneration = some generation) :
      Permits config room (.resetApplyCancellation generation)
  | verifyBundle
      (h : ∀ now, room.2.request = .maintenanceStep now → Counted room.2) :
      Permits config room (.verifyBundle bundle endpoint)
  | spawn (hcore : room.2.state.managedCore = none) (hheld : held room.2.history = none)
      (hstart : MayStart room.2) (howner : room.2.state.owner.isSome) :
      Permits config room (.spawn verified endpoint instanceGeneration)
  | stop (htracked : room.2.state.tracked = some process)
      (hlive : observedLive process room.2.history = true) : Permits config room (.stop process)
  | validateCredentials : Permits config room (.validateCredentials request)
  | startIdentity : Permits config room (.startIdentity pid)
  | checkTun : Permits config room (.checkTun uid)
  | generateSecret : Permits config room .generateSecret
  | readiness : Permits config room (.readiness process endpoint)
  | grantEndpointAccess : Permits config room (.grantEndpointAccess endpoint uid)
  | reapIfExited : Permits config room (.reapIfExited process)
  | takeLogs : Permits config room (.takeLogs process limit)
  | captureEndpointIdentity : Permits config room (.captureEndpointIdentity path)
  | inspectEndpoint : Permits config room (.inspectEndpoint path)
  | removeEndpoint : Permits config room (.removeEndpoint path)

inductive Move (config : PrivilegedServiceConfig) : ServiceRoom → ServiceRoom → Prop where
  | reserve (h : counters.Le counters') : Move config (counters, w) (counters', w)
  | cancel (h : Cancels w w') : Move config (counters, w) (counters, w')
  | call (hpermit : Permits config (counters, w) c) (hreply : w.Replies c r) :
      Move config (counters, w) (counters, (w.record c r).store c)

abbrev Course (config : PrivilegedServiceConfig) : ServiceRoom → ServiceRoom → Prop :=
  Relation.ReflTransGen (Move config)

theorem Course.keeps {P : ServiceRoom → Prop} (h : Course config room room')
    (hstep : ∀ a b, P a → Move config a b → P b) (hroom : P room) : P room' := by
  induction h with
  | refl => exact hroom
  | tail _ hmove ih => exact hstep _ _ ih hmove

namespace ServiceWorld

variable (w : ServiceWorld) (c : ServiceCall) (r : c.Reply)

@[simp] theorem history_store :
    ((w.record c r).store c).history = .made ⟨w.request, w.state, c, r⟩ :: w.history := by
  cases c <;> rfl

@[simp] theorem request_store : ((w.record c r).store c).request = w.request := by
  cases c <;> rfl

theorem state_store (e : ServiceEvent) (he : e = ⟨w.request, w.state, c, r⟩) :
    ((w.record c r).store c).state = e.stores.getD w.state := by
  subst he
  cases c <;> rfl

end ServiceWorld

section History

variable {e : ServiceEvent} {h : List HistoryEvent}

theorem ServiceEvent.spawned_of_stores (hs : e.stores = some s) : e.spawned = none := by
  obtain ⟨q, before, c, r⟩ := e
  cases c <;> first | rfl | cases hs

theorem ServiceEvent.ends_of_stores (hs : e.stores = some s) (p : OwnedProcessIdentity) :
    e.ends p = false := by
  obtain ⟨q, before, c, r⟩ := e
  cases c <;> first | rfl | cases hs

theorem outstanding_stores (hs : e.stores = some s) :
    outstanding (.made e :: h) = outstanding h := by
  simp [outstanding, e.spawned_of_stores hs, e.ends_of_stores hs]

theorem held_stores (hs : e.stores = some s) : held (.made e :: h) = none := by
  simp [held, hs]

theorem held_quiet (hs : e.stores = none) (hn : e.spawned = none) :
    held (.made e :: h) = held h := by
  simp [held, hs, hn]

theorem mem_outstanding_quiet (hn : e.spawned = none) :
    p ∈ outstanding (.made e :: h) ↔ p ∈ outstanding h ∧ e.ends p = false := by
  simp [outstanding, hn]

theorem length_outstanding_quiet (hn : e.spawned = none) :
    (outstanding (.made e :: h)).length ≤ (outstanding h).length := by
  simp only [outstanding, hn, Option.toList_none, List.nil_append]
  exact List.length_filter_le ..

end History

/-- Every process is in the record, or with the operation that has just started it. -/
structure Custody (w : ServiceWorld) : Prop where
  accounted : ∀ p ∈ outstanding w.history, w.state.tracked = some p ∨ held w.history = some p
  single : (outstanding w.history).length ≤ 1
  untracked : (held w.history).isSome → w.state.managedCore = none
  due : w.state.restartDueAt.isSome →
    w.state.active = none ∧ w.state.lastBundle.isSome ∧ w.state.degraded = false
  bundle : ∀ handle, w.state.activeHandle = some handle →
    ∃ bundle, w.state.lastBundle = some bundle ∧ handle.runtimeGeneration = bundle.generation
  ownerless : w.state.owner = none → w.state.managedCore = none ∧ w.state.lastBundle = none ∧
    w.state.restartDueAt = none ∧ held w.history = none

namespace Custody

variable {w : ServiceWorld} {e : ServiceEvent}

theorem initial : Custody .initial where
  accounted p hp := by cases hp
  single := Nat.zero_le 1
  untracked h := by cases h
  due h := by cases h
  bundle _ h := by cases h
  ownerless _ := ⟨rfl, rfl, rfl, rfl⟩

theorem nothing_outstanding (h : Custody w) (hcore : w.state.managedCore = none)
    (hheld : held w.history = none) : outstanding w.history = [] := by
  apply List.eq_nil_iff_forall_not_mem.2
  intro p hp
  obtain ht | hh := h.accounted p hp
  · rw [ServiceState.tracked, hcore] at ht
    cases ht
  · rw [hheld] at hh
    cases hh

theorem ended (h : Custody w) (hcore : w.state.managedCore = some core)
    (hended : Accounted w core) : outstanding w.history = [] := by
  apply List.eq_nil_iff_forall_not_mem.2
  intro p hp
  obtain ht | hh := h.accounted p hp
  · rw [ServiceState.tracked, hcore] at ht
    obtain rfl := Option.some.inj ht
    exact hended hp
  · have hnone := h.untracked (by rw [hh]; rfl)
    rw [hcore] at hnone
    cases hnone

theorem outstanding_held (h : Custody w) (hheld : held w.history = some p)
    (hq : q ∈ outstanding w.history) : q = p := by
  obtain ht | hh := h.accounted q hq
  · rw [ServiceState.tracked, h.untracked (by rw [hheld]; rfl)] at ht
    cases ht
  · rw [hheld] at hh
    exact (Option.some.inj hh).symm

theorem quiet (h : Custody w) (hs : e.stores = none) (hn : e.spawned = none)
    (hstate : w'.state = w.state) (hhistory : w'.history = .made e :: w.history) : Custody w' := by
  have hheld : held w'.history = held w.history := by rw [hhistory, held_quiet hs hn]
  constructor
  · intro p hp
    rw [hhistory, mem_outstanding_quiet hn] at hp
    rw [hstate, hheld]
    exact h.accounted p hp.1
  · rw [hhistory]
    exact Nat.le_trans (length_outstanding_quiet hn) h.single
  · rw [hstate, hheld]
    exact h.untracked
  · rw [hstate]
    exact h.due
  · rw [hstate]
    exact h.bundle
  · rw [hstate, hheld]
    exact h.ownerless

theorem stored (h : Custody w) (hs : e.stores = some w'.state)
    (hhistory : w'.history = .made e :: w.history)
    (htracked : ∀ p ∈ outstanding w.history, w'.state.tracked = some p)
    (hdue : w'.state.restartDueAt.isSome →
      w'.state.active = none ∧ w'.state.lastBundle.isSome ∧ w'.state.degraded = false)
    (hbundle : ∀ handle, w'.state.activeHandle = some handle →
      ∃ bundle, w'.state.lastBundle = some bundle ∧ handle.runtimeGeneration = bundle.generation)
    (howner : w'.state.owner = none → w'.state.managedCore = none ∧ w'.state.lastBundle = none ∧
      w'.state.restartDueAt = none) : Custody w' := by
  have hheld : held w'.history = none := by rw [hhistory, held_stores hs]
  have hout : outstanding w'.history = outstanding w.history := by
    rw [hhistory, outstanding_stores hs]
  constructor
  · intro p hp
    rw [hout] at hp
    exact .inl (htracked p hp)
  · rw [hout]
    exact h.single
  · intro hsome
    rw [hheld] at hsome
    cases hsome
  · exact hdue
  · exact hbundle
  · intro hnone
    obtain ⟨hcore, hlast, hrestart⟩ := howner hnone
    exact ⟨hcore, hlast, hrestart, hheld⟩

theorem started (h : Custody w) (hcore : w.state.managedCore = none) (hheld : held w.history = none)
    (howner : w.state.owner.isSome) (hs : e.stores = none) (hn : e.spawned = some p)
    (hstate : w'.state = w.state) (hhistory : w'.history = .made e :: w.history) : Custody w' := by
  have hempty := h.nothing_outstanding hcore hheld
  have hout : outstanding w'.history = [p] := by
    rw [hhistory, outstanding, hn, hempty]
    rfl
  have hheld' : held w'.history = some p := by
    rw [hhistory, held, hs, hn]
    rfl
  constructor
  · intro q hq
    rw [hout, List.mem_singleton] at hq
    exact .inr (hq ▸ hheld')
  · rw [hout]
    exact Nat.le_refl 1
  · intro _
    rw [hstate]
    exact hcore
  · rw [hstate]
    exact h.due
  · rw [hstate]
    exact h.bundle
  · intro hnone
    rw [← hstate, hnone] at howner
    cases howner

theorem tracked_of_held_none (h : Custody w) (hheld : held w.history = none)
    (hp : p ∈ outstanding w.history) : w.state.tracked = some p := by
  obtain ht | hh := h.accounted p hp
  · exact ht
  · rw [hheld] at hh
    cases hh

theorem held_none (h : Custody w) (hcore : w.state.managedCore = some core) :
    held w.history = none := by
  by_contra hheld
  have hnone := h.untracked (Option.isSome_iff_ne_none.2 hheld)
  rw [hcore] at hnone
  cases hnone

theorem bundle_of_active (h : Custody w) (hcore : w.state.managedCore = some (.active record)) :
    ∃ bundle, w.state.lastBundle = some bundle := by
  have hactive : w.state.activeHandle = some record.handle := by
    rw [ServiceState.activeHandle, ServiceState.active_eq_some.2 hcore]
    rfl
  obtain ⟨bundle, hbundle, _⟩ := h.bundle _ hactive
  exact ⟨bundle, hbundle⟩

theorem owner_of_held (h : Custody w) (hheld : held w.history = some p) : w.state.owner ≠ none := by
  intro hnone
  have hheld' := (h.ownerless hnone).2.2.2
  rw [hheld] at hheld'
  cases hheld'

end Custody

namespace Stores

variable {w : ServiceWorld}

theorem tracked (hs : Stores config w s) (h : Custody w) (hp : p ∈ outstanding w.history) :
    s.tracked = some p := by
  -- a store that forgets a process is one that happens with none outstanding
  have hgone : outstanding w.history = [] → s.tracked = some p := by
    intro hnil
    rw [hnil] at hp
    cases hp
  cases hs with
  | alike hheld halike =>
    rw [halike.tracked]
    exact h.tracked_of_held_none hheld hp
  | demote _ hcore hsame =>
    have ht := h.tracked_of_held_none (h.held_none hcore) hp
    rw [ServiceState.tracked, hcore] at ht
    exact (congrArg some hsame.2).trans ht
  | cleaned hcore hended => exact hgone (h.ended hcore hended)
  | stopped _ hcore hended => exact hgone (h.ended hcore hended)
  | dismissed hheld hended _ =>
    cases hcore : w.state.managedCore with
    | none => exact hgone (h.nothing_outstanding hcore hheld)
    | some core => exact hgone (h.ended hcore (hended core hcore))
  | exited hcore hended => exact hgone (h.ended hcore hended)
  | counted _ hheld _ _ _ => exact h.tracked_of_held_none hheld hp
  | adopted hheld howner _ _ => exact h.tracked_of_held_none hheld hp
  | abandoned hheld => exact congrArg some (h.outstanding_held hheld hp).symm
  | applied _ hheld _ _ _ _ _ => exact congrArg some (h.outstanding_held hheld hp).symm
  | restarted _ hheld _ _ _ _ _ _ _ => exact congrArg some (h.outstanding_held hheld hp).symm
  | limitReached _ hheld _ _ => exact h.tracked_of_held_none hheld hp
  | backedOff _ hheld _ _ _ => exact h.tracked_of_held_none hheld hp

theorem due (hs : Stores config w s) (h : Custody w) (hdue : s.restartDueAt.isSome) :
    s.active = none ∧ s.lastBundle.isSome ∧ s.degraded = false := by
  cases hs with
  | alike hheld halike =>
    rw [halike.restartDueAt] at hdue
    obtain ⟨hactive, hbundle, hdegraded⟩ := h.due hdue
    have hnone := halike.active_isSome
    rw [hactive, Option.isSome_none, Option.isSome_eq_false_iff, Option.isNone_iff_eq_none] at hnone
    exact ⟨hnone, halike.lastBundle ▸ hbundle, halike.degraded ▸ hdegraded⟩
  | demote _ hcore _ =>
    have hactive := (h.due hdue).1
    rw [ServiceState.active_eq_some.2 hcore] at hactive
    cases hactive
  | cleaned _ _ => exact ⟨rfl, (h.due hdue).2⟩
  | stopped _ _ _ => cases hdue
  | dismissed _ _ _ => cases hdue
  | exited hcore _ =>
    obtain ⟨bundle, hbundle⟩ := h.bundle_of_active hcore
    rw [ServiceState.scheduleInitialRestart_snd (by exact hbundle ▸ nofun)]
    exact ⟨rfl, Option.isSome_iff_exists.2 ⟨bundle, hbundle⟩, rfl⟩
  | counted _ _ _ _ _ => exact h.due hdue
  | adopted _ _ _ _ => cases hdue
  | abandoned _ => exact ⟨rfl, (h.due hdue).2⟩
  | applied _ _ _ _ _ _ _ => cases hdue
  | restarted _ _ _ _ _ _ _ _ _ => cases hdue
  | limitReached _ _ _ _ => cases hdue
  | backedOff _ _ _ hdue' _ => exact h.due hdue'

theorem bundle (hs : Stores config w s) (h : Custody w) (hactive : s.activeHandle = some handle) :
    ∃ bundle, s.lastBundle = some bundle ∧ handle.runtimeGeneration = bundle.generation := by
  cases hs with
  | alike hheld halike =>
    rw [halike.activeHandle] at hactive
    rw [halike.lastBundle]
    exact h.bundle handle hactive
  | demote _ _ _ => cases hactive
  | cleaned _ _ => cases hactive
  | stopped _ _ _ => cases hactive
  | dismissed _ _ _ => cases hactive
  | exited hcore _ =>
    obtain ⟨bundle, hbundle⟩ := h.bundle_of_active hcore
    rw [ServiceState.scheduleInitialRestart_snd (by exact hbundle ▸ nofun)] at hactive
    cases hactive
  | counted _ _ _ _ _ => exact h.bundle handle hactive
  | adopted _ howner _ _ =>
    rw [ServiceState.activeHandle, ServiceState.active] at hactive
    change (Option.bind w.state.managedCore _).map _ = _ at hactive
    rw [(h.ownerless howner).1] at hactive
    cases hactive
  | abandoned _ => cases hactive
  | applied _ _ hgeneration _ _ _ _ =>
    obtain rfl := Option.some.inj hactive
    exact ⟨_, rfl, hgeneration⟩
  | restarted _ _ hbundle hgeneration _ _ _ _ _ =>
    obtain rfl := Option.some.inj hactive
    exact ⟨_, hbundle, hgeneration⟩
  | limitReached _ _ _ _ => exact h.bundle handle hactive
  | backedOff _ _ _ _ _ => exact h.bundle handle hactive

theorem uses (hs : Stores config w s) (h : Custody w) (huses : s.Uses generation) :
    w.state.Uses generation ∨
      ∃ proof bundle, w.request = .applyCandidate proof bundle ∧
        bundle.generation = generation := by
  cases hs with
  | alike _ halike => exact .inl (halike.lessens generation huses)
  | demote _ _ _ => exact .inl (w.state.lessens_setCore rfl generation huses)
  | cleaned _ _ => exact .inl (w.state.lessens_setCore rfl generation huses)
  | abandoned _ => exact .inl (w.state.lessens_setCore rfl generation huses)
  | counted _ _ _ _ _ => exact .inl huses
  | stopped _ _ _ => obtain ⟨_, h, _⟩ | ⟨h, _⟩ := huses <;> cases h
  | dismissed _ _ _ => obtain ⟨_, h, _⟩ | ⟨h, _⟩ := huses <;> cases h
  | exited hcore _ =>
    -- the restart is to start the bundle of the Core that has exited
    have hhandle : w.state.activeHandle = some _ :=
      congrArg (Option.map _) (ServiceState.active_eq_some.2 hcore)
    obtain ⟨bundle, hbundle, hgeneration⟩ := h.bundle _ hhandle
    rw [ServiceState.scheduleInitialRestart_snd (by exact hbundle ▸ nofun)] at huses
    obtain ⟨_, hnone, _⟩ | ⟨_, bundle', hbundle', hsame⟩ := huses
    · cases hnone
    · cases hbundle.symm.trans hbundle'
      exact .inl (.inl ⟨_, hhandle, hgeneration.trans hsame⟩)
  | adopted _ howner _ _ =>
    have hnone := (h.ownerless howner).1
    obtain ⟨_, hsome, _⟩ | ⟨hsome, _⟩ := huses
    · rw [ServiceState.activeHandle, ServiceState.active] at hsome
      change (Option.bind w.state.managedCore _).map _ = _ at hsome
      rw [hnone] at hsome
      cases hsome
    · cases hsome
  | applied hrequest _ hgeneration _ _ _ _ =>
    obtain ⟨_, hsome, rfl⟩ | ⟨hsome, _⟩ := huses
    · cases hsome
      exact .inr ⟨_, _, hrequest, hgeneration.symm⟩
    · cases hsome
  | restarted _ _ hbundle hgeneration _ _ _ _ hdue =>
    obtain ⟨_, hsome, rfl⟩ | ⟨hsome, _⟩ := huses
    · cases hsome
      exact .inl (.inr ⟨hdue, _, hbundle, hgeneration.symm⟩)
    · cases hsome
  | limitReached _ _ hcore _ =>
    obtain ⟨_, hsome, _⟩ | ⟨hsome, _⟩ := huses
    · exact .inl (.inl ⟨_, hsome, ‹_›⟩)
    · cases hsome
  | backedOff _ _ _ hdue _ =>
    obtain hactive | ⟨_, hpending⟩ := huses
    · exact .inl (.inl hactive)
    · exact .inl (.inr ⟨hdue, hpending⟩)

theorem ownerless (hs : Stores config w s) (h : Custody w) (howner : s.owner = none) :
    s.managedCore = none ∧ s.lastBundle = none ∧ s.restartDueAt = none := by
  have hkeep : w.state.owner = none →
      w.state.managedCore = none ∧ w.state.lastBundle = none ∧ w.state.restartDueAt = none := by
    intro hnone
    obtain ⟨hcore, hbundle, hdue, _⟩ := h.ownerless hnone
    exact ⟨hcore, hbundle, hdue⟩
  cases hs with
  | alike hheld halike =>
    rw [halike.owner] at howner
    rw [halike.managedCore_none, halike.lastBundle, halike.restartDueAt]
    exact hkeep howner
  | demote _ hcore _ =>
    rw [(hkeep howner).1] at hcore
    cases hcore
  | cleaned _ _ => exact ⟨rfl, (hkeep howner).2⟩
  | stopped _ _ _ => exact ⟨rfl, rfl, rfl⟩
  | dismissed _ _ _ => exact ⟨rfl, rfl, rfl⟩
  | exited hcore _ =>
    rw [ServiceState.owner_scheduleInitialRestart] at howner
    rw [(hkeep howner).1] at hcore
    cases hcore
  | counted _ _ _ _ _ => exact hkeep howner
  | adopted _ _ _ _ => cases howner
  | abandoned hheld => exact absurd howner (h.owner_of_held hheld)
  | applied _ hheld _ _ _ _ _ => exact absurd howner (h.owner_of_held hheld)
  | restarted _ hheld _ _ _ _ _ _ _ => exact absurd howner (h.owner_of_held hheld)
  | limitReached _ _ _ _ =>
    obtain ⟨hcore, hbundle, _⟩ := hkeep howner
    exact ⟨hcore, hbundle, rfl⟩
  | backedOff _ _ _ hdue _ =>
    rw [(hkeep howner).2.2] at hdue
    cases hdue

end Stores

theorem Custody.move (h : Custody room.2) (hmove : Move config room room') : Custody room'.2 := by
  cases hmove with
  | reserve _ => exact h
  | cancel hcancel =>
    cases hcancel with
    | accept _ _ => exact ⟨h.accounted, h.single, h.untracked, h.due, h.bundle, h.ownerless⟩
    | deliver _ => exact ⟨h.accounted, h.single, h.untracked, h.due, h.bundle, h.ownerless⟩
  | call hpermit hreply =>
    cases hpermit with
    | putState hs =>
      exact h.stored rfl rfl (fun _ hp => hs.tracked h hp) (hs.due h) (fun _ => hs.bundle h)
        (hs.ownerless h)
    | spawn hcore hheld _ howner =>
      rename_i r
      cases r with
      | ok spawned => exact h.started hcore hheld howner rfl rfl rfl rfl
      | error e => exact h.quiet rfl rfl rfl rfl
    | _ => exact h.quiet rfl rfl rfl rfl

structure Epochs (room : ServiceRoom) : Prop where
  cancelled : ∀ p g, .cancelled p g ∈ room.2.history → g ≤ room.1.ownerGeneration
  current : ∀ g, room.2.cancellation.ownerGeneration = some g → g ≤ room.1.ownerGeneration
  latest : room.2.controller.latestGeneration ≤ room.1.ownerGeneration

theorem Epochs.initial (counters : GenerationCounters) : Epochs (counters, .initial) where
  cancelled := nofun
  current := nofun
  latest := by
    rw [UInt64.le_iff_toNat_le]
    exact Nat.zero_le _

theorem Epochs.cancels (h : Epochs (counters, w)) (hcancel : Cancels w w') :
    Epochs (counters, w') := by
  cases hcancel with
  | accept _ hok =>
    obtain ⟨_, hgeneration, _, hcurrent, _⟩ := ApplyCancellationState.cancelPendingApply_ok hok
    refine ⟨?_, ?_, h.latest⟩
    · intro p g hmem
      obtain heq | hmem := List.mem_cons.1 hmem
      · cases heq
        exact h.current _ hcurrent
      · exact h.cancelled p g hmem
    · intro g hg
      exact h.current g (hgeneration ▸ hg)
  | deliver _ =>
    exact ⟨fun p g hmem => h.cancelled p g ((List.mem_cons.1 hmem).resolve_left nofun), h.current,
      (ApplyCancellationEpoch.latestGeneration_cancel ..).symm ▸ h.latest⟩

theorem cancelled_of_made (h : .cancelled p g ∈ HistoryEvent.made e :: older) :
    .cancelled p g ∈ older :=
  (List.mem_cons.1 h).resolve_left nofun

theorem Epochs.of_mem_made (h : Epochs (counters, w))
    (hmem : .cancelled p g ∈ HistoryEvent.made e :: w.history) : g ≤ counters.ownerGeneration :=
  h.cancelled p g (cancelled_of_made hmem)

theorem Epochs.recorded (h : Epochs (counters, w)) (hhistory : w'.history = .made e :: w.history)
    (hcancellation : w'.cancellation = w.cancellation)
    (hcontroller : w'.controller = w.controller) : Epochs (counters, w') := by
  refine ⟨?_, ?_, ?_⟩
  · rw [hhistory]
    exact fun p g => h.of_mem_made
  · rw [hcancellation]
    exact h.current
  · rw [hcontroller]
    exact h.latest

theorem Epochs.move (h : Epochs room) (hmove : Move config room room') : Epochs room' := by
  cases hmove with
  | reserve hle =>
    exact ⟨fun p g hmem => UInt64.le_trans (h.cancelled p g hmem) hle.1,
      fun g hg => UInt64.le_trans (h.current g hg) hle.1, UInt64.le_trans h.latest hle.1⟩
  | cancel hcancel => exact h.cancels hcancel
  | call hpermit _ =>
    cases hpermit with
    | resetCancellation _ hfresh =>
      refine ⟨fun p g => h.of_mem_made, ?_, h.latest⟩
      rintro _ ⟨⟩
      exact hfresh.reserved
    | clearCancellation _ => exact ⟨fun p g => h.of_mem_made, nofun, h.latest⟩
    | resetApplyCancellation _ hreserved hlatest _ =>
      refine ⟨fun p g => h.of_mem_made, h.current, ?_⟩
      change (ApplyCancellationEpoch.resetApplyCancellation _ _).latestGeneration ≤ _
      unfold ApplyCancellationEpoch.resetApplyCancellation
      split
      · exact h.latest
      · exact hreserved
    | _ => exact h.recorded rfl rfl rfl

theorem Epochs.course (hbase : Epochs base) (h : Course config base room) : Epochs room :=
  h.keeps (fun _ _ hroom hmove => hroom.move hmove) hbase

theorem Custody.course (hbase : Custody base.2) (h : Course config base room) : Custody room.2 :=
  Course.keeps (P := fun room => Custody room.2) h (fun _ _ hroom hmove => hroom.move hmove) hbase

end Ratash

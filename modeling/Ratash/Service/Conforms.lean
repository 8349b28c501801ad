import Ratash.Service.Discipline

/-!
Each function is described once: which calls it may be used before, that all its own calls are
permitted, and what it leaves behind.
-/

namespace Ratash

open Interaction Attempt

theorem happened_made {P : ServiceEvent → Bool} (h : happened P older = true) :
    happened P (.made e :: older) = true := by
  rw [happened, h, Bool.or_true]

structure Frame (room room' : ServiceRoom) : Prop where
  request : room'.2.request = room.2.request
  attempted : attempted room'.2.history = attempted room.2.history
  happened : ∀ P, happened P room.2.history = true → happened P room'.2.history = true
  owner : room'.2.cancellation.owner = room.2.cancellation.owner
  ownerGeneration : room'.2.cancellation.ownerGeneration = room.2.cancellation.ownerGeneration
  epoch : room'.2.controller.ownerGeneration = room.2.controller.ownerGeneration
  latest : room'.2.controller.latestGeneration = room.2.controller.latestGeneration
  cancelled : room.2.cancellation.owner = none →
    ∀ p g, .cancelled p g ∈ room'.2.history → .cancelled p g ∈ room.2.history

structure Steady (room room' : ServiceRoom) : Prop extends Frame room room' where
  state : room.2.state.Alike room'.2.state
  held : held room'.2.history = held room.2.history
  outstanding : outstanding room'.2.history ⊆ outstanding room.2.history

structure Calm (room room' : ServiceRoom) : Prop extends Steady room room' where
  locked : room'.2.cancellationLocked = room.2.cancellationLocked

theorem Frame.reserved (room : ServiceRoom) (n : GenerationCounters) : Frame room (n, room.2) :=
  ⟨rfl, rfl, fun _ => id, rfl, rfl, rfl, rfl, fun _ _ _ h => h⟩

@[refl] theorem Frame.refl (room : ServiceRoom) : Frame room room := .reserved room room.1

theorem Frame.trans (h : Frame room room') (h' : Frame room' room'') : Frame room room'' where
  request := h'.request.trans h.request
  attempted := h'.attempted.trans h.attempted
  happened P := h'.happened P ∘ h.happened P
  owner := h'.owner.trans h.owner
  ownerGeneration := h'.ownerGeneration.trans h.ownerGeneration
  epoch := h'.epoch.trans h.epoch
  latest := h'.latest.trans h.latest
  cancelled hnone p g hmem := h.cancelled hnone p g (h'.cancelled (h.owner.trans hnone) p g hmem)

theorem Steady.trans (h : Steady room room') (h' : Steady room' room'') : Steady room room'' where
  toFrame := h.toFrame.trans h'.toFrame
  state := h.state.trans h'.state
  held := h'.held.trans h.held
  outstanding := List.Subset.trans h'.outstanding h.outstanding

theorem Steady.setLocked (h : Steady room (counters, w)) (locked : Bool) :
    Steady room (counters, { w with cancellationLocked := locked }) :=
  ⟨⟨h.request, h.attempted, h.happened, h.owner, h.ownerGeneration, h.epoch, h.latest,
    h.cancelled⟩, h.state, h.held, h.outstanding⟩

@[refl] theorem Calm.refl (room : ServiceRoom) : Calm room room :=
  ⟨⟨.refl room, .refl _, rfl, List.Subset.refl _⟩, rfl⟩

theorem Calm.trans (h : Calm room room') (h' : Calm room' room'') : Calm room room'' where
  toSteady := h.toSteady.trans h'.toSteady
  locked := h'.locked.trans h.locked

theorem Cancels.calm (h : Cancels w w') : Calm (n, w) (n, w') := by
  cases h with
  | accept hfree hok =>
    have hcancellation := ApplyCancellationState.cancelPendingApply_ok hok
    refine ⟨⟨⟨rfl, rfl, fun _ => id, hcancellation.1, hcancellation.2.1, rfl, rfl, ?_⟩, .refl _,
      rfl, List.Subset.refl _⟩, rfl⟩
    intro hnone
    rw [hcancellation.2.2.1] at hnone
    cases hnone
  | deliver hmem =>
    exact ⟨⟨⟨rfl, rfl, fun _ => id, rfl, rfl, ApplyCancellationEpoch.ownerGeneration_cancel ..,
      ApplyCancellationEpoch.latestGeneration_cancel ..,
      fun _ _ _ hmem => (List.mem_cons.1 hmem).resolve_left nofun⟩, .refl _, rfl,
      List.Subset.refl _⟩, rfl⟩

theorem Interferes.calm (h : Interferes w w') : Calm (n, w) (n, w') := by
  induction h with
  | refl => exact .refl _
  | step hcancel _ ih => exact hcancel.calm.trans ih

theorem Interferes.state_eq (h : Interferes w w') : w'.state = w.state := by
  induction h with
  | refl => rfl
  | step hcancel _ ih =>
    rw [ih]
    cases hcancel <;> rfl

theorem Interferes.course (h : Interferes w w') : Course config (n, w) (n, w') := by
  induction h with
  | refl => exact .refl
  | step hcancel _ ih => exact .head (.cancel hcancel) ih

theorem Interferes.cancellation_eq (h : Interferes w w') (hlocked : w.cancellationLocked = true) :
    w'.cancellation = w.cancellation := by
  induction h with
  | refl => rfl
  | step hcancel _ ih =>
    cases hcancel with
    | accept hfree _ =>
      rw [hlocked] at hfree
      cases hfree
    | deliver _ => exact ih hlocked

theorem Interferes.counting_eq (h : Interferes w w') :
    counting w'.history = counting w.history := by
  induction h with
  | refl => rfl
  | step hcancel _ ih =>
    rw [ih]
    cases hcancel <;> rfl

theorem ensures_service {I : ServiceRoom → Prop} {Q : Except CoreRuntimeError c.Reply → _ → Prop}
    (hI : I room) (h : ∀ r w, Interferes room.2 w → w.Replies c r →
      I (room.1, (w.record c r).store c) ∧ Q (.ok r) (room.1, (w.record c r).store c)) :
    (service c).run.Ensures anyService I Q room := by
  refine ⟨hI, ?_⟩
  rintro r ⟨counters, w'⟩ ⟨⟨w, hw, hreply, rfl⟩, rfl⟩
  exact h r w hw hreply

theorem ensures_getState (room : ServiceRoom) :
    (service .getState).run.Ensures anyService (fun _ => True)
      (fun r room' => r = .ok room.2.state ∧ room'.2.state = room.2.state) room := by
  apply ensures_service trivial
  intro r w hw hreply
  exact ⟨trivial, congrArg _ (hreply.trans hw.state_eq), hw.state_eq⟩

theorem ensures_putState (s : ServiceState) (room : ServiceRoom) :
    (service (.putState s)).run.Ensures anyService (fun _ => True)
      (fun _ room' => room'.2.state = s) room :=
  ensures_service trivial fun _ _ _ _ => ⟨trivial, rfl⟩

def ServiceCall.plain : ServiceCall → Bool
  | .getState | .validateCredentials _ | .startIdentity _ | .checkTun _ | .generateSecret
  | .readiness _ _ | .grantEndpointAccess _ _ | .reapIfExited _ | .takeLogs _ _
  | .captureEndpointIdentity _ | .inspectEndpoint _ | .removeEndpoint _ => true
  | _ => false

structure Replied (room : ServiceRoom) (c : ServiceCall) (r : c.Reply) (room' : ServiceRoom) :
    Prop where
  calm : Calm room room'
  state : room'.2.state = room.2.state
  event : ∃ w, Interferes room.2 w ∧ w.Replies c r ∧ room' = (room.1, w.record c r)

theorem plain_permits (hc : c.plain = true) : Permits config room c := by
  cases c <;> first | exact absurd hc Bool.false_ne_true | constructor

theorem record_calm {w : ServiceWorld} {c : ServiceCall} {r : c.Reply}
    (hstores : (⟨w.request, w.state, c, r⟩ : ServiceEvent).stores = none)
    (hspawned : (⟨w.request, w.state, c, r⟩ : ServiceEvent).spawned = none) :
    Calm (n, w) (n, w.record c r) := by
  refine ⟨⟨⟨rfl, ?_, ?_, rfl, rfl, rfl, rfl, ?_⟩, .refl _, held_quiet hstores hspawned, ?_⟩, rfl⟩
  · change (ServiceEvent.countsAttempt _ || attempted w.history) = _
    rw [ServiceEvent.countsAttempt, hstores]
    rfl
  · exact fun _ => happened_made
  · exact fun _ p g => cancelled_of_made
  · exact fun p hp => ((mem_outstanding_quiet hspawned).1 hp).1

theorem plain_calm (hc : c.plain = true) (w : ServiceWorld) (r : c.Reply) :
    Calm (n, w) (n, w.record c r) := by
  apply record_calm <;> cases c <;> first | exact absurd hc Bool.false_ne_true | rfl

abbrev Does (config : PrivilegedServiceConfig) (base : ServiceRoom) (x : ServiceAttempt α)
    (Q : Except CoreRuntimeError α → ServiceRoom → Prop) (room : ServiceRoom) : Prop :=
  x.run.Ensures anyService (Course config base) Q room

section Rules

variable {config : PrivilegedServiceConfig} {base room : ServiceRoom}
  {Q : Except CoreRuntimeError β → ServiceRoom → Prop}

structure Put (room : ServiceRoom) (s : ServiceState) (room' : ServiceRoom) : Prop where
  state : room'.2.state = s
  request : room'.2.request = room.2.request
  attempted : attempted room'.2.history =
    (decide (room.2.state.consecutiveRestartFailures < s.consecutiveRestartFailures) ||
      attempted room.2.history)
  counting : counting room'.2.history =
    decide (room.2.state.consecutiveRestartFailures < s.consecutiveRestartFailures)
  happened : ∀ P, happened P room.2.history = true → happened P room'.2.history = true
  cancellation : room'.2.cancellation.owner = room.2.cancellation.owner ∧
    room'.2.cancellation.ownerGeneration = room.2.cancellation.ownerGeneration
  controller : room'.2.controller.ownerGeneration = room.2.controller.ownerGeneration ∧
    room'.2.controller.latestGeneration = room.2.controller.latestGeneration
  cancelled : room.2.cancellation.owner = none →
    ∀ p g, .cancelled p g ∈ room'.2.history → .cancelled p g ∈ room.2.history
  held : held room'.2.history = none
  outstanding : outstanding room'.2.history ⊆ outstanding room.2.history
  locked : room'.2.cancellationLocked = room.2.cancellationLocked

variable {f : Unit → ServiceAttempt β}

theorem Put.frame (h : Put room s room')
    (hs : s.consecutiveRestartFailures ≤ room.2.state.consecutiveRestartFailures) :
    Frame room room' := by
  refine ⟨h.request, ?_, h.happened, h.cancellation.1, h.cancellation.2, h.controller.1,
    h.controller.2, h.cancelled⟩
  rw [h.attempted, decide_eq_false (Nat.not_lt.2 hs)]
  rfl

theorem Put.calm (h : Put room s room') (hs : room.2.state.Alike s)
    (hheld : Ratash.held room.2.history = none) : Calm room room' :=
  ⟨⟨h.frame (Nat.le_of_eq hs.failures), h.state ▸ hs, h.held.trans hheld.symm, h.outstanding⟩,
    h.locked⟩

def Blameless (r : Except CoreRuntimeError α) : Prop :=
  ∀ e, r = .error e → e.kind ≠ .invalidBundle

theorem blameless_ok (a : α) : Blameless (.ok a) :=
  nofun

theorem blameless_error {e : CoreRuntimeError} (h : e.kind ≠ .invalidBundle) :
    Blameless (.error e : Except _ α) := by
  rintro _ ⟨⟩
  exact h

theorem outcome_ok {P : α → Prop} {Q : ε → Prop} (h : P a) :
    (∀ a', (.ok a : Except ε α) = .ok a' → P a') ∧
      ∀ e, (.ok a : Except ε α) = .error e → Q e := by
  refine ⟨?_, nofun⟩
  rintro _ ⟨⟩
  exact h

theorem outcome_error {P : α → Prop} {Q : ε → Prop} (h : Q e) :
    (∀ a, (.error e : Except ε α) = .ok a → P a) ∧
      ∀ e', (.error e : Except ε α) = .error e' → Q e' := by
  refine ⟨nofun, ?_⟩
  rintro _ ⟨⟩
  exact h

theorem not_mem_outstanding_of_ends (hspawned : e.spawned = none) (hends : e.ends p = true) :
    p ∉ outstanding (.made e :: h) := by
  intro hp
  have hfalse := ((mem_outstanding_quiet hspawned).1 hp).2
  rw [hends] at hfalse
  cases hfalse

theorem Interferes.observedLive_eq (h : Interferes w w') :
    observedLive process w'.history = observedLive process w.history := by
  induction h with
  | refl => rfl
  | step hcancel _ ih =>
    rw [ih]
    cases hcancel <;> rfl

def ServiceState.bereft (s : ServiceState) : ServiceState :=
  { s with managedCore := none }

theorem ServiceState.Alike.bereft {s t : ServiceState} (h : s.Alike t)
    (hcore : s.managedCore = none) : s.bereft.Alike t :=
  ⟨h.owner, by rw [h.managedCore_none.2 hcore]; rfl, h.lastBundle, h.degraded, h.failures,
    h.diagnostic, h.restartDueAt, h.restartBackoff⟩

theorem ServiceState.Alike.unburdened {s t : ServiceState} (h : s.Alike t)
    (hcore : s.managedCore = none) : t.cleanupPending ≠ true := by
  intro hpending
  rw [h.cleanupPending, ServiceState.cleanupPending, hcore] at hpending
  cases hpending

structure CleanedUp (room : ServiceRoom) (r : Except CoreRuntimeError Unit) (room' : ServiceRoom) :
    Prop extends Frame room room' where
  held : held room'.2.history = none
  locked : room'.2.cancellationLocked = room.2.cancellationLocked
  failed : ∀ e, r = .error e → room.2.state.Alike room'.2.state
  pending : r = .ok () → room.2.state.cleanupPending = true →
    room.2.state.bereft.Alike room'.2.state
  other : r = .ok () → room.2.state.cleanupPending = false → room.2.state.Alike room'.2.state

def Checked (proof : OwnerSessionProof) (h : List HistoryEvent) : Prop :=
  ∃ cancellation since, lastCheck h = some (cancellation, since) ∧
    cancellation.owner = some proof ∧ cancellation.requested = false

theorem Checked.cancels (h : Checked proof w.history) (hw : Cancels w w') :
    Checked proof w'.history := by
  obtain ⟨cancellation, since, hcheck, howner, hactive⟩ := h
  cases hw with
  | accept _ _ => exact ⟨cancellation, since, hcheck, howner, hactive⟩
  | deliver _ =>
    refine ⟨cancellation, ?_, ?_, howner, hactive⟩
    rotate_left
    · rw [lastCheck, hcheck]
      rfl

theorem Checked.interferes (h : Checked proof w.history) (hw : Interferes w w') :
    Checked proof w'.history := by
  induction hw with
  | refl => exact h
  | step hcancel _ ih => exact ih (h.cancels hcancel)

theorem Checked.replied (h : Checked proof room.2.history) (hc : c.plain = true)
    (hreplied : Replied room c r room') : Checked proof room'.2.history := by
  obtain ⟨w, hw, _, rfl⟩ := hreplied.event
  have hchecked := h.interferes hw
  cases c <;> first | exact absurd hc Bool.false_ne_true | exact hchecked

structure Guarded (proof : OwnerSessionProof) (room : ServiceRoom)
    (r : Except CoreRuntimeError Unit) (room' : ServiceRoom) : Prop extends Steady room room' where
  blameless : Blameless r
  refused : ∀ e, r = .error e → room'.2.cancellationLocked = false
  guarded : r = .ok () → room'.2.cancellationLocked = true ∧
    room'.2.cancellation.owner = some proof ∧ room'.2.cancellation.requested = false ∧
    Checked proof room'.2.history

/-- Whenever it fails, a call to clean up has failed. -/
def Faults (x : ServiceAttempt α) : Prop :=
  ∀ room, x.run.Ensures anyService (fun _ => True)
    (fun r room' => ∀ e, r = .error e → happened ServiceEvent.failsCleanup room'.2.history = true)
    room

theorem Faults.seq {x : ServiceAttempt α} {f : α → ServiceAttempt β} (hx : Faults x)
    (hf : ∀ a, Faults (f a)) : Faults (x >>= f) := by
  intro room
  apply ensures_seq (hx room) (fun a room' _ _ => hf a room')
  rintro e room' _ h _ ⟨⟩
  exact h e rfl

theorem faults_pure (a : α) : Faults (pure a) := fun _ => ⟨trivial, nofun⟩

theorem faults_service (c : ServiceCall) : Faults (service c) :=
  fun _ => ensures_service trivial fun _ _ _ _ => ⟨trivial, nofun⟩

theorem faults_modifyState (g : ServiceState → ServiceState) : Faults (modifyState g) :=
  (faults_service .getState).seq fun _ => faults_service _

theorem faults_call {f : c.Reply → ServiceAttempt β}
    (hf : ∀ r, Faults (f r) ∨ (∀ q s, ServiceEvent.failsCleanup ⟨q, s, c, r⟩ = true) ∧
      ∃ e, f r = throw e) : Faults (service c >>= f) := by
  intro room
  apply ensures_bind.2
  apply ensures_service trivial
  intro r w _ _
  refine ⟨trivial, ?_⟩
  obtain hfaults | ⟨hfails, e, he⟩ := hf r
  · exact hfaults _
  · dsimp only
    rw [he]
    refine ⟨trivial, fun _ _ => ?_⟩
    rw [ServiceWorld.history_store]
    change (ServiceEvent.failsCleanup _ || _) = true
    rw [hfails, Bool.true_or]

theorem ownedProcessIsLive_faults : Faults (ownedProcessIsLive process) := by
  apply faults_call
  rintro (e | exited)
  · exact .inr ⟨fun _ _ => rfl, _, rfl⟩
  left
  cases exited with
  | true => exact faults_pure false
  | false =>
    apply faults_call
    rintro (e | actual)
    · exact .inr ⟨fun _ _ => rfl, _, rfl⟩
    · exact .inl (faults_pure _)

theorem drainLogs_faults : Faults (drainLogs config record) := by
  apply faults_call
  rintro (e | incoming)
  · exact .inr ⟨fun _ _ => rfl, _, rfl⟩
  · exact .inl (faults_modifyState _)

theorem removeOwnedEndpoint_faults : Faults (removeOwnedEndpoint record) := by
  unfold removeOwnedEndpoint
  split
  · exact faults_pure ()
  apply faults_call
  rintro (kind | identity)
  · by_cases hkind : kind = .notFound
    · exact .inl fun _ => ensures_require.2 ⟨trivial, nofun, fun h => absurd hkind h⟩
    · exact .inr ⟨fun _ _ => decide_eq_true hkind, _, if_neg hkind⟩
  left
  simp only
  split
  · apply faults_call
    rintro (e | removed)
    · exact .inr ⟨fun _ _ => rfl, _, rfl⟩
    · exact .inl (faults_pure ())
  · exact faults_pure ()

theorem captureEndpoint_faults : Faults (captureEndpoint record) := by
  unfold captureEndpoint
  split
  · exact faults_pure _
  · exact (faults_service _).seq fun _ => (faults_modifyState _).seq fun _ => faults_pure _

theorem stopIfLive_faults : Faults (stopIfLive process) := by
  apply ownedProcessIsLive_faults.seq
  rintro (_ | _)
  · exact faults_pure ()
  · apply faults_call
    rintro (e | stopped)
    · exact .inr ⟨fun _ _ => rfl, _, rfl⟩
    · exact .inl (faults_pure ())

theorem cleanupPendingCore_faults : Faults (cleanupPendingCore config) := by
  apply (faults_service .getState).seq
  intro state
  split
  · apply Faults.seq ?_ fun _ => faults_modifyState _
    exact captureEndpoint_faults.seq fun _ => stopIfLive_faults.seq fun _ =>
      drainLogs_faults.seq fun _ => removeOwnedEndpoint_faults
  · exact faults_pure ()

structure Abandoned (room : ServiceRoom) (e : CoreRuntimeError) (room' : ServiceRoom) :
    Prop extends Frame room room' where
  held : held room'.2.history = none
  locked : room'.2.cancellationLocked = room.2.cancellationLocked
  blameless : e.kind ≠ .invalidBundle
  left : room.2.state.bereft.Alike room'.2.state ∨
    ∃ record, { room.2.state with managedCore := some (.cleanupPending record) }.Alike
      room'.2.state ∧ Ratash.happened ServiceEvent.failsCleanup room'.2.history = true

theorem Abandoned.of_frame (h : Abandoned room' e room'') (hframe : Frame room room')
    (hs : room.2.state.Alike room'.2.state)
    (hlocked : room'.2.cancellationLocked = room.2.cancellationLocked) :
    Abandoned room e room'' := by
  refine ⟨hframe.trans h.toFrame, h.held, h.locked.trans hlocked, h.blameless, ?_⟩
  obtain hleft | ⟨record, hleft, hfails⟩ := h.left
  · refine .inl (.trans ?_ hleft)
    exact ⟨hs.owner, rfl, hs.lastBundle, hs.degraded, hs.failures, hs.diagnostic, hs.restartDueAt,
      hs.restartBackoff⟩
  · refine .inr ⟨record, .trans ?_ hleft, hfails⟩
    exact ⟨hs.owner, rfl, hs.lastBundle, hs.degraded, hs.failures, hs.diagnostic, hs.restartDueAt,
      hs.restartBackoff⟩

theorem Abandoned.of_calm (h : Abandoned room' e room'') (hcalm : Calm room room') :
    Abandoned room e room'' :=
  h.of_frame hcalm.toFrame hcalm.state hcalm.locked

def Tried (room : ServiceRoom) (P : α → ServiceRoom → Prop) :
    Except CoreRuntimeError α → ServiceRoom → Prop
  | .ok a, room' => Calm room room' ∧ P a room'
  | .error e, room' => Abandoned room e room'

theorem tried_seq {P : α → ServiceRoom → Prop} {R : β → ServiceRoom → Prop}
    {x : ServiceAttempt α} {f : α → ServiceAttempt β} (hx : Does config base x (Tried room P) room)
    (hf : ∀ a room', Course config base room' → Calm room room' → P a room' →
      Does config base (f a) (Tried room' R) room') :
    Does config base (x >>= f) (Tried room R) room := by
  apply ensures_seq hx
  · intro a room₁ hcourse₁ ⟨hcalm, hP⟩
    apply (hf a room₁ hcourse₁ hcalm hP).mono (fun _ h => h)
    intro r room' _ htried
    cases r with
    | ok b => exact ⟨hcalm.trans htried.1, htried.2⟩
    | error e => exact Abandoned.of_calm htried hcalm
  · exact fun _ _ _ h => h

theorem blameless_mapReadinessError (e : ServicePlatformError) :
    (mapReadinessError e).kind ≠ .invalidBundle := by
  unfold mapReadinessError
  split <;> exact nofun

structure Launched (proof : OwnerSessionProof) (wanted : RuntimeGeneration) (room : ServiceRoom)
    (record : ManagedCoreRecord) (room' : ServiceRoom) : Prop extends Frame room room' where
  state : room.2.state.Alike room'.2.state
  held : held room'.2.history = some record.ownedIdentity
  locked : room'.2.cancellationLocked = room.2.cancellationLocked
  generation : record.handle.runtimeGeneration = wanted
  checked : Checked proof room'.2.history

theorem blameless_mapSpawnError (e : ServicePlatformError) :
    (mapSpawnError e).kind ≠ .invalidBundle := by
  unfold mapSpawnError
  split <;> exact nofun

variable (hcourse : Course config base room)

include hcourse

theorem call_seq {f : c.Reply → ServiceAttempt β}
    (hpermit : ∀ w, Interferes room.2 w → Permits config (room.1, w) c)
    (hf : ∀ r w, Interferes room.2 w → w.Replies c r →
      Course config base (room.1, (w.record c r).store c) →
      Does config base (f r) Q (room.1, (w.record c r).store c)) :
    Does config base (service c >>= f) Q room := by
  apply ensures_bind.2
  apply ensures_service hcourse
  intro r w hw hreply
  have hcourse' := hcourse.trans ((hw.course (n := room.1)).tail
    (.call (hpermit w hw) hreply))
  exact ⟨hcourse', hf r w hw hreply hcourse'⟩

theorem plain_seq {f : c.Reply → ServiceAttempt β} (hc : c.plain = true)
    (hf : ∀ r room', Replied room c r room' → Course config base room' →
      Does config base (f r) Q room') : Does config base (service c >>= f) Q room := by
  apply call_seq hcourse (fun _ _ => plain_permits hc)
  intro r w hw hreply hcourse'
  have hstore : (w.record c r).store c = w.record c r := by
    cases c <;> first | rfl | cases hc
  rw [hstore] at hcourse' ⊢
  exact hf r _ ⟨hw.calm.trans (plain_calm hc w r), hw.state_eq, w, hw, hreply, rfl⟩ hcourse'

theorem get_seq {f : ServiceState → ServiceAttempt β}
    (hf : ∀ room', Replied room .getState room.2.state room' → Course config base room' →
      Does config base (f room.2.state) Q room') :
    Does config base (service .getState >>= f) Q room := by
  apply plain_seq hcourse rfl
  intro state room' hreplied hcourse'
  obtain ⟨w, hw, hreply, _⟩ := hreplied.event
  obtain rfl : state = room.2.state := hreply.trans hw.state_eq
  exact hf room' hreplied hcourse'

theorem put_seq (hstores : ∀ w, Interferes room.2 w → Stores config w s)
    (hf : ∀ room', Put room s room' → Course config base room' → Does config base (f ()) Q room') :
    Does config base (service (.putState s) >>= f) Q room := by
  apply call_seq hcourse (fun w hw => .putState (hstores w hw))
  intro r w hw hreply hcourse'
  have hcalm := hw.calm (n := room.1)
  refine hf _ ⟨rfl, hcalm.request, ?_, ?_, ?_, ⟨hcalm.owner, hcalm.ownerGeneration⟩,
    ⟨hcalm.epoch, hcalm.latest⟩, ?_, rfl, ?_, hcalm.locked⟩ hcourse'
  · change (decide (w.state.consecutiveRestartFailures < _) || attempted w.history) = _
    rw [hw.state_eq, hcalm.attempted]
  · change decide (w.state.consecutiveRestartFailures < _) = _
    rw [hw.state_eq]
  · exact fun P hP => happened_made (hcalm.happened P hP)
  · intro hnone p g hmem
    exact hcalm.cancelled hnone p g (cancelled_of_made hmem)
  · rw [ServiceWorld.history_store, outstanding_stores rfl]
    exact hcalm.outstanding

theorem modify_seq {g : ServiceState → ServiceState}
    (hstores : ∀ room' w, Replied room .getState room.2.state room' → Interferes room'.2 w →
      w.state = room.2.state → Stores config w (g w.state))
    (hf : ∀ room₁ room', Replied room .getState room.2.state room₁ →
      Put room₁ (g room.2.state) room' → Course config base room' →
      Does config base (f ()) Q room') : Does config base (modifyState g >>= f) Q room := by
  rw [modifyState, bind_assoc]
  apply get_seq hcourse
  intro room₁ hreplied hcourse₁
  apply put_seq hcourse₁
  · intro w hw
    have hstate := hw.state_eq.trans hreplied.state
    exact hstate ▸ hstores room₁ w hreplied hw hstate
  · intro room' hput hcourse'
    exact hf room₁ room' hreplied hput hcourse'

theorem platform_seq {reply : Except δ α} {error : δ → CoreRuntimeError} {f : α → ServiceAttempt β}
    (hok : ∀ a, reply = .ok a → Does config base (f a) Q room)
    (herr : ∀ e, reply = .error e → Q (.error (error e)) room) :
    Does config base (platform reply error >>= f) Q room := by
  apply ensures_ofExcept_seq hcourse
  · intro a ha
    cases reply with
    | ok b => exact hok a (congrArg _ (Except.ok.inj ha))
    | error e => cases ha
  · intro e he
    cases reply with
    | ok b => cases he
    | error e' =>
      cases he
      exact herr e' rfl

theorem ownedProcessIsLive_calm :
    Does config base (ownedProcessIsLive process) (fun r room' => Calm room room' ∧ Blameless r ∧
        (r = .ok false → process ∉ outstanding room'.2.history) ∧
        (r = .ok true → observedLive process room'.2.history = true)) room := by
  apply plain_seq hcourse rfl
  intro reply room₁ hreaped hcourse₁
  apply platform_seq hcourse₁
  case herr => exact fun e _ => ⟨hreaped.calm, blameless_error nofun, nofun, nofun⟩
  case hok =>
    rintro exited rfl
    cases exited with
    | true =>
      refine ⟨hcourse₁, hreaped.calm, blameless_ok _, fun _ => ?_, nofun⟩
      obtain ⟨w, _, _, rfl⟩ := hreaped.event
      exact not_mem_outstanding_of_ends rfl (by simp [ServiceEvent.ends])
    | false =>
      apply plain_seq hcourse₁ rfl
      intro reply room₂ hlooked hcourse₂
      have hcalm := hreaped.calm.trans hlooked.calm
      apply platform_seq hcourse₂
      case herr => exact fun e _ => ⟨hcalm, blameless_error nofun, nofun, nofun⟩
      case hok =>
        rintro actual rfl
        obtain ⟨w, _, _, rfl⟩ := hlooked.event
        refine ⟨hcourse₂, hcalm, blameless_ok _, fun hfalse => ?_, fun htrue => ?_⟩
        · apply not_mem_outstanding_of_ends rfl
          simpa [ServiceEvent.ends] using hfalse
        · simpa [observedLive, ServiceWorld.record] using htrue

theorem requireOwnedProcess_calm :
    Does config base (requireOwnedProcess record) (fun _ room' => Calm room room') room := by
  apply ensures_seq (ownedProcessIsLive_calm hcourse)
  · intro live room' hcourse' h
    exact ensures_require.2 ⟨hcourse', fun _ => h.1, fun _ => h.1⟩
  · exact fun e room' _ h => h.1

theorem modify_calm {g : ServiceState → ServiceState}
    (hheld : held room.2.history = none) (hg : room.2.state.Alike (g room.2.state)) :
    Does config base (modifyState g) (fun r room' => r = .ok () ∧ Calm room room') room := by
  rw [← bind_pure (modifyState g)]
  apply modify_seq hcourse
  · intro room₁ w hreplied hw hstate
    have hheld' := (hreplied.calm.trans (hw.calm (n := room₁.1))).held
    exact .alike (hheld'.trans hheld) (hstate.symm ▸ hg)
  · intro room₁ room' hreplied hput hcourse'
    have hput' := hput.calm (hreplied.state.symm ▸ hg) (hreplied.calm.held.trans hheld)
    exact ⟨hcourse', rfl, hreplied.calm.trans hput'⟩

theorem drainLogs_calm (hheld : held room.2.history = none) :
    Does config base (drainLogs config record) (fun _ room' => Calm room room') room := by
  apply plain_seq hcourse rfl
  intro reply room₁ hreplied hcourse₁
  apply platform_seq hcourse₁
  · intro incoming _
    have hmodify := modify_calm (g := .acceptBatch config record.ownedIdentity.instanceGeneration
      incoming) hcourse₁ (hreplied.calm.held.trans hheld) (ServiceState.alike_acceptBatch ..)
    exact hmodify.mono (fun _ h => h) fun _ _ _ h => hreplied.calm.trans h.2
  · exact fun _ _ => hreplied.calm

theorem removeOwnedEndpoint_calm :
    Does config base (removeOwnedEndpoint record) (fun _ room' => Calm room room') room := by
  unfold removeOwnedEndpoint
  split
  · exact ⟨hcourse, .refl room⟩
  · apply plain_seq hcourse rfl
    intro found room₁ hfound hcourse₁
    cases found with
    | error kind =>
      exact ensures_require.2 ⟨hcourse₁, fun _ => hfound.calm, fun _ => hfound.calm⟩
    | ok identity =>
      simp only
      split
      · apply plain_seq hcourse₁ rfl
        intro removed room₂ hremoved hcourse₂
        exact ⟨hcourse₂, hfound.calm.trans hremoved.calm⟩
      · exact ⟨hcourse₁, hfound.calm⟩

theorem captureEndpoint_calm (hheld : held room.2.history = none) :
    Does config base (captureEndpoint record)
      (fun r room' => Calm room room' ∧ ∀ record', r = .ok record' → record.Same record') room := by
  unfold captureEndpoint
  split
  · refine ⟨hcourse, .refl room, ?_⟩
    rintro _ ⟨⟩
    exact ⟨rfl, rfl⟩
  · apply plain_seq hcourse rfl
    intro captured room₁ hreplied hcourse₁
    apply ensures_seq (modify_calm hcourse₁ (hreplied.calm.held.trans hheld) ?_)
    · rintro _ room' hcourse' ⟨_, hcalm⟩
      refine ⟨hcourse', hreplied.calm.trans hcalm, ?_⟩
      rintro _ ⟨⟩
      exact ⟨rfl, rfl⟩
    · rintro e _ _ ⟨h, _⟩
      cases h
    · exact ServiceState.alike_captured ..

theorem stopIfLive_calm (htracked : room.2.state.tracked = some process) :
    Does config base (stopIfLive process)
      (fun r room' => Calm room room' ∧ (r = .ok () → process ∉ outstanding room'.2.history))
      room := by
  apply ensures_seq (ownedProcessIsLive_calm hcourse)
  · intro live room₁ hcourse₁ ⟨hcalm, _, hdead, hlive⟩
    cases live with
    | false => exact ⟨hcourse₁, hcalm, fun _ => hdead rfl⟩
    | true =>
      apply call_seq hcourse₁
      · intro w hw
        exact .stop (by rw [hw.state_eq, hcalm.state.tracked, htracked])
          (hw.observedLive_eq.trans (hlive rfl))
      · intro stopped w hw _ hcourse₂
        have hcalm₂ := hcalm.trans
          (hw.calm.trans (record_calm (n := room₁.1) (r := stopped) rfl rfl))
        refine ⟨hcourse₂, hcalm₂, fun hok => ?_⟩
        cases stopped with
        | error e => cases hok
        | ok _ => exact not_mem_outstanding_of_ends rfl (by simp [ServiceEvent.ends])
  · intro e room' _ h
    exact ⟨h.1, nofun⟩

theorem stopOwnedRecord_calm (hheld : held room.2.history = none)
    (htracked : room.2.state.tracked = some record.ownedIdentity) :
    Does config base (stopOwnedRecord config record) (fun r room' => Calm room room' ∧
        (r = .ok () → record.ownedIdentity ∉ outstanding room'.2.history)) room := by
  apply ensures_seq (captureEndpoint_calm hcourse hheld)
  case herr => exact fun e room' _ h => ⟨h.1, nofun⟩
  intro record' room₁ hcourse₁ ⟨hcalm₁, hsame⟩
  have hidentity := (hsame record' rfl).2
  rw [← hidentity] at htracked ⊢
  apply ensures_seq
    (stopIfLive_calm hcourse₁ (hcalm₁.state.tracked.trans htracked))
  case herr => exact fun e room' _ h => ⟨hcalm₁.trans h.1, nofun⟩
  intro _ room₂ hcourse₂ ⟨hcalm₂, hended⟩
  have hcalm₁₂ := hcalm₁.trans hcalm₂
  apply ensures_seq (drainLogs_calm hcourse₂ (hcalm₁₂.held.trans hheld))
  case herr => exact fun e room' _ h => ⟨hcalm₁₂.trans h, nofun⟩
  intro _ room₃ hcourse₃ hcalm₃
  apply (removeOwnedEndpoint_calm hcourse₃).mono (fun _ h => h)
  intro r room' _ hcalm₄
  have hcalm₃₄ := hcalm₃.trans hcalm₄
  exact ⟨hcalm₁₂.trans hcalm₃₄, fun _ hp => hended rfl (hcalm₃₄.outstanding hp)⟩

theorem cleanupPendingCore_cleanedUp (hheld : held room.2.history = none) :
    Does config base (cleanupPendingCore config)
      (CleanedUp room) room := by
  apply get_seq hcourse
  intro room₁ hreplied₁ hcourse₁
  have hcalm₁ := hreplied₁.calm
  split
  case h_1 record hcore =>
    have hpending := ServiceState.cleanupPending_iff.2 ⟨record, hcore⟩
    have hcore₁ : room₁.2.state.managedCore = some (.cleanupPending record) :=
      hreplied₁.state ▸ hcore
    have htracked : room₁.2.state.tracked = some record.ownedIdentity := by
      rw [ServiceState.tracked, hcore₁]
      rfl
    apply ensures_seq
      (stopOwnedRecord_calm hcourse₁ (hcalm₁.held.trans hheld) htracked)
    case herr =>
      intro e room' _ h
      have hcalm := hcalm₁.trans h.1
      refine ⟨hcalm.toFrame, hcalm.held.trans hheld, hcalm.locked, fun _ _ => hcalm.state, ?_, ?_⟩
      · intro hok
        cases hok
      · intro hok
        cases hok
    intro _ room₂ hcourse₂ hstopped
    obtain ⟨hcalm₂, hended⟩ := hstopped
    rw [← bind_pure (modifyState _)]
    apply modify_seq hcourse₂
    · intro room₃ w hreplied₃ hw hstate
      have hcalm₃ := hreplied₃.calm.trans (hw.calm (n := room₃.1))
      obtain ⟨record', hcore', hsame⟩ := (hcalm₂.trans hcalm₃).state.pending hcore₁
      apply Stores.cleaned hcore'
      intro hp
      rw [OwnedCoreState.record, hsame.2] at hp
      exact hended rfl (hcalm₃.outstanding hp)
    · intro room₃ room' hreplied₃ hput hcourse'
      have hcalm := hcalm₁.trans hcalm₂
      have hcalm' := hcalm.trans hreplied₃.calm
      have hframe := hput.frame (hreplied₃.state ▸ Nat.le_refl _)
      refine ⟨hcourse', hcalm'.toFrame.trans hframe, hput.held, hput.locked.trans hcalm'.locked,
        ?_, fun _ _ => ?_, fun _ hfalse => ?_⟩
      · intro _ herror
        cases herror
      · rw [hput.state]
        exact ⟨hcalm.state.owner, rfl, hcalm.state.lastBundle, hcalm.state.degraded,
          hcalm.state.failures, hcalm.state.diagnostic, hcalm.state.restartDueAt,
          hcalm.state.restartBackoff⟩
      · rw [hpending] at hfalse
        cases hfalse
  case h_2 hcore =>
    refine ⟨hcourse₁, hcalm₁.toFrame, hcalm₁.held.trans hheld, hcalm₁.locked, ?_, ?_, ?_⟩
    · intro _ herror
      cases herror
    · intro _ hpending
      obtain ⟨record, hrecord⟩ := ServiceState.cleanupPending_iff.1 hpending
      exact absurd hrecord (hcore record)
    · exact fun _ _ => hcalm₁.state

theorem unlock_seq (hf : ∀ room', Steady room room' → room'.2.cancellationLocked = false →
      (∀ proof, Checked proof room.2.history → Checked proof room'.2.history) →
      Course config base room' → Does config base (f ()) Q room') :
    Does config base (service .unlockCancellation >>= f) Q room := by
  apply call_seq hcourse (fun _ _ => .unlockCancellation)
  intro r w hw _ hcourse'
  have hcalm := hw.calm (n := room.1)
  have hrecord := hcalm.trans
    (record_calm (c := .unlockCancellation) (r := r) (n := room.1) rfl rfl)
  refine hf _ (hrecord.toSteady.setLocked false) rfl (fun proof hchecked => ?_) hcourse'
  have hchecked' := hchecked.interferes hw
  exact hchecked'

theorem activeApplyGuard_guarded (hlocked : room.2.cancellationLocked = false) :
    Does config base (activeApplyGuard proof)
      (Guarded proof room) room := by
  apply call_seq hcourse
  · intro w hw
    exact .lockCancellation ((hw.calm (n := room.1)).locked.trans hlocked)
  intro cancellation w hw hreply hcourse₁
  obtain rfl : cancellation = w.cancellation := hreply
  have hcalm := (hw.calm (n := room.1)).trans
    (record_calm (c := .lockCancellation) (r := w.cancellation) (n := room.1) rfl rfl)
  have hsteady : Steady room
      (room.1, (w.record .lockCancellation w.cancellation).store .lockCancellation) :=
    hcalm.toSteady.setLocked true
  -- both refusals give the lock back first
  have hrefuse : ∀ e : CoreRuntimeError, e.kind ≠ .invalidBundle →
      Does config base (service .unlockCancellation >>= fun _ => (throw e : ServiceAttempt Unit))
        (Guarded proof room)
        (room.1, (w.record .lockCancellation w.cancellation).store .lockCancellation) := by
    intro e he
    apply unlock_seq hcourse₁
    intro room' hsteady' hfree _ hcourse'
    exact ⟨hcourse', hsteady.trans hsteady', blameless_error he, fun _ _ => hfree, nofun⟩
  split
  · exact hrefuse _ nofun
  · rename_i howner
    split
    · exact hrefuse _ nofun
    · rename_i hrequested
      have howner' : w.cancellation.owner = some proof := not_not.1 howner
      have hactive : w.cancellation.requested = false := Bool.eq_false_iff.2 hrequested
      refine ⟨hcourse₁, hsteady, blameless_ok _, nofun, fun _ => ⟨rfl, howner', hactive, ?_⟩⟩
      exact ⟨w.cancellation, false, rfl, howner', hactive⟩

theorem ensureApplyActive_calm (hlocked : room.2.cancellationLocked = false) :
    Does config base (ensureApplyActive proof)
      (fun r room' => Calm room room' ∧ Blameless r ∧ (r = .ok () → Checked proof room'.2.history))
      room := by
  apply ensures_seq (activeApplyGuard_guarded hcourse hlocked)
  · intro _ room₁ hcourse₁ hguarded
    rw [← bind_pure (service .unlockCancellation)]
    apply unlock_seq hcourse₁
    intro room' hsteady hfree hchecked hcourse'
    refine ⟨hcourse', ⟨hguarded.toSteady.trans hsteady, hfree.trans hlocked.symm⟩, blameless_ok _,
      fun _ => hchecked proof (hguarded.guarded rfl).2.2.2⟩
  · intro e room' _ hguarded
    exact ⟨⟨hguarded.toSteady, (hguarded.refused e rfl).trans hlocked.symm⟩, hguarded.blameless,
      nofun⟩

theorem failAfterUncommittedSpawn_abandoned
    (hheld : held room.2.history = some record.ownedIdentity)
    (hprimary : primary.kind ≠ .invalidBundle) :
    Does config base (failAfterUncommittedSpawn config record primary : ServiceAttempt α)
      (fun r room' => ∃ e, r = .error e ∧ Abandoned room e room') room := by
  apply modify_seq hcourse
  · intro room₁ w hreplied hw hstate
    have hcalm := hreplied.calm.trans (hw.calm (n := room₁.1))
    exact .abandoned (hcalm.held.trans hheld)
  intro room₁ room₂ hreplied hput hcourse₂
  have hframe := hreplied.calm.toFrame.trans (hput.frame (hreplied.state ▸ Nat.le_refl _))
  have hcleanup := (cleanupPendingCore_cleanedUp hcourse₂ hput.held).and
    (cleanupPendingCore_faults room₂)
  apply ensures_result_seq (hcleanup.mono (fun _ h => h.1) fun _ _ _ h => h)
  intro r room' hcourse' ⟨hcleaned, hfails⟩
  have hlocked := hcleaned.locked.trans (hput.locked.trans hreplied.calm.locked)
  cases r with
  | ok _ =>
    have hpending : room₂.2.state.cleanupPending = true := by
      rw [hput.state]
      rfl
    refine ⟨hcourse', primary, rfl, hframe.trans hcleaned.toFrame, hcleaned.held, hlocked,
      hprimary, .inl ?_⟩
    have halike := hcleaned.pending rfl hpending
    rw [hput.state] at halike
    exact halike
  | error e =>
    refine ⟨hcourse', uncommittedCleanupPending, rfl, hframe.trans hcleaned.toFrame,
      hcleaned.held, hlocked, nofun, .inr ⟨record, ?_, hfails e rfl⟩⟩
    have halike := hcleaned.failed e rfl
    rw [hput.state] at halike
    exact halike

omit hcourse in
theorem orAbandon_tried {P : α → ServiceRoom → Prop} {check : ServiceAttempt α}
    (hheld : held room.2.history = some record.ownedIdentity) (hcheck : Does config base check
      (fun r room' => Calm room room' ∧ Blameless r ∧ ∀ a, r = .ok a → P a room') room) :
    Does config base (orAbandon config record check) (Tried room P) room := by
  apply ensures_result_seq hcheck
  intro r room₁ hcourse₁ ⟨hcalm, hblameless, hP⟩
  cases r with
  | ok a => exact ⟨hcourse₁, hcalm, hP a rfl⟩
  | error e =>
    apply (failAfterUncommittedSpawn_abandoned hcourse₁ (hcalm.held.trans hheld)
      (hblameless e rfl)).mono (fun _ h => h)
    rintro _ room' _ ⟨e', rfl, habandoned⟩
    exact habandoned.of_calm hcalm

theorem tried_plain {R : β → ServiceRoom → Prop} {f : c.Reply → ServiceAttempt β}
    (hc : c.plain = true) (hf : ∀ r room', Replied room c r room' → Course config base room' →
      Does config base (f r) (Tried room' R) room') :
    Does config base (service c >>= f) (Tried room R) room := by
  apply plain_seq hcourse hc
  intro r room₁ hreplied hcourse₁
  apply (hf r room₁ hreplied hcourse₁).mono (fun _ h => h)
  intro r' room' _ htried
  cases r' with
  | ok b => exact ⟨hreplied.calm.trans htried.1, htried.2⟩
  | error e => exact Abandoned.of_calm htried hreplied.calm

theorem confirmSpawned_calm :
    Does config base (confirmSpawned record)
      (fun r room' => Calm room room' ∧ Blameless r ∧ ∀ a, r = .ok a → True) room := by
  apply ensures_seq (ownedProcessIsLive_calm hcourse)
  · intro live room' hcourse' h
    exact ensures_require.2 ⟨hcourse', fun _ => ⟨h.1, blameless_ok _, fun _ _ => trivial⟩,
      fun _ => ⟨h.1, blameless_error nofun, fun _ _ => trivial⟩⟩
  · exact fun e room' _ h => ⟨h.1, blameless_error (h.2.1 e rfl), fun _ _ => trivial⟩

theorem platform_calm {reply : Except δ α} {error : δ → CoreRuntimeError}
    (herror : ∀ e, (error e).kind ≠ .invalidBundle) :
    Does config base (platform reply error)
      (fun r room' => Calm room room' ∧ Blameless r ∧ ∀ a, r = .ok a → True) room := by
  refine ⟨hcourse, .refl room, ?_, fun _ _ => trivial⟩
  intro e he
  cases reply with
  | ok _ => cases he
  | error e' =>
    cases he
    exact herror e'

theorem recaptureEndpoint_calm :
    Does config base (recaptureEndpoint path record access)
      (Tried room fun record' _ => record.Same record') room := by
  cases access with
  | error e => exact ⟨hcourse, .refl room, rfl, rfl⟩
  | ok _ =>
    apply plain_seq hcourse rfl
    intro captured room' hreplied hcourse'
    exact ⟨hcourse', hreplied.calm, rfl, rfl⟩

theorem prepareSpawned_tried (hheld : held room.2.history = some record.ownedIdentity)
    (hlocked : room.2.cancellationLocked = false) :
    Does config base (prepareSpawned config owner record)
      (Tried room fun record' room' => record.Same record' ∧ Checked owner.proof room'.2.history)
      room := by
  have hactive : ∀ {room record}, Course config base room →
      held room.2.history = some (record : ManagedCoreRecord).ownedIdentity →
      room.2.cancellationLocked = false →
      Does config base (orAbandon config record (ensureApplyActive owner.proof))
        (Tried room fun _ room' => Checked owner.proof room'.2.history) room := by
    intro room record hcourse hheld hlocked
    apply orAbandon_tried hheld
    apply (ensureApplyActive_calm hcourse hlocked).mono (fun _ h => h)
    exact fun r room' _ h => ⟨h.1, h.2.1, fun _ ha => h.2.2 ha⟩
  apply tried_seq (hactive hcourse hheld hlocked)
  intro _ room₁ hcourse₁ hcalm₁ _
  have hheld₁ := hcalm₁.held.trans hheld
  apply tried_seq (orAbandon_tried hheld₁ (confirmSpawned_calm hcourse₁))
  intro _ room₂ hcourse₂ hcalm₂ _
  have hheld₂ := hcalm₂.held.trans hheld₁
  apply tried_plain hcourse₂ rfl
  intro readiness room₃ hready hcourse₃
  apply tried_plain hcourse₃ rfl
  intro captured room₄ hcaptured hcourse₄
  have hcalm₄ := hready.calm.trans hcaptured.calm
  have hheld₄ : held room₄.2.history =
      some { record with endpointIdentity := captured }.ownedIdentity := hcalm₄.held.trans hheld₂
  apply tried_seq (orAbandon_tried hheld₄ (platform_calm hcourse₄ blameless_mapReadinessError))
  intro _ room₅ hcourse₅ hcalm₅ _
  have hheld₅ := hcalm₅.held.trans hheld₄
  have hlocked₅ := (((hcalm₁.trans hcalm₂).trans hcalm₄).trans hcalm₅).locked.trans hlocked
  apply tried_seq (hactive hcourse₅ hheld₅ hlocked₅)
  intro _ room₆ hcourse₆ hcalm₆ _
  apply tried_plain hcourse₆ rfl
  intro access room₇ haccess hcourse₇
  apply tried_seq (recaptureEndpoint_calm hcourse₇)
  intro record₈ room₈ hcourse₈ hcalm₈ hsame
  have hcalm₆₈ := (hcalm₆.trans haccess.calm).trans hcalm₈
  have hheld₈ : held room₈.2.history = some record₈.ownedIdentity := by
    rw [hcalm₆₈.held, hheld₅, hsame.2]
  apply tried_seq (orAbandon_tried hheld₈ (platform_calm hcourse₈ (by exact fun _ => nofun)))
  intro _ room₉ hcourse₉ hcalm₉ _
  apply tried_seq (hactive hcourse₉ (hcalm₉.held.trans hheld₈)
    ((hcalm₆₈.trans hcalm₉).locked.trans hlocked₅))
  intro _ room' hcourse' hcalm' hchecked
  exact ⟨hcourse', .refl room', hsame, hchecked⟩

theorem reserve_seq {x : ControlAttempt α} {f : α → ServiceAttempt β}
    {R : Except CoreRuntimeError α → GenerationCounters → Prop}
    (hx : x.run.Ensures anyControl room.1.Le R room.1)
    (hok : ∀ a n, room.1.Le n → R (.ok a) n → Course config base (n, room.2) →
      Does config base (f a) Q (n, room.2))
    (herr : ∀ e n, room.1.Le n → R (.error e) n → Q (.error e) (n, room.2)) :
    Does config base (x.left >>= f) Q room := by
  apply ensures_seq (R := fun r room' => room.1.Le room'.1 ∧ room'.2 = room.2 ∧ R r room'.1)
  · apply ensures_left.2
    apply hx.mono
    · exact fun n hle => hcourse.tail (.reserve hle)
    · exact fun r n hle hR => ⟨hle, rfl, hR⟩
  · rintro a ⟨n, w⟩ hcourse' ⟨hle, rfl, hR⟩
    exact hok a n hle hR hcourse'
  · rintro e ⟨n, w⟩ _ ⟨hle, rfl, hR⟩
    exact herr e n hle hR

theorem spawnVerified_ensures (hcore : room.2.state.managedCore = none)
    (hheld : held room.2.history = none) (hlocked : room.2.cancellationLocked = false)
    (hstart : MayStart room.2) (howner : room.2.state.owner.isSome) :
    Does config base (spawnVerified config J owner bundle)
      (fun r room' =>
        (∀ record, r = .ok record →
          Launched owner.proof bundle.bundle.generation room record room') ∧
        ∀ e, r = .error e → Abandoned room e room' ∧ (room'.2.state.cleanupPending = true →
          happened (·.spawned.isSome) room'.2.history = true)) room := by
  apply reserve_seq hcourse (reserveCoreInstanceGeneration_ensures J room.1)
  case herr =>
    intro e n _ he
    apply outcome_error
    refine ⟨⟨.reserved room n, hheld, rfl, ?_, .inl (.bereft (.refl _) hcore)⟩,
      fun hpending => absurd hpending (ServiceState.Alike.unburdened (.refl _) hcore)⟩
    rw [he e rfl]
    decide
  intro instanceGeneration n _ _ hcourse₁
  apply call_seq hcourse₁
  · intro w hw
    have hcalm := hw.calm (n := n)
    refine .spawn (by rw [hw.state_eq]; exact hcore) (hcalm.held.trans hheld) ?_
      (by rw [hw.state_eq]; exact howner)
    rw [MayStart, hw.state_eq, hcalm.request]
    exact hstart
  intro reply w hw hreply hcourse₂
  have hcalm := hw.calm (n := n)
  have hframe :
      Frame room (n, (w.record (.spawn bundle owner.endpoint instanceGeneration) reply)) :=
    ⟨hcalm.request, hcalm.attempted, fun P hP => happened_made (hcalm.happened P hP), hcalm.owner,
      hcalm.ownerGeneration, hcalm.epoch, hcalm.latest, fun hfree p g hmem =>
        hcalm.cancelled hfree p g (cancelled_of_made hmem)⟩
  have hstate : room.2.state.Alike w.state := hw.state_eq ▸ .refl _
  apply platform_seq hcourse₂
  · rintro spawned rfl
    obtain ⟨hidentity, _⟩ := hreply
    apply ensures_require_seq hcourse₂
    · intro _
      have hheld₂ : held (w.record (.spawn bundle owner.endpoint instanceGeneration)
          (.ok spawned)).history =
            some (ManagedCoreRecord.spawned owner bundle instanceGeneration
              spawned).ownedIdentity :=
        rfl
      apply (prepareSpawned_tried hcourse₂ hheld₂ (hcalm.locked.trans hlocked)).mono (fun _ h => h)
      intro r room' _ htried
      cases r with
      | ok record =>
        apply outcome_ok
        obtain ⟨hcalm', hsame, hchecked⟩ := htried
        refine ⟨hframe.trans hcalm'.toFrame, hstate.trans hcalm'.state, ?_,
          hcalm'.locked.trans hcalm.locked, ?_, hchecked⟩
        · rw [hsame.2]
          exact hcalm'.held
        · rw [hsame.1]
          rfl
      | error e =>
        apply outcome_error
        have habandoned : Abandoned _ e room' := htried
        exact ⟨habandoned.of_frame hframe hstate hcalm.locked, fun _ => habandoned.happened _ rfl⟩
    · intro hbad
      exact absurd (hidentity spawned rfl) hbad
  · rintro e rfl
    apply outcome_error
    exact ⟨⟨hframe, hcalm.held.trans hheld, hcalm.locked, blameless_mapSpawnError e,
      .inl (hstate.bereft hcore)⟩, fun hpending => absurd hpending (hstate.unburdened hcore)⟩

end Rules

end Ratash

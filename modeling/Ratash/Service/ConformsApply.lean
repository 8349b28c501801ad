import Ratash.Service.ConformsOperations

namespace Ratash

open Interaction Attempt

structure Carried (room room' : ServiceRoom) : Prop extends Frame room room' where
  sameOwner : room'.2.state.owner = room.2.state.owner
  lessens : room.2.state.Lessens room'.2.state
  held : held room'.2.history = none
  locked : room'.2.cancellationLocked = room.2.cancellationLocked

theorem Carried.trans (h : Carried room room') (h' : Carried room' room'') : Carried room room'' :=
  ⟨h.toFrame.trans h'.toFrame, h'.sameOwner.trans h.sameOwner, h.lessens.trans h'.lessens, h'.held,
    h'.locked.trans h.locked⟩

theorem Calm.carried (h : Calm room room') (hheld : Ratash.held room.2.history = none) :
    Carried room room' :=
  ⟨h.toFrame, h.state.owner, h.state.lessens, h.held.trans hheld, h.locked⟩

theorem ServiceState.lessens_bereft (s : ServiceState) : s.Lessens s.bereft :=
  s.lessens_setCore rfl

theorem CleanedUp.carried (h : CleanedUp room r room') : Carried room room' := by
  have hcore : room.2.state.Alike room'.2.state ∨ room.2.state.bereft.Alike room'.2.state := by
    cases r with
    | error e => exact .inl (h.failed e rfl)
    | ok _ =>
      cases hpending : room.2.state.cleanupPending with
      | true => exact .inr (h.pending rfl hpending)
      | false => exact .inl (h.other rfl hpending)
  obtain hsame | hgone := hcore
  · exact ⟨h.toFrame, hsame.owner, hsame.lessens, h.held, h.locked⟩
  · exact ⟨h.toFrame, hgone.owner, (room.2.state.lessens_bereft).trans hgone.lessens, h.held,
      h.locked⟩

theorem CleanedUp.not_pending (h : CleanedUp room (.ok ()) room') :
    room'.2.state.cleanupPending = false := by
  cases hpending : room.2.state.cleanupPending with
  | true => exact (h.pending rfl hpending).cleanupPending
  | false => exact (h.other rfl hpending).cleanupPending.trans hpending

theorem Abandoned.carried (h : Abandoned room e room') : Carried room room' := by
  obtain hleft | ⟨record, hleft, _⟩ := h.left
  · exact ⟨h.toFrame, hleft.owner, (room.2.state.lessens_bereft).trans hleft.lessens, h.held,
      h.locked⟩
  · exact ⟨h.toFrame, hleft.owner, (room.2.state.lessens_setCore rfl).trans hleft.lessens, h.held,
      h.locked⟩

theorem Settled.of_carried (h : Settled room) (hcarried : Carried room room') : Settled room' :=
  h.of_frame hcarried.toFrame hcarried.sameOwner hcarried.held hcarried.locked

theorem Done.of_carried (h : Settled room) (hcarried : Carried room room') : Done room room' :=
  ⟨h.of_carried hcarried, hcarried.attempted⟩

section Apply

variable {config : PrivilegedServiceConfig} {base room : ServiceRoom}

theorem Replied.cancellation_eq (h : Replied room c r room')
    (hlocked : room.2.cancellationLocked = true) : room'.2.cancellation = room.2.cancellation := by
  obtain ⟨w, hw, _, rfl⟩ := h.event
  exact hw.cancellation_eq hlocked

theorem Launched.sameOwner (h : Launched proof wanted room record room') :
    room'.2.state.owner = room.2.state.owner :=
  h.state.owner

def Applied (room : ServiceRoom) (r : Except CoreRuntimeError ApplyCandidateResult)
    (room' : ServiceRoom) : Prop :=
  Done room room' ∧ ∀ e, r = .error e → room.2.state.Lessens room'.2.state

structure Failed (room : ServiceRoom) (e : CoreRuntimeError) (room' : ServiceRoom) :
    Prop extends Carried room room' where
  blamed : e.kind = .invalidBundle → bundleRejected room'.2.history = true
  left : room.2.state.bereft.Alike room'.2.state ∨
    ∃ record, { room.2.state with managedCore := some (.cleanupPending record) }.Alike
      room'.2.state ∧ cleanupFailed room'.2.history = true

theorem Abandoned.failed (h : Abandoned room e room')
    (hspawned : room'.2.state.cleanupPending = true →
      Ratash.happened (·.spawned.isSome) room'.2.history = true) : Failed room e room' := by
  refine ⟨h.carried, fun hkind => absurd hkind h.blameless, h.left.imp_right ?_⟩
  rintro ⟨record, hleft, hfails⟩
  refine ⟨record, hleft, ?_⟩
  rw [cleanupFailed, hspawned hleft.cleanupPending, hfails]
  rfl

theorem Frame.cleanupFailed (h : Frame room room')
    (hfailed : Ratash.cleanupFailed room.2.history = true) :
    Ratash.cleanupFailed room'.2.history = true := by
  obtain ⟨hspawned, hfails⟩ := (Bool.and_eq_true ..).mp hfailed
  exact (Bool.and_eq_true ..).mpr ⟨h.happened _ hspawned, h.happened _ hfails⟩

theorem blameless_mapTunPreflightError (e : ServicePlatformError) :
    (mapTunPreflightError e).kind ≠ .invalidBundle := by
  unfold mapTunPreflightError
  split <;> exact nofun

theorem Calm.failed (h : Calm room room') (hheld : Ratash.held room.2.history = none)
    (hcore : room.2.state.managedCore = none)
    (hblamed : e.kind = .invalidBundle → bundleRejected room'.2.history = true) :
    Failed room e room' := by
  refine ⟨h.carried hheld, hblamed, .inl ?_⟩
  have hs := h.state
  exact ⟨hs.owner, by rw [hs.managedCore_none.2 hcore]; rfl, hs.lastBundle, hs.degraded,
    hs.failures, hs.diagnostic, hs.restartDueAt, hs.restartBackoff⟩

theorem Launched.of_calm (h : Launched proof wanted room' record room'') (hcalm : Calm room room') :
    Launched proof wanted room record room'' :=
  ⟨hcalm.toFrame.trans h.toFrame, hcalm.state.trans h.state, h.held,
    h.locked.trans hcalm.locked, h.generation, h.checked⟩

def Concluded (config : PrivilegedServiceConfig) (room : ServiceRoom) : Prop :=
  attempted room.2.history = true → room.2.state.restartDueAt.isSome →
    room.2.state.consecutiveRestartFailures < config.restartLimit ∨
      bundleRejected room.2.history = true ∨ cleanupFailed room.2.history = true

theorem Done.concluded (h : Done room room') (hstart : attempted room.2.history = false) :
    Settled room' ∧ Concluded config room' := by
  refine ⟨h.1, fun hattempted => ?_⟩
  rw [h.2, hstart] at hattempted
  cases hattempted

theorem counted_of_put (hput : Put room s room') (hdue : room'.2.state.restartDueAt.isSome)
    (honce : attempted room.2.history = false) (hs : s.consecutiveRestartFailures =
      saturatingAdd room.2.state.consecutiveRestartFailures 1) : Counted room'.2 := by
  by_cases hlt : room.2.state.consecutiveRestartFailures < usizeMax
  · left
    rw [hput.counting, hs, saturatingAdd, decide_eq_true]
    omega
  · right
    have hsame : ¬ room.2.state.consecutiveRestartFailures < s.consecutiveRestartFailures := by
      rw [hs, saturatingAdd]
      omega
    refine ⟨?_, hdue, ?_⟩
    · rw [hput.attempted, honce, decide_eq_false hsame]
      rfl
    · rw [hput.state, hs, saturatingAdd]
      omega

def Finished (config : PrivilegedServiceConfig) (room : ServiceRoom) : Prop :=
  Settled room ∧ Concluded config room

theorem Finished.of_calm (h : Finished config room) (hcalm : Calm room room') :
    Finished config room' := by
  refine ⟨h.1.of_calm hcalm, fun hattempted hdue => ?_⟩
  rw [hcalm.attempted] at hattempted
  rw [hcalm.state.restartDueAt] at hdue
  obtain hlt | hrejected | hfailed := h.2 hattempted hdue
  · exact .inl (hcalm.state.failures ▸ hlt)
  · exact .inr (.inl (hcalm.happened _ hrejected))
  · exact .inr (.inr (hcalm.cleanupFailed hfailed))

theorem ServiceState.alike_armLiveness (s : ServiceState) (now : Duration) :
    s.Alike (s.armLiveness now) := by
  unfold armLiveness
  split
  · exact ⟨rfl, rfl, rfl, rfl, rfl, rfl, rfl, rfl⟩
  · exact .refl s

theorem ServiceState.alike_nextLiveness (s : ServiceState) (now : Duration) :
    s.Alike (s.nextLiveness now) :=
  ⟨rfl, rfl, rfl, rfl, rfl, rfl, rfl, rfl⟩

theorem isDue_isSome (h : ServiceState.isDue deadline now = true) : deadline.isSome := by
  cases deadline with
  | none => cases h
  | some _ => rfl

variable (hcourse : Course config base room)

include hcourse

theorem verify_seq {Q : Except CoreRuntimeError β → ServiceRoom → Prop}
    {f : Except CoreRuntimeError VerifiedRuntimeBundle → ServiceAttempt β}
    (hcounted : ∀ now, room.2.request = .maintenanceStep now → Counted room.2)
    (hf : ∀ reply room', Calm room room' → Course config base room' →
      (∀ e, reply = .error e → bundleRejected room'.2.history = true) →
      (∀ verified, reply = .ok verified → verified.bundle.generation = bundle.generation) →
      Does config base (f reply) Q room') :
    Does config base (service (.verifyBundle bundle endpoint) >>= f) Q room := by
  apply call_seq hcourse
  · intro w hw
    refine .verifyBundle fun now hrequest => ?_
    have hcalm := hw.calm (n := room.1)
    rw [hcalm.request] at hrequest
    rw [Counted, hw.counting_eq, hcalm.attempted, hw.state_eq]
    exact hcounted now hrequest
  intro reply w hw hreply hcourse'
  refine hf reply _ ((hw.calm (n := room.1)).trans
    (record_calm (c := .verifyBundle bundle endpoint) (r := reply) (n := room.1) rfl rfl))
    hcourse' ?_ hreply.2
  rintro e rfl
  rfl

theorem replaceActive_ensures (hheld : held room.2.history = none)
    (hlocked : room.2.cancellationLocked = false)
    (hrequest : room.2.request = .applyCandidate proof bundle)
    (hcore : room.2.state.managedCore = core) (hpending : room.2.state.cleanupPending = false) :
    Does config base (replaceActive config proof core)
      (fun r room' => Carried room room' ∧ (r = .ok () → room'.2.state.managedCore = none))
      room := by
  unfold replaceActive
  split
  · rename_i record
    apply Calm.done_seq (requireOwnedProcess_calm hcourse) ?_
      fun e room' hcalm => ⟨hcalm.carried hheld, nofun⟩
    intro _ room₁ hcourse₁ hcalm₁
    obtain ⟨record₁, hcore₁, hsame₁⟩ := hcalm₁.state.activeRecord hcore
    apply modify_seq hcourse₁
    · intro room₂ w hreplied₂ hw hstate
      have hcalm := hcalm₁.trans (hreplied₂.calm.trans (hw.calm (n := room₂.1)))
      refine .demote (hcalm.request.trans hrequest) (hstate ▸ hcore₁)
        ⟨hsame₁.1.symm, hsame₁.2.symm⟩
    intro room₂ room₃ hreplied₂ hput hcourse₃
    have hcarried₃ : Carried room room₃ := by
      have hcalm₂ := hcalm₁.trans hreplied₂.calm
      refine ⟨hcalm₂.toFrame.trans (hput.frame (hreplied₂.state ▸ Nat.le_refl _)), ?_, ?_,
        hput.held, hput.locked.trans hcalm₂.locked⟩
      · rw [hput.state]
        exact hcalm₁.state.owner
      · rw [hput.state]
        exact hcalm₁.state.lessens.trans (room₁.2.state.lessens_setCore rfl)
    apply ensures_seq (cleanupPendingCore_cleanedUp hcourse₃ hput.held)
    case herr => exact fun e room' _ hcleaned => ⟨hcarried₃.trans hcleaned.carried, nofun⟩
    intro _ room₄ hcourse₄ hcleaned
    have hcarried₄ := hcarried₃.trans hcleaned.carried
    have hnone : room₄.2.state.managedCore = none := by
      have hwas : room₃.2.state.cleanupPending = true := by
        rw [hput.state]
        rfl
      exact (hcleaned.pending rfl hwas).managedCore_none.2 rfl
    apply (ensureApplyActive_calm hcourse₄ (hcarried₄.locked.trans hlocked)).mono (fun _ h => h)
    intro r room' _ ⟨hcalm, _⟩
    exact ⟨hcarried₄.trans (hcalm.carried hcarried₄.held),
      fun _ => hcalm.state.managedCore_none.2 hnone⟩
  · rename_i hactive
    refine ⟨hcourse, (Calm.refl room).carried hheld, fun _ => ?_⟩
    rcases hstate : room.2.state.managedCore with _ | ⟨record | record⟩
    · rfl
    · exact absurd (hcore.symm.trans hstate) (hactive record)
    · rw [ServiceState.cleanupPending, hstate] at hpending
      cases hpending

theorem orAbandon_guarded (hheld : held room.2.history = some record.ownedIdentity)
    (hlocked : room.2.cancellationLocked = false) :
    Does config base (orAbandon config record (activeApplyGuard proof))
      (fun r room' => (r = .ok () → Guarded proof room (.ok ()) room') ∧
        ∀ e, r = .error e → Abandoned room e room') room := by
  apply ensures_result_seq (activeApplyGuard_guarded hcourse hlocked)
  intro r room₁ hcourse₁ hguarded
  cases r with
  | ok _ => exact ⟨hcourse₁, fun _ => hguarded, nofun⟩
  | error e =>
    have hcalm : Calm room room₁ :=
      ⟨hguarded.toSteady, (hguarded.refused e rfl).trans hlocked.symm⟩
    apply (failAfterUncommittedSpawn_abandoned hcourse₁ (hcalm.held.trans hheld)
      (hguarded.blameless e rfl)).mono (fun _ h => h)
    rintro _ room' _ ⟨e', rfl, habandoned⟩
    refine ⟨nofun, ?_⟩
    rintro _ ⟨⟩
    exact habandoned.of_calm hcalm

theorem commitActive_done (hrequest : room.2.request = .applyCandidate proof bundle)
    (howner : room.2.state.owner = some owner) (hproof : owner.proof = proof)
    (hheld : held room.2.history = some record.ownedIdentity)
    (hlocked : room.2.cancellationLocked = false)
    (hgeneration : record.handle.runtimeGeneration = bundle.generation) :
    Does config base (commitActive config proof bundle record)
      (fun r room' => (∀ e, r = .error e → Carried room room') ∧ Frame room room' ∧
        room'.2.state.owner = room.2.state.owner ∧ Ratash.held room'.2.history = none ∧
        room'.2.cancellationLocked = room.2.cancellationLocked) room := by
  apply ensures_seq (orAbandon_guarded hcourse hheld hlocked)
  case herr =>
    intro e room' _ h
    have hcarried := (h.2 e rfl).carried
    exact ⟨fun _ _ => hcarried, hcarried.toFrame, hcarried.sameOwner, hcarried.held,
      hcarried.locked⟩
  intro _ room₁ hcourse₁ ⟨hok, _⟩
  have hguarded := hok rfl
  obtain ⟨hlocked₁, hcancellation, hactive, _⟩ := hguarded.guarded rfl
  have howner₁ := hguarded.state.owner.trans howner
  apply modify_seq hcourse₁
  · intro room₂ w hreplied₂ hw hstate
    have hcalm := hreplied₂.calm.trans (hw.calm (n := room₂.1))
    -- the lock is held, so nobody can cancel before the record is stored
    have hsame : w.cancellation = room₁.2.cancellation := by
      rw [hw.cancellation_eq (hreplied₂.calm.locked.trans hlocked₁),
        hreplied₂.cancellation_eq hlocked₁]
    refine .applied (hcalm.request.trans (hguarded.request.trans hrequest)) ?_ hgeneration
      (hstate ▸ howner₁) hproof ?_ ?_
    · exact hcalm.held.trans (hguarded.held.trans hheld)
    · rw [hsame, hcancellation]
    · rw [hsame, hactive]
  intro room₂ room₃ hreplied₂ hput hcourse₃
  apply unlock_seq hcourse₃
  intro room' hsteady hfree _ hcourse'
  have hframe := hguarded.toFrame.trans (hreplied₂.calm.toFrame.trans
    (hput.frame (by rw [hreplied₂.state]; exact Nat.zero_le _)))
  refine ⟨hcourse', nofun, hframe.trans hsteady.toFrame, ?_, hsteady.held.trans hput.held,
    hfree.trans hlocked.symm⟩
  rw [hsteady.state.owner, hput.state]
  exact hguarded.state.owner

theorem applyCandidate_done (h : Settled room)
    (hrequest : room.2.request = .applyCandidate proof bundle) :
    Does config base (applyCandidate config J proof bundle)
      (fun r room' => Applied room r room') room := by
  -- every part keeps what is needed to go on, or to end
  have hend : ∀ {r room'}, Carried room room' → Applied room r room' :=
    fun hcarried => ⟨.of_carried h hcarried, fun _ _ => hcarried.lessens⟩
  apply authenticate_seq hcourse ?_ fun e room' hcalm => hend (hcalm.carried h.held)
  intro owner room₁ hcalm₁ _ howner hproof hcourse₁
  have hcarried₁ := hcalm₁.carried h.held
  apply ensures_seq (cleanupPendingCore_cleanedUp hcourse₁ hcarried₁.held)
  case herr => exact fun e room' _ hcleaned => hend (hcarried₁.trans hcleaned.carried)
  intro _ room₂ hcourse₂ hcleaned
  have hcarried₂ := hcarried₁.trans hcleaned.carried
  have hpending₂ := hcleaned.not_pending
  have hactive : ∀ {room' f}, Course config base room' → Carried room room' →
      (∀ room'', Course config base room'' → Calm room' room'' →
        Does config base (f ()) (Applied room) room'') →
      Does config base (ensureApplyActive proof >>= f : ServiceAttempt ApplyCandidateResult)
        (Applied room) room' := by
    intro room' f hcourse' hcarried' hf
    apply ensures_seq (ensureApplyActive_calm hcourse' (hcarried'.locked.trans h.unlocked))
    · exact fun _ room'' hcourse'' hcalm => hf room'' hcourse'' hcalm.1
    · exact fun e room'' _ hcalm => hend (hcarried'.trans (hcalm.1.carried hcarried'.held))
  apply hactive hcourse₂ hcarried₂
  intro room₃ hcourse₃ hcalm₃
  have hcarried₃ := hcarried₂.trans (hcalm₃.carried hcarried₂.held)
  apply verify_seq hcourse₃
  · intro now hmaintenance
    rw [hcarried₃.request, hrequest] at hmaintenance
    cases hmaintenance
  intro reply room₄ hcalm₄ hcourse₄ _ hverified
  have hcarried₄ := hcarried₃.trans (hcalm₄.carried hcarried₃.held)
  apply platform_seq hcourse₄ ?_ fun _ _ => hend hcarried₄
  intro verified hreply
  apply hactive hcourse₄ hcarried₄
  intro room₅ hcourse₅ hcalm₅
  apply plain_seq hcourse₅ rfl
  intro tun room₆ hreplied₆ hcourse₆
  have hcalm₄₆ := hcalm₅.trans hreplied₆.calm
  have hcarried₆ := hcarried₄.trans (hcalm₄₆.carried hcarried₄.held)
  apply platform_seq hcourse₆ ?_ fun _ _ => hend hcarried₆
  intro _ _
  apply hactive hcourse₆ hcarried₆
  intro room₇ hcourse₇ hcalm₇
  apply get_seq hcourse₇
  intro room₈ hreplied₈ hcourse₈
  have hcalm₂₈ := hcalm₃.trans (hcalm₄.trans (hcalm₄₆.trans (hcalm₇.trans hreplied₈.calm)))
  have hcarried₈ := hcarried₂.trans (hcalm₂₈.carried hcarried₂.held)
  apply ensures_seq (replaceActive_ensures hcourse₈ hcarried₈.held
    (hcarried₈.locked.trans h.unlocked) (hcarried₈.request.trans hrequest)
    (congrArg ServiceState.managedCore hreplied₈.state)
    (hcalm₂₈.state.cleanupPending.trans hpending₂))
  case herr => exact fun e room' _ h' => hend (hcarried₈.trans h'.1)
  intro _ room₉ hcourse₉ ⟨hcarried', hnone⟩
  have hcarried₉ := hcarried₈.trans hcarried'
  have howner₉ : room₉.2.state.owner = some owner := hcarried₉.sameOwner.trans howner
  apply ensures_seq (spawnVerified_ensures hcourse₉ (hnone rfl) hcarried₉.held
    (hcarried₉.locked.trans h.unlocked) (.inl ⟨proof, bundle, hcarried₉.request.trans hrequest⟩)
    (by rw [howner₉]; rfl))
  case herr => exact fun e room' _ h' => hend (hcarried₉.trans (h'.2 e rfl).1.carried)
  intro record room₁₀ hcourse₁₀ ⟨hlaunched, _⟩
  have hl := hlaunched record rfl
  apply (commitActive_done hcourse₁₀ (hl.request.trans (hcarried₉.request.trans hrequest))
    (hl.sameOwner.trans howner₉) hproof hl.held
    (hl.locked.trans (hcarried₉.locked.trans h.unlocked))
    (hl.generation.trans (hverified verified hreply))).mono (fun _ h => h)
  intro r room' _ ⟨hcarried, hframe', howner', hheld', hlocked'⟩
  have hframe := hcarried₉.toFrame.trans (hl.toFrame.trans hframe')
  refine ⟨⟨h.of_frame hframe ?_ hheld' ?_, hframe.attempted⟩, fun e he => ?_⟩
  · rw [howner', hl.sameOwner, hcarried₉.sameOwner]
  · rw [hlocked', hl.locked, hcarried₉.locked]
  · exact hcarried₉.lessens.trans (hl.state.lessens.trans (hcarried e he).lessens)

theorem restartFrom_ensures (hcore : room.2.state.managedCore = none)
    (hheld : held room.2.history = none) (hlocked : room.2.cancellationLocked = false)
    (hrequest : room.2.request = .maintenanceStep now) (hdue : room.2.state.restartDueAt.isSome)
    (howner : room.2.state.owner = some owner) (hcounted : Counted room.2) :
    Does config base (restartFrom config J owner bundle) (fun r room' =>
        (∀ record, r = .ok record → Launched owner.proof bundle.generation room record room') ∧
        ∀ e, r = .error e → Failed room e room') room := by
  apply verify_seq hcourse (fun _ _ => hcounted)
  intro reply room₁ hcalm₁ hcourse₁ hrejected hverified
  apply platform_seq hcourse₁
  case herr =>
    intro e he
    apply outcome_error
    exact hcalm₁.failed hheld hcore fun _ => hrejected e he
  intro verified hreply
  apply plain_seq hcourse₁ rfl
  intro tun room₂ hreplied₂ hcourse₂
  have hcalm₂ := hcalm₁.trans hreplied₂.calm
  apply platform_seq hcourse₂
  case herr =>
    intro e _
    apply outcome_error
    exact hcalm₂.failed hheld hcore fun hkind => absurd hkind (blameless_mapTunPreflightError e)
  intro _ _
  have hdue₂ : room₂.2.state.restartDueAt.isSome := by
    rw [hcalm₂.state.restartDueAt]
    exact hdue
  apply (spawnVerified_ensures hcourse₂ (hcalm₂.state.managedCore_none.2 hcore)
    (hcalm₂.held.trans hheld) (hcalm₂.locked.trans hlocked)
    (.inr ⟨⟨now, hcalm₂.request.trans hrequest⟩, hdue₂⟩)
    (by rw [hcalm₂.state.owner, howner]; rfl)).mono (fun _ h => h)
  intro r room' _ ⟨hok, herr⟩
  refine ⟨fun record hr => ?_, fun e hr => ?_⟩
  · rw [← hverified verified hreply]
    exact (hok record hr).of_calm hcalm₂
  · exact ((herr e hr).1.of_calm hcalm₂).failed (herr e hr).2

theorem concludeRestart_ok (hrequest : room.2.request = .maintenanceStep now)
    (howner : room.2.state.owner = some owner) (hbundle : room.2.state.lastBundle = some bundle)
    (hheld : held room.2.history = some record.ownedIdentity)
    (hgeneration : record.handle.runtimeGeneration = bundle.generation)
    (hchecked : Checked owner.proof room.2.history) (hdue : room.2.state.restartDueAt.isSome) :
    Does config base (concludeRestart config now attempt (.ok record))
      (fun _ room' => Carried room room' ∧ room'.2.state.restartDueAt = none) room := by
  apply modify_seq hcourse
  · intro room₁ w hreplied hw hstate
    have hcalm := hreplied.calm.trans (hw.calm (n := room₁.1))
    obtain ⟨cancellation, since, hcheck, hproof, hactive⟩ :=
      (hchecked.replied rfl hreplied).interferes hw
    exact .restarted (hcalm.request.trans hrequest) (hcalm.held.trans hheld)
      (hcalm.state.lastBundle.trans hbundle) hgeneration (hcalm.state.owner.trans howner) hcheck
      hproof hactive (hcalm.state.restartDueAt ▸ hdue)
  · intro room₁ room' hreplied hput hcourse'
    have hframe := hreplied.calm.toFrame.trans
      (hput.frame (by rw [hreplied.state]; exact Nat.zero_le _))
    refine ⟨hcourse', ⟨hframe, ?_, ?_, hput.held, hput.locked.trans hreplied.calm.locked⟩, ?_⟩
    · rw [hput.state]
      rfl
    · rw [hput.state]
      rintro generation (⟨_, hsome, rfl⟩ | ⟨hsome, _⟩)
      · cases hsome
        exact .inr ⟨hdue, bundle, hbundle, hgeneration.symm⟩
      · cases hsome
    · rw [hput.state]
      rfl

theorem concludeRestart_error (hrequest : room.2.request = .maintenanceStep now)
    (hheld : held room.2.history = none)
    (hunclean : room.2.state.cleanupPending = true → cleanupFailed room.2.history = true)
    (hpending : room.2.state.cleanupPending = false → room.2.state.managedCore = none)
    (hdue : room.2.state.restartDueAt.isSome)
    (hattempt : room.2.state.consecutiveRestartFailures = attempt)
    (hblamed : e.kind = .invalidBundle → bundleRejected room.2.history = true) :
    Does config base (concludeRestart config now attempt (.error e))
      (fun _ room' => Carried room room' ∧ Concluded config room') room := by
  apply get_seq hcourse
  intro room₁ hreplied hcourse₁
  have hcalm := hreplied.calm
  have hcarried := hcalm.carried hheld
  split
  · rename_i hfutile
    refine ⟨hcourse₁, hcarried, fun _ _ => .inr ?_⟩
    obtain hkind | hcleanup := hfutile
    · exact .inl (hcalm.happened _ (hblamed hkind))
    · exact .inr (hcalm.cleanupFailed (hunclean hcleanup))
  · rename_i hfutile
    have hcore := hpending (Bool.eq_false_iff.2 fun hcleanup => hfutile (.inr hcleanup))
    have hw : ∀ {w}, Interferes room₁.2 w → w.request = .maintenanceStep now ∧
        held w.history = none ∧ w.state = room.2.state := by
      intro w hw
      have hcalm' := hcalm.trans (hw.calm (n := room₁.1))
      exact ⟨hcalm'.request.trans hrequest, hcalm'.held.trans hheld,
        hw.state_eq.trans hreplied.state⟩
    split
    · rename_i hlimit
      apply put_seq hcourse₁
      · intro w hinterferes
        obtain ⟨hrequest', hheld', hstate⟩ := hw hinterferes
        exact hstate ▸ .limitReached hrequest' hheld' (hstate ▸ hcore)
          (by rw [hstate, hattempt]; exact hlimit)
      · intro room' hput hcourse'
        refine ⟨hcourse', ⟨hcalm.toFrame.trans (hput.frame (hreplied.state ▸ Nat.le_refl _)), ?_,
          ?_, hput.held, hput.locked.trans hcalm.locked⟩, fun _ hdue' => ?_⟩
        · rw [hput.state]
          rfl
        · rw [hput.state]
          rintro generation (hactive | ⟨hsome, _⟩)
          · exact .inl hactive
          · cases hsome
        · rw [hput.state] at hdue'
          cases hdue'
    · rename_i hlimit
      have hlt : room.2.state.consecutiveRestartFailures < config.restartLimit := by
        rw [hattempt]
        exact Nat.not_le.1 hlimit
      apply put_seq hcourse₁
      · intro w hinterferes
        obtain ⟨hrequest', hheld', hstate⟩ := hw hinterferes
        exact hstate ▸ .backedOff hrequest' hheld' (hstate ▸ hcore) (hstate ▸ hdue) (hstate ▸ hlt)
      · intro room' hput hcourse'
        refine ⟨hcourse', ⟨hcalm.toFrame.trans (hput.frame (hreplied.state ▸ Nat.le_refl _)), ?_,
          ?_, hput.held, hput.locked.trans hcalm.locked⟩, fun _ _ => .inl ?_⟩
        · rw [hput.state]
          rfl
        · rw [hput.state]
          rintro generation (hactive | ⟨_, hpending'⟩)
          · exact .inl hactive
          · exact .inr ⟨hdue, hpending'⟩
        · rw [hput.state]
          exact hlt

theorem attemptOwnedCoreRestart_ends (h : Settled room)
    (hrequest : room.2.request = .maintenanceStep now) (hcore : room.2.state.managedCore = none)
    (hdue : room.2.state.restartDueAt.isSome) (howner : room.2.state.owner = some owner)
    (honce : attempted room.2.history = false) :
    Does config base (attemptOwnedCoreRestart config J owner now)
      (fun _ room' => Finished config room') room := by
  apply get_seq hcourse
  intro room₁ hreplied₁ hcourse₁
  have hcalm₁ := hreplied₁.calm
  split
  · exact ⟨hcourse₁, (Done.of_calm h hcalm₁).concluded honce⟩
  rename_i bundle hbundle
  apply put_seq hcourse₁
  · intro w hw
    have hcalm := hcalm₁.trans (hw.calm (n := room₁.1))
    rw [← hreplied₁.state, ← hw.state_eq]
    exact .counted (hcalm.request.trans hrequest) (hcalm.held.trans h.held)
      (hcalm.state.managedCore_none.2 hcore) (hcalm.state.restartDueAt ▸ hdue)
      (hcalm.attempted.trans honce)
  intro room₂ hput hcourse₂
  have hstate₂ := hput.state
  have hrequest₂ := hput.request.trans (hcalm₁.request.trans hrequest)
  have hcore₂ : room₂.2.state.managedCore = none := by
    rw [hstate₂]
    exact hcore
  have hdue₂ : room₂.2.state.restartDueAt.isSome := by
    rw [hstate₂]
    exact hdue
  have howner₂ : room₂.2.state.owner = some owner := by
    rw [hstate₂]
    exact howner
  have hlocked₂ : room₂.2.cancellationLocked = false :=
    hput.locked.trans (hcalm₁.locked.trans h.unlocked)
  have hsettled₂ : Settled room₂ := by
    have hsettled₁ := h.of_calm hcalm₁
    refine ⟨hput.held, hlocked₂, ?_, ?_, ?_⟩
    · rw [hput.cancellation.1, hsettled₁.owner, hstate₂, hreplied₁.state]
    · rw [hput.cancellation.2, hsettled₁.ownerGeneration, hstate₂, hreplied₁.state]
    · intro owner' howner'
      rw [hput.controller.1]
      refine hsettled₁.epoch owner' ?_
      rw [hstate₂] at howner'
      exact hreplied₁.state ▸ howner'
  have hcounted := counted_of_put hput hdue₂ (hcalm₁.attempted.trans honce)
    (by rw [hreplied₁.state])
  apply ensures_result_seq (restartFrom_ensures hcourse₂ hcore₂ hput.held hlocked₂
    hrequest₂ hdue₂ howner₂ hcounted)
  intro r room₃ hcourse₃ ⟨hok, herr⟩
  cases r with
  | ok record =>
    have hl := hok record rfl
    have hbundle₃ : room₃.2.state.lastBundle = some bundle := by
      rw [hl.state.lastBundle, hstate₂]
      exact hbundle
    apply (concludeRestart_ok hcourse₃ (hl.request.trans hrequest₂) (hl.sameOwner.trans howner₂)
      hbundle₃ hl.held hl.generation hl.checked (hl.state.restartDueAt ▸ hdue₂)).mono
      (fun _ h => h)
    intro _ room' _ ⟨hcarried, hnone⟩
    refine ⟨hsettled₂.of_frame (hl.toFrame.trans hcarried.toFrame) ?_ hcarried.held ?_,
      fun _ hdue' => ?_⟩
    · rw [hcarried.sameOwner, hl.sameOwner]
    · rw [hcarried.locked, hl.locked]
    · rw [hnone] at hdue'
      cases hdue'
  | error e =>
    have hfailed := herr e rfl
    have hpending : room₃.2.state.cleanupPending = false → room₃.2.state.managedCore = none := by
      intro hfalse
      obtain hleft | ⟨record, hleft, _⟩ := hfailed.left
      · exact hleft.managedCore_none.2 rfl
      · rw [hleft.cleanupPending] at hfalse
        cases hfalse
    have hunclean : room₃.2.state.cleanupPending = true →
        cleanupFailed room₃.2.history = true := by
      intro htrue
      obtain hleft | ⟨record, _, hunclean⟩ := hfailed.left
      · rw [hleft.cleanupPending] at htrue
        cases htrue
      · exact hunclean
    have hrestart : room₃.2.state.restartDueAt = room₂.2.state.restartDueAt ∧
        room₃.2.state.consecutiveRestartFailures = room₂.2.state.consecutiveRestartFailures := by
      obtain hleft | ⟨record, hleft, _⟩ := hfailed.left <;>
        exact ⟨hleft.restartDueAt, hleft.failures⟩
    apply (concludeRestart_error hcourse₃ (hfailed.request.trans hrequest₂) hfailed.held hunclean
      hpending (hrestart.1 ▸ hdue₂) (by rw [hrestart.2, hstate₂]) hfailed.blamed).mono
        (fun _ h => h)
    intro _ room' _ ⟨hcarried, hconcluded⟩
    exact ⟨hsettled₂.of_carried (hfailed.toCarried.trans hcarried), hconcluded⟩

theorem maintenanceAnswer_calm :
    Does config base (maintenanceAnswer outcome) (fun _ room' => Calm room room') room := by
  apply get_seq hcourse
  exact fun room' hreplied hcourse' => ⟨hcourse', hreplied.calm⟩

theorem maintenanceUnchanged_calm :
    Does config base maintenanceUnchanged (fun _ room' => Calm room room') room := by
  apply get_seq hcourse
  exact fun room' hreplied hcourse' => ⟨hcourse', hreplied.calm⟩

omit hcourse in
theorem answer_ends {x : ServiceAttempt α}
    (hx : Does config base x (fun _ room' => Finished config room') room)
    (outcome : α → ServiceMaintenanceOutcome) :
    Does config base (x >>= fun a => maintenanceAnswer (outcome a))
      (fun _ room' => Finished config room') room := by
  apply ensures_seq hx
  · intro a room₁ hcourse₁ hends
    apply (maintenanceAnswer_calm hcourse₁).mono (fun _ h => h)
    exact fun _ _ _ hcalm => hends.of_calm hcalm
  · exact fun _ _ _ h => h

theorem ownerIsLive_calm : Does config base (ownerIsLive owner)
      (fun _ room' => Calm room room') room := by
  apply plain_seq hcourse rfl
  intro reply room' hreplied hcourse'
  apply platform_seq hcourse'
  · exact fun _ _ => ⟨hcourse', hreplied.calm⟩
  · exact fun _ _ => hreplied.calm

theorem checkOwner_calm :
    Does config base (checkOwner owner due) (fun _ room' => Calm room room') room := by
  unfold checkOwner
  split
  · exact ownerIsLive_calm hcourse
  · exact ⟨hcourse, .refl room⟩

variable (h : Settled room) (honce : attempted room.2.history = false)

include h honce

theorem acceptExit_ends (hcore : room.2.state.managedCore = some (.active record))
    (hended : record.ownedIdentity ∉ outstanding room.2.history) :
    Does config base (acceptExit config record' now) (fun _ room' => Finished config room') room :=
  (acceptExit_done hcourse h hcore hended).mono (fun _ h => h)
    fun _ _ _ hdone => hdone.concluded honce

theorem maintainActive_ends (hcore : room.2.state.managedCore = some (.active record)) :
    Does config base (maintainActive config now record)
      (fun _ room' => Finished config room') room := by
  apply ensures_seq (ownedProcessIsLive_calm hcourse)
  case herr => exact fun e room' _ h' => (Done.of_calm h h'.1).concluded honce
  intro live room₁ hcourse₁ ⟨hcalm, _, hdead, _⟩
  have hends : Finished config room₁ := (Done.of_calm h hcalm).concluded honce
  cases live with
  | true =>
    apply (maintenanceUnchanged_calm hcourse₁).mono (fun _ h => h)
    exact fun _ _ _ hcalm' => Finished.of_calm hends hcalm'
  | false =>
    obtain ⟨record', hcore', hsame⟩ := hcalm.state.activeRecord hcore
    have hended : record'.ownedIdentity ∉ outstanding room₁.2.history := by
      rw [hsame.2]
      exact hdead rfl
    exact answer_ends (acceptExit_ends hcourse₁ hends.1 (hcalm.attempted.trans honce) hcore' hended)
      ServiceMaintenanceOutcome.unexpectedExit

variable (hbase : Custody base.2) (hrequest : room.2.request = .maintenanceStep now)

include hbase hrequest

theorem maintainCore_ends (howner : room.2.state.owner = some owner)
    (hdue : restartIsDue = true → room.2.state.restartDueAt.isSome) :
    Does config base (maintainCore config J owner now restartIsDue livenessIsDue)
      (fun _ room' => Finished config room') room := by
  have hcleanup : Does config base (whenever (restartIsDue = true ∨ livenessIsDue = true)
      (cleanupPendingCore config))
      (fun r room' => Carried room room' ∧ (r = .ok () → restartIsDue = true →
        room'.2.state.cleanupPending = false ∧ room'.2.state.restartDueAt.isSome)) room := by
    apply ensures_whenever
    · intro _
      apply (cleanupPendingCore_cleanedUp hcourse h.held).mono (fun _ h => h)
      intro r room' _ hcleaned
      refine ⟨hcleaned.carried, fun hok hrestart => ?_⟩
      subst hok
      refine ⟨hcleaned.not_pending, ?_⟩
      have hsame : room'.2.state.restartDueAt = room.2.state.restartDueAt := by
        cases hpending : room.2.state.cleanupPending with
        | true => exact (hcleaned.pending rfl hpending).restartDueAt
        | false => exact (hcleaned.other rfl hpending).restartDueAt
      rw [hsame]
      exact hdue hrestart
    · intro hnot
      refine ⟨hcourse, (Calm.refl room).carried h.held, fun _ hrestart => ?_⟩
      exact absurd (.inl hrestart) hnot
  apply ensures_seq hcleanup
  case herr => exact fun e room' _ h' => (Done.of_carried h h'.1).concluded honce
  intro _ room₁ hcourse₁ ⟨hcarried₁, hclean⟩
  apply get_seq hcourse₁
  intro room₂ hreplied₂ hcourse₂
  have hcalm₂ := hreplied₂.calm
  have hcarried₂ := hcarried₁.trans (hcalm₂.carried hcarried₁.held)
  have hsettled₂ := h.of_carried hcarried₂
  have honce₂ := hcarried₂.attempted.trans honce
  have hidle : Does config base maintenanceUnchanged
      (fun _ room' => Finished config room') room₂ :=
    (maintenanceUnchanged_calm hcourse₂).mono (fun _ h => h)
      fun _ _ _ hcalm => (Done.of_calm hsettled₂ hcalm).concluded honce₂
  split
  · rename_i hrestart
    obtain ⟨hpending, hdue₁⟩ := hclean rfl hrestart.1
    have hdue₂ : room₂.2.state.restartDueAt.isSome := by
      rw [hreplied₂.state]
      exact hdue₁
    -- a Core for which a restart is due is not Active
    have hcore : room₂.2.state.managedCore = none := by
      have hactive := ((hbase.course hcourse₂).due hdue₂).1
      rw [← hcalm₂.state.cleanupPending] at hpending
      rcases hcore : room₂.2.state.managedCore with _ | ⟨record | record⟩
      · rfl
      · rw [ServiceState.active_eq_some.2 hcore] at hactive
        cases hactive
      · rw [ServiceState.cleanupPending, hcore] at hpending
        cases hpending
    exact answer_ends (attemptOwnedCoreRestart_ends hcourse₂ hsettled₂
      (hcarried₂.request.trans hrequest) hcore hdue₂ (hcarried₂.sameOwner.trans howner) honce₂)
      ServiceMaintenanceOutcome.unexpectedExit
  · split
    · split
      · rename_i record hcore
        exact maintainActive_ends hcourse₂ hsettled₂ honce₂ (hreplied₂.state ▸ hcore)
      · exact hidle
    · exact hidle

theorem maintainOwned_ends (howner : room.2.state.owner = some owner)
    (hdue : restartIsDue = true → room.2.state.restartDueAt.isSome) :
    Does config base (maintainOwned config J owner now restartIsDue livenessIsDue)
      (fun _ room' => Finished config room') room := by
  apply Calm.done_seq (checkOwner_calm hcourse) ?_ fun e room' hcalm =>
    (Done.of_calm h hcalm).concluded honce
  intro live room₁ hcourse₁ hcalm₁
  have hsettled₁ := h.of_calm hcalm₁
  have honce₁ := hcalm₁.attempted.trans honce
  cases live with
  | true =>
    have hliveness : Does config base (whenever (livenessIsDue = true)
        (modifyState (·.nextLiveness now)))
        (fun _ room' => Calm room₁ room') room₁ := by
      apply ensures_whenever
      · intro _
        exact (modify_calm hcourse₁ hsettled₁.held (ServiceState.alike_nextLiveness ..)).mono
          (fun _ h => h) fun _ _ _ h' => h'.2
      · exact fun _ => ⟨hcourse₁, .refl room₁⟩
    apply Calm.done_seq hliveness ?_ fun e room' hcalm =>
      (Done.of_calm hsettled₁ hcalm).concluded honce₁
    intro _ room₂ hcourse₂ hcalm₂
    have hcalm := hcalm₁.trans hcalm₂
    exact maintainCore_ends hcourse₂ (h.of_calm hcalm) (hcalm.attempted.trans honce) hbase
      (hcalm.request.trans hrequest) (hcalm.state.owner.trans howner)
      fun hrestart => hcalm.state.restartDueAt ▸ hdue hrestart
  | false =>
    have hrequest₁ : room₁.2.request.isApply = false := by
      rw [hcalm₁.request, hrequest]
      rfl
    apply ensures_seq (cleanupOwner_done hcourse₁ hsettled₁ hrequest₁)
    case herr => exact fun e room' _ h' => h'.1.concluded honce₁
    intro _ room₂ hcourse₂ ⟨hdone, _⟩
    have hmodify := modify_calm (g := (·.nextLiveness now)) hcourse₂ hdone.1.held
      (ServiceState.alike_nextLiveness room₂.2.state now)
    apply answer_ends _ fun _ => ServiceMaintenanceOutcome.ownerRevoked
    apply hmodify.mono (fun _ h => h)
    exact fun _ _ _ h' => Finished.of_calm (hdone.concluded honce₁) h'.2

theorem maintenanceStep_ends : Does config base (maintenanceStep config J now)
      (fun _ room' => Finished config room') room := by
  apply ensures_seq (modify_calm (g := (·.armLiveness now)) hcourse h.held
    (ServiceState.alike_armLiveness ..))
  case herr =>
    rintro e room' _ ⟨hok, _⟩
    cases hok
  intro _ room₁ hcourse₁ ⟨_, hcalm₁⟩
  apply get_seq hcourse₁
  intro room₂ hreplied₂ hcourse₂
  have hcalm₂ := hcalm₁.trans hreplied₂.calm
  have hsettled₂ := h.of_calm hcalm₂
  have honce₂ := hcalm₂.attempted.trans honce
  split
  · have hmodify := modify_calm (g := (·.nextLiveness now)) hcourse₂ hsettled₂.held
      (ServiceState.alike_nextLiveness room₂.2.state now)
    apply answer_ends _ fun _ => ServiceMaintenanceOutcome.unchanged .idle
    apply hmodify.mono (fun _ h => h)
    exact fun _ _ _ h' => (Done.of_calm hsettled₂ h'.2).concluded honce₂
  · rename_i owner howner
    apply maintainOwned_ends hcourse₂ hsettled₂ honce₂ hbase (hcalm₂.request.trans hrequest)
    · rw [hreplied₂.state]
      exact howner
    · intro hdue
      rw [hreplied₂.state]
      exact isDue_isSome hdue

end Apply

theorem Settled.asked (h : Settled room) (q : ServiceRequest) : Settled (room.asked q) :=
  ⟨h.held, h.unlocked, h.owner, h.ownerGeneration, h.epoch⟩

theorem Custody.asked {room : ServiceRoom} (h : Custody room.2) (q : ServiceRequest) :
    Custody (room.asked q).2 :=
  ⟨h.accounted, h.single, h.untracked, h.due, h.bundle, h.ownerless⟩

theorem Epochs.asked (h : Epochs room) (q : ServiceRequest) : Epochs (room.asked q) :=
  ⟨fun p g hmem => h.cancelled p g ((List.mem_cons.1 hmem).resolve_left nofun), h.current,
    h.latest⟩

theorem perform_ends (config : PrivilegedServiceConfig) (J : GenerationCodec) (h : Settled room)
    (hcustody : Custody room.2) (hepochs : Epochs room) (q : ServiceRequest) :
    (q.perform config J).run.Ensures anyService (Course config (room.asked q))
      (fun _ room' => Finished config room') (room.asked q) := by
  have hsettled := h.asked q
  have hdone : ∀ {α} {x : ServiceAttempt α},
      x.run.Ensures anyService (Course config (room.asked q))
        (fun _ room' => Done (room.asked q) room') (room.asked q) →
      x.run.Ensures anyService (Course config (room.asked q))
        (fun _ room' => Finished config room') (room.asked q) :=
    fun hx => hx.mono (fun _ h => h) fun _ _ _ hdone => hdone.concluded rfl
  cases q with
  | openOwnerSession request =>
    exact hdone (openOwnerSession_done .refl hsettled rfl (hepochs.asked _))
  | applyCandidate proof bundle =>
    exact hdone ((applyCandidate_done .refl hsettled rfl).mono (fun _ h => h) fun _ _ _ h' => h'.1)
  | status proof => exact hdone (status_done .refl hsettled)
  | logs proof afterSequence limit => exact hdone (logs_done .refl hsettled)
  | stop proof =>
    exact hdone ((stop_done .refl hsettled rfl).mono (fun _ h => h) fun _ _ _ h' => h'.1)
  | closeOwnerSession proof => exact hdone (closeOwnerSession_done .refl hsettled rfl)
  | revokeOwner proof => exact hdone (closeOwnerSession_done .refl hsettled rfl)
  | maintenanceStep now => exact maintenanceStep_ends .refl hsettled rfl (hcustody.asked _) rfl
  | handleUnexpectedExitAt proof exited now =>
    exact hdone (handleUnexpectedExitAt_done .refl hsettled)
  | shutdownService =>
    exact hdone ((cleanupOwner_done .refl hsettled rfl).mono (fun _ h => h) fun _ _ _ h' => h'.1)

end Ratash

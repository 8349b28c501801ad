import Ratash.Service.Conforms

/-!
An operation starts in a settled room and ends in one, whether it succeeds or fails, and makes only
permitted calls on its way.
-/

namespace Ratash

open Interaction Attempt

/-- Between two operations: no process is outside the records, nobody holds the cancellation lock,
and both cancellation states are about the current owner. -/
structure Settled (room : ServiceRoom) : Prop where
  held : held room.2.history = none
  unlocked : room.2.cancellationLocked = false
  owner : room.2.cancellation.owner = room.2.state.owner.map (·.proof)
  ownerGeneration : room.2.cancellation.ownerGeneration = room.2.state.owner.map (·.generation)
  epoch : ∀ owner, room.2.state.owner = some owner →
    room.2.controller.ownerGeneration = some owner.generation

theorem Settled.of_frame (h : Settled room) (hframe : Frame room room')
    (howner : room'.2.state.owner = room.2.state.owner) (hheld : Ratash.held room'.2.history = none)
    (hlocked : room'.2.cancellationLocked = room.2.cancellationLocked) : Settled room' where
  held := hheld
  unlocked := hlocked.trans h.unlocked
  owner := by rw [hframe.owner, howner, h.owner]
  ownerGeneration := by rw [hframe.ownerGeneration, howner, h.ownerGeneration]
  epoch owner hsome := by
    rw [hframe.epoch]
    exact h.epoch owner (howner ▸ hsome)

theorem Settled.of_calm (h : Settled room) (hcalm : Calm room room') : Settled room' :=
  h.of_frame hcalm.toFrame hcalm.state.owner (hcalm.held.trans h.held) hcalm.locked

def Done (room room' : ServiceRoom) : Prop :=
  Settled room' ∧ attempted room'.2.history = attempted room.2.history

theorem Done.of_calm (h : Settled room) (hcalm : Calm room room') : Done room room' :=
  ⟨h.of_calm hcalm, hcalm.attempted⟩

theorem Done.after (h : Done room' room'') (hcalm : Calm room room') : Done room room'' :=
  ⟨h.1, h.2.trans hcalm.attempted⟩

theorem ServiceState.authenticatedOwner_ok {s : ServiceState} {owner : ServiceOwner}
    (h : s.authenticatedOwner proof = .ok owner) : s.owner = some owner ∧ owner.proof = proof := by
  unfold authenticatedOwner at h
  split at h
  · rename_i found hfound
    cases h
    rw [Option.filter_eq_some_iff] at hfound
    exact ⟨hfound.1, of_decide_eq_true hfound.2⟩
  · cases h

section Operations

variable {config : PrivilegedServiceConfig} {base room : ServiceRoom}

structure Withdrawn (room room' : ServiceRoom) : Prop where
  request : room'.2.request = room.2.request
  attempted : attempted room'.2.history = attempted room.2.history
  state : room.2.state.Alike room'.2.state
  held : held room'.2.history = held room.2.history
  outstanding : outstanding room'.2.history ⊆ outstanding room.2.history
  locked : room'.2.cancellationLocked = false
  owner : room'.2.cancellation.owner = none
  ownerGeneration : room'.2.cancellation.ownerGeneration = none

structure Introduced (proof : OwnerSessionProof) (generation : UInt64) (room room' : ServiceRoom) :
    Prop where
  attempted : attempted room'.2.history = attempted room.2.history
  state : room.2.state.Alike room'.2.state
  held : held room'.2.history = held room.2.history
  locked : room'.2.cancellationLocked = false
  owner : room'.2.cancellation.owner = some proof
  ownerGeneration : room'.2.cancellation.ownerGeneration = some generation
  epoch : room'.2.controller.ownerGeneration = some generation

theorem Calm.done_seq {Q : Except CoreRuntimeError β → ServiceRoom → Prop} {x : ServiceAttempt α}
    {f : α → ServiceAttempt β} (hx : Does config base x (fun _ room' => Calm room room') room)
    (hf : ∀ a room', Course config base room' → Calm room room' → Does config base (f a) Q room')
    (herr : ∀ e room', Calm room room' → Q (.error e) room') : Does config base (x >>= f) Q room :=
  ensures_seq hx hf fun e room' _ hcalm => herr e room' hcalm

structure Stopped (room room' : ServiceRoom) : Prop where
  core : room'.2.state.managedCore = none
  due : room.2.state.managedCore ≠ none → room'.2.state.restartDueAt = none
  idle : room.2.state.managedCore = none → room.2.state.Alike room'.2.state

theorem ServiceState.failures_scheduleInitialRestart_le (s : ServiceState) (now : Duration) :
    (s.scheduleInitialRestart now).2.consecutiveRestartFailures ≤ s.consecutiveRestartFailures := by
  unfold scheduleInitialRestart
  split
  · exact Nat.le_refl _
  · exact Nat.zero_le _

theorem exitedRecord_ok (h : exitedRecord exited core = .ok record) :
    core = some (.active record) := by
  unfold exitedRecord at h
  split at h
  · cases h
  · cases h
  · split at h
    · cases h
      rfl
    · cases h

variable (hcourse : Course config base room)

include hcourse

theorem authenticate_seq {Q : Except CoreRuntimeError β → ServiceRoom → Prop}
    {f : ServiceOwner → ServiceAttempt β}
    (hf : ∀ owner room', Calm room room' → room'.2.state = room.2.state →
      room.2.state.owner = some owner → owner.proof = proof → Course config base room' →
      Does config base (f owner) Q room') (herr : ∀ e room', Calm room room' → Q (.error e) room') :
    Does config base (authenticate proof >>= f) Q room := by
  rw [authenticate, bind_assoc]
  apply get_seq hcourse
  intro room₁ hreplied hcourse₁
  apply ensures_ofExcept_seq hcourse₁
  · intro owner howner
    obtain ⟨hsome, hproof⟩ := ServiceState.authenticatedOwner_ok howner
    exact hf owner room₁ hreplied.calm hreplied.state hsome hproof hcourse₁
  · exact fun e _ => herr e room₁ hreplied.calm

theorem stopTracked_calm (hheld : held room.2.history = none)
    (hcore : room.2.state.managedCore = core) : Does config base (stopTracked config core)
      (fun r room' => Calm room room' ∧
        (r = .ok () → ∀ p, room.2.state.tracked = some p → p ∉ outstanding room'.2.history))
      room := by
  cases core with
  | none =>
    refine ⟨hcourse, .refl room, fun _ p hp => ?_⟩
    rw [ServiceState.tracked, hcore] at hp
    cases hp
  | some core =>
    have htracked : room.2.state.tracked = some core.record.ownedIdentity := by
      rw [ServiceState.tracked, hcore]
      rfl
    apply (stopOwnedRecord_calm hcourse hheld htracked).mono (fun _ h => h)
    intro r room' _ hstopped
    obtain ⟨hcalm, hended⟩ := hstopped
    refine ⟨hcalm, fun hok p hp => ?_⟩
    rw [htracked] at hp
    cases hp
    exact hended hok

theorem clearApplyCancellation_withdrawn (hrequest : room.2.request.isApply = false)
    (hlocked : room.2.cancellationLocked = false)
    (howner : room.2.cancellation.owner = some owner.proof)
    (hgeneration : room.2.cancellation.ownerGeneration = some owner.generation) :
    Does config base (clearApplyCancellation owner)
      (fun r room' => r = .ok () ∧ Withdrawn room room') room := by
  apply call_seq hcourse
  · intro w hw
    exact .lockCancellation ((hw.calm (n := room.1)).locked.trans hlocked)
  intro cancellation w hw hreply hcourse₁
  obtain rfl : cancellation = w.cancellation := hreply
  have hcalm := hw.calm (n := room.1)
  have hmine : ¬ (w.cancellation.owner ≠ some owner.proof ∨
      w.cancellation.ownerGeneration ≠ some owner.generation) := by
    rw [hcalm.owner, hcalm.ownerGeneration]
    simp only [howner, hgeneration, ne_eq, not_true_eq_false, or_self, not_false_eq_true]
  rw [if_neg hmine]
  apply call_seq hcourse₁
  · intro w₁ hw₁
    have hsame : w₁.request = room.2.request := (hw₁.calm (n := room.1)).request.trans hcalm.request
    exact .clearCancellation (hsame ▸ hrequest)
  intro _ w₁ hw₁ _ hcourse₂
  rw [← bind_pure (service .unlockCancellation)]
  apply unlock_seq hcourse₂
  intro room' hsteady hfree _ hcourse'
  have hcalm₁ := hw₁.calm (n := room.1)
  refine ⟨hcourse', rfl, ?_, ?_, ?_, ?_, ?_, hfree, hsteady.owner, hsteady.ownerGeneration⟩
  · exact hsteady.request.trans (hcalm₁.request.trans hcalm.request)
  · exact hsteady.attempted.trans (hcalm₁.attempted.trans hcalm.attempted)
  · exact hcalm.state.trans (hcalm₁.state.trans hsteady.state)
  · exact hsteady.held.trans (hcalm₁.held.trans hcalm.held)
  · intro p hp
    have hp₁ := hcalm₁.outstanding ((mem_outstanding_quiet rfl).1 (hsteady.outstanding hp)).1
    exact hcalm.outstanding ((mem_outstanding_quiet rfl).1 hp₁).1

theorem resetApplyCancellation_introduced (hbase : Epochs base)
    (hrequest : room.2.request.isApply = false)
    (hlocked : room.2.cancellationLocked = false) (hfree : room.2.cancellation.owner = none)
    (hfresh : FreshEpoch room generation)
    (hlatest : room.2.controller.latestGeneration < generation) :
    Does config base (resetApplyCancellation ⟨ownerSessionId generation secret, token⟩ generation)
      (fun r room' => r = .ok () ∧
        Introduced ⟨ownerSessionId generation secret, token⟩ generation room room') room := by
  apply call_seq hcourse
  · intro w hw
    exact .lockCancellation ((hw.calm (n := room.1)).locked.trans hlocked)
  intro cancellation w hw _ hcourse₁
  have hcalm := hw.calm (n := room.1)
  apply call_seq hcourse₁
  · intro w₁ hw₁
    have hcalm₁ := hw₁.calm (n := room.1)
    have hsame : w₁.request = room.2.request := hcalm₁.request.trans hcalm.request
    refine .resetCancellation (hsame ▸ hrequest) ⟨hfresh.reserved, fun p g hmem => ?_⟩
    have hmem₁ := hcalm₁.cancelled (hcalm.owner.trans hfree) p g hmem
    exact hfresh.cancelled p g
      (hcalm.cancelled hfree p g (cancelled_of_made hmem₁))
  intro _ w₁ hw₁ _ hcourse₂
  have hcalm₁ := hw₁.calm (n := room.1)
  apply unlock_seq hcourse₂
  intro room₂ hsteady hunlocked _ hcourse₃
  rw [← bind_pure (service (.resetApplyCancellation generation))]
  have hlatest₂ : room₂.2.controller.latestGeneration < generation := by
    rw [hsteady.latest]
    exact (hcalm₁.latest.trans hcalm.latest).symm ▸ hlatest
  apply call_seq hcourse₃
  · intro w₃ hw₃
    have hcalm₃ := hw₃.calm (n := room₂.1)
    have hsame : w₃.request = room.2.request :=
      hcalm₃.request.trans (hsteady.request.trans (hcalm₁.request.trans hcalm.request))
    exact .resetApplyCancellation (hsame ▸ hrequest)
      ((hbase.course hcourse₃).current _ hsteady.ownerGeneration)
      (hcalm₃.latest.symm ▸ hlatest₂) (hcalm₃.ownerGeneration.trans hsteady.ownerGeneration)
  intro _ w₃ hw₃ _ hcourse₄
  have hcalm₃ := hw₃.calm (n := room₂.1)
  refine ⟨hcourse₄, rfl, ?_, ?_, ?_, ?_, ?_, ?_, ?_⟩
  · exact hcalm₃.attempted.trans
      (hsteady.attempted.trans (hcalm₁.attempted.trans hcalm.attempted))
  · exact hcalm.state.trans (hcalm₁.state.trans (hsteady.state.trans hcalm₃.state))
  · exact hcalm₃.held.trans (hsteady.held.trans (hcalm₁.held.trans hcalm.held))
  · exact hcalm₃.locked.trans hunlocked
  · exact hcalm₃.owner.trans hsteady.owner
  · exact hcalm₃.ownerGeneration.trans hsteady.ownerGeneration
  · change (ApplyCancellationEpoch.resetApplyCancellation _ _).ownerGeneration = _
    rw [ApplyCancellationEpoch.resetApplyCancellation, if_neg]
    exact UInt64.not_le.2 (hcalm₃.latest.symm ▸ hlatest₂)

theorem generateSecret_calm :
    Does config base (generateSecret message)
      (fun _ room' => Calm room room' ∧ room'.1 = room.1) room := by
  apply plain_seq hcourse rfl
  intro reply room' hreplied hcourse'
  obtain ⟨w, _, _, rfl⟩ := hreplied.event
  exact ⟨hcourse', hreplied.calm, rfl⟩

theorem observeCore_calm (core : Option OwnedCoreState) :
    Does config base (observeCore core) (fun _ room' => Calm room room') room := by
  unfold observeCore
  split
  · apply ensures_seq (ownedProcessIsLive_calm hcourse)
    · exact fun live room' hcourse' h => ⟨hcourse', h.1⟩
    · exact fun e room' _ h => h.1
  · exact ⟨hcourse, .refl room⟩

theorem tunStatus_calm (reply : PlatformResult Unit) :
    Does config base (tunStatus reply) (fun _ room' => Calm room room') room := by
  cases reply with
  | ok _ => exact ⟨hcourse, .refl room⟩
  | error e =>
    unfold tunStatus
    simp only
    split <;> exact ⟨hcourse, .refl room⟩

theorem drainActive_calm (hheld : held room.2.history = none)
    (core : Option OwnedCoreState) : Does config base (drainActive config core)
      (fun _ room' => Calm room room') room := by
  unfold drainActive
  split
  · apply Calm.done_seq (requireOwnedProcess_calm hcourse) ?_ fun e room' hcalm => hcalm
    intro _ room₁ hcourse₁ hcalm₁
    apply (drainLogs_calm hcourse₁ (hcalm₁.held.trans hheld)).mono (fun _ h => h)
    exact fun _ _ _ hcalm => hcalm₁.trans hcalm
  · exact ⟨hcourse, .refl room⟩

variable (h : Settled room)

include h

section

variable (hrequest : room.2.request.isApply = false)

include hrequest

theorem clearOwnerCancellation_withdrawn (howner : room.2.state.owner = owner) :
    Does config base (clearOwnerCancellation owner)
      (fun r room' => r = .ok () ∧ Withdrawn room room') room := by
  have hproof := h.owner
  have hgeneration := h.ownerGeneration
  rw [howner] at hproof hgeneration
  cases owner with
  | none =>
    exact ⟨hcourse, rfl, rfl, rfl, .refl _, rfl, List.Subset.refl _, h.unlocked, hproof,
      hgeneration⟩
  | some owner =>
    exact clearApplyCancellation_withdrawn hcourse hrequest h.unlocked hproof hgeneration

theorem cleanupOwner_done : Does config base (cleanupOwner config)
      (fun r room' => Done room room' ∧ room'.2.request = room.2.request ∧
        (r = .ok () → room'.2.state.owner = none)) room := by
  apply get_seq hcourse
  intro room₁ hreplied₁ hcourse₁
  have hsettled₁ := h.of_calm hreplied₁.calm
  apply ensures_seq (stopTracked_calm hcourse₁ hsettled₁.held
    (congrArg ServiceState.managedCore hreplied₁.state))
  case herr =>
    intro e room' _ h'
    refine ⟨(Done.of_calm hsettled₁ h'.1).after hreplied₁.calm,
      h'.1.request.trans hreplied₁.calm.request, ?_⟩
    intro hok
    cases hok
  intro _ room₂ hcourse₂ hstopped
  obtain ⟨hcalm₂, hended⟩ := hstopped
  have hcalm := hreplied₁.calm.trans hcalm₂
  have hsettled₂ := h.of_calm hcalm
  apply ensures_seq (clearOwnerCancellation_withdrawn hcourse₂ hsettled₂
    (hcalm.request ▸ hrequest) hcalm.state.owner)
  case herr =>
    rintro e room' _ ⟨hok, _⟩
    cases hok
  intro _ room₃ hcourse₃ hcleared
  have hwithdrawn := hcleared.2
  have hheld₃ := hwithdrawn.held.trans hsettled₂.held
  rw [← bind_pure (modifyState _)]
  apply modify_seq hcourse₃
  · intro room₄ w hreplied₄ hw hstate
    have hcalm₄ := hreplied₄.calm.trans (hw.calm (n := room₄.1))
    refine .dismissed (hcalm₄.held.trans hheld₃) ?_ (hcalm₄.owner.trans hwithdrawn.owner)
    intro core hcore hp
    refine hended rfl _ ?_ (hwithdrawn.outstanding (hcalm₄.outstanding hp))
    have htracked := (hcalm₂.state.trans (hwithdrawn.state.trans hcalm₄.state)).tracked
    rw [← htracked, ServiceState.tracked, hcore]
    rfl
  · intro room₄ room' hreplied₄ hput hcourse'
    have hframe := hreplied₄.calm.toFrame.trans
      (hput.frame (by rw [hreplied₄.state]; exact Nat.zero_le _))
    have hnone : room'.2.state.owner = none := by
      rw [hput.state]
      rfl
    refine ⟨hcourse', ⟨⟨hput.held, ?_, ?_, ?_, ?_⟩, ?_⟩,
      hframe.request.trans (hwithdrawn.request.trans hcalm.request), fun _ => hnone⟩
    · exact hput.locked.trans (hreplied₄.calm.locked.trans hwithdrawn.locked)
    · rw [hframe.owner, hwithdrawn.owner, hnone]
      rfl
    · rw [hframe.ownerGeneration, hwithdrawn.ownerGeneration, hnone]
      rfl
    · rw [hnone]
      intro _ hsome
      cases hsome
    · exact hframe.attempted.trans (hwithdrawn.attempted.trans hcalm.attempted)

theorem adoptOwner_done (hbase : Epochs base) (howner : room.2.state.owner = none) :
    Does config base (adoptOwner config J request)
      (fun _ room' => Done room room') room := by
  have hepochs := hbase.course hcourse
  apply reserve_seq hcourse (reserveOwnerGeneration_ensures J room.1)
  case herr =>
    intro e n _ _
    exact ⟨⟨h.held, h.unlocked, h.owner, h.ownerGeneration, h.epoch⟩, rfl⟩
  intro ownerGeneration n hle ⟨_, hreserved⟩ hcourse₁
  obtain ⟨hlt, hle'⟩ := hreserved ownerGeneration rfl
  have hsettled₁ : Settled (n, room.2) :=
    ⟨h.held, h.unlocked, h.owner, h.ownerGeneration, h.epoch⟩
  have hcalm₁ : Calm room (n, room.2) :=
    ⟨⟨.reserved room n, .refl _, rfl, List.Subset.refl _⟩, rfl⟩
  apply ensures_seq (generateSecret_calm hcourse₁)
  case herr => exact fun e room' _ h' => (Done.of_calm hsettled₁ h'.1).after hcalm₁
  intro sessionIdSecret room₂ hcourse₂ ⟨hcalm₂, hn₂⟩
  apply ensures_seq (generateSecret_calm hcourse₂)
  case herr => exact fun e room' _ h' => (Done.of_calm h (hcalm₁.trans (hcalm₂.trans h'.1)))
  intro sessionToken room₃ hcourse₃ ⟨hcalm₃, hn₃⟩
  apply ensures_seq (generateSecret_calm hcourse₃)
  case herr =>
    exact fun e room' _ h' => Done.of_calm h (hcalm₁.trans (hcalm₂.trans (hcalm₃.trans h'.1)))
  intro endpointSecret room₄ hcourse₄ ⟨hcalm₄, hn₄⟩
  have hcalm := hcalm₁.trans (hcalm₂.trans (hcalm₃.trans hcalm₄))
  have hsettled := h.of_calm hcalm
  have hn : room₄.1 = n := hn₄.trans (hn₃.trans hn₂)
  apply ensures_require_seq hcourse₄
  case hneg => exact fun _ => Done.of_calm h hcalm
  intro _
  have hfree : room.2.cancellation.owner = none := by
    rw [h.owner, howner]
    rfl
  have hfresh : FreshEpoch room₄ ownerGeneration := by
    refine ⟨hn.symm ▸ hle', fun p g hmem => ?_⟩
    have hold := hepochs.cancelled p g (hcalm.cancelled hfree p g hmem)
    exact UInt64.lt_of_le_of_lt hold hlt
  have hlatest : room₄.2.controller.latestGeneration < ownerGeneration := by
    rw [hcalm.latest]
    exact UInt64.lt_of_le_of_lt hepochs.latest hlt
  apply ensures_seq (resetApplyCancellation_introduced hcourse₄ hbase
    (hcalm.request ▸ hrequest) hsettled.unlocked (hcalm.owner.trans hfree) hfresh hlatest)
  case herr =>
    rintro e room' _ ⟨hok, _⟩
    cases hok
  intro _ room₅ hcourse₅ ⟨_, hintro⟩
  have hheld₅ := hintro.held.trans hsettled.held
  apply modify_seq hcourse₅
  · intro room₆ w hreplied₆ hw hstate
    have hcalm₆ := hreplied₆.calm.trans (hw.calm (n := room₆.1))
    refine .adopted (hcalm₆.held.trans hheld₅) ?_ (hcalm₆.owner.trans hintro.owner)
      (hcalm₆.ownerGeneration.trans hintro.ownerGeneration)
    rw [hcalm₆.state.owner, hintro.state.owner, hcalm.state.owner, howner]
  · intro room₆ room' hreplied₆ hput hcourse'
    have hframe := hreplied₆.calm.toFrame.trans
      (hput.frame (by rw [hreplied₆.state]; exact Nat.zero_le _))
    refine ⟨hcourse', ⟨hput.held, ?_, ?_, ?_, ?_⟩, ?_⟩
    · exact hput.locked.trans (hreplied₆.calm.locked.trans hintro.locked)
    · rw [hframe.owner, hintro.owner, hput.state]
      rfl
    · rw [hframe.ownerGeneration, hintro.ownerGeneration, hput.state]
      rfl
    · rw [hput.state, hframe.epoch, hintro.epoch]
      rintro _ ⟨⟩
      rfl
    · exact hframe.attempted.trans (hintro.attempted.trans hcalm.attempted)

theorem openBeside_done (hbase : Epochs base) :
    Does config base (openBeside config J request owner) (fun _ room' => Done room room') room := by
  unfold openBeside
  split
  · exact ⟨hcourse, .of_calm h (.refl room)⟩
  · apply plain_seq hcourse rfl
    intro reply room₁ hreplied hcourse₁
    have hdone := Done.of_calm h hreplied.calm
    apply platform_seq hcourse₁ ?_ fun _ _ => hdone
    intro identity _
    apply ensures_require_seq hcourse₁ ?_ fun _ => hdone
    intro _
    have hrequest₁ : room₁.2.request.isApply = false := hreplied.calm.request ▸ hrequest
    apply ensures_seq (cleanupOwner_done hcourse₁ hdone.1 hrequest₁)
    · intro _ room₂ hcourse₂ ⟨hdone₂, hsame, hnone⟩
      apply (adoptOwner_done hcourse₂ hdone₂.1 (hsame ▸ hrequest₁) hbase (hnone rfl)).mono
        (fun _ h => h)
      exact fun _ _ _ hdone₃ => ⟨hdone₃.1, hdone₃.2.trans (hdone₂.2.trans hdone.2)⟩
    · exact fun e room' _ hdone₂ => hdone₂.1.after hreplied.calm

theorem openOwnerSession_done (hbase : Epochs base) :
    Does config base (openOwnerSession config J request) (fun _ room' => Done room room') room := by
  apply ensures_require_seq hcourse ?_ fun _ => .of_calm h (.refl room)
  intro _
  apply ensures_require_seq hcourse ?_ fun _ => .of_calm h (.refl room)
  intro _
  apply plain_seq hcourse rfl
  intro valid room₁ hvalid hcourse₁
  apply platform_seq hcourse₁ ?_ fun _ _ => .of_calm h hvalid.calm
  intro _ _
  apply get_seq hcourse₁
  intro room₂ hreplied hcourse₂
  have hcalm := hvalid.calm.trans hreplied.calm
  have hrequest₂ : room₂.2.request.isApply = false := hcalm.request ▸ hrequest
  have hdone : ∀ {x : ServiceAttempt OwnerSession},
      Does config base x (fun _ room' => Done room₂ room') room₂ →
      Does config base x (fun _ room' => Done room room') room₂ :=
    fun hx => hx.mono (fun _ h => h) fun _ _ _ hdone => hdone.after hcalm
  split
  · exact hdone (openBeside_done hcourse₂ (h.of_calm hcalm) hrequest₂ hbase)
  · rename_i hnone
    exact hdone (adoptOwner_done hcourse₂ (h.of_calm hcalm) hrequest₂ hbase
      (hreplied.state ▸ hnone))

theorem closeOwnerSession_done : Does config base (closeOwnerSession config proof)
      (fun _ room' => Done room room') room := by
  apply authenticate_seq hcourse
  · intro owner room₁ hcalm _ _ _ hcourse₁
    apply (cleanupOwner_done hcourse₁ (h.of_calm hcalm) (hcalm.request ▸ hrequest)).mono
      (fun _ h => h)
    exact fun _ _ _ hdone => hdone.1.after hcalm
  · exact fun e room' hcalm => .of_calm h hcalm

end

theorem stop_done (hrequest : room.2.request = .stop proof) : Does config base (stop config proof)
      (fun r room' => Done room room' ∧ ∀ result, r = .ok result → Stopped room room') room := by
  have hfailed : ∀ (e : CoreRuntimeError) room', Calm room room' → Done room room' ∧
      ∀ result : StopCoreResult, .error e = Except.ok result → Stopped room room' := by
    intro e room' hcalm
    constructor
    · exact .of_calm h hcalm
    · intro _ hok
      cases hok
  apply authenticate_seq hcourse ?_ hfailed
  intro owner room₁ hcalm₁ _ _ _ hcourse₁
  apply get_seq hcourse₁
  intro room₂ hreplied₂ hcourse₂
  have hcalm₂ := hcalm₁.trans hreplied₂.calm
  split
  · rename_i hcore
    rw [hcalm₁.state.managedCore_none] at hcore
    refine ⟨hcourse₂, .of_calm h hcalm₂, fun _ _ => ⟨?_, fun hsome => absurd hcore hsome, ?_⟩⟩
    · exact hcalm₂.state.managedCore_none.2 hcore
    · exact fun _ => hcalm₂.state
  · rename_i core hcore
    have hrequire : Does config base (requireIfActive core)
        (fun _ room' => Calm room₂ room') room₂ := by
      cases core with
      | active record => exact requireOwnedProcess_calm hcourse₂
      | cleanupPending _ => exact ⟨hcourse₂, .refl _⟩
    apply Calm.done_seq hrequire ?_ fun e room' hcalm => hfailed e room' (hcalm₂.trans hcalm)
    intro _ room₃ hcourse₃ hcalm₃
    have hcalm := hcalm₂.trans hcalm₃
    have hsettled := h.of_calm hcalm
    have htracked : room₃.2.state.tracked = some core.record.ownedIdentity := by
      rw [(hreplied₂.calm.trans hcalm₃).state.tracked, ServiceState.tracked, hcore]
      rfl
    apply ensures_seq (stopOwnedRecord_calm hcourse₃ hsettled.held htracked)
    case herr => exact fun e room' _ h' => hfailed e room' (hcalm.trans h'.1)
    intro _ room₄ hcourse₄ hstopped
    obtain ⟨hcalm₄, hended⟩ := hstopped
    apply modify_seq hcourse₄
    · intro room₅ w hreplied₅ hw hstate
      have hcalm₅ := hreplied₅.calm.trans (hw.calm (n := room₅.1))
      have htracked₅ := (hcalm₄.trans hcalm₅).state.tracked.trans htracked
      rw [ServiceState.tracked, Option.map_eq_some_iff] at htracked₅
      obtain ⟨core', hcore', hidentity⟩ := htracked₅
      refine .stopped (((hcalm.trans hcalm₄).trans hcalm₅).request.trans hrequest) hcore' ?_
      intro hp
      rw [hidentity] at hp
      exact hended rfl (hcalm₅.outstanding hp)
    · intro room₅ room' hreplied₅ hput hcourse'
      have hcalm₅ := (hcalm.trans hcalm₄).trans hreplied₅.calm
      have hframe := hput.frame (by rw [hreplied₅.state]; exact Nat.zero_le _)
      have howner : room'.2.state.owner = room₅.2.state.owner := by
        rw [hput.state, hreplied₅.state]
        rfl
      have hdone : Done room room' :=
        ⟨(h.of_calm hcalm₅).of_frame hframe howner hput.held hput.locked,
          hframe.attempted.trans hcalm₅.attempted⟩
      have hsome : room.2.state.managedCore ≠ none := by
        rw [Ne, ← hcalm₁.state.managedCore_none, hcore]
        exact Option.some_ne_none core
      refine ⟨hcourse', hdone, fun _ _ => ⟨?_, fun _ => ?_, fun hnone => absurd hnone hsome⟩⟩
      · exact congrArg ServiceState.managedCore hput.state
      · exact congrArg ServiceState.restartDueAt hput.state

theorem status_done : Does config base (status proof) (fun _ room' => Done room room') room := by
  apply authenticate_seq hcourse ?_ fun e room' hcalm => .of_calm h hcalm
  intro owner room₁ hcalm₁ _ _ _ hcourse₁
  apply get_seq hcourse₁
  intro room₂ hreplied₂ hcourse₂
  have hcalm₂ := hcalm₁.trans hreplied₂.calm
  apply Calm.done_seq (observeCore_calm hcourse₂ _) ?_ fun e room' hcalm =>
    .of_calm h (hcalm₂.trans hcalm)
  intro observed room₃ hcourse₃ hcalm₃
  apply plain_seq hcourse₃ rfl
  intro reply room₄ hreplied₄ hcourse₄
  have hcalm₄ := hcalm₂.trans (hcalm₃.trans hreplied₄.calm)
  apply Calm.done_seq (tunStatus_calm hcourse₄ reply) ?_ fun e room' hcalm =>
    .of_calm h (hcalm₄.trans hcalm)
  exact fun tun room' hcourse' hcalm' => ⟨hcourse', .of_calm h (hcalm₄.trans hcalm')⟩

theorem logs_done :
    Does config base (logs config proof afterSequence limit)
      (fun _ room' => Done room room') room := by
  apply authenticate_seq hcourse ?_ fun e room' hcalm => .of_calm h hcalm
  intro owner room₁ hcalm₁ _ _ _ hcourse₁
  apply get_seq hcourse₁
  intro room₂ hreplied₂ hcourse₂
  have hcalm₂ := hcalm₁.trans hreplied₂.calm
  apply Calm.done_seq (drainActive_calm hcourse₂ (hcalm₂.held.trans h.held) _) ?_
    fun e room' hcalm => .of_calm h (hcalm₂.trans hcalm)
  intro _ room₃ hcourse₃ hcalm₃
  apply get_seq hcourse₃
  intro room' hreplied' hcourse'
  exact ⟨hcourse', .of_calm h ((hcalm₂.trans hcalm₃).trans hreplied'.calm)⟩

theorem acceptExit_done (hcore : room.2.state.managedCore = some (.active record))
    (hended : record.ownedIdentity ∉ outstanding room.2.history) :
    Does config base (acceptExit config record' now) (fun _ room' => Done room room') room := by
  apply Calm.done_seq (drainLogs_calm hcourse h.held) ?_ fun e room' hcalm => .of_calm h hcalm
  intro _ room₁ hcourse₁ hcalm₁
  apply Calm.done_seq (removeOwnedEndpoint_calm hcourse₁) ?_ fun e room' hcalm =>
    .of_calm h (hcalm₁.trans hcalm)
  intro _ room₂ hcourse₂ hcalm₂
  apply get_seq hcourse₂
  intro room₃ hreplied₃ hcourse₃
  have hcalm₃ := (hcalm₁.trans hcalm₂).trans hreplied₃.calm
  apply put_seq hcourse₃
  · intro w hw
    have hcalm := hcalm₃.trans (hw.calm (n := room₃.1))
    obtain ⟨record'', hcore', hsame⟩ := hcalm.state.activeRecord hcore
    rw [← hreplied₃.state, ← hw.state_eq]
    refine .exited hcore' fun hp => hended ?_
    rw [OwnedCoreState.record, hsame.2] at hp
    exact hcalm.outstanding hp
  · intro room' hput hcourse'
    have hframe := hput.frame (by
      rw [hreplied₃.state]
      exact ServiceState.failures_scheduleInitialRestart_le ..)
    have howner : room'.2.state.owner = room₃.2.state.owner := by
      rw [hput.state, ServiceState.owner_scheduleInitialRestart, hreplied₃.state]
    exact ⟨hcourse', (h.of_calm hcalm₃).of_frame hframe howner hput.held hput.locked,
      hframe.attempted.trans hcalm₃.attempted⟩

theorem handleUnexpectedExitAt_done :
    Does config base (handleUnexpectedExitAt config proof exited now)
      (fun _ room' => Done room room') room := by
  apply authenticate_seq hcourse ?_ fun e room' hcalm => .of_calm h hcalm
  intro owner room₁ hcalm₁ _ _ _ hcourse₁
  apply get_seq hcourse₁
  intro room₂ hreplied₂ hcourse₂
  have hcalm₂ := hcalm₁.trans hreplied₂.calm
  apply ensures_ofExcept_seq hcourse₂ ?_ fun _ _ => .of_calm h hcalm₂
  intro record hrecord
  have hcore := exitedRecord_ok hrecord
  rw [← hreplied₂.state] at hcore
  apply ensures_seq (ownedProcessIsLive_calm hcourse₂)
  case herr => exact fun e room' _ h' => .of_calm h (hcalm₂.trans h'.1)
  intro live room₃ hcourse₃ ⟨hcalm₃, _, hdead, _⟩
  have hdone := Done.of_calm h (hcalm₂.trans hcalm₃)
  apply ensures_require_seq hcourse₃ ?_ fun _ => hdone
  intro hlive
  obtain ⟨record', hcore', hsame⟩ := hcalm₃.state.activeRecord hcore
  have hended : record'.ownedIdentity ∉ outstanding room₃.2.history := by
    rw [hsame.2]
    exact hdead (by rw [hlive])
  apply (acceptExit_done hcourse₃ hdone.1 hcore' hended).mono (fun _ h => h)
  exact fun _ _ _ hdone' => hdone'.after (hcalm₂.trans hcalm₃)

end Operations

end Ratash

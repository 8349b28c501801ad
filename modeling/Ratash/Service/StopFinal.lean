import Ratash.Service.DeadCore

/-!
Maintenance, exit reports, status and logs are what goes on by itself between two requests of the
owner.
-/

namespace Ratash

open Interaction

/-- Requests that neither apply a candidate nor change the session. -/
def ServiceRequest.isFollowUp : ServiceRequest → Bool
  | .maintenanceStep _ | .handleUnexpectedExitAt _ _ _ | .status _ | .logs _ _ _ => true
  | _ => false

def spawnCalls : List HistoryEvent → Nat
  | [] => 0
  | .made e :: older => spawnCalls older + if e.isSpawn then 1 else 0
  | _ :: older => spawnCalls older

/-- A follow-up request from its start to its answer, or a cancellation between two of them. -/
inductive FollowsUp (config : PrivilegedServiceConfig) (J : GenerationCodec) :
    ServiceRoom → ServiceRoom → Prop where
  | request (hq : q.isFollowUp = true) :
      Handles config J room q answer room' → FollowsUp config J room room'
  | cancel : Cancels w w' → FollowsUp config J (counters, w) (counters, w')

def Following (config : PrivilegedServiceConfig) (J : GenerationCodec)
    (room room' : ServiceRoom) : Prop :=
  ∃ room₀, Relation.ReflTransGen (FollowsUp config J) room room₀ ∧
    (room' = room₀ ∨ ∃ q, q.isFollowUp = true ∧
      Reaches anyService (q.perform config J).run (room₀.asked q) room')

variable {config : PrivilegedServiceConfig} {J : GenerationCodec} {room room' : ServiceRoom}
  {q : ServiceRequest}

theorem FollowsUp.serves (h : FollowsUp config J room room') : Serves config J room room' := by
  cases h with
  | request _ hhandles => exact .request hhandles
  | cancel hcancel => exact .cancel hcancel

structure Idle (w : ServiceWorld) : Prop where
  core : w.state.managedCore = none
  due : w.state.restartDueAt = none
  held : held w.history = none

theorem Idle.stores (h : Idle w) (hs : Stores config w s) (hrequest : w.request.isFollowUp = true) :
    s.managedCore = none ∧ s.restartDueAt = none := by
  have hcore := h.core
  have hdue := h.due
  have hheld := h.held
  cases hs with
  | alike _ halike => exact ⟨halike.managedCore_none.2 hcore, halike.restartDueAt.trans hdue⟩
  | cleaned _ _ => exact ⟨rfl, hdue⟩
  | stopped _ _ _ => exact ⟨rfl, rfl⟩
  | dismissed _ _ _ => exact ⟨rfl, rfl⟩
  | counted _ _ _ _ _ => exact ⟨hcore, hdue⟩
  | adopted _ _ _ _ => exact ⟨hcore, rfl⟩
  | limitReached _ _ _ _ => exact ⟨hcore, rfl⟩
  | demote _ hsome _ => rw [hcore] at hsome; cases hsome
  | exited hsome _ => rw [hcore] at hsome; cases hsome
  | backedOff _ _ _ hsome _ => rw [hdue] at hsome; cases hsome
  | abandoned hsome => rw [hheld] at hsome; cases hsome
  | applied hq _ _ _ _ _ _ => rw [hq] at hrequest; cases hrequest
  | restarted _ hsome _ _ _ _ _ _ _ => rw [hheld] at hsome; cases hsome

theorem Idle.not_mayStart (h : Idle w) (hrequest : w.request.isFollowUp = true) : ¬MayStart w := by
  rintro (⟨proof, bundle, hq⟩ | ⟨_, hsome⟩)
  · rw [hq] at hrequest
    cases hrequest
  · rw [h.due] at hsome
    cases hsome

structure Quiescent (n : Nat) (w : ServiceWorld) : Prop where
  idle : Idle w
  request : w.request.isFollowUp = true
  calls : spawnCalls w.history = n

theorem Quiescent.made (h : Quiescent n w) (hpermit : Permits config (counters, w) c)
    (r : c.Reply) : Quiescent n ((w.record c r).store c) := by
  have hstate := w.state_store c r _ rfl
  have hrequest := (w.request_store c r).symm ▸ h.request
  have hhistory := w.history_store c r
  cases hpermit with
  | spawn _ _ hstart _ => exact absurd hstart (h.idle.not_mayStart h.request)
  | putState hstores =>
    obtain ⟨hcore, hdue⟩ := h.idle.stores hstores h.request
    refine ⟨⟨hcore, hdue, ?_⟩, hrequest, ?_⟩
    · rw [hhistory]
      exact held_stores rfl
    · rw [hhistory]
      exact h.calls
  | _ =>
    refine ⟨⟨h.idle.core, h.idle.due, ?_⟩, hrequest, ?_⟩
    · rw [hhistory]
      exact (held_quiet rfl rfl).trans h.idle.held
    · rw [hhistory]
      exact h.calls

theorem Quiescent.move (h : Quiescent n room.2) (hmove : Move config room room') :
    Quiescent n room'.2 := by
  cases hmove with
  | reserve _ => exact h
  | cancel hcancel =>
    cases hcancel with
    | accept _ _ => exact ⟨⟨h.idle.core, h.idle.due, h.idle.held⟩, h.request, h.calls⟩
    | deliver _ => exact ⟨⟨h.idle.core, h.idle.due, h.idle.held⟩, h.request, h.calls⟩
  | call hpermit _ => exact h.made hpermit _

theorem Quiescent.course (h : Quiescent n base.2) (hcourse : Course config base room) :
    Quiescent n room.2 :=
  Course.keeps (P := fun room => Quiescent n room.2) hcourse
    (fun _ _ hroom hmove => hroom.move hmove) h

theorem Idle.asked (h : Idle room.2) (hq : q.isFollowUp = true) :
    Quiescent (spawnCalls room.2.history) (room.asked q).2 :=
  ⟨⟨h.core, h.due, h.held⟩, hq, rfl⟩

theorem Idle.followsUp (h : Idle room.2) (hsound : Sound room)
    (hstep : FollowsUp config J room room') :
    Idle room'.2 ∧ spawnCalls room'.2.history = spawnCalls room.2.history := by
  cases hstep with
  | request hq hhandles =>
    have hafter := (h.asked hq).course (hhandles.course hsound).1
    exact ⟨hafter.idle, hafter.calls⟩
  | cancel hcancel =>
    cases hcancel with
    | accept _ _ => exact ⟨⟨h.core, h.due, h.held⟩, rfl⟩
    | deliver _ => exact ⟨⟨h.core, h.due, h.held⟩, rfl⟩

theorem Idle.run (h : Idle room.2) (hsound : Sound room)
    (hrun : Relation.ReflTransGen (FollowsUp config J) room room') :
    Sound room' ∧ Idle room'.2 ∧ spawnCalls room'.2.history = spawnCalls room.2.history := by
  induction hrun with
  | refl => exact ⟨hsound, h, rfl⟩
  | tail _ hstep ih =>
    obtain ⟨hsound₁, hidle₁, hcalls₁⟩ := ih
    obtain ⟨hidle, hcalls⟩ := hidle₁.followsUp hsound₁ hstep
    exact ⟨hstep.serves.sound hsound₁, hidle, hcalls.trans hcalls₁⟩

theorem Idle.following (h : Idle room.2) (hsound : Sound room)
    (hfollowing : Following config J room room') :
    spawnCalls room'.2.history = spawnCalls room.2.history := by
  obtain ⟨room₀, hrun, rfl | ⟨q, hq, hreaches⟩⟩ := hfollowing
  · exact (h.run hsound hrun).2.2
  · obtain ⟨hsound₀, hidle₀, hcalls₀⟩ := h.run hsound hrun
    have hperform := perform_ends config J hsound₀.settled hsound₀.custody hsound₀.epochs q
    exact ((hidle₀.asked hq).course (hperform.reaches hreaches)).calls.trans hcalls₀

section Due

variable {Answers : UInt32 → Option String → Prop} {files : ControlFiles J}

def RestartPending (owner : ServiceOwner) (due : Duration) (s : ServiceState) : Prop :=
  s.owner = some owner ∧ s.lastBundle.isSome ∧ s.degraded = false ∧ s.restartDueAt = some due

theorem stable_restartPending (owner : ServiceOwner) (due : Duration) :
    Stable (RestartPending owner due) := by
  rintro s t halike ⟨howner, hbundle, hdegraded, hdue⟩
  exact ⟨halike.owner.trans howner, halike.lastBundle ▸ hbundle, halike.degraded.trans hdegraded,
    halike.restartDueAt.trans hdue⟩

theorem attemptOwnedCoreRestart_unfailing (hwithin : Within (RestartPending owner due) fixed room)
    (hleft : checkedSucc (max fixed.1.coreInstanceGeneration
      files.persisted.coreInstanceGeneration) = some instanceGeneration) :
    Unfailingly Answers files (attemptOwnedCoreRestart config J owner now)
      (fun _ room' => startsCore room'.2.history = true) room := by
  apply getState_yields.ensures hwithin
  rintro state room₁ ⟨hwithin₁, hpending⟩
  split
  · rename_i hnone
    rw [RestartPending, hnone] at hpending
    cases hpending.2.1
  rename_i bundle _
  have hcounted : Attempt.Yields (unfailing Answers files)
      (Within (RestartPending owner due) fixed)
      (service (.putState { state with
        consecutiveRestartFailures := saturatingAdd state.consecutiveRestartFailures 1 }))
      fun _ => Within (fun _ => True) fixed :=
    putState_yields trivial
  apply hcounted.ensures hwithin₁
  intro _ room₂ hwithin₂
  have hrestart : Unfailingly Answers files (restartFrom config J owner bundle)
      (fun _ room' => startsCore room'.2.history = true) room₂ := by
    apply (service_yields _ rfl).ensures hwithin₂
    rintro reply room₃ ⟨hwithin₃, verified, rfl⟩
    apply Attempt.ensures_ofExcept_seq trivial ?_ nofun
    rintro _ ⟨⟩
    apply (service_yields _ rfl).ensures hwithin₃
    rintro reply room₄ ⟨hwithin₄, rfl⟩
    apply Attempt.ensures_ofExcept_seq trivial ?_ nofun
    rintro _ ⟨⟩
    rw [← bind_pure (spawnVerified config J owner verified)]
    exact spawnVerified_unfailing hwithin₄ hleft
  apply Attempt.ensures_result_seq hrestart
  intro result room₅ _ hstarts
  exact (startsCore_keeps _ _ hstarts).mono (fun _ _ => trivial) fun _ _ hkept _ => hkept

def OwnerAnswers (owner : ServiceOwner) (pid : UInt32) (identity : Option String) : Prop :=
  pid = owner.supervisorPid → identity = some owner.supervisorStartIdentity

theorem checkOwner_yields {A : ServiceState → Prop} (due : Bool) :
    Attempt.Yields (unfailing (OwnerAnswers owner) files) (Within A fixed) (checkOwner owner due)
      fun live room => Within A fixed room ∧ live = true := by
  unfold checkOwner
  split
  · apply (service_yields _ rfl).seq
    intro reply
    apply Attempt.yields_of_fact
    rintro ⟨identity, rfl, hidentity⟩
    apply (Attempt.yields_ofExcept rfl).seq
    intro _
    apply Attempt.yields_of_fact
    rintro rfl
    exact Attempt.yields_pure _ fun _ h => ⟨h, decide_eq_true (hidentity rfl)⟩
  · exact Attempt.yields_pure _ fun _ h => ⟨h, rfl⟩

theorem maintainOwned_unfailing (hwithin : Within (RestartPending owner due) fixed room)
    (hleft : checkedSucc (max fixed.1.coreInstanceGeneration
      files.persisted.coreInstanceGeneration) = some instanceGeneration) (livenessIsDue : Bool) :
    (maintainOwned config J owner now true livenessIsDue).run.Ensures
      (unfailing (OwnerAnswers owner) files) (fun _ => True)
      (fun _ room' => startsCore room'.2.history = true) room := by
  have hstable := stable_restartPending owner due
  apply (checkOwner_yields _).ensures hwithin
  rintro _ room₁ ⟨hwithin₁, rfl⟩
  rw [if_pos rfl]
  have hliveness : Attempt.Yields (unfailing (OwnerAnswers owner) files)
      (Within (RestartPending owner due) fixed)
      (Attempt.whenever (livenessIsDue = true) (modifyState (·.nextLiveness now)))
      fun _ => Within (RestartPending owner due) fixed := by
    apply Attempt.Yields.whenever
    exact modifyState_yields fun _ hs => hs
  apply hliveness.ensures hwithin₁
  intro _ room₂ hwithin₂
  apply ((cleanupPendingCore_yields hstable fun _ hs => hs).whenever).ensures hwithin₂
  intro _ room₃ hwithin₃
  apply getState_yields.ensures hwithin₃
  rintro state room₄ ⟨hwithin₄, hpending⟩
  rw [if_pos ⟨rfl, hpending.2.2.1⟩]
  apply Attempt.ensures_bind.2
  apply (attemptOwnedCoreRestart_unfailing hwithin₄ hleft).mono (fun _ h => h)
  rintro (e | outcome) room₅ _ hstarts
  · exact hstarts
  · exact (startsCore_keeps _ _ hstarts).mono (fun _ _ => trivial) fun _ _ hkept _ => hkept

theorem maintenanceStep_unfailing (hpending : RestartPending owner due room.2.state)
    (hleft : checkedSucc (max room.1.coreInstanceGeneration
      files.persisted.coreInstanceGeneration) = some instanceGeneration) :
    (maintenanceStep config J due).run.Ensures (unfailing (OwnerAnswers owner) files)
      (fun _ => True) (fun _ room' => startsCore room'.2.history = true) room := by
  have harm : Attempt.Yields (unfailing (OwnerAnswers owner) files)
      (Within (RestartPending owner due) (room.1, room.2.cancellation))
      (modifyState (·.armLiveness due))
      fun _ => Within (RestartPending owner due) (room.1, room.2.cancellation) :=
    modifyState_yields fun s hs => stable_restartPending owner due s _ (s.alike_armLiveness due) hs
  apply harm.ensures ⟨hpending, rfl⟩
  intro _ room₁ hwithin₁
  apply getState_yields.ensures hwithin₁
  rintro state room₂ ⟨hwithin₂, howner, _, _, hdue⟩
  have hisDue : ServiceState.isDue state.restartDueAt due = true := by
    rw [hdue]
    exact decide_eq_true (Nat.le_refl due)
  split
  · rename_i hnone
    rw [howner] at hnone
    cases hnone
  · rename_i owner' howner'
    cases howner.symm.trans howner'
    rw [hisDue]
    exact maintainOwned_unfailing hwithin₂ hleft _

end Due

theorem spawnCalls_move (h : n ≤ spawnCalls room.2.history ∧
      (startsCore room.2.history = true → n < spawnCalls room.2.history))
    (hmove : Move config room room') : n ≤ spawnCalls room'.2.history ∧
      (startsCore room'.2.history = true → n < spawnCalls room'.2.history) := by
  cases hmove with
  | reserve _ => exact h
  | cancel hcancel =>
    cases hcancel with
    | accept _ _ => exact h
    | deliver _ => exact h
  | call hpermit _ =>
    rw [ServiceWorld.history_store, spawnCalls, startsCore]
    refine ⟨Nat.le_add_right_of_le h.1, fun hstarts => ?_⟩
    split
    · exact Nat.lt_succ_of_le h.1
    · rename_i hspawn
      rw [Bool.not_eq_true] at hspawn
      rw [hspawn, Bool.false_or] at hstarts
      exact h.2 hstarts

theorem restart_follows (hsound : Sound room) (hdue : room.2.state.restartDueAt = some due)
    (hleft : (checkedSucc room.1.coreInstanceGeneration).isSome = true) :
    ∃ room', FollowsUp config J room room' ∧
      spawnCalls room.2.history < spawnCalls room'.2.history := by
  have hcustody := hsound.custody
  obtain ⟨_, hbundle, hdegraded⟩ := hcustody.due (hdue ▸ rfl)
  cases howner : room.2.state.owner with
  | none =>
    have hnone := (hcustody.ownerless howner).2.2.1
    rw [hdue] at hnone
    cases hnone
  | some owner =>
    let files := ControlFiles.holding J room.1
    obtain ⟨instanceGeneration, hgeneration⟩ := Option.isSome_iff_exists.1 hleft
    have hmax : checkedSucc (max room.1.coreInstanceGeneration
        files.persisted.coreInstanceGeneration) = some instanceGeneration :=
      (congrArg checkedSucc (ite_self _)).trans hgeneration
    obtain ⟨answer, room', hfinishes⟩ := Finishes.exists_of_total
      (unfailing_total (OwnerAnswers owner) files fun _ => ⟨_, fun _ => rfl⟩)
      (maintenanceStep config J due).run (room.asked (.maintenanceStep due))
    have hmaintenance : (maintenanceStep config J due).run.Ensures
        (unfailing (OwnerAnswers owner) files) (fun _ => True)
        (fun _ room' => startsCore room'.2.history = true) (room.asked (.maintenanceStep due)) :=
      maintenanceStep_unfailing ⟨howner, hbundle, hdegraded, hdue⟩ hmax
    have hhandles : Handles config J room (.maintenanceStep due) answer room' :=
      hfinishes.map id anyService_of_unfailing
    have hcalls := Course.keeps (P := fun room' =>
      spawnCalls room.2.history ≤ spawnCalls room'.2.history ∧
        (startsCore room'.2.history = true →
          spawnCalls room.2.history < spawnCalls room'.2.history))
      (hhandles.course hsound).1 (fun _ _ h hmove => spawnCalls_move h hmove)
      ⟨Nat.le_refl _, nofun⟩
    exact ⟨room', .request rfl hhandles, hcalls.2 (hmaintenance.finishes hfinishes)⟩

/-- After a stop that has succeeded, follow-up requests never start a Core if there was a Core or
no restart was pending when it was called; a pending restart is then cancelled. If a restart was
pending and there was no Core, they can, as long as there is a generation left for it. -/
theorem stop_is_final_iff (hserved : Served config J room)
    (hstop : Handles config J room (.stop proof) (.ok result) room') :
    (room.2.state.managedCore ≠ none ∨ room.2.state.restartDueAt = none →
      room'.2.state.restartDueAt = none ∧ ∀ room'', Following config J room' room'' →
        spawnCalls room''.2.history = spawnCalls room'.2.history) ∧
    (¬(room.2.state.managedCore ≠ none ∨ room.2.state.restartDueAt = none) →
      (checkedSucc room'.1.coreInstanceGeneration).isSome = true →
      ∃ room'', Following config J room' room'' ∧
        spawnCalls room'.2.history < spawnCalls room''.2.history) := by
  have hsound := hserved.sound
  have hsound' := (hstop.course hsound).2.1
  have hstopped := (stop_done .refl (hsound.settled.asked (.stop proof)) rfl).finishes hstop
  obtain ⟨hcore, hdue, hidle⟩ := hstopped.2 result rfl
  constructor
  · intro hcondition
    have hcancelled : room'.2.state.restartDueAt = none := by
      by_cases hnone : room.2.state.managedCore = none
      · exact (hidle hnone).restartDueAt.trans (hcondition.resolve_left (not_not.2 hnone))
      · exact hdue hnone
    have hquiet : Idle room'.2 := ⟨hcore, hcancelled, hsound'.settled.held⟩
    exact ⟨hcancelled, fun room'' hfollowing => hquiet.following hsound' hfollowing⟩
  · intro hcondition hleft
    obtain ⟨hnone, hpending⟩ := not_or.1 hcondition
    obtain ⟨due, hpending⟩ := Option.ne_none_iff_exists'.1 hpending
    have hkept := (hidle (not_not.1 hnone)).restartDueAt.trans hpending
    obtain ⟨room'', hstep, hmore⟩ := restart_follows hsound' hkept hleft
    exact ⟨room'', ⟨room'', .single hstep, .inl rfl⟩, hmore⟩

theorem stop_is_final_firstApply : ∃ room result room', Served threeRestarts numberedCodec room ∧
      Handles threeRestarts numberedCodec room (.stop firstProof) (.ok result) room' ∧
      room.2.state.managedCore ≠ none ∧
      ∀ room'', Following threeRestarts numberedCodec room' room'' →
        spawnCalls room''.2.history = spawnCalls room'.2.history := by
  let room := play threeRestarts numberedCodec firstApply unused
  let stop := serve threeRestarts numberedCodec .flawless (.stop firstProof) room
  have hserved : Served threeRestarts numberedCodec room := play_served _ _ _
  have hstop : Handles threeRestarts numberedCodec room (.stop firstProof) (.ok ⟨true, some 1⟩)
      stop.2 :=
    handles_of_serve (by decide +kernel)
  have hcore : room.2.state.managedCore ≠ none := by decide +kernel
  exact ⟨room, _, stop.2, hserved, hstop, hcore,
    ((stop_is_final_iff hserved hstop).1 (.inl hcore)).2⟩

def crashStopped : ServiceRoom :=
  (serve threeRestarts numberedCodec .flawless (.stop firstProof)
    (play threeRestarts numberedCodec crash unused)).2

def crashRestarted : ServiceRoom :=
  (serve threeRestarts numberedCodec .flawless (.maintenanceStep (seconds 20)) crashStopped).2

/-- A stop between a crash and the restart: the Core is started all the same. -/
theorem stop_misses_pending_restart :
    ∃ room result room' room'', Served threeRestarts numberedCodec room ∧
      Handles threeRestarts numberedCodec room (.stop firstProof) (.ok result) room' ∧
      Following threeRestarts numberedCodec room' room'' ∧
      spawnCalls room'.2.history = 1 ∧ spawnCalls room''.2.history = 2 ∧
      room''.2.state.tracked.isSome := by
  have hstop : Handles threeRestarts numberedCodec (play threeRestarts numberedCodec crash unused)
      (.stop firstProof) (.ok ⟨false, none⟩) crashStopped :=
    handles_of_serve (by decide +kernel)
  have hfollows : FollowsUp threeRestarts numberedCodec crashStopped crashRestarted :=
    .request rfl (serve_handles _ _ .flawless (.maintenanceStep (seconds 20)) _)
  refine ⟨_, _, crashStopped, crashRestarted, play_served _ _ crash, hstop,
    ⟨crashRestarted, .single hfollows, .inl rfl⟩, ?_⟩
  decide +kernel

end Ratash

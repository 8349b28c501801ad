import Ratash.Service.Script

/-!
Every attempt is counted before it is made. The counter goes past the limit only after an attempt
that reached the limit and did not conclude: its bundle was rejected, or it left a Core to be
cleaned up. The schedule of restarts is then as it was before, and the attempt is made again.
-/

namespace Ratash

variable {config : PrivilegedServiceConfig} {J : GenerationCodec}

structure Tally (config : PrivilegedServiceConfig) (w : ServiceWorld) : Prop where
  tried : attempts w.history ≤ w.state.consecutiveRestartFailures
  counted : counting w.history = true →
    attempts w.history < w.state.consecutiveRestartFailures ∧ w.state.restartDueAt.isSome
  bounded : w.state.consecutiveRestartFailures ≤ config.restartLimit
  due : w.state.restartDueAt.isSome → attempted w.history = false →
    w.state.consecutiveRestartFailures < config.restartLimit
  undecided : 0 < attempts w.history →
    w.state.lastBundle.isSome ∧ (w.state.restartDueAt.isSome ∨ w.state.degraded = true)

theorem attempts_made_le {h : List HistoryEvent} (he : e.isRestartAttempt = false) :
    attempts (.made e :: h) ≤ attempts h := by
  rw [attempts, he]
  split
  · exact Nat.zero_le _
  · exact Nat.le_refl _

theorem attempts_of_closes {h : List HistoryEvent} (he : e.closesEpisode = true) :
    attempts (.made e :: h) = 0 := by
  rw [attempts, if_pos he]

theorem countsAttempt_eq_false
    (h : s.consecutiveRestartFailures ≤ before.consecutiveRestartFailures) :
    ServiceEvent.countsAttempt ⟨q, before, .putState s, r⟩ = false :=
  decide_eq_false (Nat.not_lt.2 h)

theorem closes_of_activates (hbefore : before.active = none) (hafter : s.active.isSome = true) :
    ServiceEvent.closesEpisode ⟨q, before, .putState s, r⟩ = true := by
  simp [ServiceEvent.closesEpisode, ServiceEvent.activates, ServiceEvent.stores, hbefore, hafter]

namespace Tally

theorem initial (config : PrivilegedServiceConfig) : Tally config .initial where
  tried := Nat.le_refl 0
  counted := nofun
  bounded := Nat.zero_le _
  due := nofun
  undecided := nofun

variable {w : ServiceWorld} {w' : ServiceWorld}

theorem kept (h : Tally config w) (hhistory : w'.history = .made e :: w.history)
    (hattempt : e.isRestartAttempt = false) (hcounts : e.countsAttempt = false)
    (hfailures : w'.state.consecutiveRestartFailures = w.state.consecutiveRestartFailures)
    (hbundle : w'.state.lastBundle = w.state.lastBundle)
    (hdue : w'.state.restartDueAt.isSome → w.state.restartDueAt.isSome ∨
      w.state.consecutiveRestartFailures < config.restartLimit)
    (hundecided : w.state.restartDueAt.isSome ∨ w.state.degraded = true →
      w'.state.restartDueAt.isSome ∨ w'.state.degraded = true) : Tally config w' := by
  have hle : attempts w'.history ≤ attempts w.history := hhistory ▸ attempts_made_le hattempt
  constructor
  · exact hfailures ▸ Nat.le_trans hle h.tried
  · rw [hhistory, counting, hcounts]
    exact nofun
  · exact hfailures ▸ h.bounded
  · intro hsome honce
    rw [hhistory, attempted, happened, hcounts, Bool.false_or] at honce
    rw [hfailures]
    obtain hsome | hlt := hdue hsome
    · exact h.due hsome honce
    · exact hlt
  · intro hpos
    obtain ⟨hlast, hopen⟩ := h.undecided (Nat.lt_of_lt_of_le hpos hle)
    exact ⟨hbundle ▸ hlast, hundecided hopen⟩

theorem recored (h : Tally config w)
    (hhistory : w'.history = .made e :: w.history) (hattempt : e.isRestartAttempt = false)
    (hcounts : e.countsAttempt = false)
    (hstate : w'.state = { w.state with managedCore := core }) : Tally config w' :=
  h.kept hhistory hattempt hcounts (by rw [hstate]) (by rw [hstate])
    (by rw [hstate]; exact .inl) (by rw [hstate]; exact id)

theorem restart (hhistory : w'.history = .made e :: history)
    (hcounts : e.countsAttempt = false) (hnone : attempts w'.history = 0)
    (hfailures : w'.state.consecutiveRestartFailures = 0) : Tally config w' := by
  constructor
  · rw [hnone]
    exact Nat.zero_le _
  · rw [hhistory, counting, hcounts]
    exact nofun
  · rw [hfailures]
    exact Nat.zero_le _
  · intro _ _
    rw [hfailures]
    exact config.restartLimit_pos
  · rw [hnone]
    exact nofun

theorem attempts_of_forgotten (h : Tally config w) (hs : s.lastBundle = none) :
    attempts (.made ⟨q, w.state, .putState s, r⟩ :: w.history) = 0 := by
  by_cases hlast : w.state.lastBundle.isSome
  · apply attempts_of_closes
    simp [ServiceEvent.closesEpisode, ServiceEvent.stores, hs, hlast]
  · have hzero : attempts w.history = 0 := by
      by_contra hpos
      exact hlast (h.undecided (Nat.pos_of_ne_zero hpos)).1
    exact Nat.le_zero.1 (hzero ▸ attempts_made_le rfl)

theorem counts (h : Tally config w) (hdue : w.state.restartDueAt.isSome)
    (honce : attempted w.history = false)
    (hs : s = { w.state with
      consecutiveRestartFailures := saturatingAdd w.state.consecutiveRestartFailures 1 }) :
    Tally config ((w.record (.putState s) ()).store (.putState s)) := by
  have hlt := h.due hdue honce
  have hsucc : s.consecutiveRestartFailures = w.state.consecutiveRestartFailures + 1 := by
    have := config.restartLimit_le
    rw [hs]
    simp only [saturatingAdd]
    omega
  have hcounts : ServiceEvent.countsAttempt ⟨w.request, w.state, .putState s, ()⟩ = true := by
    simp [ServiceEvent.countsAttempt, ServiceEvent.stores, hsucc]
  have hle : attempts (.made ⟨w.request, w.state, .putState s, ()⟩ :: w.history) ≤
      attempts w.history := attempts_made_le rfl
  have htried : attempts (.made ⟨w.request, w.state, .putState s, ()⟩ :: w.history) <
      s.consecutiveRestartFailures := by
    have := h.tried
    omega
  have hdue' : s.restartDueAt.isSome := hs ▸ hdue
  constructor
  · exact Nat.le_of_lt htried
  · exact fun _ => ⟨htried, hdue'⟩
  · exact hsucc ▸ hlt
  · intro _ honce'
    rw [(Bool.or_eq_false_iff.1 honce').1] at hcounts
    cases hcounts
  · intro hpos
    exact ⟨hs ▸ (h.undecided (Nat.lt_of_lt_of_le hpos hle)).1, .inl hdue'⟩

theorem stored (h : Tally config w) (hcustody : Custody w) (hs : Stores config w s) :
    Tally config ((w.record (.putState s) ()).store (.putState s)) := by
  have hnone : (held w.history).isSome → w.state.active = none := by
    intro hheld
    rw [ServiceState.active, hcustody.untracked hheld]
    rfl
  cases hs with
  | alike _ halike =>
    exact h.kept rfl rfl (countsAttempt_eq_false (Nat.le_of_eq halike.failures)) halike.failures
      halike.lastBundle (fun hdue => .inl (halike.restartDueAt ▸ hdue))
      (by rw [← halike.restartDueAt, ← halike.degraded]; exact id)
  | demote _ _ _ => exact h.recored rfl rfl (countsAttempt_eq_false (Nat.le_refl _)) rfl
  | cleaned _ _ => exact h.recored rfl rfl (countsAttempt_eq_false (Nat.le_refl _)) rfl
  | abandoned _ => exact h.recored rfl rfl (countsAttempt_eq_false (Nat.le_refl _)) rfl
  | stopped _ _ _ =>
    exact restart rfl (countsAttempt_eq_false (Nat.zero_le _)) (h.attempts_of_forgotten rfl) rfl
  | dismissed _ _ _ =>
    exact restart rfl (countsAttempt_eq_false (Nat.zero_le _)) (h.attempts_of_forgotten rfl) rfl
  | exited hcore _ =>
    obtain ⟨bundle, hbundle⟩ := hcustody.bundle_of_active hcore
    rw [ServiceState.scheduleInitialRestart_snd (hbundle ▸ Option.some_ne_none bundle)]
    refine restart rfl (countsAttempt_eq_false (Nat.zero_le _)) (attempts_of_closes ?_) rfl
    simp [ServiceEvent.closesEpisode, ServiceEvent.stores, ServiceState.active_eq_some.2 hcore,
      ServiceState.initialRestart]
  | counted _ _ _ hdue honce => exact h.counts hdue honce rfl
  | adopted _ howner _ _ =>
    refine restart rfl (countsAttempt_eq_false (Nat.zero_le _)) (attempts_of_closes ?_) rfl
    simp [ServiceEvent.closesEpisode, ServiceEvent.stores, howner, ServiceState.adopted]
  | applied _ hheld _ _ _ _ _ =>
    exact restart rfl (countsAttempt_eq_false (Nat.zero_le _))
      (attempts_of_closes (closes_of_activates (hnone (by rw [hheld]; rfl)) rfl)) rfl
  | restarted _ hheld _ _ _ _ _ _ _ =>
    exact restart rfl (countsAttempt_eq_false (Nat.zero_le _))
      (attempts_of_closes (closes_of_activates (hnone (by rw [hheld]; rfl)) rfl)) rfl
  | limitReached _ _ _ _ =>
    refine h.kept rfl rfl (countsAttempt_eq_false (Nat.le_refl _)) rfl rfl ?_ fun _ => .inr rfl
    intro hdue
    cases hdue
  | backedOff _ _ _ _ hlt =>
    exact h.kept rfl rfl (countsAttempt_eq_false (Nat.le_refl _)) rfl rfl (fun _ => .inr hlt)
      fun _ => .inl rfl

theorem verifies (h : Tally config w) (hcustody : Custody w)
    (hcounted : ∀ now, w.request = .maintenanceStep now → Counted w) :
    Tally config (w.record (.verifyBundle bundle endpoint) r) := by
  by_cases hmaintenance : ∃ now, w.request = .maintenanceStep now
  · obtain ⟨now, hrequest⟩ := hmaintenance
    have hcounting : counting w.history = true := by
      obtain hcounting | ⟨honce, hdue, hfull⟩ := hcounted now hrequest
      · exact hcounting
      · have hlt := h.due hdue honce
        have := config.restartLimit_le
        omega
    obtain ⟨hlt, hdue⟩ := h.counted hcounting
    have hattempts : attempts (w.record (.verifyBundle bundle endpoint) r).history =
        attempts w.history + 1 := by
      simp [ServiceWorld.record, attempts, ServiceEvent.closesEpisode, ServiceEvent.stores,
        ServiceEvent.isRestartAttempt, hrequest]
    constructor
    · rw [hattempts]
      exact hlt
    · intro hcounting'
      cases hcounting'
    · exact h.bounded
    · exact h.due
    · exact fun _ => ⟨(hcustody.due hdue).2.1, .inl hdue⟩
  · have hattempt : ServiceEvent.isRestartAttempt
        ⟨w.request, w.state, .verifyBundle bundle endpoint, r⟩ = false := by
      unfold ServiceEvent.isRestartAttempt
      split
      · rename_i now _ hrequest
        exact absurd ⟨now, hrequest⟩ hmaintenance
      · rfl
    exact h.kept rfl hattempt rfl rfl rfl .inl id

theorem cancels (h : Tally config w) (hcancel : Cancels w w') : Tally config w' := by
  cases hcancel with
  | accept _ _ => exact ⟨h.tried, h.counted, h.bounded, h.due, h.undecided⟩
  | deliver _ => exact ⟨h.tried, h.counted, h.bounded, h.due, h.undecided⟩

theorem move (h : Tally config room.2) (hcustody : Custody room.2)
    (hmove : Move config room room') : Tally config room'.2 := by
  cases hmove with
  | reserve _ => exact h
  | cancel hcancel => exact h.cancels hcancel
  | call hpermit _ =>
    cases hpermit with
    | putState hs => exact h.stored hcustody hs
    | verifyBundle hcounted => exact h.verifies hcustody hcounted
    | _ => exact h.kept rfl rfl rfl rfl rfl .inl id

theorem course (hbase : Tally config base.2) (hcustody : Custody base.2)
    (h : Course config base room) : Tally config room.2 := by
  have hboth : Tally config room.2 ∧ Custody room.2 :=
    h.keeps (P := fun room => Tally config room.2 ∧ Custody room.2)
      (fun _ _ hroom hmove => ⟨hroom.1.move hroom.2 hmove, hroom.2.move hmove⟩) ⟨hbase, hcustody⟩
  exact hboth.1

theorem asked {room : ServiceRoom} (h : Tally config room.2) (q : ServiceRequest)
    (hdue : room.2.state.restartDueAt.isSome →
      room.2.state.consecutiveRestartFailures < config.restartLimit) :
    Tally config (room.asked q).2 :=
  ⟨h.tried, nofun, h.bounded, fun hsome _ => hdue hsome, h.undecided⟩

end Tally

theorem Stores.failures_le (h : Stores config w s) :
    s.consecutiveRestartFailures ≤ w.state.consecutiveRestartFailures ∨
      attempted w.history = false ∧ w.request.isMaintenance = true ∧
        s.consecutiveRestartFailures ≤ w.state.consecutiveRestartFailures + 1 := by
  cases h with
  | alike _ halike => exact .inl (Nat.le_of_eq halike.failures)
  | counted hrequest _ _ _ honce =>
    exact .inr ⟨honce, by rw [hrequest]; rfl, Nat.min_le_left _ _⟩
  | exited _ _ =>
    left
    unfold ServiceState.scheduleInitialRestart
    split
    · exact Nat.le_refl _
    · exact Nat.zero_le _
  | demote _ _ _ | cleaned _ _ | abandoned _ | limitReached _ _ _ _ | backedOff _ _ _ _ _ =>
    exact .inl (Nat.le_refl _)
  | stopped _ _ _ | dismissed _ _ _ | adopted _ _ _ _ | applied _ _ _ _ _ _ _
  | restarted _ _ _ _ _ _ _ _ _ => exact .inl (Nat.zero_le _)

/-- An operation counts at most one attempt, and only if it is a maintenance step. -/
structure CountsOnce (before : Nat) (w : ServiceWorld) : Prop where
  failures : w.state.consecutiveRestartFailures ≤ before + 1
  uncounted : attempted w.history = false → w.state.consecutiveRestartFailures ≤ before
  maintenance : attempted w.history = true → w.request.isMaintenance = true

theorem CountsOnce.kept {w : ServiceWorld} {w' : ServiceWorld} (h : CountsOnce before w)
    (hstate : w'.state = w.state) (hrequest : w'.request = w.request)
    (hattempted : attempted w'.history = attempted w.history) : CountsOnce before w' := by
  obtain ⟨hfailures, huncounted, hmaintenance⟩ := h
  rw [← hstate] at hfailures huncounted
  rw [← hattempted] at huncounted hmaintenance
  exact ⟨hfailures, huncounted, hrequest ▸ hmaintenance⟩

theorem CountsOnce.stored {w : ServiceWorld} (h : CountsOnce before w) (hs : Stores config w s) :
    CountsOnce before ((w.record (.putState s) ()).store (.putState s)) := by
  obtain hle | ⟨honce, hmaintenance, hle⟩ := hs.failures_le
  · have hsame : attempted (w.record (.putState s) ()).history = attempted w.history := by
      rw [attempted, ServiceWorld.record, happened, countsAttempt_eq_false hle]
      rfl
    exact ⟨Nat.le_trans hle h.failures,
      fun hnone => Nat.le_trans hle (h.uncounted (hsame ▸ hnone)),
      fun hsome => h.maintenance (hsame ▸ hsome)⟩
  · have hbefore := h.uncounted honce
    refine ⟨Nat.le_trans hle (Nat.succ_le_succ hbefore), fun hnone => ?_, fun _ => hmaintenance⟩
    have hkept : ¬w.state.consecutiveRestartFailures < s.consecutiveRestartFailures :=
      of_decide_eq_false (Bool.or_eq_false_iff.1 hnone).1
    exact Nat.le_trans (Nat.not_lt.1 hkept) hbefore

theorem CountsOnce.move (h : CountsOnce before room.2) (hmove : Move config room room') :
    CountsOnce before room'.2 := by
  cases hmove with
  | reserve _ => exact h
  | cancel hcancel =>
    cases hcancel with
    | accept _ _ => exact h.kept rfl rfl rfl
    | deliver _ => exact h.kept rfl rfl rfl
  | call hpermit _ =>
    cases hpermit with
    | putState hs => exact h.stored hs
    | _ => exact h.kept rfl rfl rfl

theorem Course.countsOnce {room : ServiceRoom} (h : Course config (room.asked q) room') :
    CountsOnce room.2.state.consecutiveRestartFailures room'.2 :=
  h.keeps (P := fun room' => CountsOnce room.2.state.consecutiveRestartFailures room'.2)
    (fun _ _ hroom hmove => hroom.move hmove) ⟨Nat.le_succ _, fun _ => Nat.le_refl _, nofun⟩

/-- In a maintenance step that may make the last attempt allowed, the bundle is verified, and no
call to look at, stop or clean up behind a Core that was started fails. -/
def LimitIsFinal (config : PrivilegedServiceConfig) (room room' : ServiceRoom) : Prop :=
  room'.2.request.isMaintenance = true →
    config.restartLimit ≤ room.2.state.consecutiveRestartFailures + 1 →
    bundleRejected room'.2.history = false ∧ cleanupFailed room'.2.history = false

instance : Decidable (LimitIsFinal config room room') :=
  inferInstanceAs (Decidable (_ → _ → _ ∧ _))

inductive ServesFinally (config : PrivilegedServiceConfig) (J : GenerationCodec) :
    ServiceRoom → ServiceRoom → Prop where
  | request (hhandles : Handles config J room q answer room')
      (hfinal : LimitIsFinal config room room') : ServesFinally config J room room'
  | cancel (hcancel : Cancels w w') : ServesFinally config J (counters, w) (counters, w')

/-- The runs in which the last attempt allowed is always final. -/
def ServedFinally (config : PrivilegedServiceConfig) (J : GenerationCodec) (room : ServiceRoom) :
    Prop :=
  ∃ counters, Relation.ReflTransGen (ServesFinally config J) (counters, .initial) room

theorem ServedFinally.served (h : ServedFinally config J room) : Served config J room := by
  obtain ⟨counters, hrun⟩ := h
  refine ⟨counters, Relation.ReflTransGen.mono (fun _ _ hstep => ?_) _ _ hrun⟩
  cases hstep with
  | request hhandles _ => exact .request hhandles
  | cancel hcancel => exact .cancel hcancel

theorem ServedFinally.tally (h : ServedFinally config J room) :
    Tally config room.2 ∧ (room.2.state.restartDueAt.isSome →
      room.2.state.consecutiveRestartFailures < config.restartLimit) := by
  obtain ⟨counters, hrun⟩ := h
  induction hrun with
  | refl => exact ⟨.initial config, nofun⟩
  | tail hrun hstep ih =>
    have hsound := ServedFinally.served ⟨counters, hrun⟩ |>.sound
    cases hstep with
    | request hhandles hfinal =>
      obtain ⟨hcourse, _, hconcluded⟩ := hhandles.course hsound
      have htally := (ih.1.asked _ ih.2).course (hsound.custody.asked _) hcourse
      have honce := hcourse.countsOnce
      refine ⟨htally, fun hdue => ?_⟩
      cases hattempted : attempted _ with
      | false => exact htally.due hdue hattempted
      | true =>
        by_contra hlimit
        obtain ⟨hverified, hclean⟩ := hfinal (honce.maintenance hattempted)
          (Nat.le_trans (Nat.not_lt.1 hlimit) honce.failures)
        obtain hlt | hrejected | hfailed := hconcluded hattempted hdue
        · exact hlimit hlt
        · rw [hverified] at hrejected
          cases hrejected
        · rw [hclean] at hfailed
          cases hfailed
    | cancel hcancel =>
      refine ⟨ih.1.cancels hcancel, ?_⟩
      cases hcancel with
      | accept _ _ => exact ih.2
      | deliver _ => exact ih.2

def ServingFinally (config : PrivilegedServiceConfig) (J : GenerationCodec) (room : ServiceRoom) :
    Prop :=
  ∃ room₀, ServedFinally config J room₀ ∧
    (room = room₀ ∨
      ∃ q, Interaction.Reaches anyService (q.perform config J).run (room₀.asked q) room)

theorem ServingFinally.tally (h : ServingFinally config J room) : Tally config room.2 := by
  obtain ⟨room₀, hserved, rfl | ⟨q, hreaches⟩⟩ := h
  · exact hserved.tally.1
  · have hsound := hserved.served.sound
    have hperform := perform_ends config J hsound.settled hsound.custody hsound.epochs q
    exact (hserved.tally.1.asked q hserved.tally.2).course (hsound.custody.asked q)
      (hperform.reaches hreaches)

/-- As long as the last attempt allowed is final: at no point have there been more attempts in an
episode than the limit, nor does the counter exceed it; and once that many were made the service is
degraded, with no restart due. -/
theorem restarts_bounded (config : PrivilegedServiceConfig) (J : GenerationCodec)
    (room : ServiceRoom) :
    (ServingFinally config J room → attempts room.2.history ≤ config.restartLimit ∧
      room.2.state.consecutiveRestartFailures ≤ config.restartLimit) ∧
    (ServedFinally config J room → attempts room.2.history = config.restartLimit →
      room.2.state.degraded = true ∧ room.2.state.restartDueAt = none) := by
  constructor
  · intro h
    exact ⟨Nat.le_trans h.tally.tried h.tally.bounded, h.tally.bounded⟩
  · intro h hall
    obtain ⟨htally, hdue⟩ := h.tally
    have hnone : room.2.state.restartDueAt = none := by
      by_contra hsome
      have hlt := hdue (Option.isSome_iff_ne_none.2 hsome)
      have htried := htally.tried
      omega
    obtain ⟨_, hopen⟩ := htally.undecided (hall ▸ config.restartLimit_pos)
    rw [hnone] at hopen
    exact ⟨hopen.resolve_left nofun, hnone⟩

def failedRestarts : List (Conduct × ServiceRequest) :=
  crash ++ [20, 30, 40].map fun n => ({ tunIsAvailable := false }, .maintenanceStep (seconds n))

theorem restarts_bounded_failedRestarts :
    let room := play threeRestarts numberedCodec failedRestarts unused
    attempts room.2.history = 3 ∧ room.2.state.degraded = true ∧
      room.2.state.restartDueAt = none := by
  have hfinal : ∀ stage ∈ stages threeRestarts numberedCodec failedRestarts unused,
      LimitIsFinal threeRestarts stage.1 stage.2 := by
    decide +kernel
  have hserved : ServedFinally threeRestarts numberedCodec
      (play threeRestarts numberedCodec failedRestarts unused) :=
    ⟨_, play_steps _ _ _ _ fun stage hstage _ _ hhandles => .request hhandles (hfinal stage hstage)⟩
  have hattempts : attempts (play threeRestarts numberedCodec failedRestarts unused).2.history =
      threeRestarts.restartLimit := by
    decide +kernel
  exact ⟨hattempts, (restarts_bounded _ _ _).2 hserved hattempts⟩

def rejectedRestarts : List (Conduct × ServiceRequest) :=
  crash ++ [20, 30, 40, 50].map fun n => ({ bundleIsValid := false }, .maintenanceStep (seconds n))

theorem rejected_restarts_exceed_limit :
    ∃ room, Served threeRestarts numberedCodec room ∧ threeRestarts.restartLimit = 3 ∧
      attempts room.2.history = 4 ∧ room.2.state.consecutiveRestartFailures = 4 ∧
      room.2.state.degraded = false ∧ room.2.state.restartDueAt.isSome := by
  refine ⟨play threeRestarts numberedCodec rejectedRestarts unused,
    play_served _ _ _, rfl, ?_⟩
  decide +kernel

end Ratash

import Ratash.Service.Script

/-!
A cancellation is accepted under the lock of the cancellation state and then passed on to the
process controller. An apply stores its record under the same lock, so it is cancelled or done. A
crash restart looks at the cancellation state for the last time some calls before it stores its
record, and does not keep the lock: a cancellation can return in between.
-/

namespace Ratash

variable {config : PrivilegedServiceConfig} {J : GenerationCodec}

theorem takeWhile_toDigits (n : Nat) (rest : List Char) :
    (Nat.toDigits 10 n ++ '-' :: rest).takeWhile Char.isDigit = Nat.toDigits 10 n := by
  have hdigits : ∀ c ∈ Nat.toDigits 10 n, c.isDigit = true :=
    fun c hc => Nat.isDigit_of_mem_toDigits (by decide) (by decide) hc
  rw [List.takeWhile_append_of_pos hdigits]
  exact List.append_nil _

theorem ownerSessionId_generation (h : ownerSessionId g secret = ownerSessionId g' secret') :
    g = g' := by
  have hlist := congrArg String.toList h
  simp only [ownerSessionId, String.toList_append, Nat.toString_eq_ofList_toDigits,
    String.toList_ofList, List.append_assoc, List.append_cancel_left_eq] at hlist
  have hdigits : Nat.toDigits 10 g.toNat = Nat.toDigits 10 g'.toNat := by
    have htake := congrArg (List.takeWhile Char.isDigit) hlist
    rwa [show "-".toList = ['-'] from rfl, List.singleton_append, List.singleton_append,
      takeWhile_toDigits, takeWhile_toDigits] at htake
  have hvalue := congrArg (Nat.ofDigitChars 10 · 0) hdigits
  simp only [Nat.ofDigitChars_ten_toDigits] at hvalue
  exact UInt64.toNat_inj.1 hvalue

structure Warrants (w : ServiceWorld) : Prop where
  session : ∀ p, w.cancellation.owner = some p → ∃ g secret,
    w.cancellation.ownerGeneration = some g ∧ p.sessionId = ownerSessionId g secret
  issued : ∀ p g, .cancelled p g ∈ w.history → ∃ secret, p.sessionId = ownerSessionId g secret
  standing : ∀ p g, .cancelled p g ∈ w.history → w.cancellation.ownerGeneration = some g →
    w.cancellation.owner = some p ∧ w.cancellation.requested = true
  justified : w.cancellation.requested = true → ∀ p, w.cancellation.owner = some p →
    ∃ g, .cancelled p g ∈ w.history
  undelivered : ∀ p g, (p, g) ∈ w.undelivered → .cancelled p g ∈ w.history
  returned : ∀ p g, .returned p g ∈ w.history → .cancelled p g ∈ w.history
  delivered : w.controller.applyCancelled = true →
    ∃ p g, w.controller.ownerGeneration = some g ∧ .cancelled p g ∈ w.history
  checked : ∀ c, lastCheck w.history = some (c, false) → ∀ p g, c.owner = some p →
    .returned p g ∈ w.history → c.requested = true
  since : ∀ c, lastCheck w.history = some (c, true) →
    ∃ p g, c.owner = some p ∧ .returned p g ∈ w.history
  applying : w.request.isApply = true →
    w.cancellation.owner = w.state.owner.map (·.proof) ∧
    ∀ g, w.cancellation.ownerGeneration = some g → w.controller.ownerGeneration = some g

namespace Warrants

variable {w w' : ServiceWorld}

theorem initial : Warrants .initial where
  session := nofun
  issued _ _ hmem := absurd hmem List.not_mem_nil
  standing _ _ hmem := absurd hmem List.not_mem_nil
  justified := nofun
  undelivered _ _ hmem := absurd hmem List.not_mem_nil
  returned _ _ hmem := absurd hmem List.not_mem_nil
  delivered := nofun
  checked := nofun
  since := nofun
  applying := nofun

theorem requested (h : Warrants w) (howner : w.cancellation.owner = some p)
    (hmem : .cancelled p g ∈ w.history) : w.cancellation.requested = true := by
  obtain ⟨g', secret, hgeneration, hsession⟩ := h.session p howner
  obtain ⟨secret', hissued⟩ := h.issued p g hmem
  obtain rfl := ownerSessionId_generation (hsession.symm.trans hissued)
  exact (h.standing p g' hmem hgeneration).2

theorem accept (h : Warrants w)
    (hok : w.cancellation.cancelPendingApply owner = .ok (cancellation, ownerGeneration)) :
    Warrants { w with
      cancellation
      undelivered := (owner, ownerGeneration) :: w.undelivered
      history := .cancelled owner ownerGeneration :: w.history } := by
  obtain ⟨hsame, hgeneration, howner, hcurrent, hrequested⟩ :=
    ApplyCancellationState.cancelPendingApply_ok hok
  constructor
  case session => exact fun p hp => hgeneration ▸ h.session p (hsame ▸ hp)
  case issued =>
    intro p g hmem
    obtain heq | hmem := List.mem_cons.1 hmem
    · cases heq
      obtain ⟨g', secret, hg', hsession⟩ := h.session _ howner
      obtain rfl := Option.some.inj (hcurrent.symm.trans hg')
      exact ⟨secret, hsession⟩
    · exact h.issued p g hmem
  case standing =>
    intro p g hmem hg
    refine ⟨?_, hrequested⟩
    obtain heq | hmem := List.mem_cons.1 hmem
    · cases heq
      exact hsame.trans howner
    · exact hsame.trans (h.standing p g hmem (hgeneration ▸ hg)).1
  case justified =>
    intro _ p hp
    obtain rfl := Option.some.inj (howner.symm.trans (hsame ▸ hp))
    exact ⟨_, List.mem_cons_self⟩
  case undelivered =>
    intro p g hmem
    obtain heq | hmem := List.mem_cons.1 hmem
    · cases heq
      exact List.mem_cons_self
    · exact List.mem_cons_of_mem _ (h.undelivered p g hmem)
  case returned =>
    intro p g hmem
    exact List.mem_cons_of_mem _ (h.returned p g ((List.mem_cons.1 hmem).resolve_left nofun))
  case delivered =>
    intro hcancelled
    obtain ⟨p, g, hg, hmem⟩ := h.delivered hcancelled
    exact ⟨p, g, hg, List.mem_cons_of_mem _ hmem⟩
  case checked =>
    intro c hcheck p g hp hmem
    exact h.checked c hcheck p g hp ((List.mem_cons.1 hmem).resolve_left nofun)
  case since =>
    intro c hcheck
    obtain ⟨p, g, hp, hmem⟩ := h.since c hcheck
    exact ⟨p, g, hp, List.mem_cons_of_mem _ hmem⟩
  case applying =>
    intro hrequest
    rw [hsame, hgeneration]
    exact h.applying hrequest

theorem deliver (h : Warrants w) (hmem : (owner, ownerGeneration) ∈ w.undelivered) :
    Warrants { w with
      controller := w.controller.cancelPendingApply ownerGeneration
      undelivered := w.undelivered.erase (owner, ownerGeneration)
      history := .returned owner ownerGeneration :: w.history } := by
  have hcancelled := h.undelivered _ _ hmem
  have hold : ∀ {p g}, .cancelled p g ∈ HistoryEvent.returned owner ownerGeneration :: w.history →
      .cancelled p g ∈ w.history :=
    fun hmem => (List.mem_cons.1 hmem).resolve_left nofun
  constructor
  case session => exact h.session
  case issued => exact fun p g hmem => h.issued p g (hold hmem)
  case standing => exact fun p g hmem => h.standing p g (hold hmem)
  case justified =>
    intro hrequested p hp
    obtain ⟨g, hmem⟩ := h.justified hrequested p hp
    exact ⟨g, List.mem_cons_of_mem _ hmem⟩
  case undelivered =>
    exact fun p g hmem => List.mem_cons_of_mem _ (h.undelivered p g (List.mem_of_mem_erase hmem))
  case returned =>
    intro p g hmem
    obtain heq | hmem := List.mem_cons.1 hmem
    · cases heq
      exact List.mem_cons_of_mem _ hcancelled
    · exact List.mem_cons_of_mem _ (h.returned p g hmem)
  case delivered =>
    simp only [ApplyCancellationEpoch.ownerGeneration_cancel]
    intro happly
    by_cases hcurrent : w.controller.ownerGeneration = some ownerGeneration
    · exact ⟨owner, ownerGeneration, hcurrent, List.mem_cons_of_mem _ hcancelled⟩
    · rw [ApplyCancellationEpoch.cancelPendingApply, if_neg hcurrent] at happly
      obtain ⟨p, g, hg, hmem⟩ := h.delivered happly
      exact ⟨p, g, hg, List.mem_cons_of_mem _ hmem⟩
  case checked =>
    intro c hcheck p g hp hmem
    rw [lastCheck, Option.map_eq_some_iff] at hcheck
    obtain ⟨⟨c', b⟩, hcheck, heq⟩ := hcheck
    obtain ⟨rfl, hfalse⟩ := Prod.mk.inj heq
    obtain ⟨rfl, hother⟩ := Bool.or_eq_false_iff.1 hfalse
    obtain heq | hmem := List.mem_cons.1 hmem
    · cases heq
      exact absurd hp (of_decide_eq_false hother)
    · exact h.checked _ hcheck p g hp hmem
  case since =>
    intro c hcheck
    rw [lastCheck, Option.map_eq_some_iff] at hcheck
    obtain ⟨⟨c', b⟩, hcheck, heq⟩ := hcheck
    obtain ⟨rfl, htrue⟩ := Prod.mk.inj heq
    obtain rfl | hp := Bool.or_eq_true_iff.1 htrue
    · obtain ⟨p, g, hp, hmem⟩ := h.since _ hcheck
      exact ⟨p, g, hp, List.mem_cons_of_mem _ hmem⟩
    · exact ⟨owner, ownerGeneration, of_decide_eq_true hp, List.mem_cons_self⟩
  case applying =>
    simp only [ApplyCancellationEpoch.ownerGeneration_cancel]
    exact h.applying

theorem made (h : Warrants w) (hhistory : w'.history = .made e :: w.history)
    (hundelivered : w'.undelivered = w.undelivered)
    (hsession : ∀ p, w'.cancellation.owner = some p → ∃ g secret,
      w'.cancellation.ownerGeneration = some g ∧ p.sessionId = ownerSessionId g secret)
    (hstanding : ∀ p g, .cancelled p g ∈ w.history → w'.cancellation.ownerGeneration = some g →
      w'.cancellation.owner = some p ∧ w'.cancellation.requested = true)
    (hjustified : w'.cancellation.requested = true → ∀ p, w'.cancellation.owner = some p →
      ∃ g, .cancelled p g ∈ w.history) (hdelivered : w'.controller.applyCancelled = true →
      ∃ p g, w'.controller.ownerGeneration = some g ∧ .cancelled p g ∈ w.history)
    (hcheck : lastCheck (.made e :: w.history) = lastCheck w.history ∨
      lastCheck (.made e :: w.history) = some (w.cancellation, false) ∨
      lastCheck (.made e :: w.history) = none) (happlying : w'.request.isApply = true →
      w'.cancellation.owner = w'.state.owner.map (·.proof) ∧
      ∀ g, w'.cancellation.ownerGeneration = some g → w'.controller.ownerGeneration = some g) :
    Warrants w' := by
  have hcancelled : ∀ {p g}, .cancelled p g ∈ w'.history ↔ .cancelled p g ∈ w.history := by
    simp [hhistory]
  have hreturned : ∀ {p g}, .returned p g ∈ w'.history ↔ .returned p g ∈ w.history := by
    simp [hhistory]
  constructor
  case session => exact hsession
  case issued => exact fun p g hmem => h.issued p g (hcancelled.1 hmem)
  case standing => exact fun p g hmem => hstanding p g (hcancelled.1 hmem)
  case justified => simpa only [hcancelled] using hjustified
  case undelivered => exact fun p g hmem => hcancelled.2 (h.undelivered p g (hundelivered ▸ hmem))
  case returned => exact fun p g hmem => hcancelled.2 (h.returned p g (hreturned.1 hmem))
  case delivered => simpa only [hcancelled] using hdelivered
  case checked =>
    intro c hlast p g hp hmem
    rw [hreturned] at hmem
    rw [hhistory] at hlast
    obtain hsame | hnew | hnone := hcheck
    · exact h.checked c (hsame ▸ hlast) p g hp hmem
    · obtain ⟨rfl, _⟩ := Prod.mk.inj (Option.some.inj (hnew.symm.trans hlast))
      exact h.requested hp (h.returned p g hmem)
    · cases hnone.symm.trans hlast
  case since =>
    intro c hlast
    simp only [hreturned]
    rw [hhistory] at hlast
    obtain hsame | hnew | hnone := hcheck
    · exact h.since c (hsame ▸ hlast)
    · cases hnew.symm.trans hlast
    · cases hnone.symm.trans hlast
  case applying => exact happlying

theorem quiet (h : Warrants w) (hhistory : w'.history = .made e :: w.history)
    (hundelivered : w'.undelivered = w.undelivered)
    (hcancellation : w'.cancellation = w.cancellation) (hcontroller : w'.controller = w.controller)
    (hrequest : w'.request = w.request)
    (hcheck : lastCheck (.made e :: w.history) = lastCheck w.history ∨
      lastCheck (.made e :: w.history) = some (w.cancellation, false) ∨
      lastCheck (.made e :: w.history) = none)
    (howner : w.cancellation.owner = w.state.owner.map (·.proof) →
      w.cancellation.owner = w'.state.owner.map (·.proof)) : Warrants w' := by
  apply h.made hhistory hundelivered _ _ _ _ hcheck <;>
    simp only [hcancellation, hcontroller, hrequest]
  · exact fun happly => ⟨howner (h.applying happly).1, (h.applying happly).2⟩
  · exact h.session
  · exact h.standing
  · exact h.justified
  · exact h.delivered

end Warrants

theorem Stores.owner_eq (hs : Stores config w s)
    (h : w.cancellation.owner = w.state.owner.map (·.proof)) :
    w.cancellation.owner = s.owner.map (·.proof) := by
  cases hs with
  | alike _ halike => rw [halike.owner, h]
  | exited _ _ => rw [ServiceState.owner_scheduleInitialRestart, h]
  | dismissed _ _ hnone => exact hnone
  | adopted _ _ hproof _ => exact hproof
  | _ => exact h

theorem Warrants.move (h : Warrants room.2) (hmove : Move config room room') :
    Warrants room'.2 := by
  cases hmove with
  | reserve _ => exact h
  | cancel hcancel =>
    cases hcancel with
    | accept _ hok => exact h.accept hok
    | deliver hmem => exact h.deliver hmem
  | call hpermit hreply =>
    cases hpermit with
    | putState hs => exact h.quiet rfl rfl rfl rfl rfl (.inl rfl) hs.owner_eq
    | lockCancellation _ =>
      exact h.quiet rfl rfl rfl rfl rfl
        (.inr (.inl (congrArg (fun c => some (c, false)) hreply))) id
    | resetCancellation hrequest hfresh =>
      refine h.made rfl rfl ?_ ?_ nofun h.delivered (.inr (.inr rfl)) ?_
      · rintro _ ⟨⟩
        exact ⟨_, _, rfl, rfl⟩
      · rintro p g hmem ⟨⟩
        exact absurd (hfresh.cancelled p _ hmem) (UInt64.lt_irrefl _)
      · intro happly
        cases hrequest.symm.trans happly
    | clearCancellation hrequest =>
      refine h.made rfl rfl nofun nofun (fun _ _ => nofun) h.delivered (.inr (.inr rfl)) ?_
      intro happly
      cases hrequest.symm.trans happly
    | resetApplyCancellation hrequest _ _ _ =>
      refine h.made rfl rfl h.session h.standing h.justified ?_ (.inl rfl) ?_
      · change (ApplyCancellationEpoch.resetApplyCancellation _ _).applyCancelled = true →
          ∃ p g, (ApplyCancellationEpoch.resetApplyCancellation _ _).ownerGeneration = some g ∧ _
        unfold ApplyCancellationEpoch.resetApplyCancellation
        split
        · exact h.delivered
        · exact nofun
      · intro happly
        cases hrequest.symm.trans happly
    | _ => exact h.quiet rfl rfl rfl rfl rfl (.inl rfl) id

theorem kept_warrants (config : PrivilegedServiceConfig) :
    Kept config fun room => Warrants room.2 := by
  refine ⟨fun _ => .initial, fun room q hsound h => ?_, fun _ _ _ h hmove => h.move hmove⟩
  have hcancelled : ∀ {p g}, .cancelled p g ∈ (room.asked q).2.history ↔
      .cancelled p g ∈ room.2.history := by
    simp [ServiceRoom.asked]
  have hreturned : ∀ {p g}, .returned p g ∈ (room.asked q).2.history ↔
      .returned p g ∈ room.2.history := by
    simp [ServiceRoom.asked]
  constructor
  case session => exact h.session
  case issued =>
    simp only [hcancelled]
    exact h.issued
  case standing =>
    simp only [hcancelled]
    exact h.standing
  case justified =>
    simp only [hcancelled]
    exact h.justified
  case undelivered =>
    simp only [hcancelled]
    exact h.undelivered
  case returned =>
    simp only [hcancelled, hreturned]
    exact h.returned
  case delivered =>
    simp only [hcancelled]
    exact h.delivered
  case checked =>
    simp only [hreturned]
    exact h.checked
  case since =>
    simp only [hreturned]
    exact h.since
  case applying =>
    intro _
    refine ⟨hsound.settled.owner, fun g hg => ?_⟩
    have hgeneration := hsound.settled.ownerGeneration.symm.trans hg
    obtain ⟨owner, howner, rfl⟩ := Option.map_eq_some_iff.1 hgeneration
    exact hsound.settled.epoch owner howner

namespace ServiceEvent

def checks : ServiceEvent → Option ApplyCancellationState
  | ⟨_, _, .lockCancellation, cancellation⟩ => some cancellation
  | _ => none

def reportsCancellation : ServiceEvent → Bool
  | ⟨_, _, .spawn _ _ _, .error e⟩ | ⟨_, _, .readiness _ _, .error e⟩ => e = ⟨.applyCancelled⟩
  | _ => false

end ServiceEvent

/-- The call does not make a Core Active once a cancellation by its owner has returned. -/
def HeedsCancellation (e : ServiceEvent) (older : List HistoryEvent) : Prop :=
  e.activates = true → ∀ owner g, e.before.owner = some owner → .returned owner.proof g ∉ older

/-- If the call makes a restarted Core Active, no cancellation by its owner has returned since the
restart looked at the cancellation state. -/
def ChecksInTime (e : ServiceEvent) (older : List HistoryEvent) : Prop :=
  e.activates = true → ∀ now check, e.request = .maintenanceStep now →
    lastCheck older = some check → check.2 = false

/-- An apply of the owner is kept from going on only by cancellations of that owner. -/
def MindsOwnCancellation (e : ServiceEvent) (older : List HistoryEvent) : Prop :=
  ∀ proof bundle owner, e.request = .applyCandidate proof bundle →
    e.before.owner = some owner → owner.proof = proof →
    (∀ c, e.checks = some c → c.owner = some proof ∧
      (c.requested = true → ∃ g, .cancelled proof g ∈ older)) ∧
    (e.reportsCancellation = true → ∃ g, .cancelled proof g ∈ older)

theorem Stores.activates (hs : Stores config w s) (hbefore : w.state.active = none)
    (hafter : s.active.isSome = true) :
    (∃ proof bundle owner, w.request = .applyCandidate proof bundle ∧
      w.state.owner = some owner ∧ w.cancellation.owner = some owner.proof ∧
      w.cancellation.requested = false) ∨
    ∃ now owner c since, w.request = .maintenanceStep now ∧ w.state.owner = some owner ∧
      lastCheck w.history = some (c, since) ∧ c.owner = some owner.proof ∧ c.requested = false := by
  have hnone : ∀ {t : ServiceState}, t.active = w.state.active →
      t.active.isSome = true → False := by
    intro t heq hsome
    rw [heq, hbefore] at hsome
    cases hsome
  cases hs with
  | alike _ halike =>
    rw [halike.active_isSome, hbefore] at hafter
    cases hafter
  | exited hcore _ =>
    rw [ServiceState.active_eq_some.2 hcore] at hbefore
    cases hbefore
  | applied hrequest _ _ howner hproof hcancellation hactive =>
    exact .inl ⟨_, _, _, hrequest, howner, hproof ▸ hcancellation, hactive⟩
  | restarted hrequest _ _ _ howner hcheck hcancellation hactive _ =>
    exact .inr ⟨_, _, _, _, hrequest, howner, hcheck, hcancellation, hactive⟩
  | demote _ _ _ => cases hafter
  | cleaned _ _ => cases hafter
  | abandoned _ => cases hafter
  | stopped _ _ _ => cases hafter
  | dismissed _ _ _ => cases hafter
  | counted _ _ _ _ _ => exact (hnone rfl hafter).elim
  | adopted _ _ _ _ => exact (hnone rfl hafter).elim
  | limitReached _ _ _ _ => exact (hnone rfl hafter).elim
  | backedOff _ _ _ _ _ => exact (hnone rfl hafter).elim

theorem Stores.heeds_iff (hs : Stores config w s) (h : Warrants w) :
    HeedsCancellation ⟨w.request, w.state, .putState s, r⟩ w.history ↔
      ChecksInTime ⟨w.request, w.state, .putState s, r⟩ w.history := by
  by_cases hactivates : ServiceEvent.activates ⟨w.request, w.state, .putState s, r⟩ = true
  swap
  · exact iff_of_true (fun hyes => absurd hyes hactivates) (fun hyes => absurd hyes hactivates)
  obtain ⟨hbefore, hafter⟩ : w.state.active.isNone = true ∧ s.active.isSome = true := by
    simpa [ServiceEvent.activates, ServiceEvent.stores] using hactivates
  obtain ⟨proof, bundle, owner, hrequest, howner, hcancellation, hactive⟩ |
    ⟨now, owner, c, since, hrequest, howner, hcheck, hcancellation, hactive⟩ :=
    hs.activates (Option.isNone_iff_eq_none.1 hbefore) hafter
  · refine iff_of_true ?_ ?_
    · intro _ owner' g howner' hmem
      obtain rfl := Option.some.inj (howner.symm.trans howner')
      rw [h.requested hcancellation (h.returned _ _ hmem)] at hactive
      cases hactive
    · intro _ now check hmaintenance
      cases hrequest.symm.trans hmaintenance
  · cases since with
    | false =>
      refine iff_of_true ?_ ?_
      · intro _ owner' g howner' hmem
        obtain rfl := Option.some.inj (howner.symm.trans howner')
        rw [h.checked c hcheck _ g hcancellation hmem] at hactive
        cases hactive
      · intro _ _ check _ hcheck'
        obtain rfl := Option.some.inj (hcheck.symm.trans hcheck')
        rfl
    | true =>
      refine iff_of_false ?_ ?_
      · intro hheeds
        obtain ⟨p, g, hp, hmem⟩ := h.since c hcheck
        obtain rfl := Option.some.inj (hcancellation.symm.trans hp)
        exact hheeds hactivates owner g howner hmem
      · intro hintime
        cases hintime hactivates now _ hrequest hcheck

theorem Permits.heeds_iff (hpermit : Permits config room c) (h : Warrants room.2) :
    HeedsCancellation ⟨room.2.request, room.2.state, c, r⟩ room.2.history ↔
      ChecksInTime ⟨room.2.request, room.2.state, c, r⟩ room.2.history := by
  cases hpermit with
  | putState hs => exact hs.heeds_iff h
  | _ => exact iff_of_true nofun nofun

theorem Warrants.controller_cancelled {w : ServiceWorld} (h : Warrants w)
    (hrequest : w.request = .applyCandidate proof bundle) (howner : w.state.owner = some owner)
    (hproof : owner.proof = proof) (happly : w.controller.applyCancelled = true) :
    ∃ g, .cancelled proof g ∈ w.history := by
  obtain ⟨hcurrent, hcontroller⟩ := h.applying (by rw [hrequest]; rfl)
  rw [howner] at hcurrent
  obtain ⟨g, _, hgeneration, _⟩ := h.session _ hcurrent
  obtain ⟨p, g', hg', hmem⟩ := h.delivered happly
  obtain rfl := Option.some.inj ((hcontroller g hgeneration).symm.trans hg')
  have hp := (h.standing p g hmem hgeneration).1
  obtain rfl := Option.some.inj (hcurrent.symm.trans hp)
  exact ⟨g, hproof ▸ hmem⟩

theorem Permits.mindsOwn (hpermit : Permits config room c) (h : Warrants room.2)
    (hreply : room.2.Replies c r) :
    MindsOwnCancellation ⟨room.2.request, room.2.state, c, r⟩ room.2.history := by
  intro proof bundle owner hrequest howner hproof
  cases hpermit with
  | lockCancellation _ =>
    refine ⟨?_, nofun⟩
    rintro _ ⟨⟩
    have hcurrent : room.2.cancellation.owner = some proof := by
      rw [(h.applying (by rw [show room.2.request = _ from hrequest]; rfl)).1,
        show room.2.state.owner = _ from howner]
      exact congrArg some hproof
    rw [show r = room.2.cancellation from hreply]
    exact ⟨hcurrent, fun hrequested => h.justified hrequested proof hcurrent⟩
  | spawn _ _ _ _ =>
    refine ⟨nofun, fun hreports => h.controller_cancelled hrequest howner hproof ?_⟩
    cases r with
    | ok _ => cases hreports
    | error e => exact hreply.2 (congrArg Except.error (of_decide_eq_true hreports))
  | readiness =>
    refine ⟨nofun, fun hreports => h.controller_cancelled hrequest howner hproof ?_⟩
    cases r with
    | ok _ => cases hreports
    | error e => exact hreply (congrArg Except.error (of_decide_eq_true hreports))
  | _ => exact ⟨nofun, nofun⟩

theorem kept_heeds_iff (config : PrivilegedServiceConfig) :
    Kept config fun room => Warrants room.2 ∧ Throughout (fun e older =>
      (HeedsCancellation e older ↔ ChecksInTime e older) ∧ MindsOwnCancellation e older)
        room.2.history :=
  (kept_warrants config).throughout fun _ _ _ _ h hpermit hreply =>
    ⟨hpermit.heeds_iff h, hpermit.mindsOwn h hreply⟩

def ServiceEvent.Promotes (e : ServiceEvent) (p : OwnedProcessIdentity)
    (owner : Option ServiceOwner) : Prop :=
  e.activates = true ∧ (∃ s, e.stores = some s ∧ s.tracked = some p) ∧ e.before.owner = owner

def Promoted (w : ServiceWorld) : Prop :=
  ∀ p, w.state.active.isSome = true → w.state.tracked = some p →
    ∃ e older, .made e :: older <:+ w.history ∧ e.Promotes p w.state.owner

theorem Promoted.older {w w' : ServiceWorld} (h : Promoted w) (hhistory : w.history <:+ w'.history)
    (hactive : w'.state.active.isSome = w.state.active.isSome)
    (htracked : w'.state.tracked = w.state.tracked) (howner : w'.state.owner = w.state.owner) :
    Promoted w' := by
  intro p hsome hp
  obtain ⟨e, older, hsuffix, hpromotes⟩ := h p (hactive ▸ hsome) (htracked ▸ hp)
  exact ⟨e, older, hsuffix.trans hhistory, howner ▸ hpromotes⟩

theorem Promoted.stored {w : ServiceWorld} (h : Promoted w) (hcustody : Custody w)
    (hs : Stores config w s) : Promoted ((w.record (.putState s) ()).store (.putState s)) := by
  have hnew : ∀ {q}, held w.history = some q → s.active.isSome = true → s.owner = w.state.owner →
      Promoted ((w.record (.putState s) ()).store (.putState s)) := by
    intro q hheld hactive howner p _ htracked
    have hbefore : w.state.active = none := by
      rw [ServiceState.active, hcustody.untracked (by rw [hheld]; rfl)]
      rfl
    refine ⟨_, _, List.suffix_refl _, ?_, ⟨s, rfl, htracked⟩, howner.symm⟩
    simp [ServiceEvent.activates, ServiceEvent.stores, hbefore, hactive]
  have hgone : s.active = none → Promoted ((w.record (.putState s) ()).store (.putState s)) := by
    intro hnone p hactive
    change s.active.isSome = true at hactive
    rw [hnone] at hactive
    cases hactive
  have hsuffix : w.history <:+ ((w.record (.putState s) ()).store (.putState s)).history :=
    List.suffix_cons _ _
  cases hs with
  | alike _ halike => exact h.older hsuffix halike.active_isSome halike.tracked halike.owner
  | demote _ _ _ => exact hgone rfl
  | cleaned _ _ => exact hgone rfl
  | stopped _ _ _ => exact hgone rfl
  | dismissed _ _ _ => exact hgone rfl
  | abandoned _ => exact hgone rfl
  | exited hcore _ =>
    obtain ⟨bundle, hbundle⟩ := hcustody.bundle_of_active hcore
    apply hgone
    rw [ServiceState.scheduleInitialRestart_snd (hbundle ▸ Option.some_ne_none bundle)]
    rfl
  | adopted _ howner _ _ =>
    apply hgone
    change Option.bind w.state.managedCore _ = none
    rw [(hcustody.ownerless howner).1]
    rfl
  | applied _ hheld _ _ _ _ _ => exact hnew hheld rfl rfl
  | restarted _ hheld _ _ _ _ _ _ _ => exact hnew hheld rfl rfl
  | counted _ _ _ _ _ => exact h.older hsuffix rfl rfl rfl
  | limitReached _ _ _ _ => exact h.older hsuffix rfl rfl rfl
  | backedOff _ _ _ _ _ => exact h.older hsuffix rfl rfl rfl

theorem kept_promoted (config : PrivilegedServiceConfig) :
    Kept config fun room => Promoted room.2 := by
  constructor
  · intro counters p hactive
    cases hactive
  · intro room q _ h
    exact h.older (List.suffix_cons _ _) rfl rfl rfl
  · intro room room' hcustody h hmove
    cases hmove with
    | reserve _ => exact h
    | cancel hcancel =>
      cases hcancel with
      | accept _ _ => exact h.older (List.suffix_cons _ _) rfl rfl rfl
      | deliver _ => exact h.older (List.suffix_cons _ _) rfl rfl rfl
    | call hpermit _ =>
      cases hpermit with
      | putState hs => exact h.stored hcustody hs
      | _ => exact h.older (List.suffix_cons _ _) rfl rfl rfl

/-- In every run: no Core becomes Active once a cancellation by its owner has returned, exactly if
no cancellation returns between the last check of a crash restart and the store of its record; an
apply is never kept from going on by a cancellation of anybody but its owner; and, in the first
case, a process that was started is in the record of a Core to be cleaned up, unless it was made
Active before any cancellation by its owner had returned. -/
theorem cancellation_terminal_iff (h : Serving config J room) :
    (Throughout HeedsCancellation room.2.history ↔ Throughout ChecksInTime room.2.history) ∧
    Throughout MindsOwnCancellation room.2.history ∧
    (Served config J room → Throughout ChecksInTime room.2.history →
      ∀ p ∈ outstanding room.2.history, room.2.state.tracked = some p ∧
        (room.2.state.cleanupPending = true ∨
          ∃ e older owner, .made e :: older <:+ room.2.history ∧ e.Promotes p (some owner) ∧
            ∀ g, .returned owner.proof g ∉ older)) := by
  have hall := ((kept_heeds_iff config).serving h).2
  have hiff : Throughout HeedsCancellation room.2.history ↔
      Throughout ChecksInTime room.2.history :=
    forall₃_congr fun e older hsuffix => (hall e older hsuffix).1
  refine ⟨hiff, fun e older hsuffix => (hall e older hsuffix).2, fun hserved hintime p hp => ?_⟩
  have hcustody := hserved.sound.custody
  have htracked := hcustody.tracked_of_held_none hserved.sound.settled.held hp
  refine ⟨htracked, ?_⟩
  cases hcore : room.2.state.managedCore with
  | none =>
    rw [ServiceState.tracked, hcore] at htracked
    cases htracked
  | some core =>
    cases core with
    | cleanupPending record => exact .inl (ServiceState.cleanupPending_iff.2 ⟨record, hcore⟩)
    | active record =>
      have hactive : room.2.state.active.isSome = true := by
        rw [ServiceState.active_eq_some.2 hcore]
        rfl
      obtain ⟨e, older, hsuffix, hpromotes⟩ :=
        (kept_promoted config).served hserved p hactive htracked
      cases howner : room.2.state.owner with
      | none =>
        rw [(hcustody.ownerless howner).1] at hcore
        cases hcore
      | some owner =>
        rw [howner] at hpromotes
        refine .inr ⟨e, older, owner, hsuffix, hpromotes, fun g => ?_⟩
        exact hiff.2 hintime e older hsuffix hpromotes.1 owner g hpromotes.2.2

def cancelledApply : List (Conduct × ServiceRequest) :=
  [(.flawless, .openOwnerSession ⟨1, 501, 10, "supervisor", "token"⟩),
    ({ cancelsAt := fun c => match c with | .readiness _ _ => true | _ => false },
      .applyCandidate firstProof appliedBundle)]

theorem cancellation_terminal_cancelledApply :
    let room := play threeRestarts numberedCodec cancelledApply unused
    Throughout MindsOwnCancellation room.2.history ∧ room.2.state.managedCore = none := by
  refine ⟨(cancellation_terminal_iff (J := numberedCodec) ⟨_, play_served _ _ _, .inl rfl⟩).2.1, ?_⟩
  decide +kernel

def latestActivation : List HistoryEvent → Option (ServiceEvent × List HistoryEvent)
  | [] => none
  | .made e :: older => if e.activates then some (e, older) else latestActivation older
  | _ :: older => latestActivation older

theorem latestActivation_suffix (h : latestActivation history = some (e, older)) :
    .made e :: older <:+ history ∧ e.activates = true := by
  induction history with
  | nil => cases h
  | cons x history ih =>
    have hrest : latestActivation history = some (e, older) →
        .made e :: older <:+ x :: history ∧ e.activates = true :=
      fun h => ⟨(ih h).1.trans (List.suffix_cons _ _), (ih h).2⟩
    cases x with
    | made e' =>
      rw [latestActivation] at h
      split at h
      · cases h
        exact ⟨List.suffix_refl _, ‹_›⟩
      · exact hrest h
    | _ => exact hrest h

def hasReturned (owner : ServiceOwner) (h : List HistoryEvent) : Bool :=
  h.any fun x => match x with | .returned p _ => p = owner.proof | _ => false

theorem hasReturned_spec (h : hasReturned owner history = true) :
    ∃ g, .returned owner.proof g ∈ history := by
  obtain ⟨x, hmem, hx⟩ := List.any_eq_true.1 h
  split at hx
  · exact ⟨_, of_decide_eq_true hx ▸ hmem⟩
  · cases hx

def lateCancellation : List (Conduct × ServiceRequest) :=
  crash ++ [({ cancelsAt := fun c => match c with | .putState s => s.active.isSome | _ => false },
    .maintenanceStep (seconds 20))]

theorem restart_ignores_late_cancellation :
    ∃ room, Served threeRestarts numberedCodec room ∧ room.2.state.active.isSome = true ∧
      ∃ e older owner g, .made e :: older <:+ room.2.history ∧ e.activates = true ∧
        e.before.owner = some owner ∧ .returned owner.proof g ∈ older := by
  have hlate : ((latestActivation (play threeRestarts numberedCodec lateCancellation
      unused).2.history).any fun x => x.1.before.owner.any (hasReturned · x.2)) = true := by
    decide +kernel
  obtain ⟨⟨e, older⟩, hlatest, howner⟩ := (Option.any_eq_true _ _).1 hlate
  obtain ⟨owner, howner, hreturned⟩ := (Option.any_eq_true _ _).1 howner
  obtain ⟨g, hmem⟩ := hasReturned_spec hreturned
  obtain ⟨hsuffix, hactivates⟩ := latestActivation_suffix hlatest
  exact ⟨_, play_served _ _ _, by decide +kernel, e, older, owner, g, hsuffix, hactivates, howner,
    hmem⟩

end Ratash

import Mathlib.Algebra.BigOperators.Group.Finset.Basic
import Ratash.Supervisor.Activation

/-!
Three invariants, each resting on the one before: at most one caller is at work; every caller that
waits is in the queue or in the hands of the one at work, or has its result; and every result is
that of the caller's own activation, or says that there was none.
-/

namespace Ratash

namespace CallerPhase

variable {O : Type} {phase : CallerPhase O}

@[grind] def atWork : CallerPhase O → Bool
  | .activating | .draining _ | .serving _ _ | .completing _ _ _ => true
  | _ => false

@[grind] def awaits : CallerPhase O → Bool
  | .waiting | .sleeping => true
  | _ => false

@[grind] def serves : CallerPhase O → Option PendingActivation
  | .serving _ next | .completing _ next _ => some next
  | _ => none

@[grind] def first : CallerPhase O → Option (ActivationResult O)
  | .draining first | .serving first _ | .completing first _ _ => some first
  | _ => none

@[grind =] theorem atWork_notified : phase.notified.atWork = phase.atWork := by cases phase <;> rfl

@[grind =] theorem awaits_notified : phase.notified.awaits = phase.awaits := by cases phase <;> rfl

@[grind =] theorem serves_notified : phase.notified.serves = phase.serves := by cases phase <;> rfl

@[grind =] theorem notified_eq_calling : phase.notified = .calling ↔ phase = .calling := by
  cases phase <;> simp [notified]

@[grind →] theorem notified_of_awaits (h : phase.awaits = true) : phase.notified = .waiting := by
  cases phase <;> first | rfl | cases h

@[grind →] theorem atWork_of_serves (h : phase.serves = some next) : phase.atWork = true := by
  cases phase <;> first | rfl | cases h

@[grind →] theorem atWork_of_first (h : phase.first = some result) : phase.atWork = true := by
  cases phase <;> first | rfl | cases h

end CallerPhase

attribute [grind =] Function.update_apply

namespace ActivationWorld

variable {O : Type} {w w' : ActivationWorld O} {selectors : Nat → String}

@[grind] def Began (w : ActivationWorld O) (i : Nat) : Prop := i ∈ w.began.map (·.completion)

structure Workers (w : ActivationWorld O) : Prop where
  alone : ∀ i j, (w.phase i).atWork = true → (w.phase j).atWork = true → i = j
  running : ∀ i, (w.phase i).atWork = true → w.queue.running = true
  worker : w.queue.running = true → ∃ i, (w.phase i).atWork = true
  queued : ∀ p, w.queue.pending = some p → w.queue.running = true

theorem Workers.congr (h : w.Workers) (hatWork : ∀ i, (w'.phase i).atWork = (w.phase i).atWork)
    (hrunning : w'.queue.running = w.queue.running)
    (hqueued : ∀ p, w'.queue.pending = some p → w.queue.running = true) : w'.Workers := by
  refine ⟨fun i j hi hj => ?_, fun i hi => ?_, fun hrun => ?_, fun p hp => ?_⟩
  · exact h.alone i j (hatWork i ▸ hi) (hatWork j ▸ hj)
  · exact hrunning ▸ h.running i (hatWork i ▸ hi)
  · obtain ⟨i, hi⟩ := h.worker (hrunning ▸ hrun)
    exact ⟨i, (hatWork i).trans hi⟩
  · exact hrunning ▸ hqueued p hp

theorem atWork_complete (w : ActivationWorld O) (i j : Nat) (result : ActivationResult O) :
    ((w.complete i result).phase j).atWork = (w.phase j).atWork := by
  simp only [complete]
  grind

theorem atWork_supersede (w : ActivationWorld O) (pending : Option PendingActivation) (j : Nat) :
    ((w.supersede pending).phase j).atWork = (w.phase j).atWork := by
  cases pending with
  | none => rfl
  | some old => exact atWork_complete w old.completion j _

theorem Workers.enqueue (h : w.Workers) (hphase : w.phase i = .calling)
    (hrunning : w.queue.running = true) : ((w.enqueue next).goTo i .waiting).Workers := by
  refine h.congr (fun j => ?_) rfl fun _ _ => hrunning
  have hsame := atWork_supersede w w.queue.pending j
  simp only [goTo, ActivationWorld.enqueue]
  grind

theorem Workers.elect (h : w.Workers) (hrunning : w.queue.running = false) :
    ((w.elect own).begin i own .activating).Workers := by
  have hidle : ∀ j, (w.phase j).atWork = false := by
    intro j
    by_contra hj
    cases hrunning.symm.trans (h.running j (by simpa using hj))
  refine ⟨?_, fun _ _ => rfl, fun _ => ⟨i, ?_⟩, fun _ _ => rfl⟩ <;>
    simp only [begin, goTo, ActivationWorld.elect] <;> grind

variable {first : ActivationResult O}

theorem Workers.settle (h : w.Workers) (hphase : w.phase i = .draining first)
    (hpending : w.queue.pending = none) :
    ({ w with queue := { w.queue with running := false } }.goTo i (.returned first)).Workers := by
  have hidle : ∀ j, j ≠ i → (w.phase j).atWork = false := by
    intro j hne
    by_contra hj
    exact hne (h.alone j i (by simpa using hj) (by rw [hphase]; rfl))
  refine ⟨?_, ?_, nofun, ?_⟩ <;> simp only [goTo] <;> grind

theorem Workers.step (h : w.Workers) (hstep : ActivationStep selectors turn w w') : w'.Workers := by
  cases hstep with
  | arrive => exact h.congr (fun _ => rfl) rfl h.queued
  | enqueue _ hphase hrunning => exact h.enqueue hphase hrunning
  | elect _ _ hrunning => exact h.elect hrunning
  | take hphase _ =>
    refine h.congr (fun j => ?_) rfl nofun
    simp only [begin, goTo]
    grind
  | settle hphase hpending => exact h.settle hphase hpending
  | @complete _ i first result next hphase =>
    refine h.congr (fun j => ?_) rfl h.queued
    have hsame := atWork_complete w next.completion j result
    simp only [goTo]
    grind
  | activated hphase | served hphase | sleep hphase | receive hphase | wake hphase =>
    refine h.congr (fun j => ?_) rfl h.queued
    simp only [goTo, finish]
    grind

@[grind] structure Hopes (w : ActivationWorld O) (i : Nat) : Prop where
  awaits : (w.phase i).awaits = true
  slot : w.slot i = none
  uncompleted : i ∉ w.completed

structure Waiters (w : ActivationWorld O) : Prop where
  pending : ∀ p, w.queue.pending = some p → w.Hopes p.completion ∧ ¬w.Began p.completion
  served : ∀ j p, (w.phase j).serves = some p → w.Hopes p.completion ∧ w.Began p.completion
  inHand : ∀ i, w.Hopes i → (∃ p, w.queue.pending = some p ∧ p.completion = i) ∨
    ∃ j p, (w.phase j).serves = some p ∧ p.completion = i
  asleep : ∀ i, w.phase i = .sleeping → w.slot i = none
  unslotted : ∀ i, (w.phase i).awaits = false → w.slot i = none
  slotted : ∀ i, (w.phase i).awaits = true → w.slot i = none → i ∉ w.completed
  calling : ∀ i, w.phase i = .calling → ¬w.Began i ∧ i ∉ w.completed

structure Alike (w w' : ActivationWorld O) : Prop where
  pending : w'.queue.pending = w.queue.pending
  slot : w'.slot = w.slot
  began : w'.began = w.began
  completed : w'.completed = w.completed
  awaits : ∀ i, (w'.phase i).awaits = (w.phase i).awaits
  serves : ∀ i, (w'.phase i).serves = (w.phase i).serves
  calling : ∀ i, w'.phase i = .calling → w.phase i = .calling
  asleep : ∀ i, w'.phase i = .sleeping → w.slot i = none

theorem Alike.hopes (h : Alike w w') : w'.Hopes i ↔ w.Hopes i := by
  constructor
  · intro ⟨hawaits, hslot, huncompleted⟩
    exact ⟨h.awaits i ▸ hawaits, h.slot ▸ hslot, h.completed ▸ huncompleted⟩
  · intro ⟨hawaits, hslot, huncompleted⟩
    exact ⟨(h.awaits i).trans hawaits, h.slot ▸ hslot, h.completed ▸ huncompleted⟩

theorem Waiters.alike (h : w.Waiters) (halike : Alike w w') : w'.Waiters := by
  have hbegan : ∀ i, w'.Began i ↔ w.Began i := fun i => by rw [Began, Began, halike.began]
  constructor
  · intro p hp
    rw [halike.hopes, hbegan]
    exact h.pending p (halike.pending ▸ hp)
  · intro j p hp
    rw [halike.hopes, hbegan]
    exact h.served j p (halike.serves j ▸ hp)
  · intro i hi
    simp only [halike.pending, halike.serves]
    exact h.inHand i (halike.hopes.1 hi)
  · exact fun i hi => halike.slot ▸ halike.asleep i hi
  · exact fun i hi => halike.slot ▸ h.unslotted i (halike.awaits i ▸ hi)
  · exact fun i hi hslot =>
      halike.completed ▸ h.slotted i (halike.awaits i ▸ hi) (halike.slot ▸ hslot)
  · exact fun i hi => by rw [hbegan, halike.completed]; exact h.calling i (halike.calling i hi)

theorem Waiters.goTo (h : w.Waiters) {phase old : CallerPhase O} (hphase : w.phase i = old)
    (hawaits : phase.awaits = old.awaits) (hserves : phase.serves = old.serves)
    (hcalling : phase ≠ .calling) (hasleep : phase = .sleeping → w.slot i = none) :
    (w.goTo i phase).Waiters := by
  apply h.alike
  have hasleep' := h.asleep
  constructor <;> simp only [ActivationWorld.goTo] <;> grind

theorem Waiters.finish (h : w.Waiters) : (w.finish i result).Waiters :=
  h.alike ⟨rfl, rfl, rfl, rfl, fun _ => rfl, fun _ => rfl, fun _ h => h, h.asleep⟩

theorem Waiters.stays (h : w.Waiters) (hopes : w.Hopes k)
    (hqueue : ∀ p, w.queue.pending = some p → p.completion ≠ k)
    {phases : Nat → CallerPhase O} (hserves : ∀ j p, (w.phase j).serves = some p →
      p.completion = k → (phases j).serves = some p) :
    ∃ j p, (phases j).serves = some p ∧ p.completion = k := by
  rcases h.inHand k hopes with ⟨p, hp, heq⟩ | ⟨j, p, hp, heq⟩
  · exact absurd heq (hqueue p hp)
  · exact ⟨j, p, hserves j p hp heq, heq⟩

theorem Waiters.enqueue (h : w.Waiters) (hphase : w.phase i = .calling) :
    ((w.enqueue ⟨selector, i⟩).goTo i .waiting).Waiters := by
  obtain ⟨hpending, hserved, hinHand, hasleep, hunslotted, hslotted, hcalling⟩ := id h
  constructor
  case inHand =>
    intro k hk
    by_cases hi : k = i
    · exact .inl ⟨⟨selector, i⟩, rfl, hi.symm⟩
    obtain ⟨hawaits, hslot, huncompleted⟩ := hk
    cases hqueue : w.queue.pending <;>
      simp only [ActivationWorld.goTo, ActivationWorld.enqueue, supersede, complete, hqueue]
        at hawaits hslot huncompleted ⊢ <;>
      refine .inr (h.stays ⟨?_, ?_, ?_⟩ ?_ ?_) <;> grind
  all_goals
    cases hqueue : w.queue.pending <;>
      simp only [ActivationWorld.goTo, ActivationWorld.enqueue, supersede, complete, hqueue] <;>
        grind

theorem Waiters.elect (h : w.Waiters) (hphase : w.phase i = .calling) :
    ((w.elect ⟨selector, i⟩).begin i ⟨selector, i⟩ .activating).Waiters := by
  obtain ⟨hpending, hserved, hinHand, hasleep, hunslotted, hslotted, hcalling⟩ := id h
  constructor
  case inHand =>
    intro k ⟨hawaits, hslot, huncompleted⟩
    simp only [begin, ActivationWorld.goTo, ActivationWorld.elect] at *
    rcases hinHand k (by constructor <;> grind) with hqueued | ⟨j, p, hp, heq⟩
    · exact .inl hqueued
    · exact .inr ⟨j, p, by grind, heq⟩
  all_goals simp only [begin, ActivationWorld.goTo, ActivationWorld.elect]
  all_goals grind

theorem Waiters.take (h : w.Waiters) (hworkers : w.Workers) (hphase : w.phase i = .draining first)
    (hqueue : w.queue.pending = some next) :
    ({ w with queue := { w.queue with pending := none } }.begin i next
      (.serving first next)).Waiters := by
  obtain ⟨hpending, hserved, hinHand, hasleep, hunslotted, hslotted, hcalling⟩ := id h
  have halone := hworkers.alone
  constructor
  case inHand =>
    intro k ⟨hawaits, hslot, huncompleted⟩
    simp only [begin, ActivationWorld.goTo] at *
    by_cases hk : next.completion = k
    · exact .inr ⟨i, next, by grind, hk⟩
    · refine .inr (h.stays ⟨?_, ?_, ?_⟩ ?_ ?_) <;> grind
  all_goals simp only [begin, ActivationWorld.goTo]
  all_goals grind

theorem Waiters.complete (h : w.Waiters) (hworkers : w.Workers)
    (hphase : w.phase i = .completing first next result) :
    ((w.complete next.completion result).goTo i (.draining first)).Waiters := by
  obtain ⟨hpending, hserved, hinHand, hasleep, hunslotted, hslotted, hcalling⟩ := id h
  have halone := hworkers.alone
  constructor
  case inHand =>
    intro k ⟨hawaits, hslot, huncompleted⟩
    simp only [ActivationWorld.goTo, ActivationWorld.complete] at *
    rcases hinHand k (by constructor <;> grind) with hqueued | ⟨j, p, hp, heq⟩
    · exact .inl hqueued
    · exact .inr ⟨j, p, by grind, heq⟩
  all_goals simp only [ActivationWorld.goTo, ActivationWorld.complete]
  all_goals grind

theorem Waiters.receive (h : w.Waiters) (hphase : w.phase i = .waiting)
    (hslot : w.slot i = some result) :
    ({ w with slot := Function.update w.slot i none }.goTo i (.returned result)).Waiters := by
  obtain ⟨hpending, hserved, hinHand, hasleep, hunslotted, hslotted, hcalling⟩ := id h
  constructor
  case inHand =>
    intro k ⟨hawaits, hslot, huncompleted⟩
    simp only [ActivationWorld.goTo] at *
    rcases hinHand k (by constructor <;> grind) with hqueued | ⟨j, p, hp, heq⟩
    · exact .inl hqueued
    · exact .inr ⟨j, p, by grind, heq⟩
  all_goals simp only [ActivationWorld.goTo]
  all_goals grind

theorem Waiters.step (h : w.Waiters) (hworkers : w.Workers)
    (hstep : ActivationStep selectors turn w w') : w'.Waiters := by
  cases hstep with
  | arrive => exact h.alike ⟨rfl, rfl, rfl, rfl, fun _ => rfl, fun _ => rfl, fun _ h => h, h.asleep⟩
  | enqueue _ hphase _ => exact h.enqueue hphase
  | elect _ hphase _ => exact h.elect hphase
  | take hphase hpending => exact h.take hworkers hphase hpending
  | @settle _ i _ hphase =>
    have hsettled : ({ w with queue := { w.queue with running := false } }).Waiters := h.alike
      ⟨rfl, rfl, rfl, rfl, fun _ => rfl, fun _ => rfl, fun _ h => h, h.asleep⟩
    exact hsettled.goTo hphase rfl rfl nofun nofun
  | complete hphase => exact h.complete hworkers hphase
  | receive hphase hslot => exact h.receive hphase hslot
  | activated hphase | served hphase =>
    exact h.finish.goTo hphase rfl rfl nofun nofun
  | sleep hphase hslot => exact h.goTo hphase rfl rfl nofun fun _ => hslot
  | wake hphase => exact h.goTo hphase rfl rfl nofun nofun

/-- What a caller is to be told: what its activation gave, or that there was none. -/
@[grind] def Due (w : ActivationWorld O) (i : Nat) (result : ActivationResult O) : Prop :=
  (w.Began i ∧ w.ended i = some result) ∨ (¬w.Began i ∧ result = .error superseded)

structure Results (w : ActivationWorld O) : Prop where
  activating : ∀ i, w.phase i = .activating → w.Began i ∧ w.ended i = none
  first : ∀ i r, (w.phase i).first = some r → w.Began i ∧ w.ended i = some r
  serving : ∀ j first next, w.phase j = .serving first next → w.ended next.completion = none
  completing : ∀ j first next r, w.phase j = .completing first next r →
    w.ended next.completion = some r
  due : ∀ i r, w.slot i = some r ∨ w.phase i = .returned r → w.Due i r
  unbegun : ∀ i, ¬w.Began i → w.ended i = none
  begunOnce : (w.began.map (·.completion)).Nodup
  completedOnce : w.completed.Nodup

theorem Results.congr (h : w.Results) (hbegan : w'.began = w.began) (hended : w'.ended = w.ended)
    (hactivates : ∀ i, (w'.phase i).atWork = true → w'.phase i = w.phase i ∨
      ∃ first, w'.phase i = .draining first ∧ (w.phase i).first = some first)
    (hdue : ∀ i r, w'.slot i = some r ∨ w'.phase i = .returned r → w.Due i r)
    (hcompleted : w'.completed.Nodup) : w'.Results := by
  obtain ⟨hactivating, hfirst, hserving, hcompleting, -, hunbegun, hbegun, -⟩ := h
  constructor
  · intro i hi
    rw [Began, hbegan, hended]
    rcases hactivates i (by rw [hi]; rfl) with hsame | ⟨first, hdrain, -⟩
    · exact hactivating i (hsame ▸ hi)
    · cases hi.symm.trans hdrain
  · intro i r hr
    rw [Began, hbegan, hended]
    rcases hactivates i (CallerPhase.atWork_of_first hr) with hsame | ⟨first, hdrain, hfirst'⟩
    · exact hfirst i r (hsame ▸ hr)
    · rw [hdrain] at hr
      cases hr
      exact hfirst i r hfirst'
  · intro j first next hj
    rw [hended]
    rcases hactivates j (by rw [hj]; rfl) with hsame | ⟨_, hdrain, -⟩
    · exact hserving j first next (hsame ▸ hj)
    · cases hj.symm.trans hdrain
  · intro j first next r hj
    rw [hended]
    rcases hactivates j (by rw [hj]; rfl) with hsame | ⟨_, hdrain, -⟩
    · exact hcompleting j first next r (hsame ▸ hj)
    · cases hj.symm.trans hdrain
  · intro i r hr
    rw [Due, Began, hbegan, hended]
    exact hdue i r hr
  · rw [hended]
    exact fun i hi => hunbegun i (by rwa [Began, hbegan] at hi)
  · rwa [hbegan]
  · exact hcompleted

theorem Results.enqueue (h : w.Results) (hwaiters : w.Waiters) :
    ((w.enqueue next).goTo i .waiting).Results := by
  have hdue := h.due
  have hcompleted := h.completedOnce
  have hpending := hwaiters.pending
  have hunslotted := hwaiters.unslotted
  cases hqueue : w.queue.pending
  all_goals
    apply h.congr
    all_goals simp only [ActivationWorld.goTo, ActivationWorld.enqueue, supersede, complete, hqueue]
    all_goals grind

theorem Results.complete (h : w.Results) (hwaiters : w.Waiters)
    (hphase : w.phase i = .completing first next result) :
    ((w.complete next.completion result).goTo i (.draining first)).Results := by
  have hdue := h.due
  have hcompleted := h.completedOnce
  have hcompleting := h.completing
  have hserved := hwaiters.served
  apply h.congr
  all_goals simp only [ActivationWorld.goTo, ActivationWorld.complete]
  all_goals grind

theorem Results.elect (h : w.Results) (hwaiters : w.Waiters) (hphase : w.phase i = .calling) :
    ((w.elect ⟨selector, i⟩).begin i ⟨selector, i⟩ .activating).Results := by
  obtain ⟨hactivating, hfirst, hserving, hcompleting, hdue, hunbegun, hbegun, hcompleted⟩ := h
  have hcalling := hwaiters.calling
  have hunslotted := hwaiters.unslotted
  simp only [Began, Due] at *
  constructor
  all_goals simp only [ActivationWorld.goTo, begin, ActivationWorld.elect, Began, Due,
    List.map_cons]
  all_goals grind

theorem Results.take (h : w.Results) (hwaiters : w.Waiters) (hphase : w.phase i = .draining first)
    (hqueue : w.queue.pending = some next) :
    ({ w with queue := { w.queue with pending := none } }.begin i next
      (.serving first next)).Results := by
  obtain ⟨hactivating, hfirst, hserving, hcompleting, hdue, hunbegun, hbegun, hcompleted⟩ := h
  obtain ⟨⟨hawaits, hslot, -⟩, hfresh⟩ := hwaiters.pending next hqueue
  simp only [Began, Due] at *
  constructor
  all_goals simp only [ActivationWorld.goTo, begin, Began, Due, List.map_cons]
  all_goals grind

theorem Results.finish (h : w.Results) (hworkers : w.Workers) (hwaiters : w.Waiters)
    (hphase : w.phase i = .activating) :
    ((w.finish i result).goTo i (.draining result)).Results := by
  obtain ⟨hactivating, hfirst, hserving, hcompleting, hdue, hunbegun, hbegun, hcompleted⟩ := h
  have halone := hworkers.alone
  have hunslotted := hwaiters.unslotted i
  simp only [Due] at *
  constructor
  all_goals simp only [ActivationWorld.goTo, ActivationWorld.finish, Due]
  all_goals grind

theorem Results.served (h : w.Results) (hworkers : w.Workers) (hwaiters : w.Waiters)
    (hphase : w.phase i = .serving first next) :
    ((w.finish next.completion result).goTo i (.completing first next result)).Results := by
  obtain ⟨hactivating, hfirst, hserving, hcompleting, hdue, hunbegun, hbegun, hcompleted⟩ := h
  have halone := hworkers.alone
  obtain ⟨⟨hawaits, hslot, -⟩, hbegan⟩ := hwaiters.served i next (by rw [hphase]; rfl)
  simp only [Due] at *
  constructor
  all_goals simp only [ActivationWorld.goTo, ActivationWorld.finish, Due]
  all_goals grind

theorem Results.step (h : w.Results) (hworkers : w.Workers) (hwaiters : w.Waiters)
    (hstep : ActivationStep selectors turn w w') : w'.Results := by
  have hdue := h.due
  have hfirst := h.first
  have hunbegun := h.unbegun
  cases hstep with
  | arrive => exact h.congr rfl rfl (fun _ _ => .inl rfl) h.due h.completedOnce
  | enqueue => exact h.enqueue hwaiters
  | elect _ hphase _ => exact h.elect hwaiters hphase
  | activated hphase => exact h.finish hworkers hwaiters hphase
  | take hphase hpending => exact h.take hwaiters hphase hpending
  | served hphase => exact h.served hworkers hwaiters hphase
  | complete hphase => exact h.complete hwaiters hphase
  | settle hphase | sleep hphase | receive hphase | wake hphase =>
    refine h.congr rfl rfl ?_ ?_ h.completedOnce <;> simp only [ActivationWorld.goTo] <;> grind

def Newest (w : ActivationWorld O) : Prop :=
  match w.queue.pending with
  | none => w.began.head? = w.entered.head?
  | some next => w.entered.head? = some next

theorem Newest.step (h : w.Newest) (hworkers : w.Workers)
    (hstep : ActivationStep selectors turn w w') : w'.Newest := by
  cases hstep with
  | enqueue => exact rfl
  | elect _ _ hrunning =>
    cases hpending : w.queue.pending with
    | none => simp [Newest, elect, begin, goTo, hpending]
    | some next => cases hrunning.symm.trans (hworkers.queued next hpending)
  | take _ hpending =>
    rw [Newest, hpending] at h
    exact h.symm
  | arrive | activated | settle | served | complete | sleep | receive | wake => exact h

structure Orderly (w : ActivationWorld O) : Prop where
  workers : w.Workers
  waiters : w.Waiters
  results : w.Results
  newest : w.Newest
  arrived : ∀ i, w.phase i ≠ .calling → i < w.arrived

theorem arrived_step (h : ∀ i, w.phase i ≠ .calling → i < w.arrived)
    (hstep : ActivationStep selectors turn w w') : ∀ i, w'.phase i ≠ .calling → i < w'.arrived := by
  cases hstep with
  | arrive => exact fun i hi => Nat.lt_succ_of_lt (h i hi)
  | enqueue hi =>
    intro j
    have hj := h j
    cases hqueue : w.queue.pending <;>
      simp only [goTo, enqueue, supersede, complete, hqueue] <;> grind
  | elect hi | activated | take | settle | served | complete | sleep | receive | wake =>
    intro j
    have hj := h j
    simp only [goTo, begin, elect, finish, complete]
    grind

theorem orderly_initial : Orderly (initial : ActivationWorld O) where
  workers := by constructor <;> simp [initial, CallerPhase.atWork]
  waiters := by
    constructor
    case inHand => exact fun i h => absurd h.awaits (by simp [initial, CallerPhase.awaits])
    all_goals simp [initial, CallerPhase.serves, CallerPhase.awaits, Began]
  results := by constructor <;> simp [initial, CallerPhase.first]
  newest := rfl
  arrived := fun _ h => absurd rfl h

theorem Orderly.step (h : w.Orderly) (hstep : ActivationStep selectors turn w w') : w'.Orderly where
  workers := h.workers.step hstep
  waiters := h.waiters.step h.workers hstep
  results := h.results.step h.workers h.waiters hstep
  newest := h.newest.step h.workers hstep
  arrived := arrived_step h.arrived hstep

theorem Orderly.run (h : w.Orderly) (hrun : ActivationRuns selectors w a s n w') : w'.Orderly := by
  induction hrun with
  | refl => exact h
  | arrival _ hstep ih | spurious _ hstep ih | own _ hstep ih => exact ih.step hstep

theorem Orderly.progress (h : w.Orderly) (hi : i < w.arrived)
    (hwaits : ∀ result, w.phase i ≠ .returned result) :
    ∃ w', ActivationStep selectors .own w w' := by
  have hwork : ∀ j, (w.phase j).atWork = true → ∃ w', ActivationStep selectors .own w w' := by
    intro j hj
    cases hphase : w.phase j with
    | activating => exact ⟨_, .activated hphase (.error superseded)⟩
    | draining first =>
      cases hpending : w.queue.pending with
      | none => exact ⟨_, .settle hphase hpending⟩
      | some next => exact ⟨_, .take hphase hpending⟩
    | serving first next => exact ⟨_, .served hphase (.error superseded)⟩
    | completing first next result => exact ⟨_, .complete hphase⟩
    | calling | waiting | sleeping | returned => simp [hphase, CallerPhase.atWork] at hj
  cases hphase : w.phase i with
  | calling =>
    cases hrunning : w.queue.running with
    | true => exact ⟨_, .enqueue hi hphase hrunning⟩
    | false => exact ⟨_, .elect hi hphase hrunning⟩
  | waiting =>
    cases hslot : w.slot i with
    | none => exact ⟨_, .sleep hphase hslot⟩
    | some result => exact ⟨_, .receive hphase hslot⟩
  | sleeping =>
    -- nobody sleeps through their result, so there is somebody at work
    have hawaits : (w.phase i).awaits = true := by rw [hphase]; rfl
    have hslot := h.waiters.asleep i hphase
    rcases h.waiters.inHand i ⟨hawaits, hslot, h.waiters.slotted i hawaits hslot⟩ with
      ⟨p, hp, -⟩ | ⟨j, p, hp, -⟩
    · obtain ⟨j, hj⟩ := h.workers.worker (h.workers.queued p hp)
      exact hwork j hj
    · exact hwork j (CallerPhase.atWork_of_serves hp)
  | returned result => exact absurd hphase (hwaits result)
  | activating | draining | serving | completing => exact hwork i (by rw [hphase]; rfl)

end ActivationWorld

end Ratash

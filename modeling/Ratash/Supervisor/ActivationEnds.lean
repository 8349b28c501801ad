import Ratash.Supervisor.ActivationOrder

/-! Each caller brings a budget of steps with it, and what the callers do uses it up. -/

namespace Ratash

def CallerPhase.weight {O : Type} : CallerPhase O → Nat
  | .calling => 6
  | .waiting => 1
  | .sleeping => 0
  | .activating => 2
  | .draining _ => 1
  | .serving _ _ => 4
  | .completing _ _ _ => 3
  | .returned _ => 0

namespace ActivationWorld

variable {O : Type} {w w' : ActivationWorld O} {selectors : Nat → String}

def load (w : ActivationWorld O) : Nat := ∑ i ∈ Finset.range w.arrived, (w.phase i).weight

def queueLoad (w : ActivationWorld O) : Nat := if w.queue.pending.isSome then 4 else 0

/-- The number of steps that the callers can take before all have returned. -/
def budget (w : ActivationWorld O) : Nat := w.load + w.queueLoad

theorem load_goTo (hi : i < w.arrived) (phase : CallerPhase O) :
    (w.goTo i phase).load + (w.phase i).weight = w.load + phase.weight := by
  have hmem : i ∈ Finset.range w.arrived := Finset.mem_range.2 hi
  have hrest : ∑ j ∈ (Finset.range w.arrived).erase i, ((w.goTo i phase).phase j).weight =
      ∑ j ∈ (Finset.range w.arrived).erase i, (w.phase j).weight := by
    apply Finset.sum_congr rfl
    intro j hj
    exact congrArg CallerPhase.weight (Function.update_of_ne (Finset.ne_of_mem_erase hj) _ _)
  have hnew : (w.goTo i phase).load = ((w.goTo i phase).phase i).weight +
      ∑ j ∈ (Finset.range w.arrived).erase i, ((w.goTo i phase).phase j).weight :=
    (Finset.add_sum_erase _ _ hmem).symm
  have hold : w.load = (w.phase i).weight +
      ∑ j ∈ (Finset.range w.arrived).erase i, (w.phase j).weight :=
    (Finset.add_sum_erase _ _ hmem).symm
  have hself : ((w.goTo i phase).phase i).weight = phase.weight :=
    congrArg CallerPhase.weight (Function.update_self _ _ _)
  omega

theorem load_complete_goTo (hi : i < w.arrived) (hc : c < w.arrived) (hne : i ≠ c)
    (result : ActivationResult O) (phase : CallerPhase O) :
    ((w.complete c result).goTo i phase).load + (w.phase i).weight ≤ w.load + phase.weight + 1 := by
  have hwoken : (w.complete c result).load + (w.phase c).weight =
      w.load + (w.phase c).notified.weight := load_goTo hc _
  have hweight : (w.phase c).notified.weight ≤ (w.phase c).weight + 1 := by
    cases w.phase c <;> simp [CallerPhase.notified, CallerPhase.weight]
  have hsame : (w.complete c result).phase i = w.phase i := Function.update_of_ne hne _ _
  have hgo := load_goTo (w := w.complete c result) hi phase
  rw [hsame] at hgo
  omega

theorem Orderly.arrived_of_eq (h : w.Orderly) {phase : CallerPhase O} (hphase : w.phase i = phase)
    (hcalling : phase ≠ .calling) : i < w.arrived :=
  h.arrived i (hphase ▸ hcalling)

theorem budget_goTo (hi : i < w.arrived) {phase old : CallerPhase O} (hphase : w.phase i = old)
    (hless : phase.weight < old.weight) (hload : w'.load = (w.goTo i phase).load)
    (hqueue : w'.queueLoad = w.queueLoad) : w'.budget + 1 ≤ w.budget := by
  have hgo := load_goTo hi phase
  rw [hphase] at hgo
  unfold budget
  omega

theorem Orderly.hopes_apart (h : w.Orderly) (hopes : w.Hopes c) (hi : (w.phase i).awaits = false) :
    c < w.arrived ∧ i ≠ c := by
  constructor
  · apply h.arrived c
    intro hcalling
    have hawaits := hopes.awaits
    rw [hcalling] at hawaits
    cases hawaits
  · intro heq
    cases hi.symm.trans (heq ▸ hopes.awaits)

theorem Orderly.budget_enqueue (h : w.Orderly) (hi : i < w.arrived)
    (hphase : w.phase i = .calling) :
    ((w.enqueue ⟨selector, i⟩).goTo i .waiting).budget + 1 ≤ w.budget := by
  have hnew : ((w.enqueue ⟨selector, i⟩).goTo i .waiting).queueLoad = 4 := rfl
  cases hqueue : w.queue.pending with
  | none =>
    have hgo := load_goTo hi .waiting
    have hload : ((w.enqueue ⟨selector, i⟩).goTo i .waiting).load = (w.goTo i .waiting).load := by
      simp only [enqueue, hqueue]
      rfl
    have hold : w.queueLoad = 0 := by simp [queueLoad, hqueue]
    simp only [hphase, CallerPhase.weight] at hgo
    unfold budget
    omega
  | some old =>
    have hold : w.queueLoad = 4 := by simp [queueLoad, hqueue]
    obtain ⟨hc, hne⟩ :=
      h.hopes_apart (i := i) (h.waiters.pending old hqueue).1 (by rw [hphase]; rfl)
    have hgo := load_complete_goTo hi hc hne (.error superseded) .waiting
    have hload : ((w.enqueue ⟨selector, i⟩).goTo i .waiting).load =
        ((w.complete old.completion (.error superseded)).goTo i .waiting).load := by
      simp only [enqueue, hqueue]
      rfl
    simp only [hphase, CallerPhase.weight] at hgo
    unfold budget
    omega

theorem Orderly.budget_complete (h : w.Orderly) {first : ActivationResult O}
    (hphase : w.phase i = .completing first next result) :
    ((w.complete next.completion result).goTo i (.draining first)).budget + 1 ≤ w.budget := by
  have hopes := (h.waiters.served i next (by rw [hphase]; rfl)).1
  obtain ⟨hc, hne⟩ := h.hopes_apart (i := i) hopes (by rw [hphase]; rfl)
  have hgo := load_complete_goTo (h.arrived_of_eq hphase nofun) hc hne result (.draining first)
  have hqueue : ((w.complete next.completion result).goTo i (.draining first)).queueLoad =
      w.queueLoad := rfl
  simp only [hphase, CallerPhase.weight] at hgo
  unfold budget
  omega

theorem Orderly.budget_own (h : w.Orderly) (hstep : ActivationStep selectors .own w w') :
    w'.budget + 1 ≤ w.budget := by
  cases hstep with
  | enqueue hi hphase _ => exact h.budget_enqueue hi hphase
  | elect hi hphase => exact budget_goTo hi hphase (by simp [CallerPhase.weight]) rfl rfl
  | activated hphase | served hphase | settle hphase | sleep hphase | receive hphase =>
    exact budget_goTo (h.arrived_of_eq hphase nofun) hphase (by simp [CallerPhase.weight]) rfl rfl
  | @take _ i first next hphase hpending =>
    have hgo := load_goTo (h.arrived_of_eq hphase nofun) (.serving first next)
    have hold : w.queueLoad = 4 := by simp [queueLoad, hpending]
    simp only [hphase, CallerPhase.weight] at hgo
    change (w.goTo i (.serving first next)).load + 0 + 1 ≤ w.load + w.queueLoad
    omega
  | complete hphase => exact h.budget_complete hphase

theorem Orderly.budget_spurious (h : w.Orderly) (hstep : ActivationStep selectors .spurious w w') :
    w'.budget ≤ w.budget + 1 := by
  cases hstep with
  | @wake _ i hphase =>
    have hgo := load_goTo (h.arrived_of_eq hphase nofun) .waiting
    have hqueue : (w.goTo i .waiting).queueLoad = w.queueLoad := rfl
    simp only [hphase, CallerPhase.weight] at hgo
    unfold budget
    omega

theorem Orderly.budget_arrival (h : w.Orderly) (hstep : ActivationStep selectors .arrival w w') :
    w'.budget = w.budget + 6 := by
  cases hstep with
  | arrive =>
    have hphase : w.phase w.arrived = .calling := by
      by_contra hne
      exact Nat.lt_irrefl _ (h.arrived _ hne)
    have hload : load { w with arrived := w.arrived + 1 } = w.load + 6 := by
      rw [load, Finset.sum_range_succ, hphase]
      rfl
    have hqueue : queueLoad { w with arrived := w.arrived + 1 } = w.queueLoad := rfl
    unfold budget
    omega

theorem Orderly.budget_run (h : w.Orderly) (hrun : ActivationRuns selectors w a s n w') :
    n + w'.budget ≤ w.budget + 6 * a + s := by
  induction hrun with
  | refl => omega
  | arrival hrun hstep ih =>
    have := (h.run hrun).budget_arrival hstep
    omega
  | spurious hrun hstep ih =>
    have := (h.run hrun).budget_spurious hstep
    omega
  | own hrun hstep ih =>
    have := (h.run hrun).budget_own hstep
    omega

theorem returned_step (hi : w.phase i = .returned result)
    (hstep : ActivationStep selectors turn w w') : w'.phase i = .returned result := by
  cases hstep with
  | arrive => exact hi
  | enqueue _ hphase =>
    cases hqueue : w.queue.pending <;>
      simp only [goTo, enqueue, supersede, complete, hqueue] <;> grind [CallerPhase.notified]
  | elect _ hphase | activated hphase | take hphase | settle hphase | served hphase
  | complete hphase
  | sleep hphase | receive hphase | wake hphase =>
    simp only [goTo, begin, elect, finish, complete]
    grind [CallerPhase.notified]

theorem returned_run (hi : w.phase i = .returned result)
    (hrun : ActivationRuns selectors w a s n w') : w'.phase i = .returned result := by
  induction hrun with
  | refl => exact hi
  | arrival _ hstep ih | spurious _ hstep ih | own _ hstep ih => exact returned_step ih hstep

structure AsAsked (selectors : Nat → String) (w : ActivationWorld O) : Prop where
  entered : ∀ p ∈ w.entered, p.selector = selectors p.completion
  pending : ∀ p, w.queue.pending = some p → p ∈ w.entered
  began : ∀ p ∈ w.began, p ∈ w.entered

theorem AsAsked.step (h : w.AsAsked selectors) (hstep : ActivationStep selectors turn w w') :
    w'.AsAsked selectors := by
  obtain ⟨hentered, hpending, hbegan⟩ := h
  cases hstep with
  | @enqueue _ i =>
    have hsame : (w.supersede w.queue.pending).began = w.began := by
      cases w.queue.pending <;> rfl
    constructor <;> simp only [goTo, enqueue, hsame] <;> grind
  | elect | take =>
    constructor <;> simp only [goTo, elect, begin] <;> grind
  | arrive | activated | settle | served | complete | sleep | receive | wake =>
    exact ⟨hentered, hpending, hbegan⟩

theorem AsAsked.run (h : w.AsAsked selectors) (hrun : ActivationRuns selectors w a s n w') :
    w'.AsAsked selectors := by
  induction hrun with
  | refl => exact h
  | arrival _ hstep ih | spurious _ hstep ih | own _ hstep ih => exact ih.step hstep

/-- Every caller is told once: what the activation of its own selector gave, which was carried out
once, or that there was none. -/
structure ToldOnce (selectors : Nat → String) (w : ActivationWorld O) : Prop where
  due : ∀ i result, w.phase i = .returned result → w.Due i result
  selector : ∀ p ∈ w.began, p.selector = selectors p.completion
  begun : (w.began.map (·.completion)).Nodup
  completed : w.completed.Nodup
  final : ∀ i result a s n w', w.phase i = .returned result →
    ActivationRuns selectors w a s n w' → w'.phase i = .returned result

/-- While somebody has not been told, there is something left to do, and there is only so much of
it: every caller adds at most six steps, and every wake-up for no reason one. -/
structure Ending (selectors : Nat → String) (w : ActivationWorld O) : Prop where
  progress : ∀ i < w.arrived, (∀ result, w.phase i ≠ .returned result) →
    ∃ w', ActivationStep selectors .own w w'
  bounded : ∀ a s n w', ActivationRuns selectors w a s n w' → n ≤ w.budget + 6 * a + s

end ActivationWorld

/-- The activation queue, for every interleaving of any number of callers. -/
theorem activation_queue_orderly {O : Type} (selectors : Nat → String) {w : ActivationWorld O}
    {a s n : Nat} (hrun : ActivationRuns selectors .initial a s n w) : w.ToldOnce selectors ∧
    (∀ i j, (w.phase i).atWork = true → (w.phase j).atWork = true → i = j) ∧ w.Ending selectors ∧
    (w.queue.running = false → w.began.head? = w.entered.head?) := by
  have horderly := ActivationWorld.orderly_initial.run hrun
  have hasked : (ActivationWorld.initial : ActivationWorld O).AsAsked selectors :=
    ⟨nofun, nofun, nofun⟩
  obtain ⟨hentered, -, hbegan⟩ := hasked.run hrun
  refine ⟨⟨?_, ?_, ?_, ?_, ?_⟩, horderly.workers.alone, ⟨?_, ?_⟩, ?_⟩
  · exact fun i result hi => horderly.results.due i result (.inr hi)
  · exact fun p hp => hentered p (hbegan p hp)
  · exact horderly.results.begunOnce
  · exact horderly.results.completedOnce
  · exact fun i result a s n w' hi hrun' => ActivationWorld.returned_run hi hrun'
  · exact fun i hi hwaits => horderly.progress hi hwaits
  · intro a' s' n' w' hrun'
    have := horderly.budget_run hrun'
    omega
  · intro hidle
    have hnewest := horderly.newest
    cases hpending : w.queue.pending with
    | none => rwa [ActivationWorld.Newest, hpending] at hnewest
    | some next => cases hidle.symm.trans (horderly.workers.queued next hpending)

theorem three_callers : ∃ w : ActivationWorld Unit,
    ActivationRuns (fun i => toString i) .initial 3 0 10 w ∧ w.queue.running = false ∧
      w.phase 1 = .returned (.error superseded) ∧ w.phase 2 = .returned (.ok ()) ∧
      w.began.head? = some ⟨"2", 2⟩ := by
  have harrivals : ActivationRuns (O := Unit) (fun i => toString i) .initial 3 0 0 _ :=
    .arrival (.arrival (.arrival .refl .arrive) .arrive) .arrive
  have helect := harrivals.own (.elect (i := 0) (by decide) rfl rfl)
  have hsecond := helect.own (.enqueue (i := 1) (by decide) rfl rfl)
  have hthird := hsecond.own (.enqueue (i := 2) (by decide) rfl rfl)
  have hown := hthird.own (.activated (i := 0) rfl (.ok ()))
  have htake := hown.own (.take (i := 0) rfl rfl)
  have hserved := htake.own (.served (i := 0) rfl (.ok ()))
  have hcomplete := hserved.own (.complete (i := 0) rfl)
  have hsettle := hcomplete.own (.settle (i := 0) rfl rfl)
  have hfirst := hsettle.own (.receive (i := 1) rfl rfl)
  exact ⟨_, hfirst.own (.receive (i := 2) rfl rfl), rfl, rfl, rfl, rfl⟩

theorem activation_queue_orderly_three : ∃ w : ActivationWorld Unit,
    w.phase 1 = .returned (.error superseded) ∧ w.ToldOnce (fun i => toString i) ∧
      w.began.head? = some ⟨"2", 2⟩ ∧ w.entered.head? = some ⟨"2", 2⟩ := by
  obtain ⟨w, hrun, hidle, hsecond, -, hlast⟩ := three_callers
  obtain ⟨htold, -, -, hnewest⟩ := activation_queue_orderly _ hrun
  exact ⟨w, hsecond, htold, hlast, (hnewest hidle).symm.trans hlast⟩

end Ratash

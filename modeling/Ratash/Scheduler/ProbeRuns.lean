import Ratash.Scheduler.Probe

namespace Ratash

open Std (ExtTreeMap ExtTreeSet)

variable {scheduler : ProbeScheduler}

namespace ProbeScheduler

/-- The three collections describe one partition of the active nodes, and everything in them is of
the current generation. -/
structure Consistent (scheduler : ProbeScheduler) : Prop where
  deadlines : ∀ due node, ⟨due, node⟩ ∈ scheduler.queue ↔
    scheduler.queuedDeadlines[node]? = some due
  placed : ∀ node, node ∈ scheduler.activeNodes ↔
    (∃ due, ⟨due, node⟩ ∈ scheduler.queue) ∨ node ∈ scheduler.inFlight
  apart : ∀ due node, ⟨due, node⟩ ∈ scheduler.queue → node ∉ scheduler.inFlight
  probed : ∀ (node : NodeRecordId) slot, scheduler.inFlight[node]? = some slot →
    scheduler.generation = some slot.generation
  sampled : ∀ (node : NodeRecordId) sample, scheduler.samples[node]? = some sample →
    node ∈ scheduler.activeNodes ∧ scheduler.generation = some sample.generation
  workers : scheduler.inFlight.size ≤ probeWorkerCount
  last : ∀ generation, scheduler.generation = some generation →
    scheduler.lastGeneration = some generation

theorem consistent_new : new.Consistent := by
  constructor <;> simp [new]

theorem size_collectActive (hsize : active.size ≤ maxActiveNodes)
    (h : collectActive nodes active = .ok result) : result.size ≤ maxActiveNodes := by
  induction nodes generalizing active with
  | nil =>
    cases h
    exact hsize
  | cons node nodes ih =>
    simp only [collectActive] at h
    split at h
    · cases h
    · exact ih (by omega) h

theorem foldl_enqueue (nodes : List NodeRecordId) (now : UInt64) (scheduler : ProbeScheduler) :
    ∃ queue queuedDeadlines,
      nodes.foldl (enqueue now) scheduler = { scheduler with queue, queuedDeadlines } ∧
      (∀ due node, ⟨due, node⟩ ∈ queue ↔ due = now ∧ node ∈ nodes ∨ ⟨due, node⟩ ∈ scheduler.queue) ∧
      ∀ node : NodeRecordId, queuedDeadlines[node]? =
        if node ∈ nodes then some now else scheduler.queuedDeadlines[node]? := by
  induction nodes generalizing scheduler with
  | nil => exact ⟨scheduler.queue, scheduler.queuedDeadlines, rfl, by simp, by simp⟩
  | cons first nodes ih =>
    obtain ⟨queue, queuedDeadlines, hfold, hqueue, hdeadlines⟩ := ih (enqueue now scheduler first)
    refine ⟨queue, queuedDeadlines, hfold, ?_, ?_⟩
    · intro due node
      rw [hqueue, enqueue, ExtTreeSet.mem_insert, Std.compare_eq_iff_eq, DueProbe.mk.injEq,
        List.mem_cons]
      constructor
      · rintro (⟨hdue, hmem⟩ | ⟨hdue, hnode⟩ | hold)
        · exact .inl ⟨hdue, .inr hmem⟩
        · exact .inl ⟨hdue.symm, .inl hnode.symm⟩
        · exact .inr hold
      · rintro (⟨hdue, hnode | hmem⟩ | hold)
        · exact .inr (.inl ⟨hdue.symm, hnode.symm⟩)
        · exact .inl ⟨hdue, hmem⟩
        · exact .inr (.inr hold)
    · intro node
      simp only [hdeadlines, enqueue, ExtTreeMap.getElem?_insert, Std.compare_eq_iff_eq]
      by_cases hmem : node ∈ nodes
      · rw [if_pos hmem, if_pos (List.mem_cons_of_mem _ hmem)]
      · by_cases hfirst : first = node
        · rw [if_neg hmem, if_pos hfirst, if_pos (hfirst ▸ List.mem_cons_self)]
        · rw [if_neg hmem, if_neg hfirst, if_neg]
          intro h
          rcases List.mem_cons.1 h with h | h
          · exact hfirst h.symm
          · exact hmem h

inductive Resets (generation : ProbeGeneration) (now : UInt64) (scheduler : ProbeScheduler) :
    Except ProbeResetError Unit × ProbeScheduler → Prop
  | refused (error : ProbeResetError) : Resets generation now scheduler (.error error, scheduler)
  | started (activeNodes : ExtTreeSet NodeRecordId) (queue : ExtTreeSet DueProbe)
      (queuedDeadlines : ExtTreeMap NodeRecordId UInt64)
      (later : ∀ last, scheduler.lastGeneration = some last → last < generation)
      (size : activeNodes.size ≤ maxActiveNodes)
      (queued : ∀ due node, DueProbe.mk due node ∈ queue ↔ due = now ∧ node ∈ activeNodes)
      (deadlines : ∀ node : NodeRecordId, queuedDeadlines[node]? =
        if node ∈ activeNodes then some now else none) :
      Resets generation now scheduler (.ok (), { scheduler with
        generation := some generation
        lastGeneration := some generation
        activeNodes, queue, queuedDeadlines
        inFlight := ∅
        samples := ∅ })

theorem reset_resets (generation : ProbeGeneration) (nodes : List NodeRecordId) (now : UInt64)
    (scheduler : ProbeScheduler) :
    Resets generation now scheduler (scheduler.reset generation nodes now) := by
  unfold reset
  split
  · exact .refused _
  · rename_i hlast
    cases hcollect : collectActive nodes ∅ with
    | error error => exact .refused error
    | ok activeNodes =>
      obtain ⟨queue, queuedDeadlines, hfold, hqueue, hdeadlines⟩ :=
        foldl_enqueue activeNodes.toList now { scheduler with
          generation := some generation
          lastGeneration := some generation
          activeNodes
          queue := ∅
          queuedDeadlines := ∅
          inFlight := ∅
          samples := ∅ }
      dsimp only
      rw [hfold]
      refine .started activeNodes queue queuedDeadlines ?_ ?_ ?_ ?_
      · intro last hsome
        rw [hsome, Option.any_some, decide_eq_true_eq] at hlast
        exact UInt64.not_le.1 hlast
      · exact size_collectActive (by simp) hcollect
      · intro due node
        simp [hqueue, ExtTreeSet.mem_toList]
      · intro node
        simp [hdeadlines, ExtTreeSet.mem_toList]

theorem Consistent.reset (h : scheduler.Consistent)
    {next : ProbeGeneration} (hresets : Resets next now scheduler outcome) :
    outcome.2.Consistent := by
  cases hresets with
  | refused _ => exact h
  | started activeNodes queue queuedDeadlines _ _ hqueue hdeadlines =>
    constructor
    case deadlines =>
      intro due node
      rw [hqueue, hdeadlines]
      by_cases hnode : node ∈ activeNodes
      · simp [hnode, eq_comm]
      · simp [hnode]
    case placed =>
      intro node
      simp [hqueue]
    all_goals simp [probeWorkerCount]

theorem Consistent.deactivate : scheduler.deactivate.Consistent := by
  constructor <;> simp [ProbeScheduler.deactivate]

theorem nextDue_mem (h : scheduler.nextDue now = some entry) : entry ∈ scheduler.queue := by
  unfold nextDue at h
  exact ExtTreeSet.min?_mem (Option.filter_eq_some_iff.1 h).1

theorem Consistent.mem_erase_iff (h : scheduler.Consistent) (hentry : entry ∈ scheduler.queue) :
    ⟨due, node⟩ ∈ scheduler.queue.erase entry ↔
      entry.nodeId ≠ node ∧ ⟨due, node⟩ ∈ scheduler.queue := by
  rw [ExtTreeSet.mem_erase, ne_eq, Std.compare_eq_iff_eq]
  have hown := (h.deadlines entry.dueAtUnixMs entry.nodeId).1 hentry
  constructor
  · rintro ⟨hne, hmem⟩
    refine ⟨?_, hmem⟩
    intro hnode
    rw [hnode, (h.deadlines due node).1 hmem] at hown
    apply hne
    cases hown
    cases hnode
    rfl
  · rintro ⟨hne, hmem⟩
    exact ⟨fun heq => hne (congrArg DueProbe.nodeId heq), hmem⟩

theorem Consistent.dispatch (h : scheduler.Consistent)
    {current : ProbeGeneration} (hgeneration : scheduler.generation = some current)
    (hentry : entry ∈ scheduler.queue) (hfree : scheduler.inFlight.size < probeWorkerCount) :
    (scheduler.dispatch current entry).2.Consistent := by
  have hmem : ∀ node : NodeRecordId, node ∈ (scheduler.dispatch current entry).2.inFlight ↔
      entry.nodeId = node ∨ node ∈ scheduler.inFlight := by
    intro node
    rw [ProbeScheduler.dispatch, ExtTreeMap.mem_insert, Std.compare_eq_iff_eq]
  constructor
  case deadlines =>
    intro due node
    simp only [ProbeScheduler.dispatch, ExtTreeMap.getElem?_erase, Std.compare_eq_iff_eq]
    rw [h.mem_erase_iff hentry, h.deadlines]
    by_cases hnode : entry.nodeId = node
    · simp [hnode]
    · simp [hnode]
  case placed =>
    intro node
    rw [hmem]
    change node ∈ scheduler.activeNodes ↔ (∃ due, _ ∈ scheduler.queue.erase entry) ∨ _
    simp only [h.mem_erase_iff hentry, h.placed]
    by_cases hnode : entry.nodeId = node
    · simp only [hnode, true_or, or_true, iff_true]
      exact .inl ⟨entry.dueAtUnixMs, hnode ▸ hentry⟩
    · simp [hnode]
  case apart =>
    intro due node hqueued
    obtain ⟨hne, hold⟩ := (h.mem_erase_iff hentry).1 hqueued
    rw [hmem]
    rintro (heq | hprobed)
    · exact hne heq
    · exact h.apart due node hold hprobed
  case probed =>
    intro node slot hslot
    simp only [ProbeScheduler.dispatch, ExtTreeMap.getElem?_insert] at hslot
    split at hslot
    · cases hslot
      exact hgeneration
    · exact h.probed node slot hslot
  case sampled => exact h.sampled
  case workers =>
    have hsize := ExtTreeMap.size_insert_le (t := scheduler.inFlight) (k := entry.nodeId)
      (v := (⟨scheduler.nextAttemptId, current⟩ : InFlightProbe))
    change (scheduler.inFlight.insert _ _).size ≤ probeWorkerCount
    omega
  case last => exact h.last

def Awaits (scheduler : ProbeScheduler) (task : ProbeTask) : Prop :=
  scheduler.generation = some task.generation ∧
    scheduler.inFlight[task.nodeId]? = some ⟨task.attemptId, task.generation⟩

def taken (completion : ProbeCompletion) (scheduler : ProbeScheduler) : ProbeScheduler :=
  enqueue (saturatingAdd64 completion.completedAtUnixMs probeIntervalMs)
    { scheduler with
      inFlight := scheduler.inFlight.erase completion.task.nodeId
      samples := scheduler.samples.insert completion.task.nodeId
        ⟨completion.outcome, completion.completedAtUnixMs, completion.task.generation⟩ }
    completion.task.nodeId

variable {completion : ProbeCompletion}

theorem complete_of_not_awaits (h : ¬scheduler.Awaits completion.task) :
    ∃ status, (∀ next, status ≠ .rescheduled next) ∧
      scheduler.complete completion = some (status, scheduler) := by
  unfold complete
  by_cases hgeneration : scheduler.generation = some completion.task.generation
  · refine ⟨.unknownTask, by simp, ?_⟩
    dsimp only
    rw [if_neg (not_not.2 hgeneration)]
    cases hslot : scheduler.inFlight[completion.task.nodeId]? with
    | none => rfl
    | some slot =>
      dsimp only
      rw [if_pos]
      by_contra hsame
      obtain ⟨hattempt, hof⟩ := not_or.1 hsame
      apply h ⟨hgeneration, _⟩
      rw [hslot, ← not_not.1 hattempt, ← not_not.1 hof]
  · exact ⟨.lateGeneration, by simp, if_pos hgeneration⟩

theorem Consistent.complete_of_awaits (h : scheduler.Consistent)
    (hawaits : scheduler.Awaits completion.task) : scheduler.complete completion =
      some (.rescheduled (saturatingAdd64 completion.completedAtUnixMs probeIntervalMs),
        scheduler.taken completion) := by
  obtain ⟨hgeneration, hslot⟩ := hawaits
  have hprobed : completion.task.nodeId ∈ scheduler.inFlight := by
    rw [ExtTreeMap.mem_iff_isSome_getElem?, hslot]
    rfl
  have hdeadline : scheduler.queuedDeadlines.contains completion.task.nodeId = false := by
    rw [← Bool.not_eq_true, ExtTreeMap.contains_iff_mem, ExtTreeMap.mem_iff_isSome_getElem?,
      Option.isSome_iff_exists]
    rintro ⟨due, hdue⟩
    exact h.apart _ _ ((h.deadlines due _).2 hdue) hprobed
  simp [complete, schedule, taken, hgeneration, hslot, hdeadline]

theorem Consistent.taken (h : scheduler.Consistent) (hawaits : scheduler.Awaits completion.task) :
    (scheduler.taken completion).Consistent := by
  obtain ⟨hgeneration, hslot⟩ := hawaits
  have hprobed : completion.task.nodeId ∈ scheduler.inFlight := by
    rw [ExtTreeMap.mem_iff_isSome_getElem?, hslot]
    rfl
  have hactive : completion.task.nodeId ∈ scheduler.activeNodes := (h.placed _).2 (.inr hprobed)
  have hunqueued : ∀ due, ⟨due, completion.task.nodeId⟩ ∉ scheduler.queue :=
    fun due hqueued => h.apart due _ hqueued hprobed
  have hmem : ∀ due node, ⟨due, node⟩ ∈ (scheduler.taken completion).queue ↔
      saturatingAdd64 completion.completedAtUnixMs probeIntervalMs = due ∧
        completion.task.nodeId = node ∨ ⟨due, node⟩ ∈ scheduler.queue := by
    intro due node
    rw [ProbeScheduler.taken, enqueue, ExtTreeSet.mem_insert, Std.compare_eq_iff_eq,
      DueProbe.mk.injEq]
  have herase : ∀ node : NodeRecordId, node ∈ (scheduler.taken completion).inFlight ↔
      completion.task.nodeId ≠ node ∧ node ∈ scheduler.inFlight := by
    intro node
    rw [ProbeScheduler.taken, enqueue, ExtTreeMap.mem_erase, ne_eq, Std.compare_eq_iff_eq]
  constructor
  case deadlines =>
    intro due node
    rw [hmem]
    simp only [ProbeScheduler.taken, enqueue, ExtTreeMap.getElem?_insert, Std.compare_eq_iff_eq]
    by_cases hnode : completion.task.nodeId = node
    · subst hnode
      simp [hunqueued]
    · simp [hnode, h.deadlines]
  case placed =>
    intro node
    rw [herase]
    simp only [hmem]
    change node ∈ scheduler.activeNodes ↔ _
    by_cases hnode : completion.task.nodeId = node
    · subst hnode
      simp [hactive]
    · simp [hnode, h.placed]
  case apart =>
    intro due node hqueued hflight
    rw [herase] at hflight
    rcases (hmem due node).1 hqueued with ⟨_, hnode⟩ | hold
    · exact hflight.1 hnode
    · exact h.apart due node hold hflight.2
  case probed =>
    intro node slot hof
    simp only [ProbeScheduler.taken, enqueue, ExtTreeMap.getElem?_erase] at hof
    split at hof
    · cases hof
    · exact h.probed node slot hof
  case sampled =>
    intro node sample hof
    simp only [ProbeScheduler.taken, enqueue, ExtTreeMap.getElem?_insert] at hof
    split at hof
    · rename_i hnode
      cases hof
      exact ⟨Std.compare_eq_iff_eq.1 hnode ▸ hactive, hgeneration⟩
    · exact h.sampled node sample hof
  case workers =>
    have hsize := ExtTreeMap.size_erase_le (t := scheduler.inFlight) (k := completion.task.nodeId)
    have hworkers := h.workers
    change (scheduler.inFlight.erase _).size ≤ probeWorkerCount
    omega
  case last => exact h.last

end ProbeScheduler

inductive ProbeCall where
  | reset (generation : ProbeGeneration) (nodes : List NodeRecordId) (nowUnixMs : UInt64)
  | deactivate
  | takeDue (nowUnixMs : UInt64)
  | complete (completion : ProbeCompletion)
deriving DecidableEq

/-- Two tasks of one attempt: the numbers that the scheduler looks at agree. -/
def ProbeTask.SameAttempt (a b : ProbeTask) : Prop :=
  a.nodeId = b.nodeId ∧ a.attemptId = b.attemptId ∧ a.generation = b.generation

instance : DecidableRel ProbeTask.SameAttempt := fun _ _ => inferInstanceAs (Decidable (_ ∧ _))

structure ProbeRun where
  scheduler : ProbeScheduler
  handedOut : List ProbeTask
  outstanding : List ProbeTask
  started : List ProbeGeneration

namespace ProbeRun

def initial : ProbeRun := ⟨.new, [], [], []⟩

/-- `none` is a debug assertion that fires. -/
def step (run : ProbeRun) : ProbeCall → Option ProbeRun
  | .reset generation nodes nowUnixMs =>
    match run.scheduler.reset generation nodes nowUnixMs with
    | (.error _, scheduler) => some { run with scheduler }
    | (.ok (), scheduler) =>
      some { run with scheduler, outstanding := [], started := run.started ++ [generation] }
  | .deactivate => some { run with scheduler := run.scheduler.deactivate, outstanding := [] }
  | .takeDue nowUnixMs =>
    let (tasks, scheduler) := run.scheduler.takeDue nowUnixMs
    some { run with
      scheduler
      handedOut := run.handedOut ++ tasks
      outstanding := run.outstanding ++ tasks }
  | .complete completion =>
    (run.scheduler.complete completion).map fun (status, scheduler) =>
      { run with
        scheduler
        outstanding := match status with
          | .rescheduled _ => run.outstanding.filter fun task => ¬task.SameAttempt completion.task
          | .lateGeneration | .unknownTask => run.outstanding }

def after (calls : List ProbeCall) : Option ProbeRun := calls.foldlM step initial

structure Sound (run : ProbeRun) : Prop where
  consistent : run.scheduler.Consistent
  nextAttempt : run.scheduler.nextAttemptId = serial run.handedOut.length
  attempts : run.handedOut.map ProbeTask.attemptId = (List.range run.handedOut.length).map serial
  handed : run.outstanding ⊆ run.handedOut
  slots : ∀ node attemptId generation,
    run.scheduler.inFlight[node]? = some ⟨attemptId, generation⟩ ↔
      ∃ t ∈ run.outstanding, t.SameAttempt ⟨attemptId, generation, node, t.dueAtUnixMs⟩
  increasing : run.started.Pairwise (· < ·)
  latest : run.scheduler.lastGeneration = run.started.getLast?

theorem sound_initial : initial.Sound where
  consistent := ProbeScheduler.consistent_new
  nextAttempt := rfl
  attempts := rfl
  handed := List.Subset.refl _
  slots := by simp [initial, ProbeScheduler.new]
  increasing := .nil
  latest := rfl

variable {run : ProbeRun}

theorem Sound.awaits_iff (h : run.Sound) (task : ProbeTask) :
    run.scheduler.Awaits task ↔ ∃ t ∈ run.outstanding, t.SameAttempt task := by
  have hslot := h.slots task.nodeId task.attemptId task.generation
  constructor
  · exact fun hawaits => hslot.1 hawaits.2
  · intro hout
    have hflight := hslot.2 hout
    exact ⟨h.consistent.probed _ _ hflight, hflight⟩

theorem lt_of_getLast? {list : List ProbeGeneration} (h : list.Pairwise (· < ·))
    (hlast : ∀ last, list.getLast? = some last → last < next) : ∀ g ∈ list, g < next := by
  intro g hg
  have hsome := List.getLast?_eq_some_getLast (List.ne_nil_of_mem hg)
  generalize list.getLast _ = last at hsome
  obtain ⟨init, rfl⟩ := List.getLast?_eq_some_iff.1 hsome
  have hlt := hlast last hsome
  rcases List.mem_append.1 hg with hinit | htail
  · exact UInt64.lt_trans ((List.pairwise_append.1 h).2.2 g hinit last (by simp)) hlt
  · rw [List.mem_singleton.1 htail]
    exact hlt

theorem Sound.cleared (h : run.Sound)
    {started : List ProbeGeneration} (hconsistent : scheduler.Consistent)
    (hflight : scheduler.inFlight = ∅)
    (hnext : scheduler.nextAttemptId = run.scheduler.nextAttemptId)
    (hincreasing : started.Pairwise (· < ·))
    (hlatest : scheduler.lastGeneration = started.getLast?) :
    Sound ⟨scheduler, run.handedOut, [], started⟩ where
  consistent := hconsistent
  nextAttempt := hnext.trans h.nextAttempt
  attempts := h.attempts
  handed := List.nil_subset _
  slots := by simp [hflight]
  increasing := hincreasing
  latest := hlatest

theorem Sound.dispatch (h : run.Sound)
    (hgeneration : run.scheduler.generation = some current) (hentry : entry ∈ run.scheduler.queue)
    (hfree : run.scheduler.inFlight.size < probeWorkerCount) :
    Sound ⟨(run.scheduler.dispatch current entry).2,
      run.handedOut ++ [(run.scheduler.dispatch current entry).1],
      run.outstanding ++ [(run.scheduler.dispatch current entry).1], run.started⟩ where
  consistent := h.consistent.dispatch hgeneration hentry hfree
  nextAttempt := by
    change nextNonzero run.scheduler.nextAttemptId = _
    rw [h.nextAttempt, nextNonzero_serial, List.length_append, List.length_singleton]
  attempts := by
    rw [List.map_append, h.attempts, List.length_append, List.length_singleton, List.range_succ,
      List.map_append, List.map_singleton, List.map_singleton, ← h.nextAttempt]
    rfl
  handed := by
    intro t ht
    rcases List.mem_append.1 ht with hold | hnew
    · exact List.mem_append_left _ (h.handed hold)
    · exact List.mem_append_right _ hnew
  slots := by
    intro node attemptId generation
    -- The node was not on its way before.
    have hunprobed : ∀ t ∈ run.outstanding, t.nodeId ≠ entry.nodeId := by
      intro t ht heq
      have hslot := (h.slots t.nodeId t.attemptId t.generation).2 ⟨t, ht, rfl, rfl, rfl⟩
      apply h.consistent.apart entry.dueAtUnixMs entry.nodeId hentry
      rw [ExtTreeMap.mem_iff_isSome_getElem?, ← heq, hslot]
      rfl
    simp only [ProbeScheduler.dispatch, ExtTreeMap.getElem?_insert, Std.compare_eq_iff_eq,
      List.mem_append, List.mem_singleton, or_and_right, exists_or, exists_eq_left,
      ProbeTask.SameAttempt]
    by_cases hnode : entry.nodeId = node
    · subst hnode
      simp only [if_true, true_and, Option.some.injEq, InFlightProbe.mk.injEq]
      constructor
      · exact .inr
      · rintro (⟨t, ht, heq, _⟩ | hsame)
        · exact absurd heq (hunprobed t ht)
        · exact hsame
    · simp only [hnode, if_false, false_and, or_false]
      exact h.slots node attemptId generation
  increasing := h.increasing
  latest := h.latest

theorem Sound.dispatchDue (h : run.Sound) (hgeneration : run.scheduler.generation = some current)
    (hfree : run.scheduler.inFlight.size + available ≤ probeWorkerCount) :
    Sound ⟨(run.scheduler.dispatchDue current now available).2,
      run.handedOut ++ (run.scheduler.dispatchDue current now available).1,
      run.outstanding ++ (run.scheduler.dispatchDue current now available).1, run.started⟩ := by
  induction available generalizing run with
  | zero => simpa [ProbeScheduler.dispatchDue] using h
  | succ available ih =>
    rw [ProbeScheduler.dispatchDue]
    cases hdue : run.scheduler.nextDue now with
    | none => simpa using h
    | some entry =>
      have hstep := h.dispatch hgeneration (ProbeScheduler.nextDue_mem hdue) (by omega)
      have hsize : (run.scheduler.dispatch current entry).2.inFlight.size + available ≤
          probeWorkerCount := by
        have hgrows : (run.scheduler.inFlight.insert entry.nodeId
            ⟨run.scheduler.nextAttemptId, current⟩).size ≤ run.scheduler.inFlight.size + 1 :=
          ExtTreeMap.size_insert_le
        change (run.scheduler.inFlight.insert _ _).size + available ≤ probeWorkerCount
        omega
      have hrest := ih hstep hgeneration hsize
      simpa [List.append_assoc] using hrest

theorem Sound.takeDue (h : run.Sound) (now : UInt64) :
    Sound ⟨(run.scheduler.takeDue now).2, run.handedOut ++ (run.scheduler.takeDue now).1,
      run.outstanding ++ (run.scheduler.takeDue now).1, run.started⟩ := by
  unfold ProbeScheduler.takeDue
  cases hgeneration : run.scheduler.generation with
  | none => simpa using h
  | some current =>
    have hworkers := h.consistent.workers
    exact h.dispatchDue hgeneration (by omega)

theorem Sound.taken (h : run.Sound) (hawaits : run.scheduler.Awaits completion.task) :
    Sound ⟨run.scheduler.taken completion, run.handedOut,
      run.outstanding.filter fun task => ¬task.SameAttempt completion.task, run.started⟩ where
  consistent := h.consistent.taken hawaits
  nextAttempt := h.nextAttempt
  attempts := h.attempts
  handed := fun _ ht => h.handed (List.mem_of_mem_filter ht)
  slots := by
    intro node attemptId generation
    simp only [ProbeScheduler.taken, ProbeScheduler.enqueue, ExtTreeMap.getElem?_erase,
      Std.compare_eq_iff_eq, List.mem_filter, decide_eq_true_eq]
    by_cases hnode : completion.task.nodeId = node
    · subst hnode
      simp only [if_true, reduceCtorEq, false_iff]
      -- All that is outstanding for the node is the attempt that is over.
      rintro ⟨t, ⟨ht, hother⟩, hnode, _, _⟩
      have hslot := (h.slots t.nodeId t.attemptId t.generation).2 ⟨t, ht, rfl, rfl, rfl⟩
      rw [hnode, hawaits.2] at hslot
      obtain ⟨hattempt, hof⟩ := InFlightProbe.mk.inj (Option.some.inj hslot)
      exact hother ⟨hnode, hattempt.symm, hof.symm⟩
    · simp only [hnode, if_false]
      rw [h.slots]
      apply exists_congr
      intro t
      constructor
      · rintro ⟨ht, hsame⟩
        exact ⟨⟨ht, fun hown => hnode (hown.1.symm.trans hsame.1)⟩, hsame⟩
      · rintro ⟨⟨ht, _⟩, hsame⟩
        exact ⟨ht, hsame⟩
  increasing := h.increasing
  latest := h.latest

theorem Sound.step (h : run.Sound) (call : ProbeCall) :
    ∃ next, run.step call = some next ∧ next.Sound := by
  cases call with
  | reset generation nodes now =>
    have hresets := ProbeScheduler.reset_resets generation nodes now run.scheduler
    have hconsistent := h.consistent.reset hresets
    rw [ProbeRun.step]
    generalize run.scheduler.reset generation nodes now = outcome at hresets hconsistent
    cases hresets with
    | refused error => exact ⟨_, rfl, h⟩
    | started _ _ _ hlater =>
      refine ⟨_, rfl, h.cleared hconsistent rfl rfl ?_ ?_⟩
      · have hlt := lt_of_getLast? h.increasing fun last hlast =>
          hlater last (h.latest.trans hlast)
        apply List.pairwise_append.2 ⟨h.increasing, List.pairwise_singleton _ _, _⟩
        intro g hg last hlast
        rw [List.mem_singleton.1 hlast]
        exact hlt g hg
      · simp
  | deactivate =>
    exact ⟨_, rfl, h.cleared ProbeScheduler.Consistent.deactivate rfl rfl h.increasing h.latest⟩
  | takeDue now => exact ⟨_, rfl, h.takeDue now⟩
  | complete completion =>
    rw [ProbeRun.step]
    by_cases hawaits : run.scheduler.Awaits completion.task
    · rw [h.consistent.complete_of_awaits hawaits]
      exact ⟨_, rfl, h.taken hawaits⟩
    · obtain ⟨status, hstatus, hcomplete⟩ := ProbeScheduler.complete_of_not_awaits hawaits
      rw [hcomplete]
      refine ⟨_, rfl, ?_⟩
      cases status with
      | rescheduled next => exact absurd rfl (hstatus next)
      | lateGeneration | unknownTask => exact h

theorem sound_after (calls : List ProbeCall) : ∃ run, after calls = some run ∧ run.Sound := by
  have hfold : ∀ run : ProbeRun, run.Sound → ∃ next, calls.foldlM step run = some next ∧
      next.Sound := by
    induction calls with
    | nil => exact fun run h => ⟨run, rfl, h⟩
    | cons call calls ih =>
      intro run h
      obtain ⟨next, hstep, hnext⟩ := h.step call
      obtain ⟨final, hrest, hfinal⟩ := ih next hnext
      refine ⟨final, ?_, hfinal⟩
      rw [List.foldlM_cons, hstep]
      exact hrest
  exact hfold initial sound_initial

/-- What a completion does: the one of an outstanding attempt is taken, any other leaves the
scheduler as it is. -/
structure TakesOnlyAwaited (run : ProbeRun) (completion : ProbeCompletion) : Prop where
  ignored : (∀ t ∈ run.outstanding, ¬t.SameAttempt completion.task) →
    run.scheduler.complete completion = some (.lateGeneration, run.scheduler) ∨
      run.scheduler.complete completion = some (.unknownTask, run.scheduler)
  taken : ∀ t ∈ run.outstanding, t.SameAttempt completion.task →
    run.scheduler.complete completion =
      some (.rescheduled (saturatingAdd64 completion.completedAtUnixMs probeIntervalMs),
        run.scheduler.taken completion)

theorem Sound.takesOnlyAwaited (h : run.Sound) (completion : ProbeCompletion) :
    run.TakesOnlyAwaited completion := by
  constructor
  · intro hnone
    have hawaits : ¬run.scheduler.Awaits completion.task := by
      rw [h.awaits_iff]
      rintro ⟨t, ht, hsame⟩
      exact hnone t ht hsame
    obtain ⟨status, hstatus, hcomplete⟩ := ProbeScheduler.complete_of_not_awaits hawaits
    cases status with
    | rescheduled next => exact absurd rfl (hstatus next)
    | lateGeneration => exact .inl hcomplete
    | unknownTask => exact .inr hcomplete
  · intro t ht hsame
    exact h.consistent.complete_of_awaits ((h.awaits_iff _).2 ⟨t, ht, hsame⟩)

theorem Sound.sameAttempt_unique (h : run.Sound)
    (hcount : run.handedOut.length < UInt64.size) (hhanded : task ∈ run.handedOut)
    (hdone : task ∉ run.outstanding) : ∀ t ∈ run.outstanding, ¬t.SameAttempt task := by
  intro t ht hsame
  have hnodup : (run.handedOut.map ProbeTask.attemptId).Nodup := by
    rw [h.attempts]
    exact nodup_serial hcount
  have heq : t = task := List.inj_on_of_nodup_map hnodup (h.handed ht) hhanded hsame.2.1
  exact hdone (heq ▸ ht)

/-- Whatever has been called, no assertion has fired and the scheduler is consistent; the
generations that were started increase; a reset that is refused leaves everything as it is, and so
does a completion that is not awaited. Attempts are told apart by numbers that come around after
2⁶⁴ - 1 others; before that, an attempt that was handed out and is over is not awaited. -/
theorem probe_schedule_consistent (calls : List ProbeCall) :
    ∃ run, after calls = some run ∧ run.scheduler.Consistent ∧
      run.started.Pairwise (· < ·) ∧ run.scheduler.lastGeneration = run.started.getLast? ∧
      (∀ generation nodes now error, (run.scheduler.reset generation nodes now).1 = .error error →
          (run.scheduler.reset generation nodes now).2 = run.scheduler) ∧
      (∀ generation nodes now, (run.scheduler.reset generation nodes now).1 = .ok () →
        ∀ earlier ∈ run.started, earlier < generation) ∧
      (∀ completion, run.TakesOnlyAwaited completion) ∧ (run.handedOut.length < UInt64.size →
        ∀ task ∈ run.handedOut, task ∉ run.outstanding →
          ∀ t ∈ run.outstanding, ¬t.SameAttempt task) := by
  obtain ⟨run, hrun, h⟩ := sound_after calls
  refine ⟨run, hrun, h.consistent, h.increasing, h.latest, ?_, ?_, h.takesOnlyAwaited, ?_⟩
  · intro generation nodes now error hrefused
    have hresets := ProbeScheduler.reset_resets generation nodes now run.scheduler
    generalize run.scheduler.reset generation nodes now = outcome at hresets hrefused
    cases hresets with
    | refused _ => rfl
    | started => cases hrefused
  · intro generation nodes now hstarted
    have hresets := ProbeScheduler.reset_resets generation nodes now run.scheduler
    generalize run.scheduler.reset generation nodes now = outcome at hresets hstarted
    cases hresets with
    | refused _ => cases hstarted
    | started _ _ _ hlater =>
      exact lt_of_getLast? h.increasing fun last hlast => hlater last (h.latest.trans hlast)
  · exact fun hcount task hhanded hdone => h.sameAttempt_unique hcount hhanded hdone

theorem Sound.inFlight_iff (h : run.Sound) (node : NodeRecordId) :
    node ∈ run.scheduler.inFlight ↔ ∃ task ∈ run.outstanding, task.nodeId = node := by
  rw [Std.ExtTreeMap.mem_iff_isSome_getElem?, Option.isSome_iff_exists]
  constructor
  · rintro ⟨⟨attemptId, generation⟩, hslot⟩
    obtain ⟨task, htask, hnode, _⟩ := (h.slots ..).1 hslot
    exact ⟨task, htask, hnode⟩
  · rintro ⟨task, htask, rfl⟩
    exact ⟨_, (h.slots ..).2 ⟨task, htask, rfl, rfl, rfl⟩⟩

/-- What is shown of a node agrees with what is done with it: an active node is never shown as
forgotten, it is shown in flight just while a probe of it is out, and a sample is of this
generation. -/
theorem snapshots_tell_probes (calls : List ProbeCall) :
    ∃ run, after calls = some run ∧ ∀ node now snapshot,
      run.scheduler.nodeSnapshot node now = some snapshot → snapshot.status ≠ .notSampled ∧
        (snapshot.status = .inFlight ↔ ∃ task ∈ run.outstanding, task.nodeId = node) ∧
        ∀ sample, snapshot.sample = some sample →
          run.scheduler.generation = some sample.probeGeneration ∧
          (sample.state = .unavailable ↔ sample.delayMs = none) := by
  obtain ⟨run, hrun, h⟩ := sound_after calls
  refine ⟨run, hrun, fun node now snapshot hsnapshot => ?_⟩
  unfold ProbeScheduler.nodeSnapshot at hsnapshot
  split at hsnapshot
  · rename_i hactive
    cases hsnapshot
    have hplaced := (h.consistent.placed node).1 hactive
    simp only [h.consistent.deadlines, ← Option.isSome_iff_exists,
      ← Std.ExtTreeMap.mem_iff_isSome_getElem?] at hplaced
    refine ⟨?_, ?_, fun sample hsample => ?_⟩
    · unfold ProbeScheduler.probeStatus
      grind
    · rw [← h.inFlight_iff]
      unfold ProbeScheduler.probeStatus
      grind
    · obtain ⟨stored, hstored, rfl⟩ := Option.map_eq_some_iff.1 hsample
      refine ⟨(h.consistent.sampled node stored hstored).2, ?_⟩
      simp only [sampleState]
      cases stored.outcome with
      | success delayMs => grind
      | timedOut | unavailable => exact iff_of_true rfl rfl
  · cases hsnapshot

end ProbeRun

end Ratash

import Ratash.Scheduler.ProfileRefresh

namespace Ratash

open Std (ExtTreeMap)

inductive RefreshCall where
  | upsert (profileId : ProfileId) (profileRevision : ProfileRevision)
      (nextRefreshAtUnixMs : UInt64)
  | remove (profileId : ProfileId)
  | takeDue (nowUnixMs : UInt64)
  | complete (completion : RefreshCompletion)
deriving DecidableEq

/-- Two tasks of one attempt: the numbers that the scheduler looks at agree. -/
def RefreshTask.SameAttempt (a b : RefreshTask) : Prop :=
  a.profileId = b.profileId ∧ a.attemptId = b.attemptId ∧ a.registrationId = b.registrationId

instance : DecidableRel RefreshTask.SameAttempt := fun _ _ => inferInstanceAs (Decidable (_ ∧ _))

def RefreshTask.source (task : RefreshTask) : DueRefresh :=
  ⟨task.dueAtUnixMs, task.profileId, task.profileRevision, task.registrationId⟩

def RefreshTask.slot (task : RefreshTask) : InFlightRefresh := ⟨task.attemptId, task.registrationId⟩

structure RefreshRun where
  scheduler : ProfileRefreshScheduler
  handedOut : List RefreshTask
  outstanding : List RefreshTask
  registered : List (ProfileId × UInt64)

namespace RefreshRun

def initial : RefreshRun := ⟨.new, [], [], []⟩

def step (run : RefreshRun) : RefreshCall → RefreshRun
  | .upsert profileId profileRevision nextRefreshAtUnixMs => { run with
      scheduler := run.scheduler.upsert profileId profileRevision nextRefreshAtUnixMs
      registered := if profileId ∈ run.scheduler.entries then run.registered
        else run.registered ++ [(profileId, run.scheduler.nextRegistrationId)] }
  | .remove profileId => { run with scheduler := (run.scheduler.remove profileId).2 }
  | .takeDue nowUnixMs =>
    let (tasks, scheduler) := run.scheduler.takeDue nowUnixMs
    { run with
      scheduler
      handedOut := run.handedOut ++ tasks
      outstanding := run.outstanding ++ tasks }
  | .complete completion =>
    let (status, scheduler) := run.scheduler.complete completion
    { run with
      scheduler
      outstanding := if status = .unknownTask then run.outstanding
        else run.outstanding.filter fun task => ¬task.SameAttempt completion.task }

def after (calls : List RefreshCall) : RefreshRun := calls.foldl step initial

end RefreshRun

namespace DueRefresh

theorem due_le_of_before {a b : DueRefresh} (h : a.Before b) : a.dueAtUnixMs ≤ b.dueAtUnixMs := by
  have hle : (compare a.dueAtUnixMs b.dueAtUnixMs).isLE = true := by
    change (compareLex _ _ a b).isLE = true at h
    rw [compareLex, Ordering.isLE_then_iff_and] at h
    exact h.1
  exact Std.isLE_compare.1 hle

instance : IsTrans DueRefresh Before := ⟨fun _ _ _ => Std.TransCmp.isLE_trans⟩

theorem before_total (a b : DueRefresh) : a.Before b ∨ b.Before a := by
  by_cases h : a.Before b
  · exact .inl h
  · refine .inr ?_
    have hlt : compare b a = .lt := Std.OrientedCmp.lt_of_not_isLE h
    rw [Before, hlt]
    rfl

instance : Std.Total Before := ⟨before_total⟩

end DueRefresh

namespace ProfileRefreshScheduler

variable {scheduler : ProfileRefreshScheduler}

theorem mem_due {d : DueRefresh} : d ∈ scheduler.due now ↔ scheduler.entries[d.profileId]? =
        some ⟨d.profileRevision, d.dueAtUnixMs, d.registrationId⟩ ∧
      d.dueAtUnixMs ≤ now ∧ d.profileId ∉ scheduler.inFlight := by
  simp only [due, List.mem_map, List.mem_filter, Prod.exists,
    ExtTreeMap.mem_toList_iff_getElem?_eq_some, Bool.and_eq_true, decide_eq_true_eq,
    Bool.not_eq_true', ← Bool.not_eq_true, ExtTreeMap.contains_iff_mem]
  constructor
  · intro h
    obtain ⟨p, e, ⟨hentry, hdue, hfree⟩, rfl⟩ := h
    exact ⟨hentry, hdue, hfree⟩
  · intro h
    obtain ⟨hentry, hdue, hfree⟩ := h
    exact ⟨_, _, ⟨hentry, hdue, hfree⟩, rfl⟩

theorem due_distinct : (scheduler.due now).Pairwise fun a b => a.profileId ≠ b.profileId := by
  have hkeys := scheduler.entries.distinct_keys_toList
  apply List.Pairwise.map
  · intro a b h
    exact h
  · apply (hkeys.filter _).imp
    intro a b h heq
    exact h (Std.compare_eq_iff_eq.2 heq)

theorem handOut_spec (ds : List DueRefresh) (hnext : scheduler.nextAttemptId = serial n)
    (hdistinct : ds.Pairwise fun a b => a.profileId ≠ b.profileId)
    (hfree : ∀ d ∈ ds, d.profileId ∉ scheduler.inFlight) :
    ∃ inFlight, (handOut ds scheduler).1.map RefreshTask.source = ds ∧
      (handOut ds scheduler).1.map RefreshTask.attemptId =
        (List.range ds.length).map (fun i => serial (n + i)) ∧ (handOut ds scheduler).2 =
        { scheduler with inFlight, nextAttemptId := serial (n + ds.length) } ∧
      inFlight.size = scheduler.inFlight.size + ds.length ∧
      ∀ p slot, inFlight[p]? = some slot ↔ scheduler.inFlight[p]? = some slot ∨
        ∃ t ∈ (handOut ds scheduler).1, t.profileId = p ∧ t.slot = slot := by
  induction ds generalizing scheduler n with
  | nil =>
    refine ⟨scheduler.inFlight, rfl, rfl, ?_, rfl, ?_⟩
    · simp only [handOut, List.length_nil, Nat.add_zero, ← hnext]
    · simp [handOut]
  | cons d ds ih =>
    obtain ⟨hhead, htail⟩ := List.pairwise_cons.1 hdistinct
    let inFlight₁ := scheduler.inFlight.insert d.profileId ⟨serial n, d.registrationId⟩
    let scheduler₁ : ProfileRefreshScheduler :=
      { scheduler with inFlight := inFlight₁, nextAttemptId := serial (n + 1) }
    have hfree₁ : ∀ e ∈ ds, e.profileId ∉ scheduler₁.inFlight := by
      intro e he hmem
      rcases ExtTreeMap.mem_insert.1 hmem with heq | hold
      · exact hhead e he (Std.compare_eq_iff_eq.1 heq)
      · exact hfree e (List.mem_cons_of_mem _ he) hold
    have hnext₁ : scheduler₁.nextAttemptId = serial (n + 1) := rfl
    obtain ⟨inFlight, hsources, hattempts, hscheduler, hsize, hslots⟩ := ih hnext₁ htail hfree₁
    have hnew : d.profileId ∉ scheduler.inFlight := hfree d List.mem_cons_self
    have hout : handOut (d :: ds) scheduler =
        (⟨serial n, d.profileId, d.profileRevision, d.dueAtUnixMs, d.registrationId⟩ ::
          (handOut ds scheduler₁).1, (handOut ds scheduler₁).2) := by
      simp only [handOut, takeAttemptId, hnext, nextNonzero_serial]
      rfl
    have hcount : n + 1 + ds.length = n + (d :: ds).length := by
      rw [List.length_cons]
      omega
    refine ⟨inFlight, ?_, ?_, ?_, ?_, ?_⟩
    · rw [hout, List.map_cons, hsources]
      rfl
    · rw [hout, List.map_cons, hattempts, List.length_cons, List.range_succ_eq_map, List.map_cons,
        List.map_map]
      simp only [Function.comp_def, Nat.succ_eq_add_one, Nat.add_assoc, Nat.add_comm 1,
        Nat.add_zero]
    · rw [hout, hscheduler, hcount]
    · rw [hsize, ExtTreeMap.size_insert, if_neg (by simpa using hnew), List.length_cons]
      omega
    · intro p slot
      rw [hslots, hout, ExtTreeMap.getElem?_insert]
      simp only [List.mem_cons, exists_eq_or_imp, Std.compare_eq_iff_eq]
      by_cases hp : d.profileId = p
      · subst hp
        have hnone : scheduler.inFlight[d.profileId]? = none :=
          ExtTreeMap.getElem?_eq_none hnew
        simp [hnone, RefreshTask.slot]
      · simp [hp, RefreshTask.slot]

def chosen (now : UInt64) (scheduler : ProfileRefreshScheduler) : List DueRefresh :=
  ((scheduler.due now).insertionSort DueRefresh.Before).take
    (profileRefreshConcurrency - scheduler.inFlight.size)

theorem chosen_subset (h : d ∈ scheduler.chosen now) : d ∈ scheduler.due now :=
  (List.mem_insertionSort _).1 (List.mem_of_mem_take h)

theorem chosen_distinct (scheduler : ProfileRefreshScheduler) (now : UInt64) :
    (scheduler.chosen now).Pairwise fun a b => a.profileId ≠ b.profileId := by
  apply List.Pairwise.sublist (List.take_sublist _ _)
  exact ((List.perm_insertionSort _ _).pairwise_iff fun h heq => h heq.symm).2 due_distinct

theorem chosen_sorted (scheduler : ProfileRefreshScheduler) (now : UInt64) :
    (scheduler.chosen now).Pairwise fun a b => a.dueAtUnixMs ≤ b.dueAtUnixMs := by
  apply List.Pairwise.sublist (List.take_sublist _ _)
  exact (List.pairwise_insertionSort _ _).imp DueRefresh.due_le_of_before

theorem waiting (h : d ∈ scheduler.due now) (hwaits : d ∉ scheduler.chosen now) :
    (∀ e ∈ scheduler.chosen now, e.dueAtUnixMs ≤ d.dueAtUnixMs) ∧
      (scheduler.chosen now).length = profileRefreshConcurrency - scheduler.inFlight.size := by
  have hmem : d ∈ (scheduler.due now).insertionSort DueRefresh.Before :=
    (List.mem_insertionSort _).2 h
  rw [← List.take_append_drop (profileRefreshConcurrency - scheduler.inFlight.size)
    ((scheduler.due now).insertionSort DueRefresh.Before)] at hmem
  rcases List.mem_append.1 hmem with hchosen | hdropped
  · exact absurd hchosen hwaits
  constructor
  · intro e he
    have hsorted := List.pairwise_insertionSort DueRefresh.Before (scheduler.due now)
    rw [← List.take_append_drop (profileRefreshConcurrency - scheduler.inFlight.size)
      ((scheduler.due now).insertionSort DueRefresh.Before), List.pairwise_append] at hsorted
    exact DueRefresh.due_le_of_before (hsorted.2.2 e he d hdropped)
  · have hlong := List.length_pos_of_mem hdropped
    rw [List.length_drop] at hlong
    rw [chosen, List.length_take]
    omega

theorem takeDue_spec (scheduler : ProfileRefreshScheduler) (now : UInt64)
    (hnext : scheduler.nextAttemptId = serial n)
    (hlimit : scheduler.inFlight.size ≤ profileRefreshConcurrency) :
    ∃ inFlight, (scheduler.takeDue now).1.map RefreshTask.source = scheduler.chosen now ∧
      (scheduler.takeDue now).1.map RefreshTask.attemptId =
        (List.range (scheduler.chosen now).length).map (fun i => serial (n + i)) ∧
      (scheduler.takeDue now).2 =
        { scheduler with inFlight, nextAttemptId := serial (n + (scheduler.chosen now).length) } ∧
      inFlight.size = scheduler.inFlight.size + (scheduler.chosen now).length ∧
      inFlight.size ≤ profileRefreshConcurrency ∧
      ∀ p slot, inFlight[p]? = some slot ↔ scheduler.inFlight[p]? = some slot ∨
        ∃ t ∈ (scheduler.takeDue now).1, t.profileId = p ∧ t.slot = slot := by
  obtain ⟨inFlight, hsources, hattempts, hscheduler, hsize, hslots⟩ :=
    handOut_spec (scheduler.chosen now) hnext (scheduler.chosen_distinct now)
      fun d hd => (mem_due.1 (chosen_subset hd)).2.2
  refine ⟨inFlight, hsources, hattempts, hscheduler, hsize, ?_, hslots⟩
  have hlength : (scheduler.chosen now).length ≤
      profileRefreshConcurrency - scheduler.inFlight.size := List.length_take_le _ _
  omega

inductive Completes (completion : RefreshCompletion) (scheduler : ProfileRefreshScheduler) :
    RefreshCompletionStatus × ProfileRefreshScheduler → Prop where
  | unknown (hslot : scheduler.inFlight[completion.task.profileId]? ≠ some completion.task.slot) :
      Completes completion scheduler (.unknownTask, scheduler)
  | kept (hslot : scheduler.inFlight[completion.task.profileId]? = some completion.task.slot)
      (hentry : ∀ entry, scheduler.entries[completion.task.profileId]? = some entry →
        entry.registrationId = completion.task.registrationId →
        entry.profileRevision ≠ completion.task.profileRevision)
      (hstatus : status = .profileRemoved ∨ status = .staleRevision) :
      Completes completion scheduler (status, { scheduler with
        inFlight := scheduler.inFlight.erase completion.task.profileId })
  | rescheduled
      (hslot : scheduler.inFlight[completion.task.profileId]? = some completion.task.slot)
      (hentry : scheduler.entries[completion.task.profileId]? = some entry)
      (hregistration : entry.registrationId = completion.task.registrationId)
      (hrevision : entry.profileRevision = completion.task.profileRevision) :
      Completes completion scheduler
        (.rescheduled (saturatingAdd64 completion.completedAtUnixMs refreshIntervalMs),
          { scheduler with
            inFlight := scheduler.inFlight.erase completion.task.profileId
            entries := scheduler.entries.insert completion.task.profileId
              ⟨completion.profileRevision,
                saturatingAdd64 completion.completedAtUnixMs refreshIntervalMs,
                entry.registrationId⟩ })

theorem complete_completes (completion : RefreshCompletion) (scheduler : ProfileRefreshScheduler) :
    Completes completion scheduler (scheduler.complete completion) := by
  unfold complete
  dsimp only
  split
  case h_1 hnone =>
    apply Completes.unknown
    rw [hnone]
    intro h
    cases h
  case h_2 inFlight hinFlight =>
    split
    case isTrue hother =>
      apply Completes.unknown
      rw [hinFlight]
      intro h
      cases h
      rcases hother with h | h
      · exact h rfl
      · exact h rfl
    case isFalse hsame =>
      have hslot : scheduler.inFlight[completion.task.profileId]? = some completion.task.slot := by
        rw [hinFlight]
        simp only [ne_eq, not_or, not_not] at hsame
        rcases inFlight with ⟨attemptId, registrationId⟩
        obtain ⟨rfl, rfl⟩ := hsame
        rfl
      split
      case h_1 hnone =>
        apply Completes.kept hslot _ (.inl rfl)
        intro entry hentry
        rw [hnone] at hentry
        cases hentry
      case h_2 entry hentry =>
        split
        case isTrue hstale =>
          apply Completes.kept hslot _ (.inr rfl)
          intro entry' hentry' hregistration
          rw [hentry] at hentry'
          cases hentry'
          exact hstale.resolve_left (not_not.2 hregistration)
        case isFalse hcurrent =>
          simp only [ne_eq, not_or, not_not] at hcurrent
          exact .rescheduled hslot hentry hcurrent.1 hcurrent.2

end ProfileRefreshScheduler

theorem length_filter_ne_of_pairwise {f : α → β} [DecidableEq β] {l : List α}
    (hl : l.Pairwise fun a b => f a ≠ f b) (ha : a ∈ l) :
    (l.filter fun b => f b ≠ f a).length + 1 = l.length := by
  induction l with
  | nil => cases ha
  | cons b l ih =>
    obtain ⟨hhead, htail⟩ := List.pairwise_cons.1 hl
    rcases List.mem_cons.1 ha with rfl | ha
    · have hself : (a :: l).filter (fun b => f b ≠ f a) = l := by
        rw [List.filter_cons_of_neg (by simp)]
        exact List.filter_eq_self.2 fun b hb => by simpa using (hhead b hb).symm
      rw [hself, List.length_cons]
    · rw [List.filter_cons_of_pos (by simpa using hhead a ha), List.length_cons, ih htail ha,
        List.length_cons]

namespace RefreshRun

structure Sound (run : RefreshRun) : Prop where
  slots : ∀ p slot, run.scheduler.inFlight[p]? = some slot ↔
    ∃ t ∈ run.outstanding, t.profileId = p ∧ t.slot = slot
  distinct : run.outstanding.Pairwise fun a b => a.profileId ≠ b.profileId
  count : run.outstanding.length = run.scheduler.inFlight.size
  limit : run.scheduler.inFlight.size ≤ profileRefreshConcurrency
  handed : run.outstanding.Sublist run.handedOut
  attempts : run.handedOut.map RefreshTask.attemptId = (List.range run.handedOut.length).map serial
  nextAttempt : run.scheduler.nextAttemptId = serial run.handedOut.length
  registrations : run.registered.map Prod.snd = (List.range run.registered.length).map serial
  nextRegistration : run.scheduler.nextRegistrationId = serial run.registered.length
  latest : ∀ p entry, run.scheduler.entries[p]? = some entry →
    ∃ older newer, run.registered = older ++ (p, entry.registrationId) :: newer ∧
      ∀ r ∈ newer, r.1 ≠ p

variable {run : RefreshRun}

theorem sound_initial : initial.Sound := by
  constructor
  · intro p slot
    simp [initial, ProfileRefreshScheduler.new]
  · exact .nil
  · rfl
  · exact Nat.zero_le _
  · exact .slnil
  · rfl
  · rfl
  · rfl
  · rfl
  · intro p entry h
    simp [initial, ProfileRefreshScheduler.new] at h

theorem range_append_map (n : Nat) (xs : List α) (f : α → UInt64)
    (h : xs.map f = (List.range xs.length).map fun i => serial (n + i)) :
    (List.range n).map serial ++ xs.map f = (List.range (n + xs.length)).map serial := by
  rw [h, List.range_add, List.map_append, List.map_map]
  rfl

theorem Sound.upsert (h : run.Sound) (profileId : ProfileId) (revision : ProfileRevision)
    (next : UInt64) : (run.step (.upsert profileId revision next)).Sound := by
  cases hentry : run.scheduler.entries[profileId]? with
  | some entry =>
    have hmem : profileId ∈ run.scheduler.entries := by
      rw [ExtTreeMap.mem_iff_isSome_getElem?, hentry]
      rfl
    have hstep : run.step (.upsert profileId revision next) = { run with
        scheduler := { run.scheduler with
          entries := run.scheduler.entries.insert profileId
            ⟨revision, next, entry.registrationId⟩ } } := by
      simp only [step, ProfileRefreshScheduler.upsert, hentry, if_pos hmem]
    rw [hstep]
    refine { h with latest := ?_ }
    intro p e hp
    rw [ExtTreeMap.getElem?_insert] at hp
    split at hp
    · rename_i heq
      cases hp
      obtain rfl := Std.compare_eq_iff_eq.1 heq
      exact h.latest _ entry hentry
    · exact h.latest p e hp
  | none =>
    have hmem : profileId ∉ run.scheduler.entries := by
      rw [ExtTreeMap.mem_iff_isSome_getElem?, hentry]
      exact Bool.false_ne_true
    have hstep : run.step (.upsert profileId revision next) = { run with
        registered := run.registered ++ [(profileId, run.scheduler.nextRegistrationId)]
        scheduler := { run.scheduler with
          nextRegistrationId := nextNonzero run.scheduler.nextRegistrationId
          entries := run.scheduler.entries.insert profileId
            ⟨revision, next, run.scheduler.nextRegistrationId⟩ } } := by
      simp only [step, ProfileRefreshScheduler.upsert, hentry, if_neg hmem,
        ProfileRefreshScheduler.takeRegistrationId]
    rw [hstep]
    refine { h with registrations := ?_, nextRegistration := ?_, latest := ?_ }
    · rw [List.map_append, h.registrations, List.length_append]
      apply range_append_map
      simp [h.nextRegistration]
    · rw [h.nextRegistration, nextNonzero_serial, List.length_append]
      rfl
    · intro p e hp
      rw [ExtTreeMap.getElem?_insert] at hp
      split at hp
      · rename_i heq
        cases hp
        obtain rfl := Std.compare_eq_iff_eq.1 heq
        exact ⟨run.registered, [], rfl, fun r hr => absurd hr List.not_mem_nil⟩
      · rename_i hne
        obtain ⟨older, newer, hlist, hnewer⟩ := h.latest p e hp
        refine ⟨older, newer ++ [(profileId, run.scheduler.nextRegistrationId)], ?_, ?_⟩
        · rw [hlist, List.append_assoc, List.cons_append]
        · intro r hr
          rcases List.mem_append.1 hr with hr | hr
          · exact hnewer r hr
          · rw [List.mem_singleton.1 hr]
            exact fun heq => hne (Std.compare_eq_iff_eq.2 heq)

theorem Sound.remove (h : run.Sound) (profileId : ProfileId) :
    (run.step (.remove profileId)).Sound := by
  refine { h with latest := ?_ }
  intro p entry hp
  apply h.latest p entry
  change (run.scheduler.entries.erase profileId)[p]? = some entry at hp
  rw [ExtTreeMap.getElem?_erase] at hp
  split at hp
  · cases hp
  · exact hp

theorem Sound.takeDue (h : run.Sound) (now : UInt64) : (run.step (.takeDue now)).Sound := by
  obtain ⟨inFlight, hsources, hattempts, hscheduler, hsize, hlimit, hslots⟩ :=
    run.scheduler.takeDue_spec now h.nextAttempt h.limit
  have hlength : (run.scheduler.takeDue now).1.length = (run.scheduler.chosen now).length := by
    rw [← hsources, List.length_map]
  have hstep : run.step (.takeDue now) = { run with
      scheduler := (run.scheduler.takeDue now).2
      handedOut := run.handedOut ++ (run.scheduler.takeDue now).1
      outstanding := run.outstanding ++ (run.scheduler.takeDue now).1 } := rfl
  rw [hstep, hscheduler]
  constructor
  · intro p slot
    simp only [hslots, h.slots, List.mem_append, or_and_right, exists_or]
  · rw [List.pairwise_append]
    refine ⟨h.distinct, ?_, ?_⟩
    · have hchosen := run.scheduler.chosen_distinct now
      rw [← hsources, List.pairwise_map] at hchosen
      exact hchosen
    · intro t ht u hu heq
      have hdue : u.source ∈ run.scheduler.due now := by
        apply ProfileRefreshScheduler.chosen_subset
        rw [← hsources]
        exact List.mem_map_of_mem hu
      apply (ProfileRefreshScheduler.mem_due.1 hdue).2.2
      change u.profileId ∈ run.scheduler.inFlight
      rw [ExtTreeMap.mem_iff_isSome_getElem?, (h.slots u.profileId t.slot).2 ⟨t, ht, heq, rfl⟩]
      rfl
  · rw [List.length_append, h.count, hlength, hsize]
  · exact hlimit
  · exact h.handed.append (List.Sublist.refl _)
  · rw [List.map_append, h.attempts, List.length_append]
    apply range_append_map
    rw [hattempts, hlength]
  · rw [List.length_append, hlength]
  · exact h.registrations
  · exact h.nextRegistration
  · exact h.latest

theorem Sound.released (h : run.Sound) {task : RefreshTask}
    (hslot : run.scheduler.inFlight[task.profileId]? = some task.slot) :
    run.outstanding.filter (fun t => ¬t.SameAttempt task) =
        run.outstanding.filter (fun t => t.profileId ≠ task.profileId) ∧
      ∃ t ∈ run.outstanding, t.SameAttempt task := by
  obtain ⟨t, ht, hprofile, hsame⟩ := (h.slots _ _).1 hslot
  have hattempt : t.SameAttempt task :=
    ⟨hprofile, congrArg InFlightRefresh.attemptId hsame,
      congrArg InFlightRefresh.registrationId hsame⟩
  refine ⟨?_, t, ht, hattempt⟩
  apply List.filter_congr
  intro u hu
  apply decide_eq_decide.2
  constructor
  · intro hother hprofile'
    -- one task per profile, so this is the task whose slot it is
    have hself : u = t := List.inj_on_of_nodup_map (List.pairwise_map.2 h.distinct) hu ht
      (hprofile'.trans hprofile.symm)
    exact hother (hself ▸ hattempt)
  · intro hother hsame'
    exact hother hsame'.1

theorem Sound.release (h : run.Sound) {task : RefreshTask}
    (hslot : run.scheduler.inFlight[task.profileId]? = some task.slot) :
    Sound { run with
      scheduler := { run.scheduler with
        inFlight := run.scheduler.inFlight.erase task.profileId }
      outstanding := run.outstanding.filter fun t => ¬t.SameAttempt task } := by
  obtain ⟨hfilter, t, ht, hattempt⟩ := h.released hslot
  have hmem : task.profileId ∈ run.scheduler.inFlight := by
    rw [ExtTreeMap.mem_iff_isSome_getElem?, hslot]
    rfl
  have hsize : (run.scheduler.inFlight.erase task.profileId).size + 1 =
      run.scheduler.inFlight.size := by
    have hpos : run.scheduler.inFlight.size ≠ 0 := by
      rw [← h.count]
      exact Nat.ne_of_gt (List.length_pos_of_mem ht)
    rw [ExtTreeMap.size_erase, if_pos (ExtTreeMap.contains_iff_mem.2 hmem)]
    omega
  rw [hfilter]
  refine { h with slots := ?_, distinct := ?_, count := ?_, limit := ?_, handed := ?_ }
  · intro p slot
    simp only [ExtTreeMap.getElem?_erase, Std.compare_eq_iff_eq, List.mem_filter, decide_eq_true_eq]
    split
    · rename_i hp
      subst hp
      constructor
      · intro hnone
        cases hnone
      · intro hu
        obtain ⟨u, ⟨_, hother⟩, hsame, _⟩ := hu
        exact absurd hsame hother
    · rename_i hp
      rw [h.slots]
      constructor
      · intro hu
        obtain ⟨u, hu, rfl, hslot'⟩ := hu
        exact ⟨u, ⟨hu, fun heq => hp heq.symm⟩, rfl, hslot'⟩
      · intro hu
        obtain ⟨u, ⟨hu, _⟩, hprofile, hslot'⟩ := hu
        exact ⟨u, hu, hprofile, hslot'⟩
  · exact h.distinct.filter _
  · have hlength := length_filter_ne_of_pairwise h.distinct ht
    rw [hattempt.1] at hlength
    have hcount := h.count
    dsimp only
    omega
  · have hlimit := h.limit
    dsimp only
    omega
  · exact List.filter_sublist.trans h.handed

theorem Sound.complete (h : run.Sound) (completion : RefreshCompletion) :
    (run.step (.complete completion)).Sound := by
  have hstep : run.step (.complete completion) = { run with
      scheduler := (run.scheduler.complete completion).2
      outstanding := if (run.scheduler.complete completion).1 = .unknownTask then run.outstanding
        else run.outstanding.filter fun t => ¬t.SameAttempt completion.task } := rfl
  rw [hstep]
  have hcompletes := ProfileRefreshScheduler.complete_completes completion run.scheduler
  revert hcompletes
  generalize run.scheduler.complete completion = outcome
  intro hcompletes
  cases hcompletes with
  | unknown _ =>
    rw [if_pos rfl]
    exact h
  | kept hslot _ hstatus =>
    rw [if_neg (by rcases hstatus with rfl | rfl <;> exact fun h => by cases h)]
    exact h.release hslot
  | rescheduled hslot hentry _ _ =>
    rw [if_neg (by intro hunknown; cases hunknown)]
    refine { h.release hslot with latest := ?_ }
    intro p e hp
    rw [ExtTreeMap.getElem?_insert] at hp
    split at hp
    · rename_i heq
      cases hp
      obtain rfl := Std.compare_eq_iff_eq.1 heq
      obtain ⟨older, newer, hlatest⟩ := h.latest _ _ hentry
      exact ⟨older, newer, hlatest⟩
    · exact h.latest p e hp

theorem Sound.step (h : run.Sound) (call : RefreshCall) : (run.step call).Sound := by
  cases call with
  | upsert profileId revision next => exact h.upsert profileId revision next
  | remove profileId => exact h.remove profileId
  | takeDue now => exact h.takeDue now
  | complete completion => exact h.complete completion

theorem sound_after (calls : List RefreshCall) : (after calls).Sound := by
  have hfold : ∀ run : RefreshRun, run.Sound → (calls.foldl RefreshRun.step run).Sound := by
    induction calls with
    | nil => exact fun run h => h
    | cons call calls ih => exact fun run h => ih _ (h.step call)
  exact hfold initial sound_initial

end RefreshRun

namespace ProfileRefreshScheduler

/-- What is handed out at some moment: profiles that are due and not on their way, in the order of
their due times. Who is passed over is due no earlier, and there is no slot left. -/
structure HandsOutInOrder (scheduler : ProfileRefreshScheduler) (now : UInt64) : Prop where
  ordered : (scheduler.takeDue now).1.Pairwise fun a b => a.dueAtUnixMs ≤ b.dueAtUnixMs
  due : ∀ t ∈ (scheduler.takeDue now).1, t.dueAtUnixMs ≤ now ∧ t.profileId ∉ scheduler.inFlight ∧
    scheduler.entries[t.profileId]? = some ⟨t.profileRevision, t.dueAtUnixMs, t.registrationId⟩
  passedOver : ∀ p entry, scheduler.entries[p]? = some entry → entry.dueAtUnixMs ≤ now →
    p ∉ scheduler.inFlight → (∀ t ∈ (scheduler.takeDue now).1, t.profileId ≠ p) →
      (∀ t ∈ (scheduler.takeDue now).1, t.dueAtUnixMs ≤ entry.dueAtUnixMs) ∧
        (scheduler.takeDue now).2.inFlight.size = profileRefreshConcurrency

theorem handsOutInOrder {scheduler : ProfileRefreshScheduler}
    (hnext : scheduler.nextAttemptId = serial n)
    (hlimit : scheduler.inFlight.size ≤ profileRefreshConcurrency) (now : UInt64) :
    scheduler.HandsOutInOrder now := by
  obtain ⟨inFlight, hsources, _, hscheduler, hsize, _, _⟩ := takeDue_spec scheduler now hnext hlimit
  have hchosen : ∀ t ∈ (scheduler.takeDue now).1, t.source ∈ scheduler.chosen now := by
    intro t ht
    rw [← hsources]
    exact List.mem_map_of_mem ht
  constructor
  · have hsorted := scheduler.chosen_sorted now
    rw [← hsources, List.pairwise_map] at hsorted
    exact hsorted
  · intro t ht
    obtain ⟨hentry, hdue, hfree⟩ := mem_due.1 (chosen_subset (hchosen t ht))
    exact ⟨hdue, hfree, hentry⟩
  · intro p entry hentry hdue hfree hother
    have hmem : ⟨entry.dueAtUnixMs, p, entry.profileRevision, entry.registrationId⟩ ∈
        scheduler.due now := mem_due.2 ⟨hentry, hdue, hfree⟩
    have hwaits : ⟨entry.dueAtUnixMs, p, entry.profileRevision, entry.registrationId⟩ ∉
        scheduler.chosen now := by
      intro h
      rw [← hsources] at h
      obtain ⟨t, ht, hsource⟩ := List.mem_map.1 h
      exact hother t ht (congrArg DueRefresh.profileId hsource)
    obtain ⟨hlater, hfull⟩ := waiting hmem hwaits
    constructor
    · exact fun t ht => hlater t.source (hchosen t ht)
    · rw [hscheduler]
      dsimp only
      omega

end ProfileRefreshScheduler

namespace RefreshRun

/-- A completion of an attempt that is not outstanding changes nothing. One of an outstanding
attempt releases the slot of that attempt and touches no other profile; and it schedules its own
profile only if that is still under the registration and the revision the attempt was made for. -/
structure TakesOnlyItsOwn (run : RefreshRun) (completion : RefreshCompletion) : Prop where
  ignored : (∀ t ∈ run.outstanding, ¬t.SameAttempt completion.task) →
    run.scheduler.complete completion = (.unknownTask, run.scheduler)
  slots : ∀ t ∈ run.outstanding, t.SameAttempt completion.task →
    (run.scheduler.complete completion).2.inFlight =
      run.scheduler.inFlight.erase completion.task.profileId
  others : ∀ p ≠ completion.task.profileId,
    (run.scheduler.complete completion).2.entries[p]? = run.scheduler.entries[p]?
  outdated : (∀ entry, run.scheduler.entries[completion.task.profileId]? = some entry →
      entry.registrationId = completion.task.registrationId →
        entry.profileRevision ≠ completion.task.profileRevision) →
    (run.scheduler.complete completion).2.entries = run.scheduler.entries

theorem Sound.takesOnlyItsOwn {run : RefreshRun} (h : run.Sound) (completion : RefreshCompletion) :
    run.TakesOnlyItsOwn completion := by
  have hcompletes := ProfileRefreshScheduler.complete_completes completion run.scheduler
  have hslot : (∃ t ∈ run.outstanding, t.SameAttempt completion.task) ↔
      run.scheduler.inFlight[completion.task.profileId]? = some completion.task.slot := by
    rw [h.slots]
    apply exists_congr
    intro t
    simp only [RefreshTask.SameAttempt, RefreshTask.slot, InFlightRefresh.mk.injEq]
  constructor
  · intro hnone
    generalize run.scheduler.complete completion = outcome at hcompletes
    cases hcompletes with
    | unknown _ => rfl
    | kept hown _ _ | rescheduled hown _ _ _ =>
      obtain ⟨t, ht, hsame⟩ := hslot.2 hown
      exact absurd hsame (hnone t ht)
  · intro t ht hsame
    generalize run.scheduler.complete completion = outcome at hcompletes
    cases hcompletes with
    | unknown hforeign => exact absurd (hslot.1 ⟨t, ht, hsame⟩) hforeign
    | kept _ _ _ | rescheduled _ _ _ _ => rfl
  · intro p hp
    generalize run.scheduler.complete completion = outcome at hcompletes
    cases hcompletes with
    | unknown _ | kept _ _ _ => rfl
    | rescheduled _ _ _ _ =>
      rw [ExtTreeMap.getElem?_insert, if_neg]
      exact fun heq => hp (Std.compare_eq_iff_eq.1 heq).symm
  · intro houtdated
    generalize run.scheduler.complete completion = outcome at hcompletes
    cases hcompletes with
    | unknown _ | kept _ _ _ => rfl
    | rescheduled _ hentry hregistration hrevision =>
      exact absurd hrevision (houtdated _ hentry hregistration)

theorem Sound.ignores {run : RefreshRun} (h : run.Sound)
    (hcount : run.handedOut.length < UInt64.size) {completion : RefreshCompletion}
    (hhanded : completion.task ∈ run.handedOut) (hdone : completion.task ∉ run.outstanding) :
    run.scheduler.complete completion = (.unknownTask, run.scheduler) := by
  apply (h.takesOnlyItsOwn completion).ignored
  intro t ht hsame
  have hnodup : (run.handedOut.map RefreshTask.attemptId).Nodup := by
    rw [h.attempts]
    exact nodup_serial hcount
  have heq : t = completion.task :=
    List.inj_on_of_nodup_map hnodup (h.handed.subset ht) hhanded hsame.2.1
  exact hdone (heq ▸ ht)

theorem Sound.registeredAnew {run : RefreshRun} (h : run.Sound)
    (hcount : run.registered.length < UInt64.size)
    (hagain : [(p, old), (p, new)].Sublist run.registered)
    (hentry : run.scheduler.entries[p]? = some entry) : entry.registrationId ≠ old := by
  intro hsame
  subst hsame
  obtain ⟨older, newer, hlist, hnewer⟩ := h.latest p entry hentry
  have hnodup : (run.registered.map Prod.snd).Nodup := by
    rw [h.registrations]
    exact nodup_serial hcount
  have hnodup := hnodup.of_map _
  obtain ⟨before, after, hsplit, hbefore, hafter⟩ := List.cons_sublist_iff.1 hagain
  have hnew : (p, new) ∈ after := hafter.subset List.mem_cons_self
  have hold : (p, entry.registrationId) ∉ after := by
    rw [hsplit] at hnodup
    intro hmem
    exact (List.nodup_append.1 hnodup).2.2 _ hbefore _ hmem rfl
  rw [hsplit] at hlist
  rcases List.append_eq_append_iff.1 hlist with ⟨middle, _, hright⟩ | ⟨middle, _, hright⟩
  · exact hold (hright ▸ by simp)
  · cases middle with
    | nil =>
      have : after = (p, entry.registrationId) :: newer := hright.symm
      exact hold (this ▸ List.mem_cons_self)
    | cons head middle =>
      obtain ⟨_, rfl⟩ := List.cons.inj hright
      exact hnewer _ (List.mem_append_right _ hnew) rfl

/-- Whatever has been called: at most `profileRefreshConcurrency` attempts are outstanding, at most
one for a profile; what is due is handed out in order; and a completion takes only what is its own.
Attempts and registrations are told apart by numbers that come around after 2⁶⁴ - 1 others; before
that, an attempt that is over is ignored, and one for a profile that was removed and added again
does not schedule it. -/
theorem refresh_attempts_safe (calls : List RefreshCall) :
    (after calls).outstanding.length ≤ profileRefreshConcurrency ∧
      ((after calls).outstanding.Pairwise fun a b => a.profileId ≠ b.profileId) ∧
      (∀ now, (after calls).scheduler.HandsOutInOrder now) ∧
      (∀ completion, (after calls).TakesOnlyItsOwn completion) ∧
      ((after calls).handedOut.length < UInt64.size → ∀ completion,
        completion.task ∈ (after calls).handedOut → completion.task ∉ (after calls).outstanding →
          (after calls).scheduler.complete completion = (.unknownTask, (after calls).scheduler)) ∧
      ((after calls).registered.length < UInt64.size → ∀ completion new,
        [(completion.task.profileId, completion.task.registrationId),
          (completion.task.profileId, new)].Sublist (after calls).registered →
          ((after calls).scheduler.complete completion).2.entries =
            (after calls).scheduler.entries) := by
  have h := sound_after calls
  refine ⟨?_, h.distinct, ?_, h.takesOnlyItsOwn, ?_, ?_⟩
  · rw [h.count]
    exact h.limit
  · exact fun now => ProfileRefreshScheduler.handsOutInOrder h.nextAttempt h.limit now
  · exact fun hcount completion hhanded hdone => h.ignores hcount hhanded hdone
  · intro hcount completion new hagain
    apply (h.takesOnlyItsOwn completion).outdated
    intro entry hentry hsame
    exact absurd hsame (h.registeredAnew hcount hagain hentry)

end RefreshRun

end Ratash

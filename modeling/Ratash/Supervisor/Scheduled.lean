import Ratash.Supervisor.RuntimeViews

namespace Ratash

open Interaction

open Std (ExtTreeMap)

namespace ProfileRefreshScheduler

variable {scheduler : ProfileRefreshScheduler}

def revisionOf (scheduler : ProfileRefreshScheduler) (id : ProfileId) : Option ProfileRevision :=
  scheduler.entries[id]?.map (·.profileRevision)

theorem revisionOf_insert {entries : ExtTreeMap ProfileId RefreshEntry} {entry : RefreshEntry}
    {p : ProfileId} (h : scheduler.entries = entries.insert p entry) (id : ProfileId) :
    scheduler.revisionOf id =
      if p = id then some entry.profileRevision
      else entries[id]?.map RefreshEntry.profileRevision := by
  rw [revisionOf, h, ExtTreeMap.getElem?_insert]
  simp only [Std.compare_eq_iff_eq]
  split
  · rfl
  · rfl

theorem revisionOf_upsert (p : ProfileId) (revision : ProfileRevision) (next : UInt64)
    (id : ProfileId) : (scheduler.upsert p revision next).revisionOf id =
      if p = id then some revision else scheduler.revisionOf id := by
  have hentries : ∃ registration, (scheduler.upsert p revision next).entries =
      scheduler.entries.insert p ⟨revision, next, registration⟩ := by
    unfold upsert
    cases scheduler.entries[p]? with
    | some entry => exact ⟨_, rfl⟩
    | none => exact ⟨_, rfl⟩
  obtain ⟨registration, hentries⟩ := hentries
  exact revisionOf_insert hentries id

theorem revisionOf_remove (p id : ProfileId) : (scheduler.remove p).2.revisionOf id =
      if p = id then none else scheduler.revisionOf id := by
  change (scheduler.entries.erase p)[id]?.map _ = _
  rw [ExtTreeMap.getElem?_erase]
  simp only [Std.compare_eq_iff_eq]
  split
  · rfl
  · rfl

theorem handOut_entries (due : List DueRefresh) (scheduler : ProfileRefreshScheduler) :
    (handOut due scheduler).2.entries = scheduler.entries := by
  induction due generalizing scheduler with
  | nil => rfl
  | cons d due ih => exact ih _

theorem revisionOf_takeDue (now : UInt64) (id : ProfileId) :
    (scheduler.takeDue now).2.revisionOf id = scheduler.revisionOf id := by
  rw [revisionOf, takeDue, handOut_entries]
  rfl

theorem revisionOf_complete (task : RefreshTask) (now : UInt64) (id : ProfileId) :
    (scheduler.complete ⟨task, task.profileRevision, now⟩).2.revisionOf id =
      scheduler.revisionOf id := by
  have hcompletes := complete_completes ⟨task, task.profileRevision, now⟩ scheduler
  revert hcompletes
  generalize scheduler.complete ⟨task, task.profileRevision, now⟩ = completed
  intro hcompletes
  cases hcompletes with
  | unknown _ => rfl
  | kept _ _ _ => rfl
  | rescheduled _ hentry _ hrevision =>
    rw [revisionOf_insert rfl]
    split
    · rename_i heq
      rw [revisionOf, ← heq, hentry, Option.map_some, hrevision]
    · rfl

end ProfileRefreshScheduler

namespace Supervisor

variable {D U S V : Type} {X : Codec D} {parts : ProfileParts U S V}

def revisionIn (profiles : ProfileCatalog U S) (id : ProfileId) : Option ProfileRevision :=
  profiles.profiles[id]?.map (·.revision)

def Agrees (scheduler : ProfileRefreshScheduler) (profiles : ProfileCatalog U S) : Prop :=
  ∀ id, scheduler.revisionOf id = revisionIn profiles id

variable {refreshes : RefreshRun} {tasks : List RefreshTask}

section

variable {scheduler : ProfileRefreshScheduler} {profiles new : ProfileCatalog U S}
  {profile : Profile U S} {profileId : ProfileId}

theorem getElem?_profiles_insert {id : ProfileId} :
    (profiles.profiles.insert profileId profile)[id]? =
      if profileId = id then some profile else profiles.profiles[id]? := by
  rw [ExtTreeMap.getElem?_insert]
  simp only [Std.compare_eq_iff_eq]

theorem keyed_insert (h : profiles.Keyed)
    (hnew : new.profiles = profiles.profiles.insert profileId profile)
    (hid : profile.id = profileId) : new.Keyed := by
  intro id found hfound
  rw [hnew, getElem?_profiles_insert] at hfound
  split at hfound
  · cases hfound
    rwa [← ‹profileId = id›]
  · exact h id found hfound

theorem Agrees.upsert (h : Agrees scheduler profiles)
    (hnew : new.profiles = profiles.profiles.insert profileId profile)
    (hkept : new.profiles[profileId]? = some kept) (next : UInt64) :
    Agrees (scheduler.upsert profileId kept.revision next) new := by
  have hprofile : profile = kept := by
    rw [hnew, ExtTreeMap.getElem?_insert_self] at hkept
    exact Option.some.inj hkept
  subst hprofile
  intro id
  rw [ProfileRefreshScheduler.revisionOf_upsert, revisionIn, hnew, getElem?_profiles_insert]
  split
  · rfl
  · exact h id

theorem Agrees.again (h : Agrees scheduler profiles)
    (hkept : profiles.profiles[profileId]? = some kept) (next : UInt64) :
    Agrees (scheduler.upsert profileId kept.revision next) profiles := by
  intro id
  rw [ProfileRefreshScheduler.revisionOf_upsert]
  split
  · rename_i heq
    rw [revisionIn, ← heq, hkept]
    rfl
  · exact h id

theorem Agrees.moved {turn : RuntimeTurn U S} {calls : List RefreshCall}
    {reset : Bool} (h : Agrees refreshes.scheduler profiles) (hkeyed : profiles.Keyed)
    (hmoves : Moves X refreshes.scheduler turn profiles new calls tasks reset) :
    Agrees (calls.foldl RefreshRun.step refreshes).scheduler new ∧ new.Keyed := by
  cases hmoves with
  | added _ hadded hkept =>
    exact ⟨h.upsert hadded.profiles.2 hkept _, keyed_insert hkeyed hadded.profiles.2 rfl⟩
  | used _ _ hactivate =>
    have hsame := activate_profiles hactivate
    exact ⟨fun id => by rw [revisionIn, hsame]; exact h id,
      fun id => by rw [hsame]; exact hkeyed id⟩
  | recorded hchange hkept =>
    rcases hchange with rfl | ⟨failure, next, hamend⟩
    · exact ⟨h.again hkept _, hkeyed⟩
    · obtain ⟨old, hold, rfl⟩ := Option.map_eq_some_iff.1 hamend
      exact ⟨h.upsert rfl hkept _, keyed_insert hkeyed rfl (hkeyed _ old hold)⟩
  | refreshed hcommitted hkept =>
    obtain ⟨old, kept', hold, hid, _, rfl⟩ := hcommitted.profile
    exact ⟨h.upsert rfl hkept _, keyed_insert hkeyed rfl (hid.trans (hkeyed _ old hold))⟩
  | unchanged => exact ⟨h, hkeyed⟩
  | taken =>
    exact ⟨fun id => (ProfileRefreshScheduler.revisionOf_takeDue _ id).trans (h id), hkeyed⟩
  | completed =>
    exact ⟨fun id => (ProfileRefreshScheduler.revisionOf_complete _ _ id).trans (h id), hkeyed⟩
  | removed hremove =>
    obtain ⟨p, _, hfound, rfl⟩ := remove_profiles hremove
    rw [← hkeyed p _ hfound]
    refine ⟨fun id => ?_, fun id profile hprofile => ?_⟩
    · apply (ProfileRefreshScheduler.revisionOf_remove _ id).trans
      rw [revisionIn, ExtTreeMap.getElem?_erase, h id]
      simp only [Std.compare_eq_iff_eq]
      split
      · rfl
      · rfl
    · rw [ExtTreeMap.getElem?_erase] at hprofile
      split at hprofile
      · cases hprofile
      · exact hkeyed id profile hprofile

end

def Outstanding (refreshes : RefreshRun) (unexecuted : List RefreshTask) : Prop :=
  refreshes.outstanding ⊆ unexecuted

theorem Outstanding.completed {unexecuted : List RefreshTask} (h : Outstanding refreshes unexecuted)
    (hsound : refreshes.Sound) (task : RefreshTask) (revision : ProfileRevision) (now : UInt64) :
    Outstanding (refreshes.step (.complete ⟨task, revision, now⟩)) (unexecuted.erase task) := by
  have hcompletes := ProfileRefreshScheduler.complete_completes ⟨task, revision, now⟩
    refreshes.scheduler
  have hstep : (refreshes.step (.complete ⟨task, revision, now⟩)).outstanding =
      if (refreshes.scheduler.complete ⟨task, revision, now⟩).1 = .unknownTask then
        refreshes.outstanding
      else refreshes.outstanding.filter fun t => ¬t.SameAttempt task := rfl
  intro t ht
  rw [hstep] at ht
  have hbefore : t ∈ refreshes.outstanding := by
    split at ht
    · exact ht
    · exact (List.mem_filter.1 ht).1
  apply (List.mem_erase_of_ne _).2 (h hbefore)
  -- the task itself was in flight, so that its completion has been taken
  rintro rfl
  have hslot := (hsound.slots t.profileId t.slot).2 ⟨t, hbefore, rfl, rfl⟩
  rw [if_neg] at ht
  · exact of_decide_eq_true (List.mem_filter.1 ht).2 ⟨rfl, rfl, rfl⟩
  · generalize refreshes.scheduler.complete ⟨t, revision, now⟩ = outcome at hcompletes
    cases hcompletes with
    | unknown hforeign => exact absurd hslot hforeign
    | kept _ _ hstatus => rcases hstatus with rfl | rfl <;> exact fun h => by cases h
    | rescheduled _ _ _ _ => exact fun h => by cases h

theorem Outstanding.moved {turn : RuntimeTurn U S} {profiles new : ProfileCatalog U S}
    {calls : List RefreshCall} {reset : Bool} {unexecuted : List RefreshTask}
    (h : Outstanding refreshes unexecuted) (hsound : refreshes.Sound)
    (hmoves : Moves X refreshes.scheduler turn profiles new calls tasks reset) :
    Outstanding (calls.foldl RefreshRun.step refreshes) (turn.executes (unexecuted ++ tasks)) := by
  cases hmoves with
  | unchanged hturn =>
    rw [hturn, List.append_nil]
    exact h
  | taken =>
    intro t ht
    rcases List.mem_append.1 ht with ht | ht
    · exact List.mem_append_left _ (h ht)
    · exact List.mem_append_right _ ht
  | completed =>
    rw [List.append_nil]
    exact h.completed hsound _ _ _
  | added _ _ _ | used _ _ _ | removed _ | recorded _ _ | refreshed _ _ =>
    rw [List.append_nil]
    exact h

structure Scheduled (x : RuntimeWorld U S V) : Prop where
  keyed : x.state.memory.profiles.Keyed
  agrees : Agrees x.state.refreshes.scheduler x.state.memory.profiles
  sound : x.state.refreshes.Sound
  outstanding : Outstanding x.state.refreshes x.unexecuted

theorem sound_foldl (h : refreshes.Sound) (calls : List RefreshCall) :
    (calls.foldl RefreshRun.step refreshes).Sound := by
  induction calls generalizing refreshes with
  | nil => exact h
  | cons call calls ih => exact ih (h.step call)

theorem withSelection_scheduled {profiles new : ProfileCatalog U S} {id : ProfileId}
    {group : ProxyGroup} {selection : NodeSelection} {scheduler : ProfileRefreshScheduler}
    (hselection : withSelection profiles id group selection = some new) (hkeyed : profiles.Keyed)
    (h : Agrees scheduler profiles) : Agrees scheduler new ∧ new.Keyed := by
  obtain ⟨old, hold, rfl⟩ := Option.map_eq_some_iff.1 hselection
  refine ⟨fun id' => ?_, keyed_insert hkeyed rfl (hkeyed id old hold)⟩
  rw [h id', revisionIn, revisionIn, getElem?_profiles_insert]
  split
  · rename_i heq
    rw [← heq, hold]
    rfl
  · rfl

variable {x : RuntimeWorld U S V}

theorem Scheduled.runtime (h : Scheduled x) {turn : RuntimeTurn U S}
    (hturn : ∀ tasks, turn.executes tasks = tasks) (runtime : RuntimeState) (core : CoreLife) :
    Scheduled ⟨{ x.state with runtime }, core, turn.executes (x.unexecuted ++ [])⟩ := by
  rw [hturn, List.append_nil]
  exact ⟨h.keyed, h.agrees, h.sound, h.outstanding⟩

theorem Scheduled.effect {permits} {turn : RuntimeTurn U S}
    {state : SupervisorState U S V} {core : CoreLife}
    (h : Scheduled x) (heffect : TurnEffect permits X parts turn x.state x.core tasks state core) :
    Scheduled ⟨state, core, turn.executes (x.unexecuted ++ tasks)⟩ := by
  cases heffect with
  | catalog hleaves =>
    obtain ⟨calls, reset, core₁, _, hmoves, hrefreshes, _⟩ := hleaves
    obtain ⟨hagrees, hkeyed⟩ := h.agrees.moved h.keyed hmoves
    rw [← hrefreshes] at hagrees
    refine ⟨hkeyed, hagrees, ?_, ?_⟩
    · rw [hrefreshes]
      exact sound_foldl h.sound calls
    · rw [hrefreshes]
      exact h.outstanding.moved h.sound hmoves
  | probed hturn _ _ =>
    apply h.runtime
    rcases hturn with rfl | ⟨_, rfl⟩ <;> exact fun _ => rfl
  | selected hturn hselects =>
    subst hturn
    cases hselects with
    | stored _ _ hselection =>
      obtain ⟨hagrees, hkeyed⟩ := withSelection_scheduled hselection h.keyed h.agrees
      refine ⟨hkeyed, hagrees, h.sound, ?_⟩
      rw [List.append_nil]
      exact h.outstanding
    | failed _ _ _ | lost _ _ | takenBack _ _ _ _ | reported _ => exact h.runtime (fun _ => rfl) _ _
  | viewed hturn _ _ _ =>
    apply h.runtime
    rcases hturn with rfl | rfl <;> exact fun _ => rfl
  | reconciled hturn _ | retried hturn _ =>
    subst hturn
    exact h.runtime (fun _ => rfl) _ _

theorem Scheduled.turn {conditions : RunConditions U S V} {y : RuntimeWorld U S V}
    {turn : RuntimeTurn U S} (h : Scheduled x)
    (hturn : TakesRuntimeTurn X parts conditions turn x y) : Scheduled y := by
  cases hturn with
  | mk _ hfinishes => exact h.effect ((turn_meets turn).finishes hfinishes)

theorem revisionOf_registerAll {profiles : ProfileCatalog U S} (hkeyed : profiles.Keyed)
    (entries : List (ProfileId × Profile U S)) (run : RefreshRun)
    (hentries : ∀ e ∈ entries, profiles.profiles[e.1]? = some e.2) (id : ProfileId) :
    (entries.foldl (fun run entry =>
      run.step (.upsert entry.2.id entry.2.revision entry.2.nextRefreshAtUnixMs))
        run).scheduler.revisionOf id =
      if id ∈ entries.map Prod.fst then revisionIn profiles id
      else run.scheduler.revisionOf id := by
  induction entries generalizing run with
  | nil => rfl
  | cons e entries ih =>
    have he := hentries e List.mem_cons_self
    have hid : e.2.id = e.1 := hkeyed e.1 e.2 he
    rw [List.foldl_cons, ih _ fun e' he' => hentries e' (List.mem_cons_of_mem _ he')]
    have hstep :
      (run.step (.upsert e.2.id e.2.revision e.2.nextRefreshAtUnixMs)).scheduler.revisionOf
        id = if e.1 = id then some e.2.revision else run.scheduler.revisionOf id := by
      rw [← hid]
      exact ProfileRefreshScheduler.revisionOf_upsert _ _ _ id
    rw [hstep]
    by_cases hself : e.1 = id
    · subst hself
      have hrevision : revisionIn profiles e.1 = some e.2.revision := by
        rw [revisionIn, he]
        rfl
      simp [hrevision]
    · have hother : id ≠ e.1 := Ne.symm hself
      simp only [if_neg hself, List.map_cons, List.mem_cons, hother, false_or]

theorem outstanding_registerAll (entries : List (ProfileId × Profile U S)) (run : RefreshRun) :
    (entries.foldl (fun run entry =>
      run.step (.upsert entry.2.id entry.2.revision entry.2.nextRefreshAtUnixMs))
        run).outstanding = run.outstanding := by
  induction entries generalizing run with
  | nil => rfl
  | cons e entries ih => exact ih _

theorem scheduled_opened {memory : SupervisorMemory U S V} (hkeyed : memory.profiles.Keyed)
    (core : CoreLife) : Scheduled (.opened memory core) := by
  refine ⟨hkeyed, fun id => ?_, ?_, ?_⟩
  · have hall := revisionOf_registerAll hkeyed memory.profiles.profiles.toList .initial
      (fun e he => ExtTreeMap.mem_toList_iff_getElem?_eq_some.1 he) id
    apply hall.trans
    split
    · rfl
    · rename_i habsent
      have hnone : memory.profiles.profiles[id]? = none := by
        by_contra hsome
        obtain ⟨profile, hprofile⟩ := Option.ne_none_iff_exists'.1 hsome
        have hentry := ExtTreeMap.mem_toList_iff_getElem?_eq_some.2 hprofile
        exact habsent (List.mem_map_of_mem hentry)
      have hrevision : revisionIn memory.profiles id = none := by
        rw [revisionIn, hnone]
        rfl
      exact hrevision.symm
  · change (registerAll memory.profiles).Sound
    unfold registerAll
    rw [← List.foldl_map]
    exact sound_foldl RefreshRun.sound_initial _
  · change (registerAll memory.profiles).outstanding ⊆ []
    unfold registerAll
    rw [outstanding_registerAll]
    exact List.Subset.refl _

/-- Whenever the lock is free, the schedule has an entry for each profile of the catalog, with its
revision, and no other. Once all tasks have been executed, none is in flight. -/
theorem every_profile_scheduled {memory : SupervisorMemory U S V} {core : CoreLife}
    {x : RuntimeWorld U S V} (hkeyed : memory.profiles.Keyed)
    (hrun : RuntimeRuns X parts .none (.opened memory core) x) :
    (∀ id : ProfileId, x.state.refreshes.scheduler.entries[id]?.map (·.profileRevision) =
      x.state.memory.profiles.profiles[id]?.map (·.revision)) ∧
    (x.unexecuted = [] → x.state.refreshes.scheduler.inFlight.size = 0) := by
  have hscheduled : Scheduled x := by
    apply hrun.keeps (scheduled_opened hkeyed core)
    · intro turn y z hy hturn
      exact hy.turn hturn
    · intro y core hy _
      exact ⟨hy.keyed, hy.agrees, hy.sound, hy.outstanding⟩
  refine ⟨hscheduled.agrees, fun hexecuted => ?_⟩
  have hnone : x.state.refreshes.outstanding = [] := by
    apply List.subset_nil.1
    rw [← hexecuted]
    exact hscheduled.outstanding
  rw [← hscheduled.sound.count, hnone]
  rfl

def idleCore : CoreLife := ⟨none, [], fun _ _ => none⟩

theorem homeMemory_keyed : homeMemory.profiles.Keyed := by
  intro id profile hprofile
  change ((ProfileCatalog.new : ProfileCatalog Unit String).profiles.insert ⟨1⟩ homeProfile)[id]? =
    some profile at hprofile
  rw [getElem?_profiles_insert] at hprofile
  split at hprofile
  · cases hprofile
    assumption
  · simp [ProfileCatalog.new] at hprofile

theorem every_profile_scheduled_home : ∃ x : RuntimeWorld Unit String Unit,
      RuntimeRuns Plain.codec homeParts .none (.opened homeMemory idleCore) x ∧
        x.state.refreshes.handedOut.length = 1 ∧
        x.state.refreshes.scheduler.entries[(⟨1⟩ : ProfileId)]?.map (·.profileRevision) = some 1 ∧
        x.state.refreshes.scheduler.inFlight.size = 0 := by
  have htake : RuntimeRuns Plain.codec homeParts .none (.opened homeMemory idleCore) _ :=
    .turn .takeDueRefreshes .refl
      (.mk trivial (.ask (r := (10 : UInt64)) ⟨trivial, trivial, _, .refl, trivial, rfl⟩ .ret))
  have hrun : RuntimeRuns Plain.codec homeParts .none (.opened homeMemory idleCore) _ :=
    .turn (.completeRefresh ⟨1, ⟨1⟩, 1, 10, 1⟩) htake
      (.mk trivial (.ask (r := (11 : UInt64)) ⟨trivial, trivial, _, .refl, trivial, rfl⟩ .ret))
  obtain ⟨hagrees, hdone⟩ := every_profile_scheduled homeMemory_keyed hrun
  refine ⟨_, hrun, by decide +kernel, ?_, hdone (by decide +kernel)⟩
  rw [hagrees]
  decide +kernel

end Supervisor

end Ratash

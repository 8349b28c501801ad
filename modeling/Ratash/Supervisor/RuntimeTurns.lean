import Ratash.Supervisor.RuntimeRuns

namespace Ratash

open Interaction Relation Attempt

def SupervisorCall.ordinary {U S V C W : Type} : SupervisorCall U S V C W → Bool
  | .lock | .tryLock | .unlock | .selectNode _ _ => false
  | _ => true

namespace Supervisor

open SupervisorWorld

variable {D U S V : Type} {X : Codec D} {parts : ProfileParts U S V}
  {permits : CoreReplies U S V}
  {core core₀ : CoreLife}

abbrev Ordinary (x : CoreAttempt U S V α) : Prop :=
  Only (fun c => SupervisorCall.ordinary c = true) x

variable {c : (coreCalls U S V).Call}

section

variable {all : SupervisorParts U S V Proxy.View} {memory : SupervisorMemory U S V}

theorem ordinary_call (hc : SupervisorCall.ordinary c = true) : Ordinary (supervisorCall c) :=
  only_lift hc

theorem ordinary_compile (profile : Profile U S) (rules : List String) :
    Ordinary (compile profile rules : CoreAttempt U S V V) :=
  only_compile profile rules rfl

theorem ordinary_validate (configuration : V) (profileId : ProfileId) :
    Ordinary (validateConfiguration configuration profileId : CoreAttempt U S V Unit) :=
  only_validateConfiguration configuration profileId rfl

theorem ordinary_settle (profiles : ProfileCatalog U S) (localRules : LocalRuleSet)
    (configuration : V) (generation : RuntimeGeneration) (failFast : Bool)
    {f : ConfigTransactionSuccess → CoreAttempt U S V α} (hf : ∀ success, Ordinary (f success)) :
    Ordinary (applyCandidate all profiles localRules configuration generation failFast >>=
      fun result => settleTransaction result >>= f) :=
  (ordinary_call rfl).seq fun _ => (only_ofExcept _).seq hf

theorem ordinary_persistMetadata (profiles : ProfileCatalog U S) (localRules : LocalRuleSet) :
    Ordinary (persistMetadata all profiles localRules memory) :=
  (only_someOr _ _).seq fun _ => (only_someOr _ _).seq fun _ => (ordinary_call rfl).seq fun _ =>
    only_ofExcept _

theorem ordinary_addProfileLocked (profile : Profile U S) :
    Ordinary (addProfileLocked X all profile memory) := by
  apply (only_okOr _ _).seq
  intro _
  split
  · apply (only_okOr _ _).seq
    intro _
    refine (only_someOr _ _).seq fun profile => (only_require _).seq fun _ =>
      (only_ruleStrings _).seq fun strings => (ordinary_compile _ _).seq fun configuration => ?_
    apply ordinary_settle
    intro success
    exact (ordinary_call rfl).seq fun _ => (only_someOr _ _).seq fun _ => only_pure _
  · refine (only_someOr _ _).seq fun added => (ordinary_compile _ _).seq fun configuration =>
      (ordinary_validate _ _).seq fun _ => (ordinary_persistMetadata _ _).seq fun _ =>
      (ordinary_call rfl).seq fun _ => (only_someOr _ _).seq fun _ => only_pure _

theorem ordinary_activateLocked (selector : String) :
    Ordinary (activateLocked X all selector memory) := by
  apply (only_ofExcept _).seq
  intro profileId
  split
  · exact (only_someOr _ _).seq fun _ => only_pure _
  · apply (only_ofExcept _).seq
    intro _
    refine (only_someOr _ _).seq fun profile => (only_ruleStrings _).seq fun rules =>
      (ordinary_compile _ _).seq fun configuration => (only_someOr _ _).seq fun generation => ?_
    apply ordinary_settle
    intro success
    exact (ordinary_call rfl).seq fun _ => (only_someOr _ _).seq fun _ => only_pure _

theorem ordinary_removeLocked (selector : String) : Ordinary (removeLocked X all selector memory) :=
  (only_ofExcept _).seq fun _ => (ordinary_persistMetadata _ _).seq fun _ =>
    (ordinary_call rfl).seq fun _ => only_pure _

section Refresh

variable (profileId : ProfileId) (context : RefreshContext) (snapshot : S)

theorem ordinary_recordLocked (stage : RefreshStage) (message : String) :
    Ordinary (recordLocked all profileId context stage message memory) := by
  unfold recordLocked
  split
  · exact only_pure _
  · exact (ordinary_call rfl).seq fun _ => (only_someOr _ _).seq fun _ =>
      (ordinary_persistMetadata _ _).seq fun _ => (ordinary_call rfl).seq fun _ =>
      (only_someOr _ _).seq fun _ => only_pure _

theorem ordinary_refreshActive (now : UInt64) :
    Ordinary (refreshActive all memory profileId context snapshot now) := by
  apply (only_okOr _ _).seq
  intro _
  refine (only_someOr _ _).seq fun active => (only_ruleStrings _).seq fun rules =>
    (ordinary_call rfl).seq fun compiled => ?_
  cases compiled with
  | error error => exact only_pure _
  | ok configuration =>
    refine (only_someOr _ _).seq fun generation => (ordinary_call rfl).seq fun result => ?_
    cases result with
    | error failure => exact only_pure _
    | ok success =>
      exact (ordinary_call rfl).seq fun _ => (only_someOr _ _).seq fun _ => only_pure _

theorem ordinary_refreshInactive (now : UInt64) :
    Ordinary (refreshInactive all memory profileId context snapshot now) := by
  refine (only_someOr _ _).seq fun profile => (ordinary_call rfl).seq fun compiled => ?_
  cases compiled with
  | error error => exact only_pure _
  | ok configuration =>
    refine (ordinary_call rfl).seq fun validated => ?_
    cases validated with
    | error error => exact only_pure _
    | ok _ =>
      exact (only_okOr _ _).seq fun _ => (ordinary_persistMetadata _ _).seq fun _ =>
        (ordinary_call rfl).seq fun _ => only_pure _

theorem ordinary_refreshLocked :
    Ordinary (refreshLocked all profileId context snapshot memory) := by
  unfold refreshLocked
  split
  · exact only_pure _
  · apply (ordinary_call rfl).seq
    intro now
    split
    · exact ordinary_refreshActive _ _ _ _
    · exact ordinary_refreshInactive _ _ _ _

end Refresh

theorem ordinary_ruleMutationLocked (mutation : RuleMutation) :
    Ordinary (ruleMutationLocked all mutation memory) :=
  (only_cloneRuleSet _).seq fun _ => (only_mutateRules _ _).seq fun _ =>
    (only_someOr _ _).seq fun _ => (only_someOr _ _).seq fun _ => (only_ruleStrings _).seq fun _ =>
    (ordinary_compile _ _).seq fun _ => (only_someOr _ _).seq fun _ =>
    (ordinary_call rfl).seq fun _ => (only_ofExcept _).seq fun _ =>
    (ordinary_call rfl).seq fun _ => only_pure _

end

abbrev Meets (permits : CoreReplies U S V)
    (p : Prog (coreCalls U S V) α) (Q : α → CoreLife → Prop) (core : CoreLife) : Prop :=
  p.Ensures (coreEnvironment permits) (fun _ => True) Q core

variable {core' : CoreLife}

theorem onward_of_step {r : (coreCalls U S V).Reply c} (hc : SupervisorCall.ordinary c = true)
    (h : coreEnvironment permits core c r core') : core.Onward core' := by
  obtain ⟨_, _, mid, honward, _, rfl⟩ := h
  cases c with
  | selectNode _ _ => cases hc
  | _ => exact honward

theorem noted_of_step {r : (coreCalls U S V).Reply c} (hc : SupervisorCall.ordinary c = true)
    (h : coreEnvironment permits core c r core') (w : SupervisorWorld U S V) :
    supervisorEnvironment (fun _ _ => False) w c r (w.after c r) ∧
      (w.after c r).memory = noteStore w.memory c r := by
  obtain ⟨_, hreplies, _⟩ := h
  cases c with
  | lock | tryLock | unlock | selectNode _ _ => cases hc
  | apply _ _ | applyReserved _ | persistMetadata _ =>
    cases r <;> exact ⟨⟨hreplies, rfl⟩, rfl⟩
  | _ => exact ⟨⟨hreplies, rfl⟩, rfl⟩

theorem noting_meets {p : Prog (coreCalls U S V) (Except ApplicationError α)}
    {R : Except ApplicationError α → SupervisorMemory U S V → Prop} {w : SupervisorWorld U S V}
    (hordinary : p.Only fun c => SupervisorCall.ordinary c = true)
    (hp : p.Ensures (supervisorEnvironment fun _ _ => False) InStep (Leaves R) w)
    (honward : core₀.Onward core) : Meets permits (p.noting noteStore w.memory)
      (fun out core' => R out.1 out.2 ∧ core₀.Onward core') core := by
  induction p generalizing w core with
  | ret r =>
    obtain ⟨new, rfl, hR⟩ := hp.2
    exact ⟨trivial, hR, honward⟩
  | ask c next ih =>
    refine ⟨trivial, fun r core' hstep => ?_⟩
    obtain ⟨hbase, hmemory⟩ := noted_of_step hordinary.1 hstep w
    have honward' := onward_of_step hordinary.1 hstep
    have hrest := ih r (hordinary.2 r) (hp.2 r _ hbase) (honward.trans honward')
    rw [hmemory] at hrest
    exact hrest

theorem ordinary_meets {x : CoreAttempt U S V α} (hordinary : Ordinary x) :
    Meets permits x.run (fun _ core' => core.Onward core') core := by
  have hkeeps : x.run.Ensures (coreEnvironment permits) core.Onward (fun _ _ => True) core :=
    Prog.Only.ensures hordinary
      (fun _ _ _ _ hc honward hstep => honward.trans (onward_of_step hc hstep)) .refl
  exact hkeeps.mono (fun _ _ => trivial) fun _ _ honward _ => honward

theorem locked_seq {x : CoreAttempt U S V α} {f : α → Scope U S V β} {state : SupervisorState U S V}
    {R : Except ApplicationError α → SupervisorMemory U S V → Prop}
    {Q : Except ApplicationError β × SupervisorState U S V → CoreLife → Prop}
    (hx : x.run.Ensures (supervisorEnvironment fun _ _ => False) InStep (Leaves R)
      (holding state.memory)) (hordinary : Ordinary x)
    (hok : ∀ a memory core', core.Onward core' → R (.ok a) memory →
      Meets permits ((f a).runFrom { state with memory }) Q core')
    (herr : ∀ e memory core', core.Onward core' → R (.error e) memory →
      Q (.error e, { state with memory }) core') :
    Meets permits ((locked x >>= f).runFrom state) Q core := by
  apply Stateful.ensures_seq (R := fun out core' => core.Onward core' ∧
    ∃ memory, R out.1 memory ∧ out.2 = { state with memory })
  · have hnoting : Meets permits (x.run.noting noteStore state.memory) _ core :=
      noting_meets hordinary hx .refl
    apply Prog.ensures_bind.2
    apply hnoting.mono fun _ h => h
    intro out core' _ ⟨hR, honward⟩
    exact ⟨trivial, honward, out.2, hR, rfl⟩
  · rintro a _ core' - ⟨honward, memory, hR, rfl⟩
    exact hok a memory core' honward hR
  · rintro e _ core' - ⟨honward, memory, hR, rfl⟩
    exact herr e memory core' honward hR

section

variable {profileId : ProfileId} {profile : Profile U S} {state : SupervisorState U S V}

theorem found_or_fail_seq {value : Option α} {error : ApplicationError} {f : α → Scope U S V β} {Q}
    (hsome : ∀ a, value = some a → Meets permits ((f a).runFrom state) Q core)
    (hnone : value = none → Q (.error error, state) core) :
    Meets permits ((Stateful.attempt (someOr value error) >>= f).runFrom state) Q core := by
  cases value with
  | none => exact ⟨trivial, hnone rfl⟩
  | some a => exact hsome a rfl

theorem modifyRuntime_seq {g : RuntimeState → RuntimeState} {f : Unit → Scope U S V β} {Q}
    (h : Meets permits ((f ()).runFrom { state with runtime := g state.runtime }) Q core) :
    Meets permits ((modifyRuntime g >>= f).runFrom state) Q core := h

theorem upsertRefresh_meets {Q}
    (hfound : state.memory.profiles.profiles[profileId]? = some profile)
    (hQ : Q (.ok (), { state with
      refreshes := state.refreshes.step
        (.upsert profileId profile.revision profile.nextRefreshAtUnixMs) }) core) :
    Meets permits ((upsertRefresh profileId).runFrom state) Q core := by
  apply Stateful.ensures_get_seq
  apply found_or_fail_seq
  · intro profile' hprofile'
    cases hfound.symm.trans hprofile'
    exact ⟨trivial, hQ⟩
  · intro hmissing
    cases hfound.symm.trans hmissing

theorem upsertRefresh_missing {Q} (hmissing : state.memory.profiles.profiles[profileId]? = none)
    (hQ : Q (.error internalError, state) core) :
    Meets permits ((upsertRefresh profileId).runFrom state) Q core := by
  apply Stateful.ensures_get_seq
  rw [hmissing]
  exact ⟨trivial, hQ⟩

theorem upsertRefresh_seq {f : Unit → Scope U S V β} {Q}
    (hfound : state.memory.profiles.profiles[profileId]? = some profile)
    (hf : Meets permits ((f ()).runFrom { state with
      refreshes := state.refreshes.step
        (.upsert profileId profile.revision profile.nextRefreshAtUnixMs) }) Q core) :
    Meets permits ((upsertRefresh profileId >>= f).runFrom state) Q core :=
  Stateful.ensures_bind.2 (upsertRefresh_meets hfound hf)

end

theorem updateRuntime_meets (p : ProfileCatalog U S → RuntimeState →
    Prog (coreCalls U S V) RuntimeState) (state : SupervisorState U S V) (core : CoreLife) :
    Meets permits ((updateRuntime p).runFrom state) (fun out core' => ∃ runtime,
      out = (.ok (), { state with runtime }) ∧ Finishes (coreEnvironment permits)
        (p state.memory.profiles state.runtime) core runtime core') core := by
  apply Stateful.ensures_update.2
  apply Prog.ensures_bind.2
  apply (Prog.ensures_finishes _ _).mono fun _ h => h
  intro runtime core' _ hfinishes
  exact ⟨trivial, runtime, rfl, hfinishes⟩

/-- How a turn changes the catalog, which calls bring the schedule up to date, the tasks that it
hands out, and whether another configuration runs now. -/
inductive Moves (X : Codec D) (scheduler : ProfileRefreshScheduler) :
    RuntimeTurn U S → ProfileCatalog U S → ProfileCatalog U S → List RefreshCall →
      List RefreshTask → (reset : Bool) → Prop where
  | added {id : ProfileId} {name : String} {url : U} {snapshot : S} {now : UInt64}
      {profile kept : Profile U S} {profiles new : ProfileCatalog U S} :
      profile = .fresh id name url snapshot now (nextRefreshAt now) →
      Added X profile profiles new → new.profiles[profile.id]? = some kept →
      Moves X scheduler (.add id name url snapshot now) profiles new
        [.upsert profile.id kept.revision kept.nextRefreshAtUnixMs] [] profiles.profiles.isEmpty
  | used {selector : String} {profileId id : ProfileId} {profiles new : ProfileCatalog U S} :
      profiles.resolve X selector = .ok profileId → profiles.activeProfileId ≠ some profileId →
      profiles.activate X (profileId.toText X) = (.ok id, new) →
      Moves X scheduler (.use selector) profiles new [] [] true
  | removed {selector : String} {removed : Profile U S} {profiles new : ProfileCatalog U S} :
      profiles.remove X selector = (.ok removed, new) →
      Moves X scheduler (.remove selector) profiles new [.remove removed.id] [] false
  | recorded {profileId : ProfileId} {context : RefreshContext} {stage : RefreshStage}
      {message : String} {kept : Profile U S} {profiles new : ProfileCatalog U S} :
      (new = profiles ∨
        ∃ failure next, profiles.amend profileId (noteFailure failure next) = some new) →
      new.profiles[profileId]? = some kept →
      Moves X scheduler (.record profileId context stage message) profiles new
        [.upsert profileId kept.revision kept.nextRefreshAtUnixMs] [] false
  | refreshed {profileId : ProfileId} {context : RefreshContext} {snapshot : S}
      {kept : Profile U S} {profiles new : ProfileCatalog U S} :
      Committed profileId profiles new → new.profiles[profileId]? = some kept →
      Moves X scheduler (.refresh profileId context snapshot) profiles new
        [.upsert profileId kept.revision kept.nextRefreshAtUnixMs] []
        (decide (profiles.activeProfileId = some profileId))
  | unchanged {turn : RuntimeTurn U S} {profiles : ProfileCatalog U S} :
      (∀ tasks, turn.executes tasks = tasks) → Moves X scheduler turn profiles profiles [] [] false
  | taken {now : UInt64} {profiles : ProfileCatalog U S} :
      Moves X scheduler .takeDueRefreshes profiles profiles [.takeDue now]
        (scheduler.takeDue now).1 false
  | completed {task : RefreshTask} {now : UInt64} {profiles : ProfileCatalog U S} :
      Moves X scheduler (.completeRefresh task) profiles profiles
        [.complete ⟨task, task.profileRevision, now⟩] [] false

def TurnLeaves (permits : CoreReplies U S V)
    (X : Codec D) (parts : ProfileParts U S V) (turn : RuntimeTurn U S)
    (state : SupervisorState U S V) (core : CoreLife) (tasks : List RefreshTask)
    (state' : SupervisorState U S V) (core' : CoreLife) : Prop :=
  ∃ calls reset core₁, core.Onward core₁ ∧
    Moves X state.refreshes.scheduler turn state.memory.profiles state'.memory.profiles calls tasks
      reset ∧
    state'.refreshes = calls.foldl RefreshRun.step state.refreshes ∧
    if reset then Finishes (coreEnvironment permits)
      (resetRuntimeState parts state'.memory.profiles state.runtime) core₁ state'.runtime core'
    else state'.runtime = state.runtime ∧ core₁ = core'

theorem discard_tasks {x : Scope U S V Unit} {state : SupervisorState U S V}
    {P : List RefreshTask → SupervisorState U S V → CoreLife → Prop}
    (h : Meets permits (x.runFrom state) (fun out core' => P [] out.2 core') core) :
    Meets permits ((x >>= fun _ => pure []).runFrom state)
      (fun out core' => P (out.1.toOption.getD []) out.2 core') core := by
  apply Stateful.ensures_seq h
  · intro _ state' core' _ hP
    exact ⟨trivial, hP⟩
  · intro e state' core' _ hP
    exact hP

theorem activate_profiles {profiles new : ProfileCatalog U S} {selector : String} {id : ProfileId}
    (h : profiles.activate X selector = (.ok id, new)) : new.profiles = profiles.profiles := by
  rcases profiles.activate_cases X selector with hsame | ⟨_, _, _, _, hnew⟩
  · rw [← hsame, h]
  · rw [h] at hnew
    cases hnew
    rfl

theorem insert_profiles {profiles new : ProfileCatalog U S} {profile : Profile U S}
    (h : profiles.insert profile = (.ok (), new)) : profile.id ∉ profiles.profiles ∧
      new = { profiles with profiles := profiles.profiles.insert profile.id profile } := by
  unfold ProfileCatalog.insert at h
  split at h
  · cases h
  · cases h
    exact ⟨‹_›, rfl⟩

theorem remove_profiles {profiles new : ProfileCatalog U S} {removed : Profile U S}
    {selector : String} (h : profiles.remove X selector = (.ok removed, new)) :
    ∃ id, profiles.activeProfileId ≠ some id ∧ profiles.profiles[id]? = some removed ∧
      new = { profiles with profiles := profiles.profiles.erase id } := by
  unfold ProfileCatalog.remove at h
  split at h
  · cases h
  split at h
  · cases h
  split at h
  · cases h
  rename_i id _ hinactive _ found hfound
  cases h
  exact ⟨id, hinactive, hfound, rfl⟩

theorem Added.profiles {profiles new : ProfileCatalog U S} {profile : Profile U S}
    (h : Added X profile profiles new) : profile.id ∉ profiles.profiles ∧
      new.profiles = profiles.profiles.insert profile.id profile := by
  obtain ⟨inserted, hinsert, hnew⟩ := h
  obtain ⟨hfresh, rfl⟩ := insert_profiles hinsert
  refine ⟨hfresh, ?_⟩
  split at hnew
  · obtain ⟨id, hactivate⟩ := hnew
    exact activate_profiles hactivate
  · rw [hnew]

theorem Added.found {profiles new : ProfileCatalog U S} {profile : Profile U S}
    (h : Added X profile profiles new) : new.profiles[profile.id]? = some profile := by
  rw [h.profiles.2, Std.ExtTreeMap.getElem?_insert_self]

theorem Committed.profile {profiles new : ProfileCatalog U S}
    (h : Committed profileId profiles new) : ∃ old kept, profiles.profiles[profileId]? = some old ∧
      kept.id = old.id ∧ kept.selections = old.selections ∧
      new = { profiles with profiles := profiles.profiles.insert profileId kept } := by
  obtain ⟨context, snapshot, success, next, revision, hcommit⟩ := h
  obtain ⟨old, hold, _, _, _, hnew⟩ := ProfileCatalog.commitRefresh_ok (congrArg Prod.fst hcommit)
  rw [hcommit] at hnew
  exact ⟨old, old.refreshed revision snapshot success next, hold, rfl, rfl, hnew⟩

theorem Committed.found {profiles new : ProfileCatalog U S}
    (h : Committed profileId profiles new) : ∃ kept, new.profiles[profileId]? = some kept := by
  obtain ⟨_, kept, _, _, _, rfl⟩ := h.profile
  exact ⟨kept, Std.ExtTreeMap.getElem?_insert_self⟩

section

variable {state : SupervisorState U S V} {turn : RuntimeTurn U S}

theorem turnLeaves_same (hturn : ∀ tasks, turn.executes tasks = tasks) (h : core.Onward core') :
    TurnLeaves permits X parts turn state core [] state core' :=
  ⟨[], false, core', h, .unchanged hturn, rfl, rfl, rfl⟩

theorem turnLeaves_refused {memory : SupervisorMemory U S V}
    (hturn : ∀ tasks, turn.executes tasks = tasks) (h : core.Onward core')
    (hsame : memory = state.memory) :
    TurnLeaves permits X parts turn state core [] { state with memory } core' := by
  subst hsame
  exact turnLeaves_same hturn h

theorem turnLeaves_kept {memory : SupervisorMemory U S V}
    {tasks : List RefreshTask} (calls : List RefreshCall) (honward : core.Onward core')
    (hmoves : Moves X state.refreshes.scheduler turn state.memory.profiles memory.profiles calls
      tasks false) : TurnLeaves permits X parts turn state core tasks
      ⟨memory, calls.foldl RefreshRun.step state.refreshes, state.runtime⟩ core' :=
  ⟨calls, false, core', honward, hmoves, rfl, rfl, rfl⟩

theorem turnLeaves_reset {memory : SupervisorMemory U S V} {core₁ : CoreLife}
    {runtime : RuntimeState} (calls : List RefreshCall) (honward : core.Onward core₁)
    (hmoves : Moves X state.refreshes.scheduler turn state.memory.profiles memory.profiles calls []
      true) (hreset : Finishes (coreEnvironment permits)
      (resetRuntimeState parts memory.profiles state.runtime) core₁ runtime core') :
    TurnLeaves permits X parts turn state core []
      ⟨memory, calls.foldl RefreshRun.step state.refreshes, runtime⟩ core' :=
  ⟨calls, true, core₁, honward, hmoves, rfl, hreset⟩

theorem addScope_meets {profile : Profile U S} {id : ProfileId} {name : String} {url : U}
    {snapshot : S} {now : UInt64}
    (hprofile : profile = .fresh id name url snapshot now (nextRefreshAt now)) :
    Meets permits ((addScope parts X profile).runFrom state)
      (fun out core' => TurnLeaves permits X parts (.add id name url snapshot now) state core []
        out.2 core') core := by
  unfold addScope
  apply Stateful.ensures_get_seq
  apply locked_seq (addProfileLocked_changes profile) (ordinary_addProfileLocked profile)
  · intro outcome memory core₁ honward hchanges
    have hadded : Added X profile state.memory.profiles memory.profiles := hchanges
    have hmoves : Moves X state.refreshes.scheduler _ _ _ _ _ _ :=
      .added hprofile hadded hadded.found
    apply upsertRefresh_seq hadded.found
    split
    case isTrue hempty =>
      rw [hempty] at hmoves
      apply (updateRuntime_meets _ _ _).mono fun _ h => h
      rintro _ core' - ⟨runtime, rfl, hreset⟩
      exact turnLeaves_reset _ honward hmoves hreset
    case isFalse hempty =>
      rw [Bool.eq_false_iff.2 hempty] at hmoves
      exact ⟨trivial, turnLeaves_kept _ honward hmoves⟩
  · exact fun _ _ _ => turnLeaves_refused fun _ => rfl

theorem useScope_meets (selector : String) :
    Meets permits ((useScope parts X selector).runFrom state)
      (fun out core' => TurnLeaves permits X parts (.use selector) state core [] out.2 core')
      core := by
  unfold useScope
  apply Stateful.ensures_get_seq
  cases hresolve : state.memory.profiles.resolve X selector with
  | error e =>
    simp only [resolveProfile, hresolve]
    exact ⟨trivial, turnLeaves_same (fun _ => rfl) .refl⟩
  | ok profileId =>
    have hattempt : (resolveProfile X state.memory.profiles selector : CoreAttempt U S V _) =
        pure profileId := by
      rw [resolveProfile, hresolve]
      rfl
    rw [hattempt]
    apply locked_seq (activateLocked_changes selector) (ordinary_activateLocked selector)
    · rintro output memory core₁ honward ⟨id, hid, hactivated⟩
      cases hresolve.symm.trans hid
      split
      case isTrue hother =>
        rw [if_neg hother] at hactivated
        obtain ⟨id, hactivate⟩ := hactivated
        apply (updateRuntime_meets _ _ _).mono fun _ h => h
        rintro _ core' - ⟨runtime, rfl, hreset⟩
        exact turnLeaves_reset [] honward (.used hresolve hother hactivate) hreset
      case isFalse hactive =>
        rw [if_pos (not_not.1 hactive)] at hactivated
        refine ⟨trivial, turnLeaves_kept [] honward ?_⟩
        rw [hactivated]
        exact .unchanged fun _ => rfl
    · exact fun _ _ _ => turnLeaves_refused fun _ => rfl

theorem removeScope_meets (selector : String) :
    Meets permits ((removeScope parts X selector).runFrom state)
      (fun out core' => TurnLeaves permits X parts (.remove selector) state core [] out.2 core')
      core := by
  unfold removeScope
  apply Stateful.ensures_get_seq
  apply locked_seq (removeLocked_changes selector) (ordinary_removeLocked selector)
  · rintro output memory core₁ honward ⟨removed, hremove⟩
    rw [hremove]
    exact ⟨trivial, turnLeaves_kept [.remove removed.id] honward (.removed hremove)⟩
  · exact fun _ _ _ => turnLeaves_refused fun _ => rfl

theorem recordScope_meets (profileId : ProfileId) (context : RefreshContext)
    (stage : RefreshStage) (message : String) :
    Meets permits ((recordScope parts profileId context stage message).runFrom state)
      (fun out core' => TurnLeaves permits X parts (.record profileId context stage message) state
        core [] out.2 core') core := by
  unfold recordScope
  apply Stateful.ensures_get_seq
  split
  · exact ⟨trivial, turnLeaves_same (fun _ => rfl) .refl⟩
  apply locked_seq (recordLocked_spec profileId context stage message)
    (ordinary_recordLocked profileId context stage message)
  · intro _ memory core₁ honward hnoted
    have hchange : memory = state.memory ∨
        ∃ failure next, state.memory.profiles.amend profileId (noteFailure failure next) =
          some memory.profiles := by
      rcases hnoted with hsame | ⟨_, failure, next, profiles, hamend, rfl⟩
      · exact .inl hsame
      · exact .inr ⟨failure, next, hamend⟩
    cases hkept : memory.profiles.profiles[profileId]? with
    | some kept =>
      apply upsertRefresh_meets hkept
      refine turnLeaves_kept [.upsert _ _ _] honward (.recorded ?_ hkept)
      exact hchange.imp (congrArg SupervisorMemory.profiles) id
    | none =>
      -- then it was not there before, either
      rcases hchange with rfl | ⟨failure, next, hamend⟩
      · exact upsertRefresh_missing hkept (turnLeaves_same (fun _ => rfl) honward)
      · obtain ⟨kept, hfound⟩ := ProfileCatalog.amend_found hamend
        rw [hkept] at hfound
        cases hfound
  · intro e memory core₁ honward hnoted
    rcases hnoted with rfl | ⟨h, _⟩
    · exact turnLeaves_same (fun _ => rfl) honward
    · cases h

theorem refreshScope_meets (profileId : ProfileId) (context : RefreshContext) (snapshot : S) :
    Meets permits ((refreshScope parts profileId context snapshot).runFrom state)
      (fun out core' => TurnLeaves permits X parts (.refresh profileId context snapshot) state
        core [] out.2 core') core := by
  unfold refreshScope
  apply Stateful.ensures_get_seq
  apply locked_seq (refreshLocked_leaves profileId context snapshot)
    (ordinary_refreshLocked profileId context snapshot)
  · intro ending memory core₁ honward hleaves
    rcases ending with (_ | _ | _) | ⟨stage, error⟩
    · obtain ⟨hactive, hcommitted⟩ := hleaves
      obtain ⟨kept, hkept⟩ := hcommitted.found
      have hmoves : Moves X state.refreshes.scheduler (.refresh profileId context snapshot) _ _ _ _
          _ := .refreshed hcommitted hkept
      rw [decide_eq_true hactive] at hmoves
      apply upsertRefresh_seq hkept
      apply (updateRuntime_meets _ _ _).mono fun _ h => h
      rintro _ core' - ⟨runtime, rfl, hreset⟩
      exact turnLeaves_reset [.upsert _ _ _] honward hmoves hreset
    · obtain ⟨hinactive, hcommitted⟩ := hleaves
      obtain ⟨kept, hkept⟩ := hcommitted.found
      have hmoves : Moves X state.refreshes.scheduler (.refresh profileId context snapshot) _ _ _ _
          _ := .refreshed hcommitted hkept
      rw [decide_eq_false hinactive] at hmoves
      exact upsertRefresh_meets hkept (turnLeaves_kept [.upsert _ _ _] honward hmoves)
    · cases hleaves
      exact ⟨trivial, turnLeaves_same (fun _ => rfl) honward⟩
    · cases hleaves
      exact ⟨trivial, turnLeaves_same (fun _ => rfl) honward⟩
  · exact fun _ _ _ => turnLeaves_refused fun _ => rfl

theorem ruleScope_meets (mutation : RuleMutation) :
    Meets permits ((ruleScope parts mutation).runFrom state)
      (fun out core' => TurnLeaves permits X parts (.rule mutation) state core [] out.2 core')
      core := by
  unfold ruleScope
  apply Stateful.ensures_get_seq
  apply locked_seq (ruleMutationLocked_changes mutation) (ordinary_ruleMutationLocked mutation)
  · intro output memory core₁ honward hsame
    have hsame : memory.profiles = state.memory.profiles := hsame
    refine ⟨trivial, turnLeaves_kept [] honward ?_⟩
    rw [hsame]
    exact .unchanged fun _ => rfl
  · exact fun _ _ _ => turnLeaves_refused fun _ => rfl

theorem takeDueRefreshesScope_meets : Meets permits (takeDueRefreshesScope.runFrom state)
      (fun out core' => TurnLeaves permits X parts .takeDueRefreshes state core
        (out.1.toOption.getD []) out.2 core') core := by
  refine ⟨trivial, fun now core' hstep => ⟨trivial, ?_⟩⟩
  have honward := onward_of_step rfl hstep
  exact turnLeaves_kept [.takeDue now] honward .taken

theorem completeRefreshScope_meets (task : RefreshTask) :
    Meets permits ((completeRefreshScope task).runFrom state)
      (fun out core' => TurnLeaves permits X parts (.completeRefresh task) state core [] out.2
        core') core := by
  refine ⟨trivial, fun now core' hstep => ⟨trivial, ?_⟩⟩
  have honward := onward_of_step rfl hstep
  exact turnLeaves_kept [.complete ⟨task, task.profileRevision, now⟩] honward .completed

end

end Supervisor

end Ratash

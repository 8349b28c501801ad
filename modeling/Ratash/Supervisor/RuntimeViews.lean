import Ratash.Supervisor.RuntimeTurns

namespace Ratash

open Interaction Relation

namespace ProbeScheduler

theorem dispatchDue_activeNodes (generation : ProbeGeneration) (now : UInt64) (available : Nat)
    (scheduler : ProbeScheduler) :
    (dispatchDue generation now available scheduler).2.activeNodes = scheduler.activeNodes := by
  induction available generalizing scheduler with
  | zero => rfl
  | succ available ih =>
    unfold dispatchDue
    split
    · rfl
    · exact ih _

theorem takeDue_activeNodes (now : UInt64) (scheduler : ProbeScheduler) :
    (scheduler.takeDue now).2.activeNodes = scheduler.activeNodes := by
  unfold takeDue
  split
  · rfl
  · exact dispatchDue_activeNodes _ _ _ _

theorem complete_activeNodes {completion : ProbeCompletion} {scheduler scheduler' : ProbeScheduler}
    {status : ProbeCompletionStatus}
    (h : scheduler.complete completion = some (status, scheduler')) :
    scheduler'.activeNodes = scheduler.activeNodes := by
  unfold complete at h
  dsimp only at h
  split at h
  · cases h
    rfl
  split at h
  · cases h
    rfl
  split at h
  · cases h
    rfl
  obtain ⟨rescheduled, hschedule, heq⟩ := Option.map_eq_some_iff.1 h
  cases heq
  unfold schedule at hschedule
  split at hschedule
  · cases hschedule
  split at hschedule
  · cases hschedule
  cases hschedule
  rfl

end ProbeScheduler

namespace CoreLife

variable {core core' : CoreLife} {generation : CoreInstanceGeneration}

def Mortal (core : CoreLife) : Prop := ∀ g, core.running = some g → g ∉ core.ended

def Known (core : CoreLife) (generation : CoreInstanceGeneration) : Prop :=
  core.running = some generation ∨ generation ∈ core.ended

theorem Event.mortal (hevent : core.Event core') : core'.Mortal := by
  cases hevent with
  | stop hrunning =>
    intro g hg
    cases hg
  | start hnone hfresh =>
    intro g hg
    cases hg
    exact hfresh

theorem Mortal.onward (h : core.Mortal) (honward : core.Onward core') : core'.Mortal := by
  induction honward with
  | refl => exact h
  | tail _ hevent _ => exact hevent.mortal

theorem Known.event (h : core.Known generation) (hevent : core.Event core') :
    core'.Known generation ∧ core'.accepted generation = core.accepted generation := by
  cases hevent with
  | stop hrunning =>
    refine ⟨.inr ?_, rfl⟩
    rcases h with h | h
    · cases hrunning.symm.trans h
      exact List.mem_cons_self
    · exact List.mem_cons_of_mem _ h
  | start hnone hfresh =>
    have hended : generation ∈ core.ended := h.resolve_left fun h => by
      rw [hnone] at h
      cases h
    refine ⟨.inr hended, if_neg ?_⟩
    rintro rfl
    exact hfresh hended

theorem Known.onward (h : core.Known generation) (honward : core.Onward core') :
    core'.Known generation ∧ core'.accepted generation = core.accepted generation := by
  induction honward with
  | refl => exact ⟨h, rfl⟩
  | tail _ hevent ih =>
    obtain ⟨hknown, haccepted⟩ := ih.1.event hevent
    exact ⟨hknown, haccepted.trans ih.2⟩

theorem ended_onward (h : generation ∈ core.ended) (honward : core.Onward core') :
    generation ∈ core'.ended := by
  induction honward with
  | refl => exact h
  | tail _ hevent ih =>
    cases hevent with
    | stop _ => exact List.mem_cons_of_mem _ ih
    | start _ _ => exact ih

theorem accept_accepted (core : CoreLife) (selection : NodeSelection)
    (group : String) : (core.accept generation selection).accepted generation group =
      if group = selection.groupName then some selection.recordId
      else core.accepted generation group := by
  simp [accept]

end CoreLife

namespace Supervisor

variable {D U S V : Type} {X : Codec D} {parts : ProfileParts U S V}
  {permits : CoreReplies U S V}
  {core core' : CoreLife} {state : SupervisorState U S V} {handle : ManagedCoreHandle}

theorem running_of_status
    (h : coreEnvironment permits core .runtimeStatus (.ok (some handle)) core') :
    core'.running = some handle.instanceGeneration := by
  obtain ⟨_, _, mid, _, hanswers, rfl⟩ := h
  exact hanswers

theorem accepted_of_select {selection : NodeSelection} {u : Unit}
    (h : coreEnvironment permits core (.selectNode handle selection) (.ok u) core') :
    ∃ mid, core.Onward mid ∧ mid.running = some handle.instanceGeneration ∧
      core' = mid.accept handle.instanceGeneration selection := by
  obtain ⟨_, _, mid, honward, hanswers, rfl⟩ := h
  exact ⟨mid, honward, hanswers, rfl⟩

theorem onward_of_refused {selection : NodeSelection} {u : Unit}
    (h : coreEnvironment permits core (.selectNode handle selection) (.error u) core') :
    core.Onward core' := by
  obtain ⟨_, _, mid, honward, _, rfl⟩ := h
  exact honward

structure Unmoved (runtime runtime' : RuntimeState) : Prop where
  probes : runtime'.probes = runtime.probes
  observed : runtime'.observedCoreGeneration = runtime.observedCoreGeneration
  probeCore : runtime'.probeCoreGeneration = runtime.probeCoreGeneration
  pending : runtime'.selectionRestorePending = runtime.selectionRestorePending
  reasons : ∀ reason, reason ≠ .configurationProjection →
    (reason ∈ runtime'.healthReasons ↔ reason ∈ runtime.healthReasons)

theorem Unmoved.refl (runtime : RuntimeState) : Unmoved runtime runtime :=
  ⟨rfl, rfl, rfl, rfl, fun _ _ => .rfl⟩

variable {runtime : RuntimeState}

theorem mem_setHealthReason {reason reason' : SupervisorHealthReason} {active : Bool} :
    reason' ∈ (runtime.setHealthReason reason active).healthReasons ↔
      if reason' = reason then active = true else reason' ∈ runtime.healthReasons := by
  unfold RuntimeState.setHealthReason
  split
  · simp only [Std.ExtTreeSet.mem_insert, Std.compare_eq_iff_eq]
    split
    · simp_all
    · simp_all [eq_comm]
  · simp only [Std.ExtTreeSet.mem_erase, ne_eq, Std.compare_eq_iff_eq]
    split
    · simp_all
    · simp_all [eq_comm]

theorem Unmoved.projection (runtime : RuntimeState) (active : Bool) :
    Unmoved runtime (runtime.setHealthReason .configurationProjection active) := by
  refine ⟨rfl, rfl, rfl, rfl, fun reason hreason => ?_⟩
  rw [mem_setHealthReason, if_neg hreason]

theorem Unmoved.cached {runtime' : RuntimeState} (h : Unmoved runtime runtime')
    (view : Option Proxy.View) : Unmoved runtime { runtime' with cachedProxyView := view } :=
  ⟨h.probes, h.observed, h.probeCore, h.pending, h.reasons⟩

theorem effectiveGroupOrderWithHealth_unmoved (parts : ProfileParts U S V)
    (profiles : ProfileCatalog U S) (runtime : RuntimeState) :
    Unmoved runtime (effectiveGroupOrderWithHealth parts profiles runtime).2 ∧
      (effectiveGroupOrderWithHealth parts profiles runtime).2.cachedProxyView =
        runtime.cachedProxyView := by
  unfold effectiveGroupOrderWithHealth
  split
  · exact ⟨.projection _ _, rfl⟩
  · exact ⟨.projection _ _, rfl⟩

def RanBetween (core : CoreLife) (generation : CoreInstanceGeneration) (core' : CoreLife) : Prop :=
  ∃ mid, core.Onward mid ∧ mid.running = some generation ∧ mid.Onward core'

inductive Viewed (permits : CoreReplies U S V)
    (core core' : CoreLife) (runtime runtime' : RuntimeState) : Prop where
  | kept : runtime'.cachedProxyView = runtime.cachedProxyView →
      Viewed permits core core' runtime runtime'
  | loaded {handle : ManagedCoreHandle} {order : List String} {view : Proxy.View} :
      runtime'.cachedProxyView = some view → permits (.proxyView handle order) (.ok view) →
      RanBetween core handle.instanceGeneration core' → Viewed permits core core' runtime runtime'

theorem loadView_meets :
    Meets permits ((loadView parts).runFrom state) (fun out core' => core.Onward core' ∧
      ∃ runtime, out.2 = { state with runtime } ∧ Unmoved state.runtime runtime ∧
        match out.1 with
        | .error _ => runtime.cachedProxyView = state.runtime.cachedProxyView
        | .ok (handle, view) => state.memory.profiles.activeProfileId ≠ none ∧
          runtime.cachedProxyView = some view ∧ RanBetween core handle.instanceGeneration core' ∧
          ∃ order, permits (.proxyView handle order) (.ok view)) core := by
  unfold loadView
  apply Stateful.ensures_get_seq
  apply Stateful.ensures_require_seq trivial
  case hneg => exact fun _ => ⟨.refl, _, rfl, .refl _, rfl⟩
  intro hactive
  refine ⟨trivial, fun reply core₁ hstatus => ?_⟩
  have honward := onward_of_step rfl hstatus
  apply Stateful.ensures_okOr_seq trivial
  case herr => exact ⟨honward, _, rfl, .refl _, rfl⟩
  rintro status rfl
  apply found_or_fail_seq
  case hnone => exact fun _ => ⟨honward, _, rfl, .refl _, rfl⟩
  rintro handle rfl
  have hrunning := running_of_status hstatus
  have horder := effectiveGroupOrderWithHealth_unmoved parts state.memory.profiles
    state.runtime
  revert horder
  rcases effectiveGroupOrderWithHealth parts state.memory.profiles state.runtime with
    ⟨order, runtime⟩
  rintro ⟨hunmoved, hcached⟩
  apply modifyRuntime_seq
  apply Stateful.ensures_ofExcept_seq trivial
  case herr => exact fun _ _ => ⟨honward, runtime, rfl, hunmoved, hcached⟩
  intro order _
  refine ⟨trivial, fun reply core₂ hview => ?_⟩
  have honward' := onward_of_step rfl hview
  apply Stateful.ensures_okOr_seq trivial
  case herr => exact ⟨honward.trans honward', runtime, rfl, hunmoved, hcached⟩
  rintro view rfl
  exact ⟨trivial, honward.trans honward', _, rfl, hunmoved.cached (some view), hactive, rfl,
    ⟨core₁, honward, hrunning, honward'⟩, order, hview.1⟩

theorem refreshView_meets (profiles : ProfileCatalog U S) (runtime : RuntimeState) :
    Meets permits (refreshView parts profiles runtime) (fun runtime' core' => core.Onward core' ∧
      Unmoved runtime runtime' ∧ Viewed permits core core' runtime runtime') core := by
  unfold refreshView
  split
  · exact ⟨trivial, .refl, .refl _, .kept rfl⟩
  refine ⟨trivial, fun status core₁ hstatus => ?_⟩
  have honward := onward_of_step rfl hstatus
  rcases status with _ | _ | handle
  · exact ⟨trivial, honward, .refl _, .kept rfl⟩
  · exact ⟨trivial, honward, .refl _, .kept rfl⟩
  have hrunning := running_of_status hstatus
  obtain ⟨hunmoved, hcached⟩ := effectiveGroupOrderWithHealth_unmoved parts profiles runtime
  simp only [Prog.pure_eq, Prog.bind_ret]
  split
  case h_1 _ order heq =>
    rw [heq] at hunmoved hcached
    exact ⟨trivial, honward, hunmoved, .kept hcached⟩
  case h_2 order runtime' heq =>
    rw [heq] at hunmoved hcached
    refine ⟨trivial, fun reply core₂ hview => ?_⟩
    have honward' := onward_of_step rfl hview
    cases reply with
    | error _ => exact ⟨trivial, honward.trans honward', hunmoved, .kept hcached⟩
    | ok view =>
      exact ⟨trivial, honward.trans honward', hunmoved.cached (some view),
        .loaded rfl hview.1 ⟨core₁, honward, hrunning, honward'⟩⟩

structure Selected (permits : CoreReplies U S V)
    (groupSelector nodeSelector : String) (state : SupervisorState U S V) (core : CoreLife)
    (runtime : RuntimeState) (handle : ManagedCoreHandle) (view : Proxy.View) (group : ProxyGroup)
    (selection : NodeSelection) (core' : CoreLife) : Prop where
  unmoved : Unmoved state.runtime runtime
  cached : runtime.cachedProxyView = some view
  permitted : ∃ order, permits (.proxyView handle order) (.ok view)
  found : resolveProxyGroup view groupSelector = .ok group
  chosen : selectionBySelector view group.name nodeSelector = .ok selection
  accepted : ∃ mid, core.Onward mid ∧ mid.running = some handle.instanceGeneration ∧
    (mid.accept handle.instanceGeneration selection).Onward core'

theorem Selected.onward {core'' : CoreLife} {group : ProxyGroup} {selection : NodeSelection}
    (h : Selected permits groupSelector nodeSelector state core runtime handle view group selection
      core') (honward : core'.Onward core'') :
    Selected permits groupSelector nodeSelector state core runtime handle view group selection
      core'' := by
  obtain ⟨mid, hmid, hrunning, haccepted⟩ := h.accepted
  exact { h with accepted := ⟨mid, hmid, hrunning, haccepted.trans honward⟩ }

def previousSelection (view : Proxy.View) (group : ProxyGroup) : Option NodeSelection :=
  group.selectedName.bind fun name => (selectionBySelector view group.name name).toOption

def withSelection (profiles : ProfileCatalog U S) (id : ProfileId) (group : ProxyGroup)
    (selection : NodeSelection) : Option (ProfileCatalog U S) :=
  profiles.amend id fun profile => { profile with
    selections := profile.selections.insert group.name selection.recordId }

inductive Selects (permits : CoreReplies U S V)
    (groupSelector nodeSelector : String) (state : SupervisorState U S V) (core : CoreLife) :
    SupervisorState U S V → CoreLife → Prop where
  | failed {runtime : RuntimeState} {core' : CoreLife} : core.Onward core' →
      Unmoved state.runtime runtime → Viewed permits core core' state.runtime runtime →
      Selects permits groupSelector nodeSelector state core { state with runtime } core'
  | lost {runtime : RuntimeState} {handle : ManagedCoreHandle} {core' : CoreLife} :
      Selected permits groupSelector nodeSelector state core runtime handle view group selection
        core' →
      (∀ id, state.memory.profiles.activeProfileId = some id →
        state.memory.profiles.profiles[id]? = none) →
      Selects permits groupSelector nodeSelector state core { state with runtime } core'
  | stored {runtime : RuntimeState} {handle : ManagedCoreHandle} {core' : CoreLife}
      {id : ProfileId} {profiles : ProfileCatalog U S} :
      Selected permits groupSelector nodeSelector state core runtime handle view group selection
        core' →
      state.memory.profiles.activeProfileId = some id →
      withSelection state.memory.profiles id group selection = some profiles →
      Selects permits groupSelector nodeSelector state core
        { state with memory := { state.memory with profiles }, runtime := keepSelection runtime }
        core'
  | takenBack {runtime : RuntimeState} {handle : ManagedCoreHandle} {core₁ mid : CoreLife} :
      Selected permits groupSelector nodeSelector state core runtime handle view group selection
        core₁ →
      previousSelection view group = some previous → core₁.Onward mid →
      mid.running = some handle.instanceGeneration →
      Selects permits groupSelector nodeSelector state core { state with runtime }
        (mid.accept handle.instanceGeneration previous)
  | reported {runtime : RuntimeState} {handle : ManagedCoreHandle} {core' : CoreLife} :
      Selected permits groupSelector nodeSelector state core runtime handle view group selection
        core' →
      Selects permits groupSelector nodeSelector state core
        { state with runtime := runtime.setHealthReason .selectionCompensation true } core'

theorem takeBackSelection_meets
    (h : Selected permits groupSelector nodeSelector state core runtime handle view group selection
      core') : Meets permits ((takeBackSelection handle (previousSelection view group)).runFrom
      { state with runtime }) (fun out core' =>
        Selects permits groupSelector nodeSelector state core out.2 core') core' := by
  cases hprevious : previousSelection view group with
  | none => exact ⟨trivial, .reported h⟩
  | some previous =>
    refine ⟨trivial, fun reply core'' hselect => ?_⟩
    cases reply with
    | error _ => exact ⟨trivial, .reported (h.onward (onward_of_refused hselect))⟩
    | ok _ =>
      obtain ⟨mid, honward, hrunning, rfl⟩ := accepted_of_select hselect
      exact ⟨trivial, .takenBack h hprevious honward hrunning⟩

theorem selectScope_meets (groupSelector nodeSelector : String) :
    Meets permits ((selectScope parts groupSelector nodeSelector).runFrom state)
      (fun out core' => Selects permits groupSelector nodeSelector state core out.2 core')
      core := by
  unfold selectScope
  apply Stateful.ensures_seq loadView_meets
  case herr =>
    rintro e _ core₁ - ⟨honward, runtime, rfl, hunmoved, hcached⟩
    exact .failed honward hunmoved (.kept hcached)
  rintro ⟨handle, view⟩ _ core₁ - ⟨honward, runtime, rfl, hunmoved, hactive, hcached,
    ⟨mid, hmid, hran, hsince⟩, order, hpermits⟩
  have hfailed : ∀ core', core₁.Onward core' →
      Selects permits groupSelector nodeSelector state core { state with runtime } core' :=
    fun core' honward' => .failed (honward.trans honward') hunmoved
      (.loaded hcached hpermits ⟨mid, hmid, hran, hsince.trans honward'⟩)
  apply Stateful.ensures_ofExcept_seq trivial
  case herr => exact fun _ _ => hfailed core₁ .refl
  intro group hgroup
  apply Stateful.ensures_ofExcept_seq trivial
  case herr => exact fun _ _ => hfailed core₁ .refl
  intro selection hselection
  refine ⟨trivial, fun reply core₂ hselect => ?_⟩
  cases reply with
  | error _ => exact ⟨trivial, hfailed core₂ (onward_of_refused hselect)⟩
  | ok _ =>
    obtain ⟨mid, hmid, hrunning, rfl⟩ := accepted_of_select hselect
    have hselected : Selected permits groupSelector nodeSelector state core runtime handle view
        group selection _ :=
      ⟨hunmoved, hcached, ⟨order, hpermits⟩, hgroup, hselection, mid, honward.trans hmid, hrunning,
        .refl⟩
    apply found_or_fail_seq
    case hnone => exact fun hnone => absurd hnone hactive
    intro id hid
    apply found_or_fail_seq
    case hnone =>
      intro hnone
      refine .lost hselected fun id' hid' => ?_
      cases hid.symm.trans hid'
      exact Option.map_eq_none_iff.1 hnone
    intro profiles hprofiles
    apply Stateful.ensures_result_seq (ordinary_meets (ordinary_persistMetadata _ _))
    intro persisted core₃ _ hpersist
    cases persisted with
    | error _ => exact takeBackSelection_meets (hselected.onward hpersist)
    | ok _ =>
      refine ⟨trivial, fun _ core₄ hstore => ⟨trivial, ?_⟩⟩
      have hstored := hselected.onward (hpersist.trans (onward_of_step rfl hstore))
      exact .stored hstored hid hprofiles

inductive TurnEffect (permits : CoreReplies U S V)
    (X : Codec D) (parts : ProfileParts U S V) (turn : RuntimeTurn U S)
    (state : SupervisorState U S V) (core : CoreLife) :
    List RefreshTask → SupervisorState U S V → CoreLife → Prop where
  | catalog {tasks : List RefreshTask} {state' : SupervisorState U S V} {core' : CoreLife} :
      TurnLeaves permits X parts turn state core tasks state' core' →
      TurnEffect permits X parts turn state core tasks state' core'
  | probed {probes : ProbeScheduler} {core' : CoreLife} :
      turn = .takeDueProbes ∨ (∃ completion, turn = .completeProbe completion) →
      core.Onward core' → probes.activeNodes = state.runtime.probes.activeNodes →
      TurnEffect permits X parts turn state core []
        { state with runtime := { state.runtime with probes } } core'
  | selected {group node : String} {state' : SupervisorState U S V} {core' : CoreLife} :
      turn = .select group node → Selects permits group node state core state' core' →
      TurnEffect permits X parts turn state core [] state' core'
  | viewed {runtime : RuntimeState} {core' : CoreLife} : turn = .browse ∨ turn = .status →
      core.Onward core' → Unmoved state.runtime runtime →
      Viewed permits core core' state.runtime runtime →
      TurnEffect permits X parts turn state core [] { state with runtime } core'
  | reconciled {runtime : RuntimeState} {core' : CoreLife} : turn = .reconcile →
      Finishes (coreEnvironment permits)
        (reconcileRuntimeState parts state.memory.profiles state.runtime) core runtime core' →
      TurnEffect permits X parts turn state core [] { state with runtime } core'
  | retried {runtime : RuntimeState} {core' : CoreLife} : turn = .retry →
      Finishes (coreEnvironment permits)
        (retrySelectionRestore parts state.memory.profiles state.runtime) core runtime core' →
      TurnEffect permits X parts turn state core [] { state with runtime } core'

theorem takeDueProbesScope_meets :
    Meets permits (takeDueProbesScope.runFrom state) (fun out core' => core.Onward core' ∧
      ∃ probes : ProbeScheduler, probes.activeNodes = state.runtime.probes.activeNodes ∧
        out.2 = { state with runtime := { state.runtime with probes } }) core :=
  ⟨trivial, fun now _ hstep => ⟨trivial, onward_of_step rfl hstep, _,
    ProbeScheduler.takeDue_activeNodes now _, rfl⟩⟩

theorem completeProbeScope_meets (completion : ProbeCompletion) :
    Meets permits ((completeProbeScope completion).runFrom state) (fun out core' =>
      core.Onward core' ∧
      ∃ probes : ProbeScheduler, probes.activeNodes = state.runtime.probes.activeNodes ∧
        out.2 = { state with runtime := { state.runtime with probes } }) core := by
  refine ⟨trivial, .refl, ?_⟩
  cases hcomplete : state.runtime.probes.complete completion with
  | none => exact ⟨state.runtime.probes, rfl, by simp only [hcomplete]⟩
  | some completed =>
    obtain ⟨status, probes⟩ := completed
    exact ⟨probes, ProbeScheduler.complete_activeNodes hcomplete, by simp only [hcomplete]⟩

theorem turn_meets (turn : RuntimeTurn U S) :
    Meets permits ((turn.scope X parts).runFrom state) (fun out core' =>
      TurnEffect permits X parts turn state core (out.1.toOption.getD []) out.2 core') core := by
  cases turn with
  | add id name url snapshot now =>
    exact discard_tasks ((addScope_meets rfl).mono (fun _ h => h) fun _ _ _ => .catalog)
  | use selector =>
    exact discard_tasks ((useScope_meets selector).mono (fun _ h => h) fun _ _ _ => .catalog)
  | remove selector =>
    exact discard_tasks ((removeScope_meets selector).mono (fun _ h => h) fun _ _ _ => .catalog)
  | record profileId context stage message =>
    exact discard_tasks ((recordScope_meets profileId context stage message).mono (fun _ h => h)
      fun _ _ _ => .catalog)
  | refresh profileId context snapshot =>
    exact discard_tasks ((refreshScope_meets profileId context snapshot).mono (fun _ h => h)
      fun _ _ _ => .catalog)
  | rule mutation =>
    exact discard_tasks ((ruleScope_meets mutation).mono (fun _ h => h) fun _ _ _ => .catalog)
  | takeDueRefreshes => exact takeDueRefreshesScope_meets.mono (fun _ h => h) fun _ _ _ => .catalog
  | completeRefresh task =>
    exact discard_tasks ((completeRefreshScope_meets task).mono (fun _ h => h)
      fun _ _ _ => .catalog)
  | takeDueProbes =>
    apply discard_tasks
    apply takeDueProbesScope_meets.mono fun _ h => h
    rintro ⟨_, _⟩ core' - ⟨honward, probes, hactive, rfl⟩
    exact .probed (.inl rfl) honward hactive
  | completeProbe completion =>
    apply discard_tasks
    apply (completeProbeScope_meets completion).mono fun _ h => h
    rintro ⟨_, _⟩ core' - ⟨honward, probes, hactive, rfl⟩
    exact .probed (.inr ⟨completion, rfl⟩) honward hactive
  | select group node =>
    exact discard_tasks ((selectScope_meets group node).mono (fun _ h => h)
      fun _ _ _ => .selected rfl)
  | browse =>
    apply Stateful.ensures_seq loadView_meets
    · rintro ⟨handle, view⟩ _ core' - ⟨honward, runtime, rfl, hunmoved, _, hcached, hran, _,
        hpermits⟩
      exact ⟨trivial, .viewed (.inl rfl) honward hunmoved (.loaded hcached hpermits hran)⟩
    · rintro e _ core' - ⟨honward, runtime, rfl, hunmoved, hcached⟩
      exact .viewed (.inl rfl) honward hunmoved (.kept hcached)
  | status =>
    apply discard_tasks
    apply (updateRuntime_meets _ _ _).mono fun _ h => h
    rintro _ core' - ⟨runtime, rfl, hfinishes⟩
    obtain ⟨honward, hunmoved, hviewed⟩ := (refreshView_meets _ _).finishes hfinishes
    exact .viewed (.inr rfl) honward hunmoved hviewed
  | reconcile =>
    apply discard_tasks
    apply (updateRuntime_meets _ _ _).mono fun _ h => h
    rintro _ core' - ⟨runtime, rfl, hfinishes⟩
    exact .reconciled rfl hfinishes
  | retry =>
    apply discard_tasks
    apply (updateRuntime_meets _ _ _).mono fun _ h => h
    rintro _ core' - ⟨runtime, rfl, hfinishes⟩
    exact .retried rfl hfinishes

end Supervisor

end Ratash

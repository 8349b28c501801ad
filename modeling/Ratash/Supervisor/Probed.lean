import Ratash.Supervisor.Restored

/-!
The probes are seeded from a view once for each instance of the Core, while the view that is shown
is loaded again by several operations.
-/

namespace Ratash

open Interaction Relation

open Std (ExtTreeMap ExtTreeSet)

namespace ProbeScheduler

theorem mem_collectActive {nodes : List NodeRecordId} {active found : ExtTreeSet NodeRecordId}
    (h : collectActive nodes active = .ok found) {node : NodeRecordId} :
    node ∈ found ↔ node ∈ nodes ∨ node ∈ active := by
  induction nodes generalizing active with
  | nil =>
    cases h
    simp
  | cons n nodes ih =>
    unfold collectActive at h
    dsimp only at h
    split at h
    · cases h
    · rw [ih h, ExtTreeSet.mem_insert, Std.compare_eq_iff_eq, List.mem_cons, eq_comm, or_left_comm,
        or_assoc]

theorem foldl_enqueue_activeNodes (nodes : List NodeRecordId) (now : UInt64)
    (scheduler : ProbeScheduler) :
    (nodes.foldl (enqueue now) scheduler).activeNodes = scheduler.activeNodes := by
  induction nodes generalizing scheduler with
  | nil => rfl
  | cons node nodes ih => exact ih _

theorem mem_activeNodes_reset {generation : ProbeGeneration} {nodes : List NodeRecordId}
    {now : UInt64} {scheduler scheduler' : ProbeScheduler}
    (h : scheduler.reset generation nodes now = (.ok (), scheduler')) {node : NodeRecordId} :
    node ∈ scheduler'.activeNodes ↔ node ∈ nodes := by
  unfold reset at h
  split at h
  · cases h
  split at h
  · cases h
  · rename_i found hfound
    cases h
    rw [foldl_enqueue_activeNodes]
    exact (mem_collectActive hfound).trans (by simp)

end ProbeScheduler

namespace Supervisor

variable {D U S V : Type} {X : Codec D} {parts : ProfileParts U S V}
  {permits : CoreReplies U S V}
  {core core' : CoreLife} {generation : CoreInstanceGeneration} {profiles new : ProfileCatalog U S}
  {runtime runtime' : RuntimeState}

def ProbesNodesOf (probes : ProbeScheduler) (view : Proxy.View) : Prop :=
  ∀ node, node ∈ probes.activeNodes ↔ node ∈ eligibleNodes view

def Seeded (runtime : RuntimeState) (core : CoreLife) : Prop :=
  ∀ generation, runtime.probeCoreGeneration = some generation →
    runtime.observedCoreGeneration = some generation ∧ core.Known generation ∧
      (generation ∉ core.ended → ∀ view, runtime.cachedProxyView = some view →
        ProbesNodesOf runtime.probes view)

def Shown (runtime : RuntimeState) : Prop :=
  ∀ view, runtime.observedCoreGeneration.isSome → runtime.cachedProxyView = some view →
    .probeScheduler ∉ runtime.healthReasons → ProbesNodesOf runtime.probes view

structure SameProbes (runtime runtime' : RuntimeState) : Prop where
  probes : runtime'.probes = runtime.probes
  cached : runtime'.cachedProxyView = runtime.cachedProxyView
  observed : runtime'.observedCoreGeneration = runtime.observedCoreGeneration
  probeCore : runtime'.probeCoreGeneration = runtime.probeCoreGeneration
  reason : .probeScheduler ∈ runtime'.healthReasons ↔ .probeScheduler ∈ runtime.healthReasons

theorem SameProbes.refl (runtime : RuntimeState) : SameProbes runtime runtime :=
  ⟨rfl, rfl, rfl, rfl, .rfl⟩

theorem SameProbes.trans {runtime'' : RuntimeState} (h : SameProbes runtime runtime')
    (h' : SameProbes runtime' runtime'') : SameProbes runtime runtime'' :=
  ⟨h'.probes.trans h.probes, h'.cached.trans h.cached, h'.observed.trans h.observed,
    h'.probeCore.trans h.probeCore, h'.reason.trans h.reason⟩

theorem SameProbes.seeded (h : SameProbes runtime runtime') (hseeded : Seeded runtime core) :
    Seeded runtime' core := by
  intro generation hcore
  rw [h.observed, h.cached, h.probes]
  exact hseeded generation (h.probeCore ▸ hcore)

theorem SameProbes.shown (h : SameProbes runtime runtime') (hshown : Shown runtime) :
    Shown runtime' := by
  intro view hobserved hcached hreason
  rw [h.probes]
  exact hshown view (h.observed ▸ hobserved) (h.cached ▸ hcached)
    fun hin => hreason (h.reason.2 hin)

structure Later (core core' : CoreLife) : Prop where
  known : ∀ generation, core.Known generation → core'.Known generation
  ended : ∀ generation, generation ∈ core.ended → generation ∈ core'.ended

theorem Later.refl (core : CoreLife) : Later core core := ⟨fun _ h => h, fun _ h => h⟩

theorem Later.trans {core'' : CoreLife} (h : Later core core') (h' : Later core' core'') :
    Later core core'' :=
  ⟨fun g hg => h'.known g (h.known g hg), fun g hg => h'.ended g (h.ended g hg)⟩

theorem later_of_onward (h : core.Onward core') : Later core core' :=
  ⟨fun _ hg => (hg.onward h).1, fun _ hg => CoreLife.ended_onward hg h⟩

theorem later_of_step {c : (coreCalls U S V).Call} {r : (coreCalls U S V).Reply c}
    (h : coreEnvironment permits core c r core') : Later core core' := by
  obtain ⟨_, _, mid, honward, _, rfl⟩ := h
  have hmid := later_of_onward honward
  unfold CoreLife.after
  split
  · exact ⟨hmid.known, hmid.ended⟩
  · exact hmid

theorem meets_later (p : Prog (coreCalls U S V) α) :
    Meets permits p (fun _ core' => Later core core') core := by
  have hkeeps : p.Ensures (coreEnvironment permits) (Later core) (fun _ _ => True) core :=
    Prog.ensures_of_step p (fun _ _ _ _ h hstep => h.trans (later_of_step hstep)) (.refl core)
  exact hkeeps.mono (fun _ _ => trivial) fun _ _ h _ => h

theorem Seeded.later (h : Seeded runtime core) (hlater : Later core core') :
    Seeded runtime core' := by
  intro generation hcore
  obtain ⟨hobserved, hknown, hview⟩ := h generation hcore
  exact ⟨hobserved, hlater.known generation hknown,
    fun hlives => hview fun hended => hlives (hlater.ended generation hended)⟩

theorem seeded_unseeded (h : runtime.probeCoreGeneration = none) : Seeded runtime core := by
  intro generation hcore
  rw [h] at hcore
  cases hcore

theorem sameProbes_setHealthReason (reason : SupervisorHealthReason) (active : Bool)
    (runtime : RuntimeState) (hreason : reason ≠ .probeScheduler) :
    SameProbes runtime (runtime.setHealthReason reason active) := by
  refine ⟨rfl, rfl, rfl, rfl, ?_⟩
  rw [mem_setHealthReason, if_neg hreason.symm]

theorem sameProbes_restored (runtime : RuntimeState) : SameProbes runtime runtime.restored := by
  have hcleared := sameProbes_setHealthReason .selectionRestoration false
    { runtime with selectionRestorePending := false, selectionRestoreAttemptsRemaining := 0 }
    (by decide)
  exact ⟨rfl, rfl, rfl, rfl, hcleared.reason⟩

theorem sameProbes_begin (profiles : ProfileCatalog U S) (runtime : RuntimeState) :
    SameProbes runtime (runtime.beginSelectionRestore profiles) := by
  unfold RuntimeState.beginSelectionRestore
  split
  · exact sameProbes_restored runtime
  split
  · exact sameProbes_restored runtime
  · exact ⟨rfl, rfl, rfl, rfl, .rfl⟩

theorem sameProbes_consume (runtime : RuntimeState) :
    SameProbes runtime runtime.consumeSelectionRestoreAttempt := by
  simp only [RuntimeState.consumeSelectionRestoreAttempt]
  split
  · exact .refl runtime
  split
  · refine ⟨rfl, rfl, rfl, rfl, ?_⟩
    rw [mem_setHealthReason, if_neg (by decide)]
  · exact ⟨rfl, rfl, rfl, rfl, .rfl⟩

theorem sameProbes_renew (profiles : ProfileCatalog U S) (runtime : RuntimeState) :
    SameProbes runtime (renewRestore profiles runtime) := by
  unfold renewRestore
  split
  · exact sameProbes_begin profiles runtime
  · exact .refl runtime

variable {handle : ManagedCoreHandle} {view : Proxy.View}

theorem restoreActiveSelections_probes :
    Meets permits (restoreActiveSelections profiles handle view runtime)
      (fun runtime' core' => SameProbes runtime runtime' ∧ Later core core') core := by
  unfold restoreActiveSelections
  apply Prog.ensures_bind.2
  apply (meets_later _).mono fun _ h => h
  intro failed core' _ hlater
  cases failed with
  | true =>
    have hpending : SameProbes runtime { runtime with selectionRestorePending := true } :=
      ⟨rfl, rfl, rfl, rfl, .rfl⟩
    exact ⟨trivial, hpending.trans (sameProbes_consume _), hlater⟩
  | false => exact ⟨trivial, sameProbes_restored runtime, hlater⟩

theorem seedProbes_seeded {now : UInt64}
    (hobserved : runtime.observedCoreGeneration = some generation)
    (hcached : runtime.cachedProxyView = some view) (hknown : core.Known generation) :
    Seeded (runtime.seedProbes generation view now) core ∧
      Shown (runtime.seedProbes generation view now) := by
  simp only [RuntimeState.seedProbes]
  split
  · refine ⟨seeded_unseeded rfl, fun _ _ _ hreason => absurd ?_ hreason⟩
    rw [mem_setHealthReason, if_pos rfl]
  · rename_i probes hreset
    have hprobes : ProbesNodesOf probes view := fun _ =>
      ProbeScheduler.mem_activeNodes_reset hreset
    constructor
    · intro g hg
      cases hg
      refine ⟨hobserved, hknown, fun _ view' hview' => ?_⟩
      cases hcached.symm.trans hview'
      exact hprobes
    · intro view' _ hview' _
      cases hcached.symm.trans hview'
      exact hprobes

theorem followView_probes
    (hobserved : runtime.observedCoreGeneration = some handle.instanceGeneration)
    (hknown : core.Known handle.instanceGeneration)
    (hsteady : runtime.probeCoreGeneration = some handle.instanceGeneration →
      ProbesNodesOf runtime.probes view) : Meets permits (followView profiles handle view runtime)
      (fun runtime' core' => Seeded runtime' core' ∧ Shown runtime') core := by
  have hrestore : ∀ (runtime₁ : RuntimeState) (core₁ : CoreLife),
      Seeded runtime₁ core₁ ∧ Shown runtime₁ →
      Meets permits (if runtime₁.selectionRestorePending then
          restoreActiveSelections profiles handle view runtime₁
        else return runtime₁) (fun runtime' core' => Seeded runtime' core' ∧ Shown runtime')
        core₁ := by
    rintro runtime₁ core₁ ⟨hseeded, hshown⟩
    split
    · apply restoreActiveSelections_probes.mono fun _ h => h
      rintro runtime' core' - ⟨hsame, hlater⟩
      exact ⟨hsame.seeded (hseeded.later hlater), hsame.shown hshown⟩
    · exact ⟨trivial, hseeded, hshown⟩
  unfold followView
  dsimp only
  split
  · refine ⟨trivial, fun now core₁ hstep => ?_⟩
    apply hrestore
    refine seedProbes_seeded ?_ ?_ ?_
    · exact hobserved
    · rfl
    · exact (later_of_step hstep).known _ hknown
  · rename_i hcore
    have hprobes := hsteady (not_not.1 hcore)
    apply hrestore
    constructor
    · intro g hg
      cases (not_not.1 hcore).symm.trans hg
      refine ⟨hobserved, hknown, fun _ view' hview' => ?_⟩
      cases hview'
      exact hprobes
    · intro view' _ hview' _
      cases hview'
      exact hprobes

def Steady (permits : CoreReplies U S V)
    (runtime : RuntimeState) : Prop :=
  ∀ handle order view, permits (.proxyView handle order) (.ok view) →
    runtime.probeCoreGeneration = some handle.instanceGeneration →
    ProbesNodesOf runtime.probes view

def FailsUnshown (permits : CoreReplies U S V)
    (runtime : RuntimeState) : Prop :=
  ∀ handle order, permits (.proxyView handle order) (.error ()) →
    runtime.probeCoreGeneration ≠ some handle.instanceGeneration →
    runtime.observedCoreGeneration = some handle.instanceGeneration →
    runtime.cachedProxyView = none

theorem SameProbes.steady (h : SameProbes runtime runtime') (hsteady : Steady permits runtime) :
    Steady permits runtime' := by
  intro handle order view hpermits hcore
  rw [h.probes]
  exact hsteady handle order view hpermits (h.probeCore ▸ hcore)

theorem SameProbes.failsUnshown (h : SameProbes runtime runtime')
    (hfails : FailsUnshown permits runtime) : FailsUnshown permits runtime' := by
  intro handle order hpermits hcore hobserved
  rw [h.cached]
  exact hfails handle order hpermits (h.probeCore ▸ hcore) (h.observed ▸ hobserved)

theorem observe_probes {profiles : ProfileCatalog U S} (hseeded : Seeded runtime core)
    (hsteady : Steady permits runtime) (hnew : runtime' =
      if runtime.observedCoreGeneration ≠ some generation then
        runtime.forgetCore (some generation) profiles else runtime) :
    runtime'.observedCoreGeneration = some generation ∧ Seeded runtime' core ∧
      Steady permits runtime' ∧ (FailsUnshown permits runtime → FailsUnshown permits runtime') := by
  split at hnew
  · have hsame := sameProbes_begin profiles
      { runtime with
        observedCoreGeneration := some generation, probeCoreGeneration := none
        cachedProxyView := none, probes := runtime.probes.deactivate }
    subst hnew
    refine ⟨hsame.observed, seeded_unseeded hsame.probeCore, ?_, ?_⟩
    · intro handle order view _ hcore
      cases hsame.probeCore.symm.trans hcore
    · intro _ handle order _ _ _
      exact hsame.cached
  · rename_i hsame
    subst hnew
    exact ⟨not_not.1 hsame, hseeded, hsteady, id⟩

theorem followCore_probes (hactive : profiles.activeProfileId ≠ none) (horderly : Orderly profiles)
    (hmortal : core.Mortal) (hrunning : core.running = some handle.instanceGeneration)
    (hseeded : Seeded runtime core) (hsteady : Steady permits runtime) :
    Meets permits (followCore parts profiles handle runtime) (fun runtime' core' =>
      Seeded runtime' core' ∧ (FailsUnshown permits runtime → Shown runtime')) core := by
  obtain ⟨runtime₁, heq⟩ : ∃ runtime₁, runtime₁ =
      if runtime.observedCoreGeneration ≠ some handle.instanceGeneration then
        runtime.forgetCore (some handle.instanceGeneration) profiles else runtime := ⟨_, rfl⟩
  obtain ⟨hobserved, hseeded₁, hsteady₁, hfails₁⟩ := observe_probes hseeded hsteady heq
  -- the instance is running, so it has not ended
  have hprobed : runtime₁.probeCoreGeneration = some handle.instanceGeneration →
      Shown runtime₁ := fun hcore view _ hcached _ =>
    (hseeded₁ _ hcore).2.2 (hmortal _ hrunning) view hcached
  unfold followCore
  rw [← heq]
  dsimp only
  split
  · rename_i hkept
    exact ⟨trivial, hseeded₁, fun _ => hprobed hkept.1⟩
  obtain ⟨id, hid⟩ := Option.ne_none_iff_exists'.1 hactive
  obtain ⟨profile, hprofile⟩ := horderly.present id hid
  have horder : effectiveGroupOrderWithHealth parts profiles runtime₁ =
      (.ok (parts.groupOrder profile.snapshot),
        runtime₁.setHealthReason .configurationProjection false) := by
    simp [effectiveGroupOrderWithHealth, effectiveGroupOrder, hid, hprofile]
  have hsame := sameProbes_setHealthReason .configurationProjection false runtime₁ (by decide)
  rw [horder]
  refine ⟨trivial, fun reply core₁ hview => ?_⟩
  have hlater := later_of_step hview
  cases reply with
  | ok view =>
    have hfollow : Meets permits (followView profiles handle view
        (runtime₁.setHealthReason .configurationProjection false)) _ core₁ :=
      followView_probes hobserved (hlater.known _ (.inl hrunning))
        (hsteady₁ handle _ view hview.1)
    refine hfollow.mono (fun _ h => h) fun runtime' core' _ h => ?_
    exact ⟨h.1, fun _ => h.2⟩
  | error _ =>
    have hsame' := hsame.trans (sameProbes_consume _)
    refine ⟨trivial, hsame'.seeded (hseeded₁.later hlater), fun hfails => hsame'.shown ?_⟩
    by_cases hcore : runtime₁.probeCoreGeneration = some handle.instanceGeneration
    · exact hprobed hcore
    · intro view _ hcached
      cases (hfails₁ hfails handle _ hview.1 hcore hobserved).symm.trans hcached

theorem shown_unobserved (h : runtime.observedCoreGeneration = none) : Shown runtime := by
  intro view hobserved
  rw [h] at hobserved
  cases hobserved

theorem reconcileRuntimeState_probes (horderly : Orderly profiles) (hmortal : core.Mortal)
    (hseeded : Seeded runtime core) (hsteady : Steady permits runtime) :
    Meets permits (reconcileRuntimeState parts profiles runtime) (fun runtime' core' =>
      Seeded runtime' core' ∧ (FailsUnshown permits runtime → Shown runtime')) core := by
  unfold reconcileRuntimeState
  split
  · exact ⟨trivial, seeded_unseeded rfl, fun _ => shown_unobserved rfl⟩
  rename_i hactive
  have hsame := sameProbes_renew profiles runtime
  refine ⟨trivial, fun status core₁ hstatus => ?_⟩
  have honward := onward_of_step rfl hstatus
  have hseeded₁ := (hsame.seeded hseeded).later (later_of_onward honward)
  have hgone : ∀ runtime₁, Seeded runtime₁ core₁ → ∀ runtime₂, runtime₂ =
      (if runtime₁.observedCoreGeneration.isSome then runtime₁.forgetCore none profiles
        else runtime₁).consumeSelectionRestoreAttempt →
      Seeded runtime₂ core₁ ∧ (FailsUnshown permits runtime → Shown runtime₂) := by
    rintro runtime₁ hseeded₁ _ rfl
    split
    · have hforgot := (sameProbes_begin profiles { runtime₁ with
          observedCoreGeneration := none, probeCoreGeneration := none
          cachedProxyView := none, probes := runtime₁.probes.deactivate }).trans
        (sameProbes_consume _)
      exact ⟨seeded_unseeded hforgot.probeCore, fun _ => shown_unobserved hforgot.observed⟩
    · rename_i hnone
      have hkept := sameProbes_consume runtime₁
      refine ⟨hkept.seeded hseeded₁, fun _ => shown_unobserved (hkept.observed.trans ?_)⟩
      simpa using hnone
  rcases status with _ | _ | handle
  · exact ⟨trivial, hgone _ hseeded₁ _ rfl⟩
  · exact ⟨trivial, hgone _ hseeded₁ _ rfl⟩
  · have hfollow : Meets permits (followCore parts profiles handle (renewRestore profiles runtime))
        _ core₁ :=
      followCore_probes hactive horderly (hmortal.onward honward) (running_of_status hstatus)
        hseeded₁ (hsame.steady hsteady)
    refine hfollow.mono (fun _ h => h) fun runtime' core' _ h => ?_
    exact ⟨h.1, fun hfails => h.2 (hsame.failsUnshown hfails)⟩

theorem resetRuntimeState_probes (horderly : Orderly profiles) (hmortal : core.Mortal) :
    Meets permits (resetRuntimeState parts profiles runtime)
      (fun runtime' core' => Seeded runtime' core') core := by
  have hsame := sameProbes_begin profiles { runtime with
    observedCoreGeneration := none, probeCoreGeneration := none, cachedProxyView := none }
  have hsteady : Steady permits ({ runtime with
      observedCoreGeneration := none, probeCoreGeneration := none
      cachedProxyView := none }.beginSelectionRestore profiles) := by
    intro handle order view _ hcore
    cases hsame.probeCore.symm.trans hcore
  exact (reconcileRuntimeState_probes horderly hmortal (seeded_unseeded hsame.probeCore)
    hsteady).mono (fun _ h => h) fun _ _ _ h => h.1

theorem Unmoved.seeded (h : Unmoved runtime runtime') (hseeded : Seeded runtime core)
    (hlater : Later core core') (hsteady : Steady permits runtime)
    (hview : ∀ view, runtime'.cachedProxyView = some view →
      runtime.cachedProxyView = some view ∨ ∃ handle order,
        permits (.proxyView handle order) (.ok view) ∧ ∀ g, core.Known g → g ∉ core'.ended →
          handle.instanceGeneration = g) : Seeded runtime' core' := by
  intro g hg
  rw [h.probeCore] at hg
  obtain ⟨hobserved, hknown, hprobes⟩ := hseeded g hg
  refine ⟨h.observed.trans hobserved, hlater.known g hknown, fun hlives view hcached => ?_⟩
  rw [h.probes]
  rcases hview view hcached with hkept | ⟨handle, order, hpermits, hsame⟩
  · exact hprobes (fun hended => hlives (hlater.ended g hended)) view hkept
  · apply hsteady handle order view hpermits
    rw [hg, hsame g hknown hlives]

theorem Viewed.seeded (hviewed : Viewed permits core core' runtime runtime')
    (h : Unmoved runtime runtime') (hseeded : Seeded runtime core) (hlater : Later core core')
    (hsteady : Steady permits runtime) : Seeded runtime' core' := by
  apply h.seeded hseeded hlater hsteady
  intro view hcached
  cases hviewed with
  | kept hkept => exact .inl (hkept.symm.trans hcached)
  | loaded hloaded hpermits hran =>
    cases hloaded.symm.trans hcached
    refine .inr ⟨_, _, hpermits, fun g hknown hlives => ?_⟩
    -- while the instance has not ended, no other is running
    obtain ⟨mid, honward, hrunning, hsince⟩ := hran
    have hmid : mid.running = some g := (hknown.onward honward).1.resolve_right fun hended =>
      hlives (CoreLife.ended_onward hended hsince)
    exact Option.some.inj (hrunning.symm.trans hmid)

section

variable {state state' : SupervisorState U S V} {handle : ManagedCoreHandle} {group : ProxyGroup}
  {selection : NodeSelection}

theorem Selected.later
    (h : Selected permits groupSelector nodeSelector state core runtime handle view group selection
      core') : Later core core' := by
  obtain ⟨mid, hmid, _, honward⟩ := h.accepted
  have haccept : Later mid (mid.accept handle.instanceGeneration selection) :=
    ⟨fun _ h => h, fun _ h => h⟩
  exact ((later_of_onward hmid).trans haccept).trans (later_of_onward honward)

theorem Selected.seeded
    (h : Selected permits groupSelector nodeSelector state core runtime handle view group selection
      core') (hseeded : Seeded state.runtime core) (hsteady : Steady permits state.runtime) :
    Seeded runtime core' := by
  apply h.unmoved.seeded hseeded h.later hsteady
  intro view' hcached
  cases h.cached.symm.trans hcached
  obtain ⟨order, hpermits⟩ := h.permitted
  exact .inr ⟨handle, order, hpermits, fun g hknown hlives => ((h.observed hknown).2 hlives).1⟩

theorem Selects.seeded (h : Selects permits groupSelector nodeSelector state core state' core')
    (hseeded : Seeded state.runtime core) (hsteady : Steady permits state.runtime) :
    Seeded state'.runtime core' := by
  cases h with
  | failed honward hunmoved hviewed =>
    exact hviewed.seeded hunmoved hseeded (later_of_onward honward) hsteady
  | lost hselected _ => exact hselected.seeded hseeded hsteady
  | stored hselected _ _ =>
    intro g hg
    obtain ⟨hobserved, hknown, _⟩ := hselected.seeded hseeded hsteady g hg
    refine ⟨hobserved, hknown, fun _ view hview => ?_⟩
    cases hview
  | takenBack hselected _ honward _ =>
    have hmid := (hselected.seeded hseeded hsteady).later (later_of_onward honward)
    exact hmid.later ⟨fun _ h => h, fun _ h => h⟩
  | reported hselected =>
    exact (sameProbes_setHealthReason .selectionCompensation true _ (by decide)).seeded
      (hselected.seeded hseeded hsteady)

end

/-- Another configuration may run at the end of the turn. -/
def RuntimeTurn.resets : RuntimeTurn U S → Bool
  | .add _ _ _ _ _ | .use _ | .refresh _ _ _ => true
  | _ => false

/-- While one instance is running its views have the same nodes, and a view that fails to load in a
reconciliation before the probes are seeded fails as long as no other is shown. -/
def steadyNodes : RunConditions U S V where
  turn _ _ := True
  reply turn state c r := match c, r with
    | .proxyView handle _, .ok view => turn.resets = false →
      state.runtime.probeCoreGeneration = some handle.instanceGeneration →
      ProbesNodesOf state.runtime.probes view
    | .proxyView handle _, .error _ => turn = .reconcile →
      state.runtime.probeCoreGeneration ≠ some handle.instanceGeneration →
      state.runtime.observedCoreGeneration = some handle.instanceGeneration →
      state.runtime.cachedProxyView = none
    | _, _ => True

structure Probed (x : RuntimeWorld U S V) : Prop where
  mortal : x.core.Mortal
  orderly : Orderly x.state.memory.profiles
  seeded : Seeded x.state.runtime x.core

theorem Selects.orderly {state state' : SupervisorState U S V}
    (horderly : Orderly state.memory.profiles)
    (h : Selects permits groupSelector nodeSelector state core state' core') :
    Orderly state'.memory.profiles := by
  cases h with
  | stored hselected _ hnew =>
    exact horderly.withSelection (selectionBySelector_spec hselected.chosen).2.1 hnew
  | failed _ _ _ | lost _ _ | takenBack _ _ _ _ | reported _ => exact horderly

variable {x : RuntimeWorld U S V}

theorem Probed.effect {turn : RuntimeTurn U S} {tasks : List RefreshTask}
    {state : SupervisorState U S V} (h : Probed x)
    (hsteady : turn.resets = false → Steady permits x.state.runtime)
    (heffect : TurnEffect permits X parts turn x.state x.core tasks state core) :
    Orderly state.memory.profiles ∧ Seeded state.runtime core := by
  cases heffect with
  | catalog hleaves =>
    obtain ⟨calls, reset, core₁, honward, hmoves, _, hruntime⟩ := hleaves
    have horderly := h.orderly.moved hmoves
    refine ⟨horderly, ?_⟩
    split at hruntime
    · exact (resetRuntimeState_probes horderly (h.mortal.onward honward)).finishes hruntime
    · obtain ⟨hsame, rfl⟩ := hruntime
      rw [hsame]
      exact h.seeded.later (later_of_onward honward)
  | probed _ honward hactive =>
    refine ⟨h.orderly, fun g hg => ?_⟩
    obtain ⟨hobserved, hknown, hprobes⟩ := h.seeded.later (later_of_onward honward) g hg
    refine ⟨hobserved, hknown, fun hlives view hview node => ?_⟩
    rw [hactive]
    exact hprobes hlives view hview node
  | selected hturn hselects =>
    subst hturn
    exact ⟨hselects.orderly h.orderly, hselects.seeded h.seeded (hsteady rfl)⟩
  | viewed hturn honward hunmoved hviewed =>
    refine ⟨h.orderly, hviewed.seeded hunmoved h.seeded (later_of_onward honward) (hsteady ?_)⟩
    rcases hturn with rfl | rfl
    · rfl
    · rfl
  | reconciled hturn hfinishes =>
    subst hturn
    exact ⟨h.orderly, ((reconcileRuntimeState_probes h.orderly h.mortal h.seeded
      (hsteady rfl)).finishes hfinishes).1⟩
  | retried hturn hfinishes =>
    subst hturn
    have hsame := sameProbes_renew x.state.memory.profiles x.state.runtime
    exact ⟨h.orderly, ((reconcileRuntimeState_probes h.orderly h.mortal
      (hsame.seeded h.seeded) (hsame.steady (hsteady rfl))).finishes hfinishes).1⟩

theorem Probed.turn {y : RuntimeWorld U S V} {turn : RuntimeTurn U S} (h : Probed x)
    (hturn : TakesRuntimeTurn X parts steadyNodes turn x y) : Probed y := by
  cases hturn with
  | mk _ hfinishes =>
    obtain ⟨horderly, hseeded⟩ := h.effect
      (fun hresets _ _ _ hpermits => hpermits hresets) ((turn_meets turn).finishes hfinishes)
    exact ⟨mortal_of_finishes h.mortal hfinishes, horderly, hseeded⟩

theorem Probed.run {memory : SupervisorMemory U S V}
    (horderly : Orderly memory.profiles) (hmortal : core.Mortal)
    (hrun : RuntimeRuns X parts steadyNodes (.opened memory core) x) : Probed x := by
  apply hrun.keeps (P := Probed)
  · exact ⟨hmortal, horderly, seeded_unseeded rfl⟩
  · intro turn y z hy hturn
    exact hy.turn hturn
  · intro y core' hy hevent
    exact ⟨hevent.mortal, hy.orderly, hy.seeded.later (later_of_onward (.single hevent))⟩

/-- As long as the nodes of an instance stay the same: when a reconciliation ends with an instance
observed and a view shown, and does not report the probes, the eligible nodes of the view are the
ones that are probed. -/
theorem probed_nodes_shown {memory : SupervisorMemory U S V} {x y : RuntimeWorld U S V}
    {view : Proxy.View} (horderly : Orderly memory.profiles) (hmortal : core.Mortal)
    (hrun : RuntimeRuns X parts steadyNodes (.opened memory core) x)
    (hreconcile : TakesRuntimeTurn X parts steadyNodes .reconcile x y)
    (hobserved : y.state.runtime.observedCoreGeneration = some generation)
    (hcached : y.state.runtime.cachedProxyView = some view)
    (hreason : .probeScheduler ∉ y.state.runtime.healthReasons) (node : NodeRecordId) :
    node ∈ y.state.runtime.probes.activeNodes ↔ node ∈ eligibleNodes view := by
  have hprobed := Probed.run horderly hmortal hrun
  have hshown : Shown y.state.runtime := by
    cases hreconcile with
    | mk _ hfinishes =>
      have hscope : Meets (steadyNodes.reply .reconcile x.state)
          (((RuntimeTurn.reconcile).scope X parts).runFrom x.state)
          (fun out _ => Shown out.2.runtime) x.core := by
        apply discard_tasks (P := fun _ state _ => Shown state.runtime)
        apply (updateRuntime_meets _ _ _).mono fun _ h => h
        rintro _ core' - ⟨runtime, rfl, hfinishes⟩
        refine ((reconcileRuntimeState_probes hprobed.orderly hprobed.mortal hprobed.seeded
          ?_).finishes hfinishes).2 ?_
        · exact fun _ _ _ hpermits => hpermits rfl
        · exact fun _ _ hpermits => hpermits rfl
      exact hscope.finishes hfinishes
  exact hshown view (by rw [hobserved]; rfl) hcached hreason node

/-- The nodes that are shown at the first reconciliation are probed. -/
theorem probed_nodes_shown_plain : TakesRuntimeTurn Plain.codec homeParts steadyNodes .reconcile
        (.opened (savedMemory "G" shownNode) firstCore) restoredWorld ∧
      shownNode ∈ restoredWorld.state.runtime.probes.activeNodes := by
  have hreconcile : TakesRuntimeTurn Plain.codec homeParts steadyNodes .reconcile
      (.opened (savedMemory "G" shownNode) firstCore) restoredWorld := by
    apply takes_plainTurn _ _ (some plainView) trivial
    intro c r
    cases c with
    | proxyView handle order =>
      cases r with
      | ok view =>
        intro _ hcore
        cases hcore
      | error _ =>
        intro _ _ hobserved
        cases hobserved
    | _ => trivial
  have hstate : restoredWorld.state.runtime.observedCoreGeneration = some 1 ∧
      restoredWorld.state.runtime.cachedProxyView.map eligibleNodes = some [shownNode] ∧
      .probeScheduler ∉ restoredWorld.state.runtime.healthReasons := by
    decide +kernel
  obtain ⟨hobserved, hshown, hreason⟩ := hstate
  obtain ⟨view, hcached, hnodes⟩ := Option.map_eq_some_iff.1 hshown
  refine ⟨hreconcile, ?_⟩
  refine (probed_nodes_shown (orderly_savedMemory "G" shownNode) ?_ .refl hreconcile hobserved
    hcached hreason shownNode).2 ?_
  · intro g _ hended
    cases hended
  · rw [hnodes]
    exact List.mem_singleton_self _

def emptyView : Proxy.View := Proxy.buildProxyView Proxy.plainSha256 ∅ none []

def vanishingWorld : RuntimeWorld Unit String Unit :=
  plainTurn Plain.codec homeParts (some emptyView) .status restoredWorld

def vanishedWorld : RuntimeWorld Unit String Unit :=
  plainTurn Plain.codec homeParts (some emptyView) .reconcile vanishingWorld

/-- A node that is not shown any more is probed after a reconciliation. -/
theorem vanished_node_probed :
    RuntimeRuns Plain.codec homeParts .none (.opened (savedMemory "G" shownNode) firstCore)
        vanishingWorld ∧
      TakesRuntimeTurn Plain.codec homeParts .none .reconcile vanishingWorld vanishedWorld ∧
      vanishedWorld.core.running = some 1 ∧
      vanishedWorld.state.runtime.observedCoreGeneration = some 1 ∧
      vanishedWorld.state.runtime.cachedProxyView.map eligibleNodes = some [] ∧
      .probeScheduler ∉ vanishedWorld.state.runtime.healthReasons ∧
      shownNode ∈ vanishedWorld.state.runtime.probes.activeNodes := by
  have hobserved : RuntimeRuns Plain.codec homeParts .none
      (.opened (savedMemory "G" shownNode) firstCore) restoredWorld :=
    .turn .reconcile .refl (takes_plainTurn _ _ (some plainView) trivial fun _ _ => trivial)
  have hviewed : TakesRuntimeTurn Plain.codec homeParts .none .status restoredWorld
      vanishingWorld :=
    takes_plainTurn _ _ (some emptyView) trivial fun _ _ => trivial
  refine ⟨.turn .status hobserved hviewed, ?_, ?_⟩
  · exact takes_plainTurn _ _ (some emptyView) trivial fun _ _ => trivial
  · decide +kernel

end Supervisor

end Ratash

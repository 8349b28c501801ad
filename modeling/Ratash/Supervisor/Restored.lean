import Ratash.Proxy.Selection
import Ratash.Supervisor.RuntimeViews

/-!
While an instance of the Core that has been observed is running, either it has accepted every saved
selection of the active profile, or something says that it has not.
-/

namespace Ratash

open Interaction Relation

open Std (ExtTreeMap)

namespace Supervisor

variable {D U S V : Type} {X : Codec D} {parts : ProfileParts U S V}
  {permits : CoreReplies U S V}
  {core core' : CoreLife} {generation : CoreInstanceGeneration} {profiles new : ProfileCatalog U S}
  {runtime runtime' : RuntimeState}

def IsRecordId (text : String) : Prop := ∃ id : NodeRecordId, id.asStr = text

variable {view : Proxy.View}

theorem groupName_selectionBySelector
    (h : view.selectionBySelector groupName selector = .ok selection) :
    selection.groupName = groupName := by
  obtain ⟨group, _, h⟩ := bind_eq_ok.1 h
  split at h
  · unfold Proxy.View.selectRecord at h
    split at h
    · cases h
      rfl
    · cases h
    · cases h
  · obtain ⟨_, _, h⟩ := bind_eq_ok.1 h
    obtain ⟨seen, _, h⟩ := bind_eq_ok.1 h
    unfold Proxy.Seen.conclude at h
    split at h
    · cases h
    split at h
    · cases h
      rfl
    split at h
    · cases h
    split at h
    · cases h
    · cases h

variable {selection : NodeSelection}

theorem selectionBySelector_spec (h : selectionBySelector view groupName selector = .ok selection) :
    selection.groupName = groupName ∧ IsRecordId selection.recordId ∧
      (IsRecordId selector → selection.recordId = selector) := by
  unfold selectionBySelector at h
  split at h
  · cases h
  · rename_i chosen hchosen
    cases h
    refine ⟨groupName_selectionBySelector hchosen, ⟨_, rfl⟩, ?_⟩
    rintro ⟨id, rfl⟩
    obtain ⟨_, _, _, hid, _⟩ :=
      Proxy.View.selectionBySelector_id (NodeRecordId.parse_asStr id) hchosen
    exact congrArg NodeRecordId.asStr hid

def AllAccepted (profiles : ProfileCatalog U S) (core : CoreLife)
    (generation : CoreInstanceGeneration) : Prop :=
  ∀ group node : String, profiles.activeSelections[group]? = some node →
    core.accepted generation group = some node

/-- A restoration is pending, or it has been given up, or a selection could not be taken back. -/
def Reported (runtime : RuntimeState) : Prop :=
  runtime.selectionRestorePending = true ∨ .selectionRestoration ∈ runtime.healthReasons ∨
    .selectionCompensation ∈ runtime.healthReasons

def Accounted (profiles : ProfileCatalog U S) (runtime : RuntimeState) (core : CoreLife) : Prop :=
  ∀ generation, runtime.observedCoreGeneration = some generation → core.Known generation ∧
    (generation ∉ core.ended → Reported runtime ∨ AllAccepted profiles core generation)

theorem Accounted.onward (h : Accounted profiles runtime core) (honward : core.Onward core') :
    Accounted profiles runtime core' := by
  intro generation hobserved
  obtain ⟨hknown, haccounted⟩ := h generation hobserved
  obtain ⟨hknown', haccepted⟩ := hknown.onward honward
  refine ⟨hknown', fun hlives => ?_⟩
  have hlived : generation ∉ core.ended := fun h => hlives (CoreLife.ended_onward h honward)
  apply (haccounted hlived).imp_right
  intro hall group node hsaved
  rw [haccepted]
  exact hall group node hsaved

theorem Accounted.mono (h : Accounted profiles runtime core)
    (hobserved : runtime'.observedCoreGeneration = runtime.observedCoreGeneration)
    (hreported : Reported runtime → Reported runtime')
    (hsaved : new.activeSelections = profiles.activeSelections) : Accounted new runtime' core := by
  intro generation hg
  obtain ⟨hknown, haccounted⟩ := h generation (hobserved ▸ hg)
  refine ⟨hknown, fun hlives => (haccounted hlives).imp hreported ?_⟩
  intro hall group node hnode
  exact hall group node (hsaved ▸ hnode)

theorem Unmoved.reported (h : Unmoved runtime runtime') (hreported : Reported runtime) :
    Reported runtime' := by
  rcases hreported with hpending | hreason | hreason
  · exact .inl (h.pending.trans hpending)
  · exact .inr (.inl ((h.reasons _ (by decide)).2 hreason))
  · exact .inr (.inr ((h.reasons _ (by decide)).2 hreason))

theorem Accounted.unmoved (h : Accounted profiles runtime core)
    (hunmoved : Unmoved runtime runtime') : Accounted profiles runtime' core :=
  h.mono hunmoved.observed hunmoved.reported rfl

theorem accounted_unobserved (h : runtime.observedCoreGeneration = none) :
    Accounted profiles runtime core := by
  intro generation hg
  rw [h] at hg
  cases hg

theorem accounted_reported (hknown : ∀ g, runtime.observedCoreGeneration = some g → core.Known g)
    (h : Reported runtime) : Accounted profiles runtime core :=
  fun generation hg => ⟨hknown generation hg, fun _ => .inl h⟩

theorem observed_begin (profiles : ProfileCatalog U S) (runtime : RuntimeState) :
    (runtime.beginSelectionRestore profiles).observedCoreGeneration =
      runtime.observedCoreGeneration := by
  unfold RuntimeState.beginSelectionRestore
  split
  · rfl
  split
  · rfl
  · rfl

theorem pending_begin (profiles : ProfileCatalog U S) (runtime : RuntimeState) :
    (runtime.beginSelectionRestore profiles).selectionRestorePending = true ∨
      ∀ group : String, profiles.activeSelections[group]? = none := by
  unfold RuntimeState.beginSelectionRestore
  split
  · rename_i hinactive
    refine .inr fun group => ?_
    simp [ProfileCatalog.activeSelections, hinactive]
  split
  · rename_i hempty
    refine .inr fun group => ?_
    rw [ExtTreeMap.isEmpty_iff.1 hempty]
    simp
  · exact .inl rfl

theorem accounted_begin (hknown : ∀ g, runtime.observedCoreGeneration = some g → core.Known g) :
    Accounted profiles (runtime.beginSelectionRestore profiles) core := by
  intro generation hg
  rw [observed_begin] at hg
  refine ⟨hknown generation hg, fun _ => ?_⟩
  rcases pending_begin profiles runtime with hpending | hnone
  · exact .inl (.inl hpending)
  · refine .inr fun group node hsaved => ?_
    rw [hnone group] at hsaved
    cases hsaved

theorem observed_consume (runtime : RuntimeState) :
    runtime.consumeSelectionRestoreAttempt.observedCoreGeneration =
      runtime.observedCoreGeneration := by
  simp only [RuntimeState.consumeSelectionRestoreAttempt]
  split
  · rfl
  split
  · rfl
  · rfl

theorem reported_consume (h : Reported runtime) :
    Reported runtime.consumeSelectionRestoreAttempt := by
  simp only [RuntimeState.consumeSelectionRestoreAttempt]
  split
  · exact h
  rename_i hpending
  split
  · refine .inr (.inl ?_)
    rw [mem_setHealthReason, if_pos rfl]
  · exact .inl (by simpa using hpending)

theorem Accounted.consume (h : Accounted profiles runtime core) :
    Accounted profiles runtime.consumeSelectionRestoreAttempt core :=
  h.mono (observed_consume runtime) reported_consume rfl

theorem Accounted.renew (h : Accounted profiles runtime core) :
    Accounted profiles (renewRestore profiles runtime) core := by
  unfold renewRestore
  split
  · exact accounted_begin fun g hg => (h g hg).1
  · exact h

variable {handle : ManagedCoreHandle}

theorem restoreEach_meets (selections : List (String × String)) (pending : Bool)
    (hids : ∀ e ∈ selections, IsRecordId e.2) (hdistinct : selections.Pairwise fun a b => a.1 ≠ b.1)
    (hknown : core.Known handle.instanceGeneration) :
    Meets permits (restoreEach handle view selections pending) (fun failed core' =>
      core'.Known handle.instanceGeneration ∧ (failed = false → pending = false ∧
        ∀ e ∈ selections, core'.accepted handle.instanceGeneration e.1 = some e.2) ∧
      ∀ group, (∀ e ∈ selections, e.1 ≠ group) → core'.accepted handle.instanceGeneration group =
          core.accepted handle.instanceGeneration group) core := by
  induction selections generalizing core pending with
  | nil => exact ⟨trivial, hknown, fun h => ⟨h, fun e he => by cases he⟩, fun _ _ => rfl⟩
  | cons entry selections ih =>
    obtain ⟨group, nodeId⟩ := entry
    obtain ⟨hothers, hdistinct⟩ := List.pairwise_cons.1 hdistinct
    have hrest : ∀ {core₁ : CoreLife}, core₁.Known handle.instanceGeneration →
        (∀ g, g ≠ group → core₁.accepted handle.instanceGeneration g =
          core.accepted handle.instanceGeneration g) →
        Meets permits (restoreEach handle view selections true) (fun failed core' =>
          core'.Known handle.instanceGeneration ∧
          (failed = false → pending = false ∧ ∀ e ∈ (group, nodeId) :: selections,
            core'.accepted handle.instanceGeneration e.1 = some e.2) ∧
          ∀ g, (∀ e ∈ (group, nodeId) :: selections, e.1 ≠ g) →
            core'.accepted handle.instanceGeneration g =
              core.accepted handle.instanceGeneration g) core₁ := by
      intro core₁ hknown₁ hframe₁
      apply (ih true (fun e he => hids e (List.mem_cons_of_mem _ he)) hdistinct hknown₁).mono
        fun _ h => h
      rintro failed core' - ⟨hknown', hnone, hframe⟩
      refine ⟨hknown', fun hfailed => ?_, fun g hg => ?_⟩
      · cases (hnone hfailed).1
      · rw [hframe g fun e he => hg e (List.mem_cons_of_mem _ he)]
        exact hframe₁ g (hg _ List.mem_cons_self).symm
    unfold restoreEach
    split
    case h_2 _ _ => exact hrest hknown fun _ _ => rfl
    case h_1 selection hselection =>
      obtain ⟨hgroup, _, hnode⟩ := selectionBySelector_spec hselection
      have hnode := hnode (hids _ List.mem_cons_self)
      refine ⟨trivial, fun reply core₁ hselect => ?_⟩
      cases reply with
      | error _ =>
        obtain ⟨hknown₁, hsame⟩ := hknown.onward (onward_of_refused hselect)
        exact hrest hknown₁ fun g _ => congrFun hsame g
      | ok _ =>
        obtain ⟨mid, honward, hrunning, rfl⟩ := accepted_of_select hselect
        obtain ⟨_, hsame⟩ := hknown.onward honward
        have haccepted : ∀ g, (mid.accept handle.instanceGeneration selection).accepted
            handle.instanceGeneration g = if g = group then some nodeId
              else core.accepted handle.instanceGeneration g := by
          intro g
          rw [CoreLife.accept_accepted, hgroup, hnode, hsame]
        have hknown₁ : (mid.accept handle.instanceGeneration selection).Known
            handle.instanceGeneration := .inl hrunning
        apply (ih pending (fun e he => hids e (List.mem_cons_of_mem _ he)) hdistinct hknown₁).mono
          fun _ h => h
        rintro failed core' - ⟨hknown', hdone, hframe⟩
        refine ⟨hknown', fun hfailed => ⟨(hdone hfailed).1, fun e he => ?_⟩, fun g hg => ?_⟩
        · rcases List.mem_cons.1 he with rfl | he
          · rw [hframe group fun e he => (hothers e he).symm, haccepted, if_pos rfl]
          · exact (hdone hfailed).2 e he
        · rw [hframe g fun e he => hg e (List.mem_cons_of_mem _ he), haccepted,
            if_neg (hg _ List.mem_cons_self).symm]

theorem restoreActiveSelections_meets
    (hids : ∀ group node : String, profiles.activeSelections[group]? = some node → IsRecordId node)
    (hobserved : runtime.observedCoreGeneration = some handle.instanceGeneration)
    (hknown : core.Known handle.instanceGeneration) :
    Meets permits (restoreActiveSelections profiles handle view runtime)
      (fun runtime' core' => Accounted profiles runtime' core') core := by
  unfold restoreActiveSelections
  apply Prog.ensures_bind.2
  have hdistinct : profiles.activeSelections.toList.Pairwise fun a b => a.1 ≠ b.1 :=
    profiles.activeSelections.distinct_keys_toList.imp fun h heq => h (Std.compare_eq_iff_eq.2 heq)
  apply (restoreEach_meets profiles.activeSelections.toList false
    (fun e he => hids e.1 e.2 (ExtTreeMap.mem_toList_iff_getElem?_eq_some.1 he)) hdistinct
    hknown).mono fun _ h => h
  rintro failed core' - ⟨hknown', hdone, _⟩
  cases failed with
  | true =>
    refine ⟨trivial, accounted_reported ?_ (reported_consume (.inl rfl))⟩
    intro g hg
    rw [observed_consume] at hg
    cases hobserved.symm.trans hg
    exact hknown'
  | false =>
    refine ⟨trivial, fun g hg => ?_⟩
    cases hobserved.symm.trans hg
    refine ⟨hknown', fun _ => .inr fun group node hsaved => ?_⟩
    exact (hdone rfl).2 (group, node) (ExtTreeMap.mem_toList_iff_getElem?_eq_some.2 hsaved)

def SavedIds (profiles : ProfileCatalog U S) : Prop :=
  ∀ group node : String, profiles.activeSelections[group]? = some node → IsRecordId node

theorem seedProbes_unreported (handle : ManagedCoreHandle) (view : Proxy.View) (now : UInt64)
    (runtime : RuntimeState) :
    (runtime.seedProbes handle.instanceGeneration view now).observedCoreGeneration =
        runtime.observedCoreGeneration ∧
      (Reported runtime → Reported (runtime.seedProbes handle.instanceGeneration view now)) := by
  simp only [RuntimeState.seedProbes]
  split
  all_goals
    refine ⟨rfl, fun h => h.imp id (Or.imp ?_ ?_)⟩
    all_goals
      intro hreason
      rw [mem_setHealthReason, if_neg (by decide)]
      exact hreason

theorem followView_meets (hids : SavedIds profiles)
    (hobserved : runtime.observedCoreGeneration = some handle.instanceGeneration)
    (h : Accounted profiles runtime core) : Meets permits (followView profiles handle view runtime)
      (fun runtime' core' => Accounted profiles runtime' core') core := by
  have hrestore : ∀ (runtime' : RuntimeState) (core' : CoreLife),
      runtime'.observedCoreGeneration = some handle.instanceGeneration →
      Accounted profiles runtime' core' →
      Meets permits (if runtime'.selectionRestorePending then
          restoreActiveSelections profiles handle view runtime'
        else return runtime') (fun runtime' core' => Accounted profiles runtime' core') core' := by
    intro runtime' core' hobserved' h'
    split
    · exact restoreActiveSelections_meets hids hobserved' (h' _ hobserved').1
    · exact ⟨trivial, h'⟩
  have hcached : Accounted profiles { runtime with cachedProxyView := some view } core :=
    h.mono rfl id rfl
  unfold followView
  dsimp only
  split
  · refine ⟨trivial, fun now core₁ hstep => ?_⟩
    obtain ⟨hsame, hreported⟩ := seedProbes_unreported handle view now
      { runtime with cachedProxyView := some view }
    apply hrestore _ _ (hsame.trans hobserved)
    exact (hcached.onward (onward_of_step rfl hstep)).mono hsame hreported rfl
  · exact hrestore _ _ hobserved hcached

theorem followCore_meets (hids : SavedIds profiles)
    (hrunning : core.running = some handle.instanceGeneration)
    (h : Accounted profiles runtime core) : Meets permits (followCore parts profiles handle runtime)
      (fun runtime' core' => Accounted profiles runtime' core') core := by
  have hknown : core.Known handle.instanceGeneration := .inl hrunning
  unfold followCore
  have hobserve : ∃ runtime₁, runtime₁ =
      (if runtime.observedCoreGeneration ≠ some handle.instanceGeneration then
        runtime.forgetCore (some handle.instanceGeneration) profiles else runtime) ∧
      runtime₁.observedCoreGeneration = some handle.instanceGeneration ∧
      Accounted profiles runtime₁ core := by
    refine ⟨_, rfl, ?_⟩
    split
    · refine ⟨observed_begin _ _, accounted_begin fun g hg => ?_⟩
      cases hg
      exact hknown
    · rename_i hsame
      exact ⟨not_not.1 hsame, h⟩
  obtain ⟨runtime₁, heq, hobserved, h₁⟩ := hobserve
  rw [← heq]
  dsimp only
  split
  · exact ⟨trivial, h₁⟩
  obtain ⟨hunmoved, _⟩ := effectiveGroupOrderWithHealth_unmoved parts profiles runtime₁
  split
  case h_1 _ runtime₂ horder =>
    rw [horder] at hunmoved
    exact ⟨trivial, h₁.unmoved hunmoved⟩
  case h_2 order runtime₂ horder =>
    rw [horder] at hunmoved
    refine ⟨trivial, fun reply core₁ hview => ?_⟩
    have h₂ := (h₁.unmoved hunmoved).onward (onward_of_step rfl hview)
    cases reply with
    | error _ => exact ⟨trivial, h₂.consume⟩
    | ok view => exact followView_meets hids (hunmoved.observed.trans hobserved) h₂

theorem reconcileRuntimeState_meets (hids : SavedIds profiles)
    (h : Accounted profiles runtime core) :
    Meets permits (reconcileRuntimeState parts profiles runtime)
      (fun runtime' core' => Accounted profiles runtime' core') core := by
  unfold reconcileRuntimeState
  split
  · exact ⟨trivial, accounted_unobserved rfl⟩
  refine ⟨trivial, fun status core₁ hstatus => ?_⟩
  have h₁ := h.renew.onward (onward_of_step rfl hstatus)
  have hgone : ∀ runtime₁, Accounted profiles runtime₁ core₁ → Accounted profiles
      (if runtime₁.observedCoreGeneration.isSome then runtime₁.forgetCore none profiles
        else runtime₁).consumeSelectionRestoreAttempt core₁ := by
    intro runtime₁ h₁
    split
    · apply accounted_unobserved
      rw [observed_consume]
      exact observed_begin _ _
    · exact h₁.consume
  rcases status with _ | _ | handle
  · exact ⟨trivial, hgone _ h₁⟩
  · exact ⟨trivial, hgone _ h₁⟩
  · exact followCore_meets hids (running_of_status hstatus) h₁

theorem resetRuntimeState_meets (hids : SavedIds profiles) :
    Meets permits (resetRuntimeState parts profiles runtime)
      (fun runtime' core' => Accounted profiles runtime' core') core :=
  reconcileRuntimeState_meets hids (accounted_begin fun _ h => by cases h)

structure Orderly (profiles : ProfileCatalog U S) : Prop where
  keyed : profiles.Keyed
  present : ∀ id, profiles.activeProfileId = some id →
    ∃ profile, profiles.profiles[id]? = some profile
  ids : ∀ (id : ProfileId) (profile : Profile U S), profiles.profiles[id]? = some profile →
    ∀ group node : String, profile.selections[group]? = some node → IsRecordId node

variable {id : ProfileId}

theorem activeSelections_of_active {profile : Profile U S}
    (hactive : profiles.activeProfileId = some id)
    (hprofile : profiles.profiles[id]? = some profile) :
    profiles.activeSelections = profile.selections := by
  simp [ProfileCatalog.activeSelections, hactive, hprofile]

theorem activeSelections_inactive (hactive : profiles.activeProfileId = none) :
    profiles.activeSelections = ∅ := by
  simp [ProfileCatalog.activeSelections, hactive]

theorem Orderly.savedIds (h : Orderly profiles) : SavedIds profiles := by
  intro group node hsaved
  cases hactive : profiles.activeProfileId with
  | none => simp [activeSelections_inactive hactive] at hsaved
  | some id =>
    obtain ⟨profile, hprofile⟩ := h.present id hactive
    rw [activeSelections_of_active hactive hprofile] at hsaved
    exact h.ids id profile hprofile group node hsaved

theorem Orderly.activate (h : Orderly profiles)
    (hactivate : profiles.activate X selector = (.ok id, new)) : Orderly new := by
  have hsame := activate_profiles hactivate
  refine ⟨fun id => by rw [hsame]; exact h.keyed id, fun id hid => ?_,
    fun id => by rw [hsame]; exact h.ids id⟩
  rw [hsame]
  rcases profiles.activate_cases X selector with hcatalog | ⟨found, revision, hresolve, _, hcatalog⟩
  · rw [hactivate] at hcatalog
    cases hcatalog
    exact h.present id hid
  · rw [hactivate] at hcatalog
    cases hcatalog
    cases hid
    have hmem := ProfileCatalog.mem_of_resolve h.keyed hresolve
    exact Option.isSome_iff_exists.1 (ExtTreeMap.mem_iff_isSome_getElem?.1 hmem)

theorem Orderly.insert {profile : Profile U S} (h : Orderly profiles) (hid : profile.id = id)
    (hselections : ∀ group node : String, profile.selections[group]? = some node → IsRecordId node)
    (hnew : new = { profiles with profiles := profiles.profiles.insert id profile }) :
    Orderly new := by
  subst hnew
  have hget : ∀ other : ProfileId, (profiles.profiles.insert id profile)[other]? =
      if id = other then some profile else profiles.profiles[other]? := by
    intro other
    rw [ExtTreeMap.getElem?_insert]
    simp only [Std.compare_eq_iff_eq]
  refine ⟨fun other found hfound => ?_, fun other hother => ?_, fun other found hfound => ?_⟩
  · rw [hget] at hfound
    split at hfound
    · cases hfound
      exact hid.trans ‹_›
    · exact h.keyed other found hfound
  · rw [hget]
    split
    · exact ⟨profile, rfl⟩
    · exact h.present other hother
  · rw [hget] at hfound
    split at hfound
    · cases hfound
      exact hselections
    · exact h.ids other found hfound

theorem Orderly.erase (h : Orderly profiles) (hinactive : profiles.activeProfileId ≠ some id) :
    Orderly { profiles with profiles := profiles.profiles.erase id } := by
  have hget : ∀ other : ProfileId, (profiles.profiles.erase id)[other]? =
      if id = other then none else profiles.profiles[other]? := by
    intro other
    rw [ExtTreeMap.getElem?_erase]
    simp only [Std.compare_eq_iff_eq]
  refine ⟨fun other found hfound => ?_, fun other hother => ?_, fun other found hfound => ?_⟩
  · rw [hget] at hfound
    split at hfound
    · cases hfound
    · exact h.keyed other found hfound
  · rw [hget, if_neg]
    · exact h.present other hother
    · rintro rfl
      exact hinactive hother
  · rw [hget] at hfound
    split at hfound
    · cases hfound
    · exact h.ids other found hfound

variable {tasks : List RefreshTask}

theorem Orderly.moved {scheduler : ProfileRefreshScheduler} {turn : RuntimeTurn U S}
    {calls : List RefreshCall} {reset : Bool} (h : Orderly profiles)
    (hmoves : Moves X scheduler turn profiles new calls tasks reset) : Orderly new := by
  cases hmoves with
  | added hprofile hadded _ =>
    obtain ⟨inserted, hinsert, hnew⟩ := hadded
    have hinserted : Orderly inserted := by
      apply h.insert rfl _ (insert_profiles hinsert).2
      intro group node hnode
      rw [hprofile] at hnode
      simp [Profile.fresh] at hnode
    split at hnew
    · obtain ⟨_, hactivate⟩ := hnew
      exact hinserted.activate hactivate
    · exact hnew ▸ hinserted
  | used _ _ hactivate => exact h.activate hactivate
  | removed hremove =>
    obtain ⟨id, hinactive, _, rfl⟩ := remove_profiles hremove
    exact h.erase hinactive
  | recorded hchange _ =>
    rcases hchange with rfl | ⟨failure, next, hamend⟩
    · exact h
    · obtain ⟨old, hold, rfl⟩ := Option.map_eq_some_iff.1 hamend
      have hid : (noteFailure failure next old).id = _ := h.keyed _ old hold
      exact h.insert hid (h.ids _ old hold) rfl
  | refreshed hcommitted _ =>
    obtain ⟨old, kept, hold, hid, hselections, rfl⟩ := hcommitted.profile
    refine h.insert (hid.trans (h.keyed _ old hold)) ?_ rfl
    rw [hselections]
    exact h.ids _ old hold
  | unchanged _ | taken | completed => exact h

theorem activeSelections_congr (h : Orderly profiles)
    (hactive : new.activeProfileId = profiles.activeProfileId)
    (hkept : ∀ id profile, profiles.activeProfileId = some id →
      profiles.profiles[id]? = some profile →
      ∃ kept, new.profiles[id]? = some kept ∧ kept.selections = profile.selections) :
    new.activeSelections = profiles.activeSelections := by
  cases hid : profiles.activeProfileId with
  | none =>
    rw [activeSelections_inactive hid, activeSelections_inactive (hactive.trans hid)]
  | some id =>
    obtain ⟨profile, hprofile⟩ := h.present id hid
    obtain ⟨kept, hfound, hselections⟩ := hkept id profile hid hprofile
    rw [activeSelections_of_active hid hprofile,
      activeSelections_of_active (hactive.trans hid) hfound, hselections]

theorem activeSelections_insert {kept : Profile U S} (h : Orderly profiles)
    (hnew : new = { profiles with profiles := profiles.profiles.insert id kept })
    (hkept : ∀ old, profiles.activeProfileId = some id → profiles.profiles[id]? = some old →
      kept.selections = old.selections) :
    new.activeSelections = profiles.activeSelections := by
  subst hnew
  refine activeSelections_congr h ?_ ?_
  · rfl
  intro other profile hother hprofile
  dsimp only
  rw [ExtTreeMap.getElem?_insert]
  simp only [Std.compare_eq_iff_eq]
  split
  · rename_i hsame
    subst hsame
    exact ⟨kept, rfl, hkept profile hother hprofile⟩
  · exact ⟨profile, hprofile, rfl⟩

theorem Moves.activeSelections {scheduler : ProfileRefreshScheduler} {turn : RuntimeTurn U S}
    {calls : List RefreshCall} {reset : Bool} (h : Orderly profiles)
    (hmoves : Moves X scheduler turn profiles new calls tasks reset) (hreset : reset = false) :
    new.activeSelections = profiles.activeSelections := by
  cases hmoves with
  | added hprofile hadded _ =>
    obtain ⟨inserted, hinsert, hnew⟩ := hadded
    rw [if_neg (by simp [hreset])] at hnew
    obtain ⟨hfresh, hinserted⟩ := insert_profiles hinsert
    refine activeSelections_insert h (hnew.trans hinserted) fun old _ hold => ?_
    have hmem := ExtTreeMap.mem_iff_isSome_getElem?.2 (by rw [hold]; rfl)
    exact absurd hmem hfresh
  | used _ _ _ => cases hreset
  | removed hremove =>
    obtain ⟨id, hinactive, _, rfl⟩ := remove_profiles hremove
    refine activeSelections_congr h ?_ ?_
    · rfl
    intro other profile hother hprofile
    refine ⟨profile, ?_, rfl⟩
    dsimp only
    rw [ExtTreeMap.getElem?_erase, if_neg]
    · exact hprofile
    · intro heq
      rw [Std.compare_eq_iff_eq.1 heq] at hinactive
      exact hinactive hother
  | recorded hchange _ =>
    rcases hchange with rfl | ⟨failure, next, hamend⟩
    · rfl
    · obtain ⟨old, hold, rfl⟩ := Option.map_eq_some_iff.1 hamend
      refine activeSelections_insert h rfl fun old' _ hold' => ?_
      cases hold.symm.trans hold'
      rfl
  | refreshed hcommitted _ =>
    obtain ⟨old, kept, hold, _, hselections, hnew⟩ := hcommitted.profile
    exact activeSelections_insert h hnew fun _ hactive _ =>
      absurd hactive (of_decide_eq_false hreset)
  | unchanged _ | taken | completed => rfl

variable {group : ProxyGroup}

theorem activeSelections_withSelection (hactive : profiles.activeProfileId = some id)
    (h : withSelection profiles id group selection = some new) :
    new.activeSelections = profiles.activeSelections.insert group.name selection.recordId := by
  obtain ⟨old, hold, hnew⟩ := Option.map_eq_some_iff.1 h
  have hactive' : new.activeProfileId = some id := by
    rw [← hnew]
    exact hactive
  have hfound : new.profiles[id]? = some { old with
      selections := old.selections.insert group.name selection.recordId } := by
    rw [← hnew]
    exact ExtTreeMap.getElem?_insert_self
  rw [activeSelections_of_active hactive hold, activeSelections_of_active hactive' hfound]

theorem Orderly.withSelection (h : Orderly profiles) (hid : IsRecordId selection.recordId)
    (hnew : withSelection profiles id group selection = some new) : Orderly new := by
  obtain ⟨old, hold, rfl⟩ := Option.map_eq_some_iff.1 hnew
  refine h.insert ?_ ?_ rfl
  · exact h.keyed id old hold
  intro other node hnode
  rw [ExtTreeMap.getElem?_insert] at hnode
  split at hnode
  · cases hnode
    exact hid
  · exact h.ids id old hold other node hnode

/-- The view shows what is saved: where a node is saved for the group, it is the one that the view
has as selected. -/
def ShowsSaved (profiles : ProfileCatalog U S) (groupSelector : String) (view : Proxy.View) :
    Prop :=
  ∀ group previous node, resolveProxyGroup view groupSelector = .ok group →
    previousSelection view group = some previous →
    profiles.activeSelections[group.name]? = some node → previous.recordId = node

variable {state state' : SupervisorState U S V}

section Selected

variable
    (h : Selected permits groupSelector nodeSelector state core runtime handle view group selection
      core')

include h

theorem Selected.observed (hknown : core.Known generation) :
    core'.Known generation ∧ (generation ∉ core'.ended →
      handle.instanceGeneration = generation ∧ ∀ name, core'.accepted generation name =
        if name = group.name then some selection.recordId else core.accepted generation name) := by
  obtain ⟨mid, hmid, hrunning, honward⟩ := h.accepted
  obtain ⟨hknown₁, hsame₁⟩ := hknown.onward hmid
  have hknown₂ : (mid.accept handle.instanceGeneration selection).Known generation := hknown₁
  obtain ⟨hknown₃, hsame₃⟩ := hknown₂.onward honward
  refine ⟨hknown₃, fun hlives => ?_⟩
  have hlived : generation ∉ mid.ended := by
    intro hended
    have hended' : generation ∈ (mid.accept handle.instanceGeneration selection).ended := hended
    exact hlives (CoreLife.ended_onward hended' honward)
  have hhandle : handle.instanceGeneration = generation :=
    Option.some.inj (hrunning.symm.trans (hknown₁.resolve_right hlived))
  refine ⟨hhandle, fun name => ?_⟩
  rw [hsame₃, hhandle, CoreLife.accept_accepted, hsame₁, (selectionBySelector_spec h.chosen).1]

theorem Selected.ended (hended : generation ∈ core.ended) : generation ∈ core'.ended := by
  obtain ⟨mid, hmid, _, honward⟩ := h.accepted
  have hmid' := CoreLife.ended_onward hended hmid
  have hended' : generation ∈ (mid.accept handle.instanceGeneration selection).ended := hmid'
  exact CoreLife.ended_onward hended' honward

theorem Selected.accounted_stored
    (haccounted : Accounted state.memory.profiles state.runtime core)
    (hquiet : ¬Reported state.runtime) (hactive : state.memory.profiles.activeProfileId = some id)
    (hnew : withSelection state.memory.profiles id group selection = some new) :
    Accounted new (keepSelection runtime) core' := by
  intro generation hobserved
  obtain ⟨hknown, hbefore⟩ := haccounted generation (h.unmoved.observed.symm.trans hobserved)
  obtain ⟨hknown', haccepted⟩ := h.observed hknown
  refine ⟨hknown', fun hlives => .inr fun name node hsaved => ?_⟩
  have hlived : generation ∉ core.ended := fun hended => hlives (h.ended hended)
  rw [activeSelections_withSelection hactive hnew, ExtTreeMap.getElem?_insert] at hsaved
  rw [(haccepted hlives).2 name]
  simp only [Std.compare_eq_iff_eq] at hsaved
  split at hsaved
  · rename_i hname
    rw [if_pos hname.symm]
    exact hsaved
  · rename_i hname
    rw [if_neg fun h => hname h.symm]
    exact (hbefore hlived).resolve_left hquiet name node hsaved

theorem Selected.accounted_takenBack {mid : CoreLife} {previous : NodeSelection}
    (haccounted : Accounted state.memory.profiles state.runtime core)
    (hquiet : ¬Reported state.runtime)
    (hshows : ShowsSaved state.memory.profiles groupSelector view)
    (hprevious : previousSelection view group = some previous) (honward : core'.Onward mid) :
    Accounted state.memory.profiles runtime (mid.accept handle.instanceGeneration previous) := by
  intro generation hobserved
  obtain ⟨hknown, hbefore⟩ := haccounted generation (h.unmoved.observed.symm.trans hobserved)
  have hmid := h.onward honward
  obtain ⟨hknown', haccepted⟩ := hmid.observed hknown
  refine ⟨hknown', fun hlives => .inr fun name node hsaved => ?_⟩
  have hlived : generation ∉ core.ended := fun hended => hlives (hmid.ended hended)
  obtain ⟨hhandle, haccepted⟩ := haccepted hlives
  obtain ⟨selected, _, hselection⟩ := Option.bind_eq_some_iff.1 hprevious
  have hname : previous.groupName = group.name := by
    cases hchosen : selectionBySelector view group.name selected with
    | error e =>
      rw [hchosen] at hselection
      cases hselection
    | ok chosen =>
      rw [hchosen] at hselection
      cases hselection
      exact (selectionBySelector_spec hchosen).1
  rw [hhandle, CoreLife.accept_accepted, hname, haccepted]
  split
  · rename_i hgroup
    rw [hgroup] at hsaved
    rw [hshows group previous node h.found hprevious hsaved]
  · exact (hbefore hlived).resolve_left hquiet name node hsaved

end Selected

theorem Selects.accounted (horderly : Orderly state.memory.profiles)
    (haccounted : Accounted state.memory.profiles state.runtime core)
    (hquiet : ¬Reported state.runtime)
    (hshows : ∀ handle order view, permits (.proxyView handle order) (.ok view) →
      ShowsSaved state.memory.profiles groupSelector view)
    (h : Selects permits groupSelector nodeSelector state core state' core') :
    Orderly state'.memory.profiles ∧ Accounted state'.memory.profiles state'.runtime core' := by
  cases h with
  | failed honward hunmoved _ => exact ⟨horderly, (haccounted.onward honward).unmoved hunmoved⟩
  | lost hselected hmissing =>
    refine ⟨horderly, fun generation hobserved => ?_⟩
    have hbefore := haccounted generation (hselected.unmoved.observed.symm.trans hobserved)
    refine ⟨(hselected.observed hbefore.1).1, fun _ => .inr fun group node hsaved => ?_⟩
    -- without an active profile nothing is saved, and the active profile is in the catalog
    cases hactive : state.memory.profiles.activeProfileId with
    | none => simp [activeSelections_inactive hactive] at hsaved
    | some id =>
      obtain ⟨profile, hprofile⟩ := horderly.present id hactive
      cases (hmissing id hactive).symm.trans hprofile
  | stored hselected hactive hnew =>
    exact ⟨horderly.withSelection (selectionBySelector_spec hselected.chosen).2.1 hnew,
      hselected.accounted_stored haccounted hquiet hactive hnew⟩
  | takenBack hselected hprevious honward _ =>
    obtain ⟨order, hpermits⟩ := hselected.permitted
    exact ⟨horderly, hselected.accounted_takenBack haccounted hquiet (hshows _ order _ hpermits)
      hprevious honward⟩
  | reported hselected =>
    refine ⟨horderly, accounted_reported ?_ (.inr (.inr ?_))⟩
    · intro generation hobserved
      have hbefore := haccounted generation (hselected.unmoved.observed.symm.trans hobserved)
      exact (hselected.observed hbefore.1).1
    · rw [mem_setHealthReason, if_pos rfl]

/-- A node is only selected when nothing is reported, and the view that is looked at for it shows
what is saved. -/
def selectsWhenSettled : RunConditions U S V where
  turn turn state := match turn with
    | .select _ _ => ¬Reported state.runtime
    | _ => True
  reply turn state c r := match turn with
    | .select groupSelector _ => match c, r with
      | .proxyView _ _, .ok view => ShowsSaved state.memory.profiles groupSelector view
      | _, _ => True
    | _ => True

structure Settled (x : RuntimeWorld U S V) : Prop where
  mortal : x.core.Mortal
  orderly : Orderly x.state.memory.profiles
  accounted : Accounted x.state.memory.profiles x.state.runtime x.core

theorem mortal_of_finishes {p : Prog (coreCalls U S V) α} (h : core.Mortal)
    (hfinishes : Finishes (coreEnvironment permits) p core a core') : core'.Mortal := by
  induction hfinishes with
  | ret => exact h
  | ask hstep _ ih =>
    obtain ⟨_, _, mid, honward, _, rfl⟩ := hstep
    apply ih
    have hmid := h.onward honward
    unfold CoreLife.after
    split
    · exact hmid
    · exact hmid

variable {x : RuntimeWorld U S V}

theorem Settled.effect {turn : RuntimeTurn U S} (h : Settled x)
    (hselect : ∀ group node, turn = .select group node → ¬Reported x.state.runtime ∧
      ∀ handle order view, permits (.proxyView handle order) (.ok view) →
        ShowsSaved x.state.memory.profiles group view)
    (heffect : TurnEffect permits X parts turn x.state x.core tasks state core) :
    Orderly state.memory.profiles ∧ Accounted state.memory.profiles state.runtime core := by
  cases heffect with
  | catalog hleaves =>
    obtain ⟨calls, reset, core₁, honward, hmoves, _, hruntime⟩ := hleaves
    have horderly := h.orderly.moved hmoves
    refine ⟨horderly, ?_⟩
    split at hruntime
    · exact (resetRuntimeState_meets horderly.savedIds).finishes hruntime
    · rename_i hreset
      obtain ⟨hsame, rfl⟩ := hruntime
      rw [hsame]
      exact (h.accounted.onward honward).mono rfl id
        (hmoves.activeSelections h.orderly (Bool.eq_false_iff.2 hreset))
  | probed _ honward _ => exact ⟨h.orderly, (h.accounted.onward honward).mono rfl id rfl⟩
  | selected hturn hselects =>
    obtain ⟨hquiet, hshows⟩ := hselect _ _ hturn
    exact hselects.accounted h.orderly h.accounted hquiet hshows
  | viewed _ honward hunmoved _ => exact ⟨h.orderly, (h.accounted.onward honward).unmoved hunmoved⟩
  | reconciled _ hfinishes =>
    exact ⟨h.orderly,
      (reconcileRuntimeState_meets h.orderly.savedIds h.accounted).finishes hfinishes⟩
  | retried _ hfinishes =>
    exact ⟨h.orderly,
      (reconcileRuntimeState_meets h.orderly.savedIds h.accounted.renew).finishes hfinishes⟩

theorem Settled.turn {y : RuntimeWorld U S V} {turn : RuntimeTurn U S} (h : Settled x)
    (hturn : TakesRuntimeTurn X parts selectsWhenSettled turn x y) : Settled y := by
  cases hturn with
  | mk hcondition hfinishes =>
    have heffect := (turn_meets turn).finishes hfinishes
    obtain ⟨horderly, haccounted⟩ := h.effect (by
      rintro group node rfl
      exact ⟨hcondition, fun _ _ _ hpermits => hpermits⟩) heffect
    exact ⟨mortal_of_finishes h.mortal hfinishes, horderly, haccounted⟩

/-- As long as nodes are selected only when nothing is reported, and the view then shows what is
saved: what is not reported has been accepted by the instance that is running. -/
theorem selections_restored_or_reported {memory : SupervisorMemory U S V}
    (horderly : Orderly memory.profiles) (hmortal : core.Mortal)
    (hrun : RuntimeRuns X parts selectsWhenSettled (.opened memory core) x)
    (hobserved : x.state.runtime.observedCoreGeneration = some generation)
    (hrunning : x.core.running = some generation)
    (hpending : x.state.runtime.selectionRestorePending = false)
    (hrestoration : .selectionRestoration ∉ x.state.runtime.healthReasons)
    (hcompensation : .selectionCompensation ∉ x.state.runtime.healthReasons) :
    ∀ (id : ProfileId) (profile : Profile U S) (group node : String),
      x.state.memory.profiles.activeProfileId = some id →
      x.state.memory.profiles.profiles[id]? = some profile →
      profile.selections[group]? = some node → x.core.accepted generation group = some node := by
  have hsettled : Settled x := by
    apply hrun.keeps (P := Settled)
    · exact ⟨hmortal, horderly, accounted_unobserved rfl⟩
    · intro turn y z hy hturn
      exact hy.turn hturn
    · intro y core' hy hevent
      exact ⟨hevent.mortal, hy.orderly, hy.accounted.onward (.single hevent)⟩
  intro id profile group node hactive hprofile hsaved
  obtain ⟨_, haccounted⟩ := hsettled.accounted generation hobserved
  have hquiet : ¬Reported x.state.runtime := by
    rintro (hreported | hreported | hreported)
    · rw [hpending] at hreported
      cases hreported
    · exact hrestoration hreported
    · exact hcompensation hreported
  apply (haccounted (hsettled.mortal generation hrunning)).resolve_left hquiet
  rw [activeSelections_of_active hactive hprofile]
  exact hsaved

def firstCore : CoreLife := ⟨some 1, [], fun _ _ => none⟩

/-- The node `B`, of which the Core knows nothing. -/
def savedNode : NodeRecordId := .forSource Proxy.plainSha256 (.core "B")

def savedProfile (group : String) (node : NodeRecordId) : Profile Unit String :=
  { homeProfile with selections := (∅ : ExtTreeMap String String).insert group node.asStr }

def savedMemory (group : String) (node : NodeRecordId) : SupervisorMemory Unit String Unit :=
  { homeMemory with
    profiles := { homeMemory.profiles with
      profiles := (∅ : ExtTreeMap ProfileId (Profile Unit String)).insert ⟨1⟩
        (savedProfile group node) } }

def plainProxies : Proxy.RawProxies :=
  ((∅ : Proxy.RawProxies).insert "A" ⟨"Socks5", true, none, none, none⟩).insert "G"
    ⟨"Selector", true, some ["A"], some "A", none⟩

def plainView : Proxy.View := Proxy.buildProxyView Proxy.plainSha256 plainProxies none ["G"]

/-- The view of the first Core fails to load, and then a node is selected in another group. -/
def hidingWorld : RuntimeWorld Unit String Unit :=
  plainTurn Plain.codec homeParts (some plainView) (.select "G" "A")
    (plainTurn Plain.codec homeParts none .reconcile
      (.opened (savedMemory "G2" savedNode) firstCore))

/-- Nothing is pending and nothing is reported, and yet the saved selection has not been made. -/
theorem selection_hides_restoration :
    RuntimeRuns Plain.codec homeParts .none (.opened (savedMemory "G2" savedNode) firstCore)
      hidingWorld ∧ hidingWorld.state.runtime.observedCoreGeneration = some 1 ∧
    hidingWorld.core.running = some 1 ∧ hidingWorld.state.runtime.selectionRestorePending = false ∧
    .selectionRestoration ∉ hidingWorld.state.runtime.healthReasons ∧
    .selectionCompensation ∉ hidingWorld.state.runtime.healthReasons ∧
    hidingWorld.state.memory.profiles.activeSelections["G2"]? = some savedNode.asStr ∧
    hidingWorld.core.accepted 1 "G2" = none := by
  constructor
  · apply RuntimeRuns.turn (.select "G" "A")
      (.turn .reconcile .refl (takes_plainTurn _ _ none trivial fun _ _ => trivial))
    exact takes_plainTurn _ _ (some plainView) trivial fun _ _ => trivial
  · decide +kernel

theorem orderly_savedMemory (group : String) (node : NodeRecordId) :
    Orderly (savedMemory group node).profiles := by
  have hget : ∀ (id : ProfileId) (profile : Profile Unit String),
      (savedMemory group node).profiles.profiles[id]? = some profile →
      id = ⟨1⟩ ∧ profile = savedProfile group node := by
    intro id profile hprofile
    change ((∅ : ExtTreeMap ProfileId (Profile Unit String)).insert ⟨1⟩ _)[id]? = _ at hprofile
    rw [ExtTreeMap.getElem?_insert] at hprofile
    split at hprofile
    · rename_i hid
      cases hprofile
      exact ⟨(Std.compare_eq_iff_eq.1 hid).symm, rfl⟩
    · simp at hprofile
  refine ⟨fun id profile hprofile => ?_, fun id hid => ?_, fun id profile hprofile => ?_⟩
  · obtain ⟨rfl, rfl⟩ := hget id profile hprofile
    rfl
  · cases hid
    exact ⟨savedProfile group node, ExtTreeMap.getElem?_insert_self⟩
  · obtain ⟨rfl, rfl⟩ := hget id profile hprofile
    intro other found hfound
    change ((∅ : ExtTreeMap String String).insert group node.asStr)[other]? = _ at hfound
    rw [ExtTreeMap.getElem?_insert] at hfound
    split at hfound
    · cases hfound
      exact ⟨node, rfl⟩
    · simp at hfound

def shownNode : NodeRecordId := .forSource Proxy.plainSha256 (.core "A")

def restoredWorld : RuntimeWorld Unit String Unit :=
  plainTurn Plain.codec homeParts (some plainView) .reconcile
    (.opened (savedMemory "G" shownNode) firstCore)

theorem selections_restored_or_reported_plain : RuntimeRuns Plain.codec homeParts selectsWhenSettled
        (.opened (savedMemory "G" shownNode) firstCore) restoredWorld ∧
      restoredWorld.state.runtime.observedCoreGeneration = some 1 ∧
      restoredWorld.core.accepted 1 "G" = some shownNode.asStr := by
  have hrun : RuntimeRuns Plain.codec homeParts selectsWhenSettled
      (.opened (savedMemory "G" shownNode) firstCore) restoredWorld :=
    .turn .reconcile .refl (takes_plainTurn _ _ (some plainView) trivial fun _ _ => trivial)
  have hstate : restoredWorld.state.runtime.observedCoreGeneration = some 1 ∧
      restoredWorld.core.running = some 1 ∧
      restoredWorld.state.runtime.selectionRestorePending = false ∧
      .selectionRestoration ∉ restoredWorld.state.runtime.healthReasons ∧
      .selectionCompensation ∉ restoredWorld.state.runtime.healthReasons := by
    decide +kernel
  obtain ⟨hobserved, hrunning, hpending, hrestoration, hcompensation⟩ := hstate
  have hmemory : restoredWorld.state.memory = savedMemory "G" shownNode := rfl
  refine ⟨hrun, hobserved, ?_⟩
  refine selections_restored_or_reported (orderly_savedMemory "G" shownNode) ?_ hrun hobserved
    hrunning hpending hrestoration hcompensation ⟨1⟩ (savedProfile "G" shownNode) "G"
    shownNode.asStr ?_ ?_ ?_
  · intro g _ hended
    cases hended
  · rw [hmemory]
    rfl
  · rw [hmemory]
    exact ExtTreeMap.getElem?_insert_self
  · exact ExtTreeMap.getElem?_insert_self

end Supervisor

end Ratash

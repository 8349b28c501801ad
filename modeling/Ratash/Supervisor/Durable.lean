import Ratash.Interaction.Only
import Ratash.Interaction.Yields
import Ratash.Profile.Refresh
import Ratash.Supervisor.Operations

/-! Whenever the lock is free, the memory is what the last transaction that was Ok has stored. -/

namespace Ratash

open Interaction Attempt

namespace SupervisorWorld

variable {U S V : Type}

def resting (memory : SupervisorMemory U S V) : SupervisorWorld U S V := ⟨memory, memory, false⟩

def holding (memory : SupervisorMemory U S V) : SupervisorWorld U S V := ⟨memory, memory, true⟩

def stored (memory new : SupervisorMemory U S V) : SupervisorWorld U S V := ⟨memory, new, true⟩

/-- Whenever the lock is free, the memory is what is stored. -/
def InStep (w : SupervisorWorld U S V) : Prop := w.held = false → w.memory = w.durable

theorem inStep_of_held {w : SupervisorWorld U S V} (h : w.held = true) : w.InStep :=
  fun hfree => nomatch h.symm.trans hfree

theorem inStep_holding {memory : SupervisorMemory U S V} : (holding memory).InStep :=
  inStep_of_held rfl

theorem inStep_resting {memory : SupervisorMemory U S V} : (resting memory).InStep :=
  fun _ => rfl

end SupervisorWorld

def SupervisorCall.quiet {U S V C W : Type} : SupervisorCall U S V C W → Bool
  | .lock | .tryLock | .store _ | .unlock | .apply _ _ | .applyReserved _ | .persistMetadata _ =>
    false
  | _ => true

variable {context : RefreshContext}

section

variable {U S : Type}

theorem ProfileCatalog.amend_found {catalog catalog' : ProfileCatalog U S} {id : ProfileId}
    {change : Profile U S → Profile U S} (h : catalog.amend id change = some catalog') :
    ∃ profile, catalog'.profiles[id]? = some profile := by
  obtain ⟨profile, _, rfl⟩ := Option.map_eq_some_iff.1 h
  exact ⟨change profile, Std.ExtTreeMap.getElem?_insert_self⟩

theorem ProfileCatalog.not_stale {catalog : ProfileCatalog U S} {id : ProfileId}
    (h : catalog.refreshContext id = .ok context) : catalog.refreshIsStale id context = false := by
  simp [refreshIsStale, h]

end

namespace Supervisor

open SupervisorWorld

variable {D U S V C W : Type} {X : Codec D} {parts : SupervisorParts U S V W}
  {others : SupervisorWorld U S V → SupervisorWorld U S V → Prop}
  {memory new : SupervisorMemory U S V} {w : SupervisorWorld U S V}

abbrev Does (others : SupervisorWorld U S V → SupervisorWorld U S V → Prop)
    (x : SupervisorAttempt U S V C W α)
    (Q : Except ApplicationError α → SupervisorWorld U S V → Prop)
    (w : SupervisorWorld U S V) : Prop :=
  x.run.Ensures (supervisorEnvironment others) InStep Q w

abbrev Quiet (x : SupervisorAttempt U S V C W α) : Prop :=
  Only (fun c => SupervisorCall.quiet c = true) x

variable {c : SupervisorCall U S V C W} {w' : SupervisorWorld U S V}

theorem stays_of_quiet {r : c.Reply}
    (hc : c.quiet = true) (h : supervisorEnvironment others w c r w') : w' = w := by
  cases c <;> first | exact h.2 | cases hc

variable {f : α → SupervisorAttempt U S V C W β} {x : SupervisorAttempt U S V C W α}

theorem quiet_seq (hx : Quiet x) {Q} (hw : w.InStep) (hok : ∀ a, Does others (f a) Q w)
    (herr : ∀ e, Q (.error e) w) : Does others (x >>= f) Q w := by
  have hsame : x.run.Ensures (supervisorEnvironment others) (· = w) (fun _ _ => True) w :=
    Prog.Only.ensures hx (fun _ c r w' hc hI hE => (stays_of_quiet hc hE).trans hI) rfl
  apply ensures_seq (hsame.frozen hw)
  · rintro a w' - ⟨rfl, -⟩
    exact hok a
  · rintro e w' - ⟨rfl, -⟩
    exact herr e

theorem quiet_call (hc : c.quiet = true) : Quiet (supervisorCall c) :=
  only_lift hc

section

variable {P : SupervisorCall U S V C W → Prop}

theorem only_someOr (value : Option α) (error : ApplicationError) :
    Only P (someOr value error : SupervisorAttempt U S V C W α) := by
  cases value <;> trivial

theorem only_compile (profile : Profile U S) (rules : List String)
    (h : P (.compile profile rules)) :
    Only P (compile profile rules : SupervisorAttempt U S V C W V) :=
  (only_lift h).seq fun _ => only_ofExcept _

theorem only_validateConfiguration (configuration : V) (profileId : ProfileId)
    (h : P (.validate configuration profileId)) : Only P
      (validateConfiguration configuration profileId : SupervisorAttempt U S V C W Unit) :=
  (only_lift h).seq fun _ => only_ofExcept _

theorem only_ruleStrings (localRules : LocalRuleSet) :
    Only P (ruleStrings parts localRules : SupervisorAttempt U S V C W (List String)) :=
  (only_okOr _ _).seq fun _ => (only_require _).seq fun _ => only_pure _

theorem only_cloneRuleSet (localRules : LocalRuleSet) :
    Only P (cloneRuleSet parts localRules : SupervisorAttempt U S V C W LocalRuleSet) := by
  apply (only_okOr _ _).seq
  intro list
  split
  · exact only_pure _
  · exact only_pure _

theorem only_checkedRule (rule : String) :
    Only P (checkedRule parts rule : SupervisorAttempt U S V C W String) :=
  (only_require _).seq fun _ => (only_okOr _ _).seq fun _ => only_pure _

theorem only_mutateRules (localRules : LocalRuleSet) (mutation : RuleMutation) :
    Only P (mutateRules parts localRules mutation :
      SupervisorAttempt U S V C W (RuleChange × LocalRuleSet)) := by
  cases mutation with
  | add rule placement =>
    apply (only_checkedRule _).seq
    intro rule
    exact (only_ofExcept _).seq fun _ => only_pure _
  | replace oldRule newRule =>
    apply (only_checkedRule _).seq
    intro oldRule
    apply (only_checkedRule _).seq
    intro newRule
    exact (only_ofExcept _).seq fun _ => only_pure _
  | remove rule =>
    apply (only_checkedRule _).seq
    intro rule
    exact (only_ofExcept _).seq fun _ => only_pure _

end

theorem quiet_loadProxyView (memory : SupervisorMemory U S V) :
    Quiet (loadProxyView parts memory : SupervisorAttempt U S V C W (C × W)) := by
  apply (only_require _).seq
  intro _
  apply (quiet_call rfl).seq
  intro reply
  apply (only_okOr _ _).seq
  intro status
  apply (only_someOr _ _).seq
  intro core
  apply (only_ofExcept _).seq
  intro order
  apply (quiet_call rfl).seq
  intro view
  exact (only_okOr _ _).seq fun _ => only_pure _

theorem quiet_compensated (core : C) (previous : Option NodeSelection) :
    Quiet (compensated core previous : SupervisorAttempt U S V C W Bool) := by
  cases previous with
  | none => exact only_pure _
  | some previous => exact (quiet_call rfl).seq fun _ => only_pure _

/-- A scope that holds the lock ends with both changed or neither; `R` says more. -/
def Leaves (R : Except ApplicationError α → SupervisorMemory U S V → Prop)
    (r : Except ApplicationError α) (w' : SupervisorWorld U S V) : Prop :=
  ∃ new, w' = holding new ∧ R r new

abbrev InScope (C : Type) (others : SupervisorWorld U S V → SupervisorWorld U S V → Prop)
    (x : SupervisorAttempt U S V C W α)
    (R : Except ApplicationError α → SupervisorMemory U S V → Prop)
    (memory : SupervisorMemory U S V) : Prop :=
  Does others x (Leaves R) (holding memory)

theorem scope_seq {R : Except ApplicationError β → SupervisorMemory U S V → Prop} (hx : Quiet x)
    (herr : ∀ e, Leaves R (.error e) (holding memory))
    (hok : ∀ a, InScope C others (f a) R memory) : InScope C others (x >>= f) R memory :=
  quiet_seq hx inStep_holding hok herr

def ErrorKeeps (memory : SupervisorMemory U S V) (r : Except ApplicationError α)
    (new : SupervisorMemory U S V) : Prop :=
  ∀ e, r = .error e → new = memory

theorem errorKeeps_ok {a : α} : ErrorKeeps memory (.ok a : Except ApplicationError α) new := by
  intro e h
  cases h

theorem leaves_error (e : ApplicationError) :
    Leaves (ErrorKeeps memory) (.error e : Except ApplicationError α) (holding memory) :=
  ⟨memory, rfl, fun _ _ => rfl⟩

theorem leaves_pure {a : α} :
    InScope C others (pure a : SupervisorAttempt U S V C W α) (ErrorKeeps memory) new :=
  ⟨inStep_holding, new, rfl, errorKeeps_ok⟩

/-- An error changes nothing; otherwise `P` says what becomes of the profiles. -/
def Changes (memory : SupervisorMemory U S V) (P : α → ProfileCatalog U S → Prop)
    (r : Except ApplicationError α) (new : SupervisorMemory U S V) : Prop :=
  match r with
  | .error _ => new = memory
  | .ok a => P a new.profiles

section

variable {P : α → ProfileCatalog U S → Prop}

theorem changes_error (e : ApplicationError) :
    Leaves (Changes memory P) (.error e : Except ApplicationError α) (holding memory) :=
  ⟨memory, rfl, rfl⟩

theorem changes_pure {a : α} (h : P a new.profiles) :
    InScope C others (pure a : SupervisorAttempt U S V C W α) (Changes memory P) new :=
  ⟨inStep_holding, new, rfl, h⟩

theorem Changes.errorKeeps {r : Except ApplicationError α} (h : Changes memory P r new) :
    ErrorKeeps memory r new := by
  rintro e rfl
  exact h

theorem leaves_of_changes (h : Does others x (Leaves (Changes memory P)) w) :
    Does others x (Leaves (ErrorKeeps memory)) w := by
  apply h.mono fun _ hI => hI
  intro r w' _ ⟨new, hw', hchanges⟩
  exact ⟨new, hw', hchanges.errorKeeps⟩

end

theorem call_seq {f : c.Reply → SupervisorAttempt U S V C W β} {Q} (hw : w.InStep)
    (h : ∀ r w', supervisorEnvironment others w c r w' → Does others (f r) Q w') :
    Does others (supervisorCall c >>= f) Q w :=
  ⟨hw, h⟩

theorem apply_seq {request : SupervisorTransactionRequest U S V} {failFast : Bool}
    {f : Except SupervisorTransactionFailure ConfigTransactionSuccess →
      SupervisorAttempt U S V C W β} {Q}
    (herr : ∀ failure, Does others (f (.error failure)) Q (holding memory))
    (hok : ∀ success, Does others (f (.ok success)) Q
      (stored memory ⟨request.profiles, request.localRules, some request.configuration,
        some success.committedGeneration⟩)) :
    Does others (supervisorCall (.apply request failFast) >>= f) Q (holding memory) := by
  apply call_seq inStep_holding
  intro r w' ⟨hreply, hafter⟩
  subst hafter
  cases r with
  | error failure => exact herr failure
  | ok success =>
    have hok := hok success
    rw [hreply success rfl] at hok
    exact hok

theorem applyReserved_seq {request : SupervisorTransactionRequest U S V}
    {f : Except SupervisorTransactionFailure ConfigTransactionSuccess →
      SupervisorAttempt U S V C W β} {Q}
    (herr : ∀ failure, Does others (f (.error failure)) Q (holding memory))
    (hok : ∀ success, Does others (f (.ok success)) Q
      (stored memory ⟨request.profiles, request.localRules, some request.configuration,
        some success.committedGeneration⟩)) :
    Does others (supervisorCall (.applyReserved request) >>= f) Q (holding memory) := by
  apply call_seq inStep_holding
  intro r w' ⟨hreply, hafter⟩
  subst hafter
  cases r with
  | error failure => exact herr failure
  | ok success =>
    have hok := hok success
    rw [hreply success rfl] at hok
    exact hok

variable {generation : RuntimeGeneration} {configuration : V}

theorem settle_seq {profiles : ProfileCatalog U S} {localRules : LocalRuleSet} {failFast : Bool}
    {f : ConfigTransactionSuccess → SupervisorAttempt U S V C W β} {Q}
    (herr : ∀ e, Q (.error e) (holding memory)) (hok : ∀ success, Does others (f success) Q
      (stored memory ⟨profiles, localRules, some configuration,
        some success.committedGeneration⟩)) :
    Does others (applyCandidate parts profiles localRules configuration generation failFast >>=
      fun result => settleTransaction result >>= f) Q (holding memory) := by
  apply apply_seq
  · intro failure
    exact ⟨inStep_holding, herr _⟩
  · exact hok

theorem store_seq {f : Unit → SupervisorAttempt U S V C W β} {Q}
    (h : Does others (f ()) Q (holding new)) :
    Does others (supervisorCall (.store new) >>= f) Q (stored memory new) := by
  apply call_seq (inStep_of_held rfl)
  intro _ w' ⟨_, hafter⟩
  subst hafter
  exact h

def Persisted (memory new : SupervisorMemory U S V) (r : Except ApplicationError Unit)
    (w' : SupervisorWorld U S V) : Prop :=
  (r = .ok () ∧ w' = stored memory new) ∨ ∃ e, r = .error e ∧ w' = holding memory

theorem persistMetadata_spec (profiles : ProfileCatalog U S) :
    Does (C := C) others (persistMetadata parts profiles memory.localRules memory)
      (Persisted memory { memory with profiles }) (holding memory) := by
  unfold persistMetadata
  cases hconfiguration : memory.effectiveConfiguration with
  | none => exact ⟨inStep_holding, .inr ⟨_, rfl, rfl⟩⟩
  | some configuration =>
    cases hgeneration : memory.runtimeGeneration with
    | none => exact ⟨inStep_holding, .inr ⟨_, rfl, rfl⟩⟩
    | some generation =>
      apply call_seq inStep_holding
      intro r w' ⟨_, hafter⟩
      subst hafter
      cases r with
      | error failure => exact ⟨inStep_holding, .inr ⟨_, rfl, rfl⟩⟩
      | ok _ =>
        exact ⟨inStep_of_held rfl, .inl ⟨rfl, rfl⟩⟩

theorem persistMetadata_seq {profiles : ProfileCatalog U S}
    {f : Unit → SupervisorAttempt U S V C W β} {Q} (herr : ∀ e, Q (.error e) (holding memory))
    (hok : Does others (f ()) Q (stored memory { memory with profiles })) :
    Does others (persistMetadata parts profiles memory.localRules memory >>= f) Q
      (holding memory) := by
  apply ensures_seq (persistMetadata_spec profiles)
  · intro a w' _ h
    rcases h with ⟨_, rfl⟩ | ⟨_, h, _⟩
    · exact hok
    · cases h
  · intro e w' _ h
    rcases h with ⟨h, _⟩ | ⟨_, _, rfl⟩
    · cases h
    · exact herr e

variable {error : ApplicationError}

theorem someOr_seq {value : Option α} {Q} (hw : w.InStep) (hsome : ∀ a, value = some a →
      Does others (f a) Q w) (hnone : value = none → Q (.error error) w) :
    Does others (someOr value error >>= f) Q w := by
  cases value with
  | none => exact ⟨hw, hnone rfl⟩
  | some a => exact hsome a rfl

theorem found_seq {value : Option α} (hvalue : value = some a) {Q} (h : Does others (f a) Q w) :
    Does others (someOr value error >>= f) Q w := by
  subst hvalue
  exact h

theorem addFirstProfile_changes (profiles : ProfileCatalog U S) (profileId : ProfileId) :
    InScope C others (addFirstProfile X parts profiles profileId) (Changes memory fun _ new =>
        ∃ id, profiles.activate X (profileId.toText X) = (.ok id, new)) memory := by
  unfold addFirstProfile
  split
  rename_i activated profiles' hactivate
  apply ensures_okOr_seq inStep_holding _ (changes_error _)
  intro id hid
  apply someOr_seq inStep_holding _ fun _ => changes_error _
  intro profile hprofile
  apply scope_seq (only_require _) changes_error
  intro _
  apply scope_seq (only_ruleStrings _) changes_error
  intro strings
  apply scope_seq (only_compile _ _ rfl) changes_error
  intro configuration
  apply settle_seq changes_error
  intro success
  apply store_seq
  apply found_seq hprofile
  exact changes_pure ⟨id, by rw [hactivate, hid]⟩

theorem addFurtherProfile_changes (profiles : ProfileCatalog U S) (profileId : ProfileId) :
    InScope C others (addFurtherProfile parts memory profiles profileId)
      (Changes memory fun _ new => new = profiles) memory := by
  unfold addFurtherProfile
  apply someOr_seq inStep_holding _ fun _ => changes_error _
  intro profile hprofile
  apply scope_seq (only_compile _ _ rfl) changes_error
  intro configuration
  apply scope_seq (only_validateConfiguration _ _ rfl) changes_error
  intro _
  apply persistMetadata_seq changes_error
  apply store_seq
  apply found_seq hprofile
  exact changes_pure rfl

def Added (X : Codec D) (profile : Profile U S) (profiles new : ProfileCatalog U S) : Prop :=
  ∃ inserted, profiles.insert profile = (.ok (), inserted) ∧
    if profiles.profiles.isEmpty then
      ∃ id, inserted.activate X (profile.id.toText X) = (.ok id, new)
    else new = inserted

theorem addProfileLocked_changes (profile : Profile U S) :
    InScope C others (addProfileLocked X parts profile memory)
      (Changes memory fun _ => Added X profile memory.profiles) memory := by
  unfold addProfileLocked
  split
  rename_i inserted profiles hinsert
  apply ensures_okOr_seq inStep_holding _ (changes_error _)
  intro _ hinserted
  have hstrengthen : ∀ {r : Except ApplicationError (ProfileMutationOutcome U)} {w'} {P},
      (∀ new, P new → Added X profile memory.profiles new) →
      Leaves (Changes memory fun _ => P) r w' →
      Leaves (Changes memory fun _ => Added X profile memory.profiles) r w' := by
    intro r w' P hP ⟨new, hw', hchanges⟩
    refine ⟨new, hw', ?_⟩
    cases r with
    | error e => exact hchanges
    | ok outcome => exact hP _ hchanges
  split
  case isTrue hempty =>
    apply (addFirstProfile_changes profiles profile.id).mono fun _ hI => hI
    intro r w' _ hleaves
    apply hstrengthen _ hleaves
    intro new hactivate
    exact ⟨profiles, by rw [hinsert, hinserted], by rwa [if_pos hempty]⟩
  case isFalse hempty =>
    apply (addFurtherProfile_changes profiles profile.id).mono fun _ hI => hI
    intro r w' _ hleaves
    apply hstrengthen _ hleaves
    intro new hnew
    exact ⟨profiles, by rw [hinsert, hinserted], by rwa [if_neg hempty]⟩

theorem addProfileLocked_spec (profile : Profile U S) :
    InScope C others (addProfileLocked X parts profile memory) (ErrorKeeps memory) memory :=
  leaves_of_changes (addProfileLocked_changes profile)

theorem activateOther_changes (profileId : ProfileId) :
    InScope C others (activateOther X parts memory profileId) (Changes memory fun _ new =>
        ∃ id, memory.profiles.activate X (profileId.toText X) = (.ok id, new)) memory := by
  unfold activateOther
  split
  rename_i activated profiles hactivate
  apply ensures_ofExcept_seq inStep_holding
  · intro id hid
    apply someOr_seq inStep_holding _ fun _ => changes_error _
    intro profile hprofile
    apply scope_seq (only_ruleStrings _) changes_error
    intro rules
    apply scope_seq (only_compile _ _ rfl) changes_error
    intro configuration
    apply scope_seq (only_someOr _ _) changes_error
    intro generation
    apply settle_seq changes_error
    intro success
    apply store_seq
    apply found_seq hprofile
    refine changes_pure ⟨id, ?_⟩
    cases activated with
    | error e => cases hid
    | ok id' =>
      cases hid
      exact hactivate
  · exact fun e _ => changes_error e

def Activated (X : Codec D) (selector : String) (profiles new : ProfileCatalog U S) : Prop :=
  ∃ profileId, profiles.resolve X selector = .ok profileId ∧
    if profiles.activeProfileId = some profileId then new = profiles
    else ∃ id, profiles.activate X (profileId.toText X) = (.ok id, new)

theorem activateLocked_changes (selector : String) :
    InScope C others (activateLocked X parts selector memory)
      (Changes memory fun _ => Activated X selector memory.profiles) memory := by
  unfold activateLocked resolveProfile
  apply ensures_ofExcept_seq inStep_holding
  · intro profileId hresolve
    replace hresolve : memory.profiles.resolve X selector = .ok profileId := by
      cases h : memory.profiles.resolve X selector with
      | error e =>
        rw [h] at hresolve
        cases hresolve
      | ok id =>
        rw [h] at hresolve
        cases hresolve
        rfl
    split
    case isTrue hactive =>
      apply someOr_seq inStep_holding _ fun _ => changes_error _
      intro profile _
      exact changes_pure ⟨profileId, hresolve, by rw [if_pos hactive]⟩
    case isFalse hother =>
      apply (activateOther_changes profileId).mono fun _ hI => hI
      intro r w' _ ⟨new, hw', hchanges⟩
      refine ⟨new, hw', ?_⟩
      cases r with
      | error e => exact hchanges
      | ok output => exact ⟨profileId, hresolve, by rwa [if_neg hother]⟩
  · exact fun e _ => changes_error e

theorem activateLocked_spec (selector : String) :
    InScope C others (activateLocked X parts selector memory) (ErrorKeeps memory) memory :=
  leaves_of_changes (activateLocked_changes selector)

theorem removeLocked_changes (selector : String) :
    InScope C others (removeLocked X parts selector memory) (Changes memory fun _ new =>
        ∃ removed, memory.profiles.remove X selector = (.ok removed, new)) memory := by
  unfold removeLocked
  split
  rename_i result profiles hremove
  apply ensures_ofExcept_seq inStep_holding
  · intro removed hremoved
    apply persistMetadata_seq changes_error
    apply store_seq
    refine changes_pure ⟨removed, ?_⟩
    cases result with
    | error e => cases hremoved
    | ok removed' =>
      cases hremoved
      exact hremove
  · exact fun e _ => changes_error e

theorem removeLocked_spec (selector : String) :
    InScope C others (removeLocked X parts selector memory) (ErrorKeeps memory) memory :=
  leaves_of_changes (removeLocked_changes selector)

def Noted (profileId : ProfileId) (memory new : SupervisorMemory U S V) : Prop :=
  ∃ failure next profiles,
    memory.profiles.amend profileId (noteFailure failure next) = some profiles ∧
      new = { memory with profiles }

def NotedUnless (profileId : ProfileId) (memory : SupervisorMemory U S V)
    (r : Except ApplicationError Unit) (new : SupervisorMemory U S V) : Prop :=
  new = memory ∨ (r = .ok () ∧ Noted profileId memory new)

theorem recordLocked_spec (profileId : ProfileId) (context : RefreshContext) (stage : RefreshStage)
    (message : String) :
    InScope C others (recordLocked parts profileId context stage message memory)
      (NotedUnless profileId memory) memory := by
  have hsame : ∀ r, Leaves (NotedUnless profileId memory) r (holding memory) :=
    fun r => ⟨memory, rfl, .inl rfl⟩
  unfold recordLocked
  split
  · exact ⟨inStep_holding, hsame _⟩
  · apply quiet_seq (quiet_call rfl) inStep_holding _ fun _ => hsame _
    intro now
    apply someOr_seq inStep_holding _ fun _ => hsame _
    intro profiles hprofiles
    apply persistMetadata_seq fun _ => hsame _
    apply store_seq
    obtain ⟨profile, hprofile⟩ := ProfileCatalog.amend_found hprofiles
    apply found_seq hprofile
    exact ⟨inStep_holding, _, rfl, .inr ⟨rfl, _, _, profiles, hprofiles, rfl⟩⟩

def SettledUnless (memory : SupervisorMemory U S V) (r : Except ApplicationError RefreshEnd)
    (new : SupervisorMemory U S V) : Prop :=
  new = memory ∨ ∃ disposition, r = .ok (.settled disposition)

def Committed (profileId : ProfileId) (profiles new : ProfileCatalog U S) : Prop :=
  ∃ context snapshot success next revision,
    profiles.commitRefresh profileId context snapshot success next = (.ok revision, new)

def RefreshLeaves (memory : SupervisorMemory U S V) (profileId : ProfileId) :
    Except ApplicationError RefreshEnd → SupervisorMemory U S V → Prop
  | .ok (.settled .activeApplied), new =>
    memory.profiles.activeProfileId = some profileId ∧
      Committed profileId memory.profiles new.profiles
  | .ok (.settled .inactiveStored), new =>
    memory.profiles.activeProfileId ≠ some profileId ∧
      Committed profileId memory.profiles new.profiles
  | _, new => new = memory

theorem RefreshLeaves.settledUnless {r : Except ApplicationError RefreshEnd}
    (h : RefreshLeaves memory profileId r new) : SettledUnless memory r new := by
  rcases r with _ | disposition | _
  · exact .inl h
  · exact .inr ⟨disposition, rfl⟩
  · exact .inl h

theorem refreshLeaves_error (e : ApplicationError) :
    Leaves (RefreshLeaves memory profileId) (.error e) (holding memory) :=
  ⟨memory, rfl, rfl⟩

theorem refreshLeaves_failed (stage : RefreshStage) (e : ApplicationError) :
    InScope C others (pure (.failed stage e) : SupervisorAttempt U S V C W RefreshEnd)
      (RefreshLeaves memory profileId) memory :=
  ⟨inStep_holding, memory, rfl, rfl⟩

section Refresh

variable (profileId : ProfileId) (context : RefreshContext) (snapshot : S)

theorem refreshActive_leaves (now : UInt64)
    (hactive : memory.profiles.activeProfileId = some profileId) :
    InScope C others (refreshActive parts memory profileId context snapshot now)
      (RefreshLeaves memory profileId) memory := by
  unfold refreshActive
  split
  rename_i committed profiles hcommit
  apply ensures_okOr_seq inStep_holding _ (refreshLeaves_error _)
  intro revision hrevision
  apply someOr_seq inStep_holding _ fun _ => refreshLeaves_error _
  intro active hfound
  apply scope_seq (only_ruleStrings _) refreshLeaves_error
  intro rules
  apply scope_seq (quiet_call rfl) refreshLeaves_error
  intro compiled
  cases compiled with
  | error error => exact refreshLeaves_failed _ _
  | ok configuration =>
    apply scope_seq (only_someOr _ _) refreshLeaves_error
    intro generation
    apply apply_seq
    · intro failure
      exact refreshLeaves_failed _ _
    · intro success
      apply store_seq
      apply found_seq hfound
      exact ⟨inStep_holding, _, rfl, hactive, context, snapshot, now, nextRefreshAt now, revision,
        by rw [hcommit, hrevision]⟩

theorem refreshInactive_leaves (now : UInt64)
    (hinactive : memory.profiles.activeProfileId ≠ some profileId) :
    InScope C others (refreshInactive parts memory profileId context snapshot now)
      (RefreshLeaves memory profileId) memory := by
  unfold refreshInactive
  apply someOr_seq inStep_holding _ fun _ => refreshLeaves_error _
  intro profile _
  apply scope_seq (quiet_call rfl) refreshLeaves_error
  intro compiled
  cases compiled with
  | error error => exact refreshLeaves_failed _ _
  | ok configuration =>
    apply scope_seq (quiet_call rfl) refreshLeaves_error
    intro validated
    cases validated with
    | error error => exact refreshLeaves_failed _ _
    | ok _ =>
      dsimp only
      apply ensures_okOr_seq inStep_holding _ (refreshLeaves_error _)
      intro revision hrevision
      apply persistMetadata_seq refreshLeaves_error
      apply store_seq
      exact ⟨inStep_holding, _, rfl, hinactive, context, snapshot, now, nextRefreshAt now, revision,
        Prod.ext hrevision rfl⟩

theorem refreshLocked_leaves :
    InScope C others (refreshLocked parts profileId context snapshot memory)
      (RefreshLeaves memory profileId) memory := by
  unfold refreshLocked
  split
  · exact ⟨inStep_holding, memory, rfl, rfl⟩
  · apply scope_seq (quiet_call rfl) refreshLeaves_error
    intro now
    split
    case isTrue hactive => exact refreshActive_leaves _ _ _ _ hactive
    case isFalse hinactive => exact refreshInactive_leaves _ _ _ _ hinactive

theorem refreshLocked_spec :
    InScope C others (refreshLocked parts profileId context snapshot memory)
      (SettledUnless memory) memory := by
  apply (refreshLocked_leaves profileId context snapshot).mono fun _ hI => hI
  intro r w' _ ⟨new, hw', hleaves⟩
  exact ⟨new, hw', hleaves.settledUnless⟩

end Refresh

theorem captureRefresh_spec (profileId : ProfileId) :
    InScope (W := W) C others (captureRefresh profileId memory)
      (fun _ new => new = memory) memory := by
  unfold captureRefresh
  split
  · exact ⟨inStep_holding, memory, rfl, rfl⟩
  · apply someOr_seq inStep_holding _ fun _ => ⟨memory, rfl, rfl⟩
    intro profile _
    exact ⟨inStep_holding, memory, rfl, rfl⟩

theorem selectLocked_spec (groupSelector nodeSelector : String) :
    InScope C others (selectLocked parts groupSelector nodeSelector memory)
      (ErrorKeeps memory) memory := by
  unfold selectLocked
  apply scope_seq (quiet_loadProxyView _) leaves_error
  intro ⟨core, view⟩
  apply scope_seq (only_ofExcept _) leaves_error
  intro group
  apply scope_seq (only_ofExcept _) leaves_error
  intro selection
  apply scope_seq (quiet_call rfl) leaves_error
  intro selected
  apply scope_seq (only_okOr _ _) leaves_error
  intro _
  apply scope_seq (only_someOr _ _) leaves_error
  intro activeId
  apply scope_seq (only_someOr _ _) leaves_error
  intro profiles
  apply ensures_result_seq (persistMetadata_spec profiles)
  intro r w' _ hpersisted
  rcases hpersisted with ⟨rfl, rfl⟩ | ⟨e, rfl, rfl⟩
  · apply store_seq
    exact leaves_pure
  · apply scope_seq (quiet_compensated core _) leaves_error
    intro _
    exact ⟨inStep_holding, leaves_error _⟩

theorem ruleMutationLocked_changes (mutation : RuleMutation) :
    InScope C others (ruleMutationLocked parts mutation memory)
      (Changes memory fun _ new => new = memory.profiles) memory := by
  unfold ruleMutationLocked
  apply scope_seq (only_cloneRuleSet _) changes_error
  intro cloned
  apply scope_seq (only_mutateRules _ _) changes_error
  intro ⟨change, localRules⟩
  apply scope_seq (only_someOr _ _) changes_error
  intro activeId
  apply scope_seq (only_someOr _ _) changes_error
  intro active
  apply scope_seq (only_ruleStrings _) changes_error
  intro rules
  apply scope_seq (only_compile _ _ rfl) changes_error
  intro configuration
  apply scope_seq (only_someOr _ _) changes_error
  intro generation
  apply applyReserved_seq
  · intro failure
    exact ⟨inStep_holding, changes_error _⟩
  · intro success
    apply store_seq
    exact changes_pure rfl

theorem ruleMutationLocked_spec (mutation : RuleMutation) :
    InScope C others (ruleMutationLocked parts mutation memory) (ErrorKeeps memory) memory :=
  leaves_of_changes (ruleMutationLocked_changes mutation)

def Restful (others : SupervisorWorld U S V → SupervisorWorld U S V → Prop) : Prop :=
  ∀ memory w', others (resting memory) w' → ∃ new, w' = resting new

theorem Restful.run (hothers : Restful others)
    (hrun : Relation.ReflTransGen others (resting memory) w) : ∃ new, w = resting new := by
  induction hrun with
  | refl => exact ⟨memory, rfl⟩
  | tail _ hstep ih =>
    obtain ⟨new, rfl⟩ := ih
    exact hothers new _ hstep

/-- A scope, seen from outside: other threads act, and then it does. -/
def Scoped (others : SupervisorWorld U S V → SupervisorWorld U S V → Prop)
    (R : SupervisorMemory U S V → Except ApplicationError α → SupervisorMemory U S V → Prop)
    (memory : SupervisorMemory U S V) (r : Except ApplicationError α)
    (w' : SupervisorWorld U S V) : Prop :=
  ∃ seen new, Relation.ReflTransGen others (resting memory) (resting seen) ∧ R seen r new ∧
    w' = resting new

theorem lock_seq (hothers : Restful others)
    {f : SupervisorMemory U S V → SupervisorAttempt U S V C W β} {Q}
    (h : ∀ seen, Relation.ReflTransGen others (resting memory) (resting seen) →
      Does others (f seen) Q (holding seen)) :
    Does others (supervisorCall .lock >>= f) Q (resting memory) := by
  apply call_seq inStep_resting
  intro r w' ⟨w₁, hrun, _, hr, hw'⟩
  obtain ⟨seen, rfl⟩ := hothers.run hrun
  subst hr hw'
  exact h _ hrun

theorem withState_spec (hothers : Restful others)
    {body : SupervisorMemory U S V → SupervisorAttempt U S V C W α}
    {R : SupervisorMemory U S V → Except ApplicationError α → SupervisorMemory U S V → Prop}
    (hbody : ∀ seen, InScope C others (body seen) (R seen) seen) :
    Does others (withState body) (Scoped others R memory) (resting memory) := by
  unfold withState
  apply lock_seq hothers
  intro seen hrun
  apply ensures_result_seq (hbody seen)
  intro r w' _ ⟨new, hw', hR⟩
  subst hw'
  apply call_seq inStep_holding
  intro _ w' ⟨_, hafter⟩
  subst hafter
  exact ⟨inStep_resting, seen, new, hrun, hR, rfl⟩

/-- The memory is what is stored at the end. After an error it is what other threads have made of
it, except that a refresh may have noted its failure. -/
def Ended (others : SupervisorWorld U S V → SupervisorWorld U S V → Prop)
    (refreshes : ProfileId → Prop) (memory : SupervisorMemory U S V)
    (r : Except ApplicationError α) (w' : SupervisorWorld U S V) : Prop :=
  ∃ new, w' = resting new ∧ ∀ e, r = .error e →
    ∃ seen, Relation.ReflTransGen others (resting memory) (resting seen) ∧
      (new = seen ∨ ∃ profileId, refreshes profileId ∧ Noted profileId seen new)

variable {refreshes : ProfileId → Prop}

theorem ended_same (r : Except ApplicationError α)
    (hrun : Relation.ReflTransGen others (resting memory) (resting new)) :
    Ended others refreshes memory r (resting new) :=
  ⟨new, rfl, fun _ _ => ⟨new, hrun, .inl rfl⟩⟩

theorem ended_ok (a : α) : Ended others refreshes memory (.ok a) (resting new) :=
  ⟨new, rfl, fun _ h => by cases h⟩

theorem ended_of_scoped {r : Except ApplicationError α}
    (hseen : Relation.ReflTransGen others (resting memory) (resting seen))
    (h : Scoped others ErrorKeeps seen r w') : Ended others refreshes memory r w' := by
  obtain ⟨seen', new, hrun, hkeeps, rfl⟩ := h
  refine ⟨new, rfl, fun e he => ⟨seen', hseen.trans hrun, .inl (hkeeps e he)⟩⟩

theorem profileAdd_spec (hothers : Restful others) (url : U) :
    Does (C := C) others (profileAdd X parts url) (Ended others refreshes memory)
      (resting memory) := by
  have hcount : ∀ seen,
      InScope (W := W) C others (checkProfileCount seen) (fun _ new => new = seen) seen := by
    intro seen
    exact ensures_require.2 ⟨inStep_holding, fun _ => ⟨seen, rfl, rfl⟩,
      fun _ => ⟨seen, rfl, rfl⟩⟩
  unfold profileAdd
  apply ensures_seq (withState_spec hothers hcount)
  · intro _ w' _ ⟨seen, new, hrun, hsame, hw'⟩
    subst hsame hw'
    have herror : ∀ e, Ended others refreshes memory
        (.error e : Except ApplicationError (ApplicationOutput U)) (resting new) :=
      fun e => ended_same _ hrun
    apply quiet_seq (quiet_call rfl) inStep_resting _ herror
    intro reply
    apply quiet_seq (only_ofExcept _) inStep_resting _ herror
    intro fetched
    apply quiet_seq (only_someOr _ _) inStep_resting _ herror
    intro snapshot
    apply quiet_seq (quiet_call rfl) inStep_resting _ herror
    intro profileId
    apply quiet_seq (quiet_call rfl) inStep_resting _ herror
    intro now
    apply ensures_seq (withState_spec hothers fun _ => addProfileLocked_spec _)
    · intro outcome w' hI ⟨_, new, _, _, hw'⟩
      subst hw'
      exact ⟨inStep_resting, ended_ok _⟩
    · intro e w' _ ⟨seen', new, hrun', hkeeps, hw'⟩
      subst hw'
      exact ⟨new, rfl, fun _ _ => ⟨seen', hrun.trans hrun', .inl (hkeeps e rfl)⟩⟩
  · intro e w' _ ⟨seen, new, hrun, hsame, hw'⟩
    subst hsame hw'
    exact ended_same _ hrun

variable {profileId : ProfileId}

theorem failRefresh_spec (hothers : Restful others) {stage : RefreshStage}
    {seen : SupervisorMemory U S V}
    (hseen : Relation.ReflTransGen others (resting memory) (resting seen)) :
    Does (α := α) (C := C) others (failRefresh parts profileId context stage error)
      (Ended others (· = profileId) memory) (resting seen) := by
  unfold failRefresh recordRefreshFailure
  apply ensures_seq
    (withState_spec hothers fun _ => recordLocked_spec profileId context stage error.message)
  · intro _ w' _ ⟨seen', new, hrun, hnoted, hw'⟩
    subst hw'
    refine ⟨inStep_resting, new, rfl, fun _ _ => ⟨seen', hseen.trans hrun, ?_⟩⟩
    exact hnoted.imp id fun h => ⟨profileId, rfl, h.2⟩
  · intro e w' _ ⟨seen', new, hrun, hnoted, hw'⟩
    subst hw'
    refine ⟨new, rfl, fun _ _ => ⟨seen', hseen.trans hrun, ?_⟩⟩
    exact hnoted.imp id fun h => ⟨profileId, rfl, h.2⟩

theorem refreshProfile_spec (hothers : Restful others) (profileId : ProfileId) :
    Does (C := C) others (refreshProfile parts profileId)
      (Ended others (· = profileId) memory) (resting memory) := by
  unfold refreshProfile
  apply ensures_seq (withState_spec hothers fun _ => captureRefresh_spec profileId)
  · intro captured w' _ ⟨seen, new, hrun, hsame, hw'⟩
    subst hsame hw'
    rcases captured with _ | ⟨context, url⟩
    · exact ⟨inStep_resting, ended_ok _⟩
    apply quiet_seq (quiet_call rfl) inStep_resting _ fun _ => ended_same _ hrun
    intro reply
    cases reply with
    | error error => exact failRefresh_spec hothers hrun
    | ok fetched =>
      dsimp only
      split
      · exact failRefresh_spec hothers hrun
      · apply ensures_seq
          (withState_spec hothers fun _ => refreshLocked_spec profileId context _)
        · intro ending w' _ ⟨seen', new', hrun', hsettled, hw'⟩
          subst hw'
          cases ending with
          | settled disposition => exact ⟨inStep_resting, ended_ok _⟩
          | failed stage error =>
            rcases hsettled with rfl | ⟨_, h⟩
            · exact failRefresh_spec hothers (hrun.trans hrun')
            · cases h
        · intro e w' _ ⟨seen', new', hrun', hsettled, hw'⟩
          subst hw'
          rcases hsettled with rfl | ⟨_, h⟩
          · exact ended_same _ (hrun.trans hrun')
          · cases h
  · intro e w' _ ⟨seen, new, hrun, hsame, hw'⟩
    subst hsame hw'
    exact ended_same _ hrun

theorem ruleMutation_spec (hothers : Restful others) (mutation : RuleMutation) :
    Does (C := C) others (ruleMutation parts mutation)
      (Ended others refreshes memory) (resting memory) := by
  have herror : ∀ e, Ended others refreshes memory
      (.error e : Except ApplicationError (ApplicationOutput U)) (resting memory) :=
    fun e => ended_same _ .refl
  unfold ruleMutation
  apply quiet_seq (quiet_call rfl) inStep_resting _ herror
  intro reserved
  apply quiet_seq (only_ofExcept _) inStep_resting _ herror
  intro _
  apply call_seq inStep_resting
  intro locked w' hlock
  cases locked with
  | none =>
    cases hlock
    exact ⟨inStep_resting, herror _⟩
  | some seen =>
    obtain ⟨w₁, hrun, _, hr, hw'⟩ := hlock
    obtain ⟨seen, rfl⟩ := hothers.run hrun
    subst hr hw'
    apply ensures_result_seq (ruleMutationLocked_spec mutation)
    intro r w' _ ⟨new, hw', hkeeps⟩
    subst hw'
    apply call_seq inStep_holding
    intro _ w' ⟨_, hafter⟩
    subst hafter
    exact ⟨inStep_resting, new, rfl, fun e he => ⟨_, hrun, .inl (hkeeps e he)⟩⟩

theorem quiet_checkPlacement (mutation : RuleMutation) :
    Quiet (checkPlacement parts mutation : SupervisorAttempt U S V C W RuleMutation) := by
  rcases mutation with ⟨rule, _ | _ | anchor | anchor⟩ | _ | _
  · exact (only_pure _).seq fun _ => only_pure _
  · exact (only_pure _).seq fun _ => only_pure _
  · exact ((only_checkedRule _).seq fun _ => only_pure _).seq fun _ => only_pure _
  · exact ((only_checkedRule _).seq fun _ => only_pure _).seq fun _ => only_pure _
  · exact only_pure _
  · exact only_pure _

def SupervisorOperation.Refreshes (operation : SupervisorOperation U) (profileId : ProfileId) :
    Prop :=
  operation = .refresh profileId

theorem SupervisorOperation.run_spec (hothers : Restful others)
    (operation : SupervisorOperation U) :
    Does (C := C) others (operation.run X parts) (Ended others operation.Refreshes memory)
      (resting memory) := by
  cases operation with
  | add url => exact profileAdd_spec hothers url
  | use selector =>
    apply (withState_spec hothers fun _ => activateLocked_spec selector).mono (fun _ h => h)
    exact fun _ _ _ h => ended_of_scoped .refl h
  | remove selector =>
    apply (withState_spec hothers fun _ => removeLocked_spec selector).mono (fun _ h => h)
    exact fun _ _ _ h => ended_of_scoped .refl h
  | refresh profileId =>
    apply (refreshProfile_spec hothers profileId).mono (fun _ h => h)
    intro r w' _ ⟨new, hw', herror⟩
    refine ⟨new, hw', fun e he => ?_⟩
    obtain ⟨seen, hrun, hsame | ⟨_, rfl, hnoted⟩⟩ := herror e he
    · exact ⟨seen, hrun, .inl hsame⟩
    · exact ⟨seen, hrun, .inr ⟨_, rfl, hnoted⟩⟩
  | record profileId context stage message =>
    apply ensures_seq
      (withState_spec hothers fun _ => recordLocked_spec profileId context stage message)
    · intro _ w' _ ⟨_, new, _, _, hw'⟩
      subst hw'
      exact ⟨inStep_resting, ended_ok _⟩
    · intro e w' _ ⟨seen, new, hrun, hnoted, hw'⟩
      subst hw'
      rcases hnoted with rfl | ⟨h, _⟩
      · exact ended_same _ hrun
      · cases h
  | select group node =>
    apply (withState_spec hothers fun _ => selectLocked_spec group node).mono (fun _ h => h)
    exact fun _ _ _ h => ended_of_scoped .refl h
  | rule mutation =>
    apply quiet_seq (quiet_checkPlacement mutation) inStep_resting _ fun e => ended_same _ .refl
    intro mutation
    exact ruleMutation_spec hothers mutation

inductive SupervisorTurn (U S : Type) where
  | count
  | add (profile : Profile U S)
  | use (selector : String)
  | remove (selector : String)
  | capture (profileId : ProfileId)
  | record (profileId : ProfileId) (context : RefreshContext) (stage : RefreshStage)
      (message : String)
  | refresh (profileId : ProfileId) (context : RefreshContext) (snapshot : S)
  | select (group node : String)
  | rule (mutation : RuleMutation)

section

variable (X : Codec D) (parts : SupervisorParts U S V W) (C : Type)

def SupervisorTurn.body (turn : SupervisorTurn U S) (memory : SupervisorMemory U S V) :
    SupervisorAttempt U S V C W Unit := do
  match turn with
  | .count => checkProfileCount memory
  | .add profile => let _ ← addProfileLocked X parts profile memory
  | .use selector => let _ ← activateLocked X parts selector memory
  | .remove selector => let _ ← removeLocked X parts selector memory
  | .capture profileId => let _ ← captureRefresh profileId memory
  | .record profileId context stage message =>
    recordLocked parts profileId context stage message memory
  | .refresh profileId context snapshot =>
    let _ ← refreshLocked parts profileId context snapshot memory
  | .select group node => let _ ← selectLocked parts group node memory
  | .rule mutation => let _ ← ruleMutationLocked parts mutation memory

/-- Another thread takes the lock, does what one of the operations does with it, and drops it. -/
def TakesTurn (w w' : SupervisorWorld U S V) : Prop :=
  w.held = false ∧ ∃ (turn : SupervisorTurn U S) (r : Except ApplicationError Unit) (w₁ : _),
    Finishes (supervisorEnvironment fun _ _ => False) (turn.body X parts C w.memory).run
      { w with held := true } r w₁ ∧ w' = { w₁ with held := false }

/-- A sequence of operations, each run to its end, with other threads in between. -/
inductive SupervisorRuns (others : SupervisorWorld U S V → SupervisorWorld U S V → Prop) :
    SupervisorWorld U S V → SupervisorWorld U S V → Prop where
  | refl {w : SupervisorWorld U S V} : SupervisorRuns others w w
  | operate {w w₁ w₂ : SupervisorWorld U S V} {r : Except ApplicationError (ApplicationOutput U)}
      (operation : SupervisorOperation U) : SupervisorRuns others w w₁ →
      Finishes (supervisorEnvironment others)
        (operation.run X parts : SupervisorAttempt U S V C W _).run w₁ r w₂ →
      SupervisorRuns others w w₂
  | turn {w w₁ w₂ : SupervisorWorld U S V} : SupervisorRuns others w w₁ → others w₁ w₂ →
      SupervisorRuns others w w₂

end

theorem leaves_discard {R : Except ApplicationError α → SupervisorMemory U S V → Prop}
    (h : Does others x (Leaves R) w) :
    Does others (do let _ ← x : SupervisorAttempt U S V C W Unit) (Leaves fun _ _ => True) w := by
  apply ensures_seq h
  · intro a w' hI ⟨new, hw', _⟩
    exact ⟨hI, new, hw', trivial⟩
  · intro e w' hI ⟨new, hw', _⟩
    exact ⟨new, hw', trivial⟩

theorem SupervisorTurn.body_spec (turn : SupervisorTurn U S) :
    InScope C others (turn.body X parts C memory) (fun _ _ => True) memory := by
  cases turn with
  | count =>
    exact ensures_require.2 ⟨inStep_holding, fun _ => ⟨memory, rfl, trivial⟩,
      fun _ => ⟨memory, rfl, trivial⟩⟩
  | add profile => exact leaves_discard (addProfileLocked_spec profile)
  | use selector => exact leaves_discard (activateLocked_spec selector)
  | remove selector => exact leaves_discard (removeLocked_spec selector)
  | capture profileId => exact leaves_discard (captureRefresh_spec profileId)
  | record profileId context stage message =>
    apply (recordLocked_spec profileId context stage message).mono (fun _ h => h)
    exact fun r w' _ ⟨new, hw', _⟩ => ⟨new, hw', trivial⟩
  | refresh profileId context snapshot =>
    exact leaves_discard (refreshLocked_spec profileId context snapshot)
  | select group node => exact leaves_discard (selectLocked_spec group node)
  | rule mutation => exact leaves_discard (ruleMutationLocked_spec mutation)

theorem restful_of_turns (h : ∀ w w', others w w' → TakesTurn X parts C w w') : Restful others := by
  intro memory w' hstep
  obtain ⟨_, turn, r, w₁, hfinishes, rfl⟩ := h _ _ hstep
  obtain ⟨new, rfl, _⟩ := (turn.body_spec (X := X)).finishes hfinishes
  exact ⟨new, rfl⟩

theorem SupervisorRuns.resting (hothers : Restful others)
    (hrun : SupervisorRuns X parts C others (resting memory) w) : ∃ new, w = resting new := by
  induction hrun with
  | refl => exact ⟨memory, rfl⟩
  | operate operation _ hfinishes ih =>
    obtain ⟨new, rfl⟩ := ih
    obtain ⟨last, hlast, _⟩ := (operation.run_spec hothers).finishes hfinishes
    exact ⟨last, hlast⟩
  | turn _ hstep ih =>
    obtain ⟨new, rfl⟩ := ih
    exact hothers new _ hstep

/-- Whatever the ports reply, the memory is what the last transaction that was Ok has stored, and
an operation that fails has changed nothing, except that a refresh may have noted its failure. -/
theorem memory_is_durable (hothers : ∀ w w', others w w' → TakesTurn X parts C w w')
    (hrun : SupervisorRuns X parts C others (resting memory) w) :
    w.memory = w.durable ∧ ∀ operation : SupervisorOperation U,
      (∀ w', Reaches (supervisorEnvironment others)
        (operation.run X parts : SupervisorAttempt U S V C W _).run w w' → w'.InStep) ∧
      ∀ r w', Finishes (supervisorEnvironment others)
        (operation.run X parts : SupervisorAttempt U S V C W _).run w r w' →
        Ended others operation.Refreshes w.memory r w' := by
  have hrestful := restful_of_turns hothers
  obtain ⟨new, rfl⟩ := hrun.resting hrestful
  refine ⟨rfl, fun operation => ?_⟩
  exact Prog.ensures_iff.1 (operation.run_spec hrestful)

theorem call_finishes {f : c.Reply → SupervisorAttempt U S V C W β}
    (r : c.Reply) (hstep : supervisorEnvironment others w c r w')
    (hf : Finishes (supervisorEnvironment others) (f r).run w' b w'') :
    Finishes (supervisorEnvironment others) (supervisorCall c >>= f).run w b w'' :=
  .ask hstep hf

theorem withState_finishes {body : SupervisorMemory U S V → SupervisorAttempt U S V C W α}
    (hbody : Finishes (supervisorEnvironment others) (body memory).run (holding memory) r
      (holding new)) :
    Finishes (supervisorEnvironment others) (withState body).run (resting memory) r
      (resting new) := by
  refine call_finishes memory ⟨resting memory, .refl, rfl, rfl, rfl⟩ ?_
  apply finishes_result_seq hbody
  exact call_finishes () ⟨trivial, rfl⟩ .ret

theorem recordLocked_finishes {profile : Profile U S}
    (hprofile : memory.profiles.profiles[profileId]? = some profile)
    (hconfiguration : memory.effectiveConfiguration = some configuration)
    (hgeneration : memory.runtimeGeneration = some generation)
    (hcontext : memory.profiles.refreshContext profileId = .ok context) (stage : RefreshStage)
    (message : String) (now : UInt64) :
    Finishes (supervisorEnvironment others)
      (recordLocked parts profileId context stage message memory :
        SupervisorAttempt U S V C W Unit).run (holding memory) (.ok ())
      (holding { memory with profiles := { memory.profiles with
        profiles := memory.profiles.profiles.insert profileId
          (noteFailure ⟨stage, boundedMessage message⟩ (nextRefreshAt now) profile) } }) := by
  rcases memory with ⟨profiles, localRules, _, _⟩
  cases hconfiguration
  cases hgeneration
  simp only [recordLocked, ProfileCatalog.not_stale hcontext, ProfileCatalog.amend, hprofile,
    persistMetadata]
  refine call_finishes now ⟨trivial, rfl⟩ ?_
  refine call_finishes (.ok ()) ⟨trivial, rfl⟩ ?_
  refine call_finishes () ⟨trivial, rfl⟩ ?_
  simp only [Std.ExtTreeMap.getElem?_insert_self]
  exact .ret

theorem refresh_notes_failure {profile : Profile U S}
    (hprofile : memory.profiles.profiles[profileId]? = some profile)
    (hconfiguration : memory.effectiveConfiguration = some configuration)
    (hgeneration : memory.runtimeGeneration = some generation) (error : ProfileFetchError)
    (now : UInt64) :
    Finishes (supervisorEnvironment others)
      (refreshProfile parts profileId : SupervisorAttempt U S V C W (ApplicationOutput U)).run
      (resting memory) (.error (.new .externalOperationFailed error.message error.retryable))
      (resting { memory with profiles := { memory.profiles with
        profiles := memory.profiles.profiles.insert profileId
          (noteFailure ⟨.download, boundedMessage error.message⟩
            (nextRefreshAt now) profile) } }) := by
  obtain ⟨context, hcontext⟩ :
      ∃ context, memory.profiles.refreshContext profileId = .ok context := by
    simp [ProfileCatalog.refreshContext, hprofile]
  have hcapture : Finishes (supervisorEnvironment others)
      (captureRefresh profileId memory : SupervisorAttempt U S V C W _).run (holding memory)
      (.ok (some (context, profile.subscriptionUrl))) (holding memory) := by
    simp only [captureRefresh, hcontext, hprofile]
    exact .ret
  apply finishes_seq (withState_finishes hcapture)
  refine call_finishes (.error error) ⟨trivial, rfl⟩ ?_
  apply finishes_seq (withState_finishes
    (recordLocked_finishes hprofile hconfiguration hgeneration hcontext .download
      error.message now))
  exact .ret

def homeMemory : SupervisorMemory Unit String Unit :=
  ⟨⟨(ProfileCatalog.new.insert homeProfile).2.profiles, some ⟨1⟩, 1⟩, .initialized [], some (),
    some 1⟩

/-- Parts of which nothing is used by a download that fails. -/
def idleParts : SupervisorParts Unit String Unit Unit where
  parseSnapshot _ := none
  snapshotRules _ := []
  deriveProfileName _ _ _ := ""
  parseRule _ := .ok ()
  effectiveGroupOrder _ := .ok []
  resolveProxyGroup _ _ := .error internalError
  selectionBySelector _ _ _ := .error internalError
  compilerPolicySha256 _ := ""
  coreVersion _ := ""

theorem homeMemory_profile :
    homeMemory.profiles.profiles[(⟨1⟩ : ProfileId)]? = some homeProfile := by
  decide +kernel

/-- The download has failed: an error, and yet the profile is not what it was. -/
theorem failed_refresh_changes_memory : ∃ e w', Finishes (supervisorEnvironment fun _ _ => False)
      ((SupervisorOperation.refresh ⟨1⟩).run Plain.codec idleParts :
        SupervisorAttempt Unit String Unit Unit Unit _).run (resting homeMemory) (.error e) w' ∧
      (homeMemory.profiles.profiles[(⟨1⟩ : ProfileId)]?.map (·.lastError) = some none) ∧
      w'.memory.profiles.profiles[(⟨1⟩ : ProfileId)]?.map (·.lastError) =
        some (some ⟨.download, "unreachable"⟩) :=
  ⟨_, _, refresh_notes_failure homeMemory_profile rfl rfl ⟨"unreachable", true⟩ 0,
    by decide +kernel, by decide +kernel⟩

theorem memory_is_durable_home : ∃ w' : SupervisorWorld Unit String Unit,
      SupervisorRuns Plain.codec idleParts Unit (fun _ _ => False) (resting homeMemory) w' ∧
        w'.memory.profiles.profiles[(⟨1⟩ : ProfileId)]?.map (·.lastError) =
          some (some ⟨.download, "unreachable"⟩) ∧ w'.memory = w'.durable := by
  have hrun : SupervisorRuns Plain.codec idleParts Unit (fun _ _ => False) (resting homeMemory) _ :=
    .operate (.refresh ⟨1⟩) .refl
      (refresh_notes_failure homeMemory_profile rfl rfl ⟨"unreachable", true⟩ 0)
  exact ⟨_, hrun, by decide +kernel, (memory_is_durable (fun _ _ h => h.elim) hrun).1⟩

end Supervisor

end Ratash

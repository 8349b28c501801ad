import Ratash.Interaction.Stateful
import Ratash.Proxy.View
import Ratash.Scheduler.Probe
import Ratash.Supervisor.Operations

/-!
Which instance of the Core it has seen last, the proxy view of it, the probes of its nodes, and
whether the saved selections still have to be made in it.
-/

namespace Ratash

open Std (ExtTreeMap ExtTreeSet TransOrd LawfulEqOrd TransCmp)

/-- `RuntimeRecovery` is not among them: it only depends on how the last transaction ended. -/
inductive SupervisorHealthReason where
  | selectionCompensation
  | configurationProjection
  | probeScheduler
  | selectionRestoration
deriving DecidableEq

namespace SupervisorHealthReason

def rank : SupervisorHealthReason → Nat
  | selectionCompensation => 1
  | configurationProjection => 2
  | probeScheduler => 3
  | selectionRestoration => 4

instance : Ord SupervisorHealthReason := ⟨compareOn rank⟩

instance : TransOrd SupervisorHealthReason := inferInstanceAs (TransCmp (compareOn rank))

instance : LawfulEqOrd SupervisorHealthReason where
  eq_of_compare {a b} h := by
    have hrank : a.rank = b.rank := Std.compare_eq_iff_eq.1 h
    cases a <;> cases b <;> first | rfl | cases hrank

end SupervisorHealthReason

def selectionRestoreAttemptLimit : Nat := 10

/-- The part of the Supervisor's state that follows the running Core. Telemetry and the ring of
diagnostics are left out: nothing here depends on them. -/
structure RuntimeState where
  probes : ProbeScheduler
  nextProbeGeneration : UInt64
  cachedProxyView : Option Proxy.View
  observedCoreGeneration : Option CoreInstanceGeneration
  probeCoreGeneration : Option CoreInstanceGeneration
  selectionRestorePending : Bool
  selectionRestoreAttemptsRemaining : Nat
  healthReasons : ExtTreeSet SupervisorHealthReason

def probeEligibleNode (node : Proxy.Node) : Bool := !node.coreInternal

def eligibleNodes (view : Proxy.View) : List NodeRecordId :=
  ((view.nodes.toList.map Prod.snd).filter probeEligibleNode).map Proxy.Node.recordId

def ProfileCatalog.activeSelections (profiles : ProfileCatalog U S) : ExtTreeMap String String :=
  match profiles.activeProfileId.bind (profiles.profiles[·]?) with
  | none => ∅
  | some profile => profile.selections

namespace RuntimeState

def initial : RuntimeState := ⟨.new, 0, none, none, none, false, 0, ∅⟩

def setHealthReason (reason : SupervisorHealthReason) (active : Bool) (state : RuntimeState) :
    RuntimeState :=
  { state with
    healthReasons :=
      if active then state.healthReasons.insert reason else state.healthReasons.erase reason }

def restored (state : RuntimeState) : RuntimeState :=
  { state with
    selectionRestorePending := false
    selectionRestoreAttemptsRemaining := 0 }.setHealthReason .selectionRestoration false

def beginSelectionRestore (profiles : ProfileCatalog U S) (state : RuntimeState) : RuntimeState :=
  match profiles.activeProfileId with
  | none => state.restored
  | some _ =>
    if profiles.activeSelections.isEmpty then state.restored
    else { state with
      selectionRestorePending := true
      selectionRestoreAttemptsRemaining := selectionRestoreAttemptLimit }

def consumeSelectionRestoreAttempt (state : RuntimeState) : RuntimeState :=
  if !state.selectionRestorePending then state
  else
    let remaining := state.selectionRestoreAttemptsRemaining - 1
    let state := { state with selectionRestoreAttemptsRemaining := remaining }
    if remaining = 0 then
      { state with selectionRestorePending := false }.setHealthReason .selectionRestoration true
    else state

def seedProbes (coreGeneration : CoreInstanceGeneration) (view : Proxy.View) (nowUnixMs : UInt64)
    (state : RuntimeState) : RuntimeState :=
  let generation := max (saturatingAdd64 state.nextProbeGeneration 1) 1
  let state := { state with nextProbeGeneration := generation }
  match state.probes.reset generation (eligibleNodes view) nowUnixMs with
  | (.error _, probes) =>
    { state with
      probes := probes.deactivate
      probeCoreGeneration := none }.setHealthReason .probeScheduler true
  | (.ok (), probes) =>
    { state with
      probes
      probeCoreGeneration := some coreGeneration }.setHealthReason .probeScheduler false

def forgetCore (observed : Option CoreInstanceGeneration) (profiles : ProfileCatalog U S)
    (state : RuntimeState) : RuntimeState :=
  { state with
    observedCoreGeneration := observed
    probeCoreGeneration := none
    cachedProxyView := none
    probes := state.probes.deactivate }.beginSelectionRestore profiles

/-- What `reconcile_runtime_state_locked` leaves when no profile is active. -/
def withoutProfile (state : RuntimeState) : RuntimeState :=
  ({ state with
    observedCoreGeneration := none
    probeCoreGeneration := none
    cachedProxyView := none
    probes := state.probes.deactivate }.setHealthReason .configurationProjection
      false).setHealthReason .probeScheduler false |>.restored

end RuntimeState

def selectorNotFound (kind : SelectorKind) (label : String) : ApplicationError :=
  .new (match kind with
    | .profile => .profileNotFound
    | .proxyGroup => .proxyGroupNotFound
    | .node => .nodeNotFound
    | .rule => .ruleNotFound) ("The " ++ label ++ " was not found") false

def mapSelectionError : Proxy.SelectionError → ApplicationError
  | .nodeAmbiguous name candidateIds =>
    (ApplicationError.new .nodeAmbiguous "The Node selector is ambiguous" false)
      |>.withSelectorCandidates .node (candidateIds.map fun id => ⟨id.asStr, name⟩)
  | .groupMissing _ => selectorNotFound .proxyGroup "Proxy Group"
  | .nodeMissing _ => selectorNotFound .node "Node"
  | .groupNotSelectable _ | .nodeUnavailable _ | .providerUnavailable _ | .targetIsGroup _ =>
    coreError "The selected Node is unavailable"

def resolveProxyGroup (view : Proxy.View) (selector : String) :
    Except ApplicationError ProxyGroup :=
  let found : Option Proxy.Group := match ProxyGroupId.parse selector with
    | some id => view.groups.find? fun group => group.id = id
    | none => view.groups.find? fun group => group.name = selector
  match found with
  | none => .error (selectorNotFound .proxyGroup "Proxy Group")
  | some group => .ok ⟨group.id.asStr, group.name, group.selectedName⟩

/-- `selection_by_selector` and `map_selection_error` -/
def selectionBySelector (view : Proxy.View) (groupName selector : String) :
    Except ApplicationError NodeSelection :=
  match view.selectionBySelector groupName selector with
  | .error error => .error (mapSelectionError error)
  | .ok selection => .ok ⟨selection.groupName, selection.nodeName, selection.recordId.asStr⟩

/-- The parts of the program without effects that do not look at proxy views. -/
structure ProfileParts (U S V : Type) where
  parseSnapshot : Bytes → Option S
  snapshotRules : S → List String
  groupOrder : S → List String
  deriveProfileName : Option String → U → ProfileId → String
  parseRule : String → Except Unit Unit
  compilerPolicySha256 : V → String
  coreVersion : V → String

def effectiveGroupOrder (groupOrder : S → List String) (profiles : ProfileCatalog U S) :
    Except ApplicationError (List String) :=
  match profiles.activeProfileId.bind (profiles.profiles[·]?) with
  | none => .error noActiveProfile
  | some active => .ok (groupOrder active.snapshot)

def ProfileParts.all (parts : ProfileParts U S V) : SupervisorParts U S V Proxy.View where
  parseSnapshot := parts.parseSnapshot
  snapshotRules := parts.snapshotRules
  deriveProfileName := parts.deriveProfileName
  parseRule := parts.parseRule
  effectiveGroupOrder := effectiveGroupOrder parts.groupOrder
  resolveProxyGroup := resolveProxyGroup
  selectionBySelector := selectionBySelector
  compilerPolicySha256 := parts.compilerPolicySha256
  coreVersion := parts.coreVersion

end Ratash

import Ratash.Proxy.NodeRecord

namespace Ratash.Proxy

open Std (ExtTreeMap ExtTreeSet)

def proxyViewSchemaVersion : UInt8 := 1

inductive Availability where
  | available
  | unavailable
deriving DecidableEq

inductive ViewOrderSource where
  | effectiveConfiguration
  | stableFallback
deriving DecidableEq

inductive ProviderState where
  | ready
  | unavailable
deriving DecidableEq

inductive UnresolvedMemberReason where
  | missing
  | ambiguous
  | providerUnavailable
deriving DecidableEq

inductive Member where
  | group (name : String)
  | node (name : String) (recordId : NodeRecordId) (availability : Availability)
  | unresolved (name : String) (reason : UnresolvedMemberReason) (candidateIds : List NodeRecordId)
deriving DecidableEq

def Member.name : Member → String
  | .group name | .node name _ _ | .unresolved name _ _ => name

structure Group where
  id : ProxyGroupId
  name : String
  proxyType : String
  availability : Availability
  selectable : Bool
  coreInternal : Bool
  selectedName : Option String
  members : List Member
deriving DecidableEq

structure Node where
  recordId : NodeRecordId
  name : String
  proxyType : String
  availability : Availability
  coreInternal : Bool
  source : NodeSource
deriving DecidableEq

inductive ProviderVehicle where
  | http
  | file
  | inline
  | compatible
  | unknown
deriving DecidableEq

structure Provider where
  name : String
  vehicle : ProviderVehicle
  nodeIds : List NodeRecordId
deriving DecidableEq

structure View where
  schemaVersion : UInt8
  orderSource : ViewOrderSource
  providerState : ProviderState
  groups : List Group
  nodes : ExtTreeMap NodeRecordId Node
  providers : List Provider

structure RawProxy where
  proxyType : String
  alive : Bool
  all : Option (List String)
  now : Option String
  provider : Option String
deriving DecidableEq

abbrev RawProxies := ExtTreeMap String RawProxy

structure RawProviderProxy where
  name : String
  proxyType : String
  alive : Bool
deriving DecidableEq

structure RawProvider where
  vehicleType : String
  proxies : List RawProviderProxy
deriving DecidableEq

abbrev RawProviders := ExtTreeMap String RawProvider

def availability (alive : Bool) : Availability := if alive then .available else .unavailable

def isCoreInternal (name : String) : Bool :=
  name ∈ ["GLOBAL", "DIRECT", "REJECT", "REJECT-DROP", "PASS", "COMPATIBLE"]

def toAsciiLowercase (text : String) : String := .ofList (text.toList.map Char.toLower)

def providerVehicle (value : String) : ProviderVehicle :=
  match toAsciiLowercase value with
  | "http" => .http
  | "file" => .file
  | "inline" => .inline
  | "compatible" => .compatible
  | _ => .unknown

section

variable (H : Sha256)

structure Tables where
  nodes : ExtTreeMap NodeRecordId Node
  providerCandidates : ExtTreeMap String (ExtTreeSet NodeRecordId)
  providerViews : List Provider
  rawGroups : ExtTreeMap String RawProxy
  coreNodeIds : ExtTreeMap String NodeRecordId

namespace Tables

def empty : Tables := ⟨∅, ∅, [], ∅, ∅⟩

/-- `nodes.entry(record_id).or_insert(node)` -/
def addNode (node : Node) (tables : Tables) : Tables :=
  { tables with nodes := tables.nodes.insertIfNew node.recordId node }

/-- `provider_candidates.entry(name).or_default().insert(record_id)` -/
def addCandidate (name : String) (recordId : NodeRecordId) (tables : Tables) : Tables :=
  { tables with
    providerCandidates := tables.providerCandidates.insert name
      ((tables.providerCandidates[name]?.getD ∅).insert recordId) }

def addProviderProxy (providerName : String) (state : Tables × List NodeRecordId)
    (proxy : RawProviderProxy) : Tables × List NodeRecordId :=
  let (tables, nodeIds) := state
  let source := NodeSource.provider providerName proxy.name
  let recordId := NodeRecordId.forSource H source
  let tables := (tables.addCandidate proxy.name recordId).addNode
    ⟨recordId, proxy.name, proxy.proxyType, availability proxy.alive, false, source⟩
  (tables, if recordId ∈ nodeIds then nodeIds else nodeIds ++ [recordId])

def addProvider (tables : Tables) (entry : String × RawProvider) : Tables :=
  let (providerName, provider) := entry
  let (tables, nodeIds) := provider.proxies.foldl (addProviderProxy H providerName) (tables, [])
  { tables with
    providerViews := tables.providerViews ++
      [⟨providerName, providerVehicle provider.vehicleType, nodeIds⟩] }

/-- A proxy that is no group is a node of the Core, or of the provider it names. -/
def rawSource (name : String) (proxy : RawProxy) : NodeSource :=
  match proxy.provider with
  | none => .core name
  | some providerName => .provider providerName name

def addProxy (tables : Tables) (entry : String × RawProxy) : Tables :=
  let (name, proxy) := entry
  if proxy.all.isSome then { tables with rawGroups := tables.rawGroups.insert name proxy }
  else
    let source := rawSource name proxy
    let recordId := NodeRecordId.forSource H source
    let tables := match source with
      | .core _ => { tables with coreNodeIds := tables.coreNodeIds.insert name recordId }
      | .provider _ _ => tables.addCandidate name recordId
    tables.addNode
      ⟨recordId, name, proxy.proxyType, availability proxy.alive, isCoreInternal name, source⟩

def collect (proxies : RawProxies) (providers : Option RawProviders) : Tables :=
  proxies.toList.foldl (addProxy H)
    ((providers.getD ∅).toList.foldl (addProvider H) empty)

def availabilityOf (recordId : NodeRecordId) (tables : Tables) : Availability :=
  match tables.nodes[recordId]? with
  | none => .unavailable
  | some node => node.availability

def resolveMember (providerState : ProviderState) (tables : Tables) (name : String) : Member :=
  if tables.rawGroups.contains name then .group name
  else match tables.coreNodeIds[name]? with
  | some recordId => .node name recordId (tables.availabilityOf recordId)
  | none =>
    if providerState = .unavailable then .unresolved name .providerUnavailable []
    else match tables.providerCandidates[name]? with
    | none => .unresolved name .missing []
    | some candidates => match candidates.toList with
      | [recordId] => .node name recordId (tables.availabilityOf recordId)
      | candidateIds => .unresolved name .ambiguous candidateIds

end Tables

/-- The loop over the effective order: names in order, and those that were taken. -/
def orderName (rawGroups : ExtTreeMap String RawProxy)
    (state : List String × ExtTreeSet String) (name : String) : List String × ExtTreeSet String :=
  if rawGroups.contains name && !state.2.contains name then
    (state.1 ++ [name], state.2.insert name)
  else state

/-- Each group is taken out of the table when its turn comes. -/
def takeGroups : List String → ExtTreeMap String RawProxy → List (String × RawProxy)
  | [], _ => []
  | name :: names, rawGroups =>
    match rawGroups[name]? with
    | none => takeGroups names rawGroups
    | some proxy => (name, proxy) :: takeGroups names (rawGroups.erase name)

def buildGroup (providerState : ProviderState) (tables : Tables) (entry : String × RawProxy) :
    Group :=
  let (name, proxy) := entry
  { id := .forName H name
    name
    proxyType := proxy.proxyType
    availability := availability proxy.alive
    selectable := toAsciiLowercase proxy.proxyType = "selector"
    coreInternal := isCoreInternal name
    selectedName := proxy.now
    members := (proxy.all.getD []).map (tables.resolveMember providerState) }

def buildProxyView (proxies : RawProxies) (providers : Option RawProviders)
    (effectiveGroupOrder : List String) : View :=
  let providerState := if providers.isSome then .ready else .unavailable
  let tables := Tables.collect H proxies providers
  let (orderedNames, selected) := effectiveGroupOrder.foldl (orderName tables.rawGroups) ([], ∅)
  let names := orderedNames ++ tables.rawGroups.keys.filter fun name => !selected.contains name
  { schemaVersion := proxyViewSchemaVersion
    orderSource := if orderedNames.isEmpty then .stableFallback else .effectiveConfiguration
    providerState
    groups := (takeGroups names tables.rawGroups).map (buildGroup H providerState tables)
    nodes := tables.nodes
    providers := tables.providerViews }

end

structure Selection where
  groupName : String
  nodeName : String
  recordId : NodeRecordId
deriving DecidableEq

inductive SelectionError where
  | groupMissing (name : String)
  | groupNotSelectable (name : String)
  | nodeMissing (name : String)
  | nodeAmbiguous (name : String) (candidateIds : List NodeRecordId)
  | nodeUnavailable (name : String)
  | providerUnavailable (name : String)
  | targetIsGroup (name : String)
deriving DecidableEq

/-- What the loop of `resolve_exact_selection` has seen. -/
structure Seen where
  candidates : ExtTreeSet NodeRecordId
  unresolved : Option UnresolvedMemberReason
  sawNestedGroup : Bool

def Seen.add (nodeName : String) (seen : Seen) : Member → Except SelectionError Seen
  | .node _ recordId availability =>
    if availability = .unavailable then .error (.nodeUnavailable nodeName)
    else .ok { seen with candidates := seen.candidates.insert recordId }
  | .unresolved _ reason candidateIds =>
    .ok { seen with
      candidates := seen.candidates.insertMany candidateIds
      unresolved := some reason }
  | .group _ => .ok { seen with sawNestedGroup := true }

def Seen.conclude (groupName nodeName : String) (seen : Seen) : Except SelectionError Selection :=
  if 1 < seen.candidates.size ∨ seen.unresolved = some .ambiguous then
    .error (.nodeAmbiguous nodeName seen.candidates.toList)
  else match seen.candidates.toList.head? with
  | some recordId => .ok ⟨groupName, nodeName, recordId⟩
  | none =>
    if seen.unresolved = some .providerUnavailable then .error (.providerUnavailable nodeName)
    else if seen.sawNestedGroup then .error (.targetIsGroup nodeName)
    else .error (.nodeMissing nodeName)

namespace View

/-- `ProxyView::groups` under a name that can be selected in. -/
def selectableGroup (view : View) (groupName : String) : Except SelectionError Group :=
  match view.groups.find? fun group => group.name = groupName with
  | none => .error (.groupMissing groupName)
  | some group => if group.selectable then .ok group else .error (.groupNotSelectable groupName)

def resolveExactSelection (view : View) (groupName nodeName : String) :
    Except SelectionError Selection := do
  let group ← view.selectableGroup groupName
  let seen ← (group.members.filter fun member => member.name = nodeName).foldlM
    (Seen.add nodeName) ⟨∅, none, false⟩
  seen.conclude groupName nodeName

/-- The name and the availability of a member that is the given node. -/
def nodeMember (recordId : NodeRecordId) : Member → Option (String × Availability)
  | .node name candidate availability =>
    if candidate = recordId then some (name, availability) else none
  | _ => none

/-- The selector is the text of a record id. -/
def selectRecord (groupName : String) (group : Group) (recordId : NodeRecordId) :
    Except SelectionError Selection :=
  match group.members.findSome? (nodeMember recordId) with
  | some (name, .available) => .ok ⟨groupName, name, recordId⟩
  | some (name, .unavailable) => .error (.nodeUnavailable name)
  | none => .error (.nodeMissing recordId.asStr)

def selectionBySelector (view : View) (groupName selector : String) :
    Except SelectionError Selection := do
  let group ← view.selectableGroup groupName
  match NodeRecordId.parse selector with
  | some recordId => selectRecord groupName group recordId
  | none => view.resolveExactSelection groupName selector

end View

end Ratash.Proxy

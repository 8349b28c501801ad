import Mathlib.Data.List.Induction
import Ratash.Proxy.Resolution

/-! A node that is selected by its name is the one that is selected by the id that was returned. -/

namespace Ratash.Proxy

open Std (ExtTreeMap ExtTreeSet)

theorem eraseDups_append_singleton {l : List String} {a : String} :
    (l ++ [a]).eraseDups = if a ∈ l then l.eraseDups else l.eraseDups ++ [a] := by
  rw [List.eraseDups_append]
  by_cases h : a ∈ l
  · simp [h, List.removeAll]
  · simp [h, List.removeAll, List.eraseDups_cons]

theorem nodup_eraseDups (l : List String) : l.eraseDups.Nodup := by
  induction l using List.reverseRecOn with
  | nil => simp
  | append_singleton l a ih =>
    rw [eraseDups_append_singleton]
    split
    · exact ih
    · rename_i hfresh
      rw [List.nodup_append]
      refine ⟨ih, by simp, ?_⟩
      intro b hb c hc
      rw [List.mem_singleton.1 hc]
      intro heq
      exact hfresh (List.mem_eraseDups.1 (heq ▸ hb))

theorem foldl_orderName (rawGroups : ExtTreeMap String RawProxy) (order : List String) :
    (order.foldl (orderName rawGroups) ([], ∅)).1 = (order.filter rawGroups.contains).eraseDups ∧
      ∀ name, name ∈ (order.foldl (orderName rawGroups) ([], ∅)).2 ↔
        name ∈ order.filter rawGroups.contains := by
  induction order using List.reverseRecOn with
  | nil => exact ⟨rfl, by simp⟩
  | append_singleton order name ih =>
    rw [List.foldl_append, List.foldl_cons, List.foldl_nil, List.filter_append]
    generalize order.foldl (orderName rawGroups) ([], ∅) = state at ih
    obtain ⟨hordered, hselected⟩ := ih
    by_cases hgroup : rawGroups.contains name = true
    · rw [List.filter_cons_of_pos hgroup, List.filter_nil, eraseDups_append_singleton]
      by_cases hdup : state.2.contains name = true
      · have hmem := (hselected name).1 (ExtTreeSet.contains_iff_mem.1 hdup)
        rw [if_pos hmem, orderName, if_neg (by simp [hdup])]
        refine ⟨hordered, fun other => ?_⟩
        rw [hselected, List.mem_append, List.mem_singleton]
        constructor
        · exact .inl
        · rintro (h | rfl)
          · exact h
          · exact hmem
      · have hmem : name ∉ order.filter rawGroups.contains :=
          fun h => hdup (ExtTreeSet.contains_iff_mem.2 ((hselected name).2 h))
        rw [if_neg hmem, orderName, if_pos (by simp [hgroup, hdup])]
        refine ⟨by rw [hordered], fun other => ?_⟩
        rw [ExtTreeSet.mem_insert, Std.compare_eq_iff_eq, hselected, List.mem_append,
          List.mem_singleton, or_comm, eq_comm]
    · rw [List.filter_cons_of_neg hgroup, List.filter_nil, List.append_nil, orderName,
        if_neg (by simp [hgroup])]
      exact ⟨hordered, hselected⟩

theorem takeGroups_spec {names : List String} {rawGroups : ExtTreeMap String RawProxy}
    (hnodup : names.Nodup) (hnames : ∀ name ∈ names, name ∈ rawGroups) :
    (takeGroups names rawGroups).map Prod.fst = names ∧
      ∀ entry ∈ takeGroups names rawGroups, rawGroups[entry.1]? = some entry.2 := by
  induction names generalizing rawGroups with
  | nil => exact ⟨rfl, by simp [takeGroups]⟩
  | cons name names ih =>
    obtain ⟨hfresh, hnodup⟩ := List.nodup_cons.1 hnodup
    obtain ⟨proxy, hproxy⟩ := Option.isSome_iff_exists.1
      (ExtTreeMap.mem_iff_isSome_getElem?.1 (hnames name List.mem_cons_self))
    have hrest : ∀ other ∈ names, other ∈ rawGroups.erase name := by
      intro other hother
      rw [ExtTreeMap.mem_erase, ne_eq, Std.compare_eq_iff_eq]
      exact ⟨fun heq => hfresh (heq ▸ hother), hnames other (List.mem_cons_of_mem _ hother)⟩
    obtain ⟨hmap, hfound⟩ := ih hnodup hrest
    rw [takeGroups, hproxy]
    refine ⟨by rw [List.map_cons, hmap], ?_⟩
    intro entry hentry
    rcases List.mem_cons.1 hentry with rfl | hentry
    · exact hproxy
    · have hfound := hfound entry hentry
      rw [ExtTreeMap.getElem?_erase] at hfound
      split at hfound
      · cases hfound
      · exact hfound

def isGroup (proxies : RawProxies) (name : String) : Bool :=
  proxies[name]?.any fun proxy => proxy.all.isSome

theorem contains_rawGroups (H : Sha256) (proxies : RawProxies) (providers : Option RawProviders)
    (name : String) :
    (Tables.collect H proxies providers).rawGroups.contains name = isGroup proxies name := by
  rw [Bool.eq_iff_iff, ExtTreeMap.contains_iff_mem, Tables.mem_rawGroups_collect, isGroup,
    Option.any_eq_true]

section

variable (H : Sha256) (proxies : RawProxies) (providers : Option RawProviders)
  (order : List String)

def otherGroups : List String :=
  (Tables.collect H proxies providers).rawGroups.keys.filter fun name => name ∉ order

def groupNames : List String :=
  (order.filter (isGroup proxies)).eraseDups ++ otherGroups H proxies providers order

theorem mem_otherGroups {name : String} :
    name ∈ otherGroups H proxies providers order ↔ isGroup proxies name = true ∧ name ∉ order := by
  rw [otherGroups, List.mem_filter, ExtTreeMap.mem_keys, ← ExtTreeMap.contains_iff_mem,
    contains_rawGroups, decide_eq_true_eq]

theorem mem_groupNames {name : String} :
    name ∈ groupNames H proxies providers order ↔ isGroup proxies name = true := by
  rw [groupNames, List.mem_append, List.mem_eraseDups, List.mem_filter, mem_otherGroups]
  by_cases hname : name ∈ order <;> simp [hname]

theorem nodup_groupNames : (groupNames H proxies providers order).Nodup := by
  rw [groupNames, List.nodup_append]
  refine ⟨nodup_eraseDups _, ExtTreeMap.nodup_keys.filter _, ?_⟩
  intro first hfirst other hother heq
  rw [List.mem_eraseDups, List.mem_filter] at hfirst
  exact ((mem_otherGroups H proxies providers order).1 hother).2 (heq ▸ hfirst.1)

def stateOf : ProviderState := if providers.isSome then .ready else .unavailable

theorem groups_buildProxyView : (buildProxyView H proxies providers order).groups =
      (takeGroups (groupNames H proxies providers order)
        (Tables.collect H proxies providers).rawGroups).map
          (buildGroup H (stateOf providers) (Tables.collect H proxies providers)) := by
  obtain ⟨hordered, hselected⟩ :=
    foldl_orderName (Tables.collect H proxies providers).rawGroups order
  have hgroup : (Tables.collect H proxies providers).rawGroups.contains = isGroup proxies :=
    funext (contains_rawGroups H proxies providers)
  simp only [buildProxyView, groupNames, otherGroups, stateOf, hordered, hgroup]
  congr 3
  apply List.filter_congr
  intro name hname
  rw [ExtTreeMap.mem_keys, ← ExtTreeMap.contains_iff_mem] at hname
  rw [Bool.eq_iff_iff, Bool.not_eq_true', ← Bool.not_eq_true, ExtTreeSet.contains_iff_mem,
    hselected, List.mem_filter, decide_eq_true_eq, hname, eq_self, and_true]

theorem groups_spec : (buildProxyView H proxies providers order).groups.map Group.name =
        groupNames H proxies providers order ∧
      ∀ group ∈ (buildProxyView H proxies providers order).groups, ∃ proxy,
        proxies[group.name]? = some proxy ∧ group.members = (proxy.all.getD []).map
            ((Tables.collect H proxies providers).resolveMember (stateOf providers)) := by
  have hnames : ∀ name ∈ groupNames H proxies providers order,
      name ∈ (Tables.collect H proxies providers).rawGroups := by
    intro name hname
    rw [← ExtTreeMap.contains_iff_mem, contains_rawGroups]
    exact (mem_groupNames H proxies providers order).1 hname
  obtain ⟨hmap, hfound⟩ := takeGroups_spec (nodup_groupNames H proxies providers order) hnames
  rw [groups_buildProxyView]
  constructor
  · rw [List.map_map]
    exact hmap
  · intro group hgroup
    obtain ⟨entry, hentry, rfl⟩ := List.mem_map.1 hgroup
    exact ⟨entry.2, Tables.rawGroups_collect (hfound entry hentry), rfl⟩

end

def Group.ResolvedBy (tables : Tables) (state : ProviderState) (group : Group) : Prop :=
  ∀ member ∈ group.members, member = tables.resolveMember state member.name

theorem resolvedBy_of_map {tables : Tables} {state : ProviderState} {group : Group}
    {names : List String} (h : group.members = names.map (tables.resolveMember state)) :
    group.ResolvedBy tables state := by
  intro member hmember
  rw [h] at hmember
  obtain ⟨name, _, rfl⟩ := List.mem_map.1 hmember
  rw [Tables.name_resolveMember]

def Member.Supplies (id : NodeRecordId) : Member → Prop
  | .node _ recordId availability => recordId = id ∧ availability = .available
  | .unresolved _ _ candidateIds => id ∈ candidateIds
  | .group _ => False

theorem foldlM_add {members : List Member} {seen : Seen}
    (hfold : members.foldlM (Seen.add nodeName) before = .ok seen) :
    (∀ id ∈ seen.candidates, id ∈ before.candidates ∨ ∃ member ∈ members, member.Supplies id) ∧
      ∀ reason, (∀ member ∈ members, ∃ name ids, member = .unresolved name reason ids) →
        members ≠ [] → seen.unresolved = some reason := by
  induction members generalizing before with
  | nil =>
    cases hfold
    exact ⟨fun id hid => .inl hid, fun _ _ hne => absurd rfl hne⟩
  | cons member members ih =>
    rw [List.foldlM_cons] at hfold
    cases hadd : Seen.add nodeName before member with
    | error e =>
      rw [hadd] at hfold
      cases hfold
    | ok next =>
      rw [hadd] at hfold
      obtain ⟨hcandidates, hreason⟩ := ih hfold
      constructor
      · intro id hid
        rcases hcandidates id hid with hbefore | ⟨other, hother, hsupplies⟩
        · cases member with
          | node name recordId availability =>
            simp only [Seen.add] at hadd
            split at hadd
            · cases hadd
            · rename_i havailable
              cases hadd
              rcases ExtTreeSet.mem_insert.1 hbefore with heq | hbefore
              · refine .inr ⟨_, List.mem_cons_self, Std.compare_eq_iff_eq.1 heq, ?_⟩
                cases availability with
                | available => rfl
                | unavailable => exact absurd rfl havailable
              · exact .inl hbefore
          | unresolved name reason ids =>
            cases hadd
            rw [ExtTreeSet.mem_insertMany_list] at hbefore
            rcases hbefore with hbefore | hmem
            · exact .inl hbefore
            · exact .inr ⟨_, List.mem_cons_self, List.contains_iff_mem.1 hmem⟩
          | group name =>
            cases hadd
            exact .inl hbefore
        · exact .inr ⟨other, List.mem_cons_of_mem _ hother, hsupplies⟩
      · intro reason hall _
        have hrest := fun m hm => hall m (List.mem_cons_of_mem _ hm)
        cases members with
        | nil =>
          obtain ⟨name, ids, rfl⟩ := hall member List.mem_cons_self
          cases hadd
          cases hfold
          rfl
        | cons other members => exact hreason reason hrest (List.cons_ne_nil _ _)

variable {id : NodeRecordId}

namespace View

variable {view : View}

theorem selectableGroup_ok (h : view.selectableGroup groupName = .ok group) :
    group ∈ view.groups ∧ group.name = groupName ∧ group.selectable = true := by
  unfold selectableGroup at h
  split at h
  · cases h
  · rename_i found hfind
    split at h
    · rename_i hselectable
      cases h
      have hname := List.find?_some hfind
      exact ⟨List.mem_of_find?_eq_some hfind, of_decide_eq_true hname, hselectable⟩
    · cases h

theorem resolveExactSelection_ok {tables : Tables} {state : ProviderState}
    (hresolved : ∀ group ∈ view.groups, group.ResolvedBy tables state)
    (h : view.resolveExactSelection groupName nodeName = .ok selection) :
    ∃ group, view.selectableGroup groupName = .ok group ∧
      selection.groupName = groupName ∧ selection.nodeName = nodeName ∧
      .node nodeName selection.recordId .available ∈ group.members := by
  obtain ⟨group, hgroup, h⟩ := bind_eq_ok.1 h
  obtain ⟨seen, hfold, hconclude⟩ := bind_eq_ok.1 h
  obtain ⟨hcandidates, hreason⟩ := foldlM_add hfold
  have hmembers := hresolved group (selectableGroup_ok hgroup).1
  unfold Seen.conclude at hconclude
  split at hconclude
  · cases hconclude
  · rename_i hclear
    split at hconclude
    · rename_i recordId hfirst
      cases hconclude
      refine ⟨group, hgroup, rfl, rfl, ?_⟩
      have hcandidate := ExtTreeSet.mem_toList.1 (List.mem_of_mem_head? hfirst)
      rcases hcandidates recordId hcandidate with hnone | ⟨member, hmem, hsupplies⟩
      · simp at hnone
      · obtain ⟨hmem, hname⟩ := List.mem_filter.1 hmem
        have hname : member.name = nodeName := of_decide_eq_true hname
        cases member with
        | node name id availability =>
          obtain ⟨rfl, rfl⟩ := hsupplies
          exact hname ▸ hmem
        | unresolved name reason ids =>
          -- All members of the name are this one, so that the loop ends with its reason.
          have hambiguous : reason = .ambiguous :=
            Tables.resolveMember_unresolved (hmembers _ hmem).symm hsupplies
          apply absurd (hreason .ambiguous _ (List.ne_nil_of_mem (List.mem_filter.2 ⟨hmem, _⟩)))
            (fun h => hclear (.inr h))
          · intro other hother
            obtain ⟨hother, hsame⟩ := List.mem_filter.1 hother
            have hsame : other.name = nodeName := of_decide_eq_true hsame
            refine ⟨name, ids, ?_⟩
            rw [hmembers other hother, hsame, ← hname, ← hmembers _ hmem, hambiguous]
          · exact decide_eq_true hname
        | group name => exact absurd hsupplies id
    · split at hconclude
      · cases hconclude
      · split at hconclude <;> cases hconclude

theorem resolveExactSelection_of_name (hparse : NodeRecordId.parse selector = none)
    (h : view.selectionBySelector groupName selector = .ok selection) :
    view.resolveExactSelection groupName selector = .ok selection := by
  obtain ⟨group, _, h⟩ := bind_eq_ok.1 h
  rw [hparse] at h
  exact h

theorem selectionBySelector_id (hparse : NodeRecordId.parse selector = some id)
    (h : view.selectionBySelector groupName selector = .ok selection) :
    ∃ group, view.selectableGroup groupName = .ok group ∧
      selection.groupName = groupName ∧ selection.recordId = id ∧
      .node selection.nodeName id .available ∈ group.members := by
  obtain ⟨group, hgroup, h⟩ := bind_eq_ok.1 h
  rw [hparse] at h
  refine ⟨group, hgroup, ?_⟩
  change selectRecord groupName group id = _ at h
  unfold selectRecord at h
  split at h
  · rename_i name hfind
    cases h
    obtain ⟨member, hmem, hmember⟩ := List.exists_of_findSome?_eq_some hfind
    cases member with
    | node name' candidate availability =>
      simp only [nodeMember] at hmember
      split at hmember
      · rename_i hsame
        cases hmember
        subst hsame
        exact ⟨rfl, rfl, hmem⟩
      · cases hmember
    | unresolved | group => cases hmember
  · cases h
  · cases h

/-- The selection is of a node of the group that is available and the only one of its name. -/
structure Denotes (view : View) (selection : Selection) (group : Group) : Prop where
  shown : group ∈ view.groups
  selectable : group.selectable = true
  member : .node selection.nodeName selection.recordId .available ∈ group.members
  unique : ∀ member ∈ group.members, member.name = selection.nodeName →
    member = .node selection.nodeName selection.recordId .available
  node : ∃ node, view.nodes[selection.recordId]? = some node ∧ node.name = selection.nodeName ∧
    node.availability = .available

end View

/-- SHA-256 tells the reported nodes apart. -/
structure ToldApart (H : Sha256) (proxies : RawProxies) (providers : Option RawProviders) :
    Prop where
  fits : ∀ source, Reported proxies providers source → source.Fits
  distinct : ∀ a b, Reported proxies providers a → Reported proxies providers b →
    H.hex a.canonical = H.hex b.canonical → a.canonical = b.canonical

theorem ToldApart.eq_of_forSource_eq (h : ToldApart H proxies providers)
    (ha : Reported proxies providers a) (hb : Reported proxies providers b)
    (heq : NodeRecordId.forSource H a = .forSource H b) : a = b := by
  have htexts := congrArg NodeRecordId.asStr heq
  rw [NodeRecordId.asStr_forSource, NodeRecordId.asStr_forSource] at htexts
  exact NodeSource.canonical_injective (h.fits a ha) (h.fits b hb)
    (h.distinct a b ha hb (String.append_right_inj _ |>.1 htexts))

section

variable {H : Sha256} {proxies : RawProxies} {providers : Option RawProviders}
  {order : List String}

theorem resolvedBy_collect : ∀ group ∈ (buildProxyView H proxies providers order).groups,
    group.ResolvedBy (Tables.collect H proxies providers) (stateOf providers) := by
  intro group hgroup
  obtain ⟨proxy, _, hmembers⟩ := (groups_spec H proxies providers order).2 group hgroup
  exact resolvedBy_of_map hmembers

theorem knows_of_member {found : Availability}
    (hgroup : group ∈ (buildProxyView H proxies providers order).groups)
    (hmember : .node name id found ∈ group.members) :
    (Tables.collect H proxies providers).Knows H (Reported proxies providers) name id ∧
      found = (Tables.collect H proxies providers).availabilityOf id :=
  (Tables.collect_faithful H proxies providers).resolveMember_node
    (resolvedBy_collect group hgroup _ hmember).symm

theorem denotes_of_member (hgroup : group ∈ (buildProxyView H proxies providers order).groups)
    (hselectable : group.selectable = true)
    (hmember : .node selection.nodeName selection.recordId .available ∈ group.members)
    (hapart : ToldApart H proxies providers) :
    (buildProxyView H proxies providers order).Denotes selection group := by
  have hresolved := resolvedBy_collect group hgroup
  obtain ⟨⟨hmem, source, hreported, hid, hname⟩, havailable⟩ := knows_of_member hgroup hmember
  refine ⟨hgroup, hselectable, hmember, ?_, ?_⟩
  · intro member hother hsame
    rw [hresolved member hother, hsame]
    exact (hresolved _ hmember).symm
  · obtain ⟨node, hnode⟩ := Option.isSome_iff_exists.1 (ExtTreeMap.mem_iff_isSome_getElem?.1 hmem)
    obtain ⟨hfrom, hof, hnamed⟩ :=
      (Tables.collect_faithful H proxies providers).nodes _ node hnode
    have hsource := hapart.eq_of_forSource_eq hfrom hreported (hof.symm.trans hid)
    refine ⟨node, hnode, ?_, ?_⟩
    · rw [hnamed, hsource, hname]
    · rw [Tables.availabilityOf, hnode] at havailable
      exact havailable.symm

theorem selectionBySelector_of_member
    (hgroup : (buildProxyView H proxies providers order).selectableGroup groupName = .ok group)
    (hmember : .node name id .available ∈ group.members) (hapart : ToldApart H proxies providers) :
    (buildProxyView H proxies providers order).selectionBySelector groupName id.asStr =
      .ok ⟨groupName, name, id⟩ := by
  have hshown := (View.selectableGroup_ok hgroup).1
  obtain ⟨⟨_, source, hreported, hid, hname⟩, havailable⟩ := knows_of_member hshown hmember
  have hsome : (group.members.findSome? (View.nodeMember id)).isSome = true := by
    rw [List.findSome?_isSome_iff]
    exact ⟨_, hmember, by simp [View.nodeMember]⟩
  obtain ⟨⟨found, state⟩, hfind⟩ := Option.isSome_iff_exists.1 hsome
  obtain ⟨member, hmem, hnode⟩ := List.exists_of_findSome?_eq_some hfind
  -- Whichever member comes first, it has the id of the same source.
  have hfirst : found = name ∧ state = .available := by
    cases member with
    | node other candidate availability =>
      simp only [View.nodeMember] at hnode
      split at hnode
      · rename_i hsame
        subst hsame
        cases hnode
        obtain ⟨⟨_, source', hreported', hid', hname'⟩, havailable'⟩ := knows_of_member hshown hmem
        have hsource := hapart.eq_of_forSource_eq hreported hreported' (hid.symm.trans hid')
        exact ⟨by rw [← hname', ← hsource, hname], havailable'.trans havailable.symm⟩
      · cases hnode
    | unresolved | group => cases hnode
  obtain ⟨rfl, rfl⟩ := hfirst
  rw [View.selectionBySelector, hgroup, NodeRecordId.parse_asStr]
  change View.selectRecord groupName group id = _
  rw [View.selectRecord, hfind]

end

/-- In the view of any report every group is shown once, those of the effective order first; the ids
of its nodes are in the table; what is selected is an available node that is the only one of its
name in the group; and a name and the id it gives select the same. -/
theorem selections_agree (H : Sha256) (proxies : RawProxies) (providers : Option RawProviders)
    (order : List String) (hapart : ToldApart H proxies providers) :
    let view := buildProxyView H proxies providers order
    ((view.groups.map Group.name).Nodup ∧
      (∀ name, name ∈ view.groups.map Group.name ↔ isGroup proxies name = true) ∧
      ∃ rest, view.groups.map Group.name = (order.filter (isGroup proxies)).eraseDups ++ rest ∧
        ∀ name ∈ rest, name ∉ order) ∧
    (∀ group ∈ view.groups, ∀ name id availability,
      .node name id availability ∈ group.members → id ∈ view.nodes) ∧
    (∀ groupName selector selection,
      view.selectionBySelector groupName selector = .ok selection →
        ∃ group, group.name = groupName ∧ selection.groupName = groupName ∧
          view.Denotes selection group) ∧
    ∀ groupName name selection, NodeRecordId.parse name = none →
      view.selectionBySelector groupName name = .ok selection →
        view.selectionBySelector groupName selection.recordId.asStr = .ok selection := by
  intro view
  obtain ⟨hnames, hgroups⟩ := groups_spec H proxies providers order
  refine ⟨?_, ?_, ?_, ?_⟩
  · rw [hnames]
    refine ⟨nodup_groupNames .., fun name => mem_groupNames .., _, rfl, ?_⟩
    exact fun name hname => ((mem_otherGroups H proxies providers order).1 hname).2
  · intro group hgroup name id availability hmember
    exact (knows_of_member hgroup hmember).1.1
  · intro groupName selector selection hselected
    obtain ⟨group, hgroup, hof, hmember⟩ : ∃ group, view.selectableGroup groupName = .ok group ∧
        selection.groupName = groupName ∧
        .node selection.nodeName selection.recordId .available ∈ group.members := by
      cases hparse : NodeRecordId.parse selector with
      | some id =>
        obtain ⟨group, hgroup, hof, rfl, hmember⟩ := View.selectionBySelector_id hparse hselected
        exact ⟨group, hgroup, hof, hmember⟩
      | none =>
        obtain ⟨group, hgroup, hof, rfl, hmember⟩ := View.resolveExactSelection_ok
          resolvedBy_collect (View.resolveExactSelection_of_name hparse hselected)
        exact ⟨group, hgroup, hof, hmember⟩
    obtain ⟨hshown, hname, hselectable⟩ := View.selectableGroup_ok hgroup
    exact ⟨group, hname, hof, denotes_of_member hshown hselectable hmember hapart⟩
  · intro groupName name selection hname hselected
    obtain ⟨group, hgroup, hof, rfl, hmember⟩ := View.resolveExactSelection_ok
      resolvedBy_collect (View.resolveExactSelection_of_name hname hselected)
    rw [selectionBySelector_of_member hgroup hmember hapart, ← hof]

def reportedSources (proxies : RawProxies) (providers : Option RawProviders) : List NodeSource :=
  (providers.getD ∅).toList.flatMap (fun entry =>
    entry.2.proxies.map fun proxy => .provider entry.1 proxy.name) ++
  (proxies.toList.filter fun entry => entry.2.all.isNone).map fun entry =>
    Tables.rawSource entry.1 entry.2

theorem Reported.mem_sources (h : Reported proxies providers source) :
    source ∈ reportedSources proxies providers := by
  cases h with
  | provided hraw hprovider hproxy =>
    subst hraw
    exact List.mem_append_left _ (List.mem_flatMap.2 ⟨_,
      ExtTreeMap.mem_toList_iff_getElem?_eq_some.2 hprovider, List.mem_map.2 ⟨_, hproxy, rfl⟩⟩)
  | proxy hproxy hnode =>
    have hentry := ExtTreeMap.mem_toList_iff_getElem?_eq_some.2 hproxy
    exact List.mem_append_right _ (List.mem_map.2
      ⟨_, List.mem_filter.2 ⟨hentry, Option.isNone_iff_eq_none.2 hnode⟩, rfl⟩)

theorem ToldApart.of_sources {H : Sha256}
    (h : (∀ source ∈ reportedSources proxies providers, source.Fits) ∧
      ∀ a ∈ reportedSources proxies providers, ∀ b ∈ reportedSources proxies providers,
        H.hex a.canonical = H.hex b.canonical → a.canonical = b.canonical) :
    ToldApart H proxies providers :=
  ⟨fun source hsource => h.1 source hsource.mem_sources,
    fun a b ha hb => h.2 a ha.mem_sources b hb.mem_sources⟩

def sharedProxies : RawProxies :=
  ((∅ : RawProxies).insert "A" ⟨"Socks5", true, none, none, none⟩).insert "G"
    ⟨"Selector", true, some ["A", "B", "C"], some "A", none⟩

/-- The Core has an `A` of its own, and two providers have a `B`. -/
def sharedProviders : RawProviders :=
  ((∅ : RawProviders).insert "P" ⟨"HTTP", ["A", "B", "C"].map (⟨·, "Socks5", true⟩)⟩).insert "Q"
    ⟨"File", [⟨"B", "Socks5", true⟩]⟩

def sharedView : View :=
  buildProxyView plainSha256 sharedProxies (some sharedProviders) ["G"]

def sharedNode (source : NodeSource) : Selection :=
  ⟨"G", source.proxyName, .forSource plainSha256 source⟩

theorem selections_agree_shared :
    (∀ source ∈ [NodeSource.core "A", .provider "P" "C"],
      sharedView.selectionBySelector "G" source.proxyName = .ok (sharedNode source) ∧
      sharedView.selectionBySelector "G" (sharedNode source).recordId.asStr =
        .ok (sharedNode source)) ∧
    sharedView.selectionBySelector "G" "B" = .error (.nodeAmbiguous "B"
      [.forSource plainSha256 (.provider "P" "B"),
        .forSource plainSha256 (.provider "Q" "B")]) := by
  have hnamed : ∀ source ∈ [NodeSource.core "A", .provider "P" "C"],
      NodeRecordId.parse source.proxyName = none ∧
      sharedView.selectionBySelector "G" source.proxyName = .ok (sharedNode source) := by
    decide +kernel
  have hapart : ToldApart plainSha256 sharedProxies (some sharedProviders) :=
    .of_sources (by decide +kernel)
  obtain ⟨_, _, _, hagree⟩ :=
    selections_agree plainSha256 sharedProxies (some sharedProviders) ["G"] hapart
  refine ⟨fun source hsource => ?_, by decide +kernel⟩
  obtain ⟨hparse, hname⟩ := hnamed source hsource
  exact ⟨hname, hagree "G" source.proxyName _ hparse hname⟩

end Ratash.Proxy

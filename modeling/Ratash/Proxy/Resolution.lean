import Ratash.Proxy.View

/-! Every id in the tables is that of a node that was reported, and is in the table of nodes. -/

namespace Ratash.Proxy

open Std (ExtTreeMap ExtTreeSet)

inductive Reported (proxies : RawProxies) (providers : Option RawProviders) : NodeSource → Prop
  | provided {raw : RawProviders} {providerName : String} {provider : RawProvider}
      {proxy : RawProviderProxy} : providers = some raw → raw[providerName]? = some provider →
      proxy ∈ provider.proxies → Reported proxies providers (.provider providerName proxy.name)
  | proxy {name : String} {proxy : RawProxy} : proxies[name]? = some proxy → proxy.all = none →
      Reported proxies providers (Tables.rawSource name proxy)

theorem Tables.proxyName_rawSource (name : String) (proxy : RawProxy) :
    (rawSource name proxy).proxyName = name := by
  unfold rawSource
  split <;> rfl

namespace Tables

variable {H : Sha256} {reported : NodeSource → Prop} {tables : Tables}

def Knows (H : Sha256) (reported : NodeSource → Prop) (tables : Tables) (name : String)
    (id : NodeRecordId) : Prop :=
  id ∈ tables.nodes ∧ ∃ source, reported source ∧ id = .forSource H source ∧
    source.proxyName = name

structure Faithful (H : Sha256) (reported : NodeSource → Prop) (tables : Tables) : Prop where
  nodes : ∀ (id : NodeRecordId) node, tables.nodes[id]? = some node →
    reported node.source ∧ id = .forSource H node.source ∧ node.name = node.source.proxyName
  candidates : ∀ (name : String) ids, tables.providerCandidates[name]? = some ids →
    ∀ id ∈ ids, Knows H reported tables name id
  core : ∀ (name : String) id, tables.coreNodeIds[name]? = some id →
    Knows H reported tables name id

theorem faithful_empty : empty.Faithful H reported := by
  constructor <;> simp [empty]

variable {id : NodeRecordId}

theorem mem_nodes_addNode {node : Node} :
    id ∈ (tables.addNode node).nodes ↔ node.recordId = id ∨ id ∈ tables.nodes := by
  rw [addNode, ExtTreeMap.mem_insertIfNew, Std.compare_eq_iff_eq]

theorem Faithful.extend {before : Tables} (h : before.Faithful H reported) {node : Node}
    (hreported : reported node.source) (hid : node.recordId = .forSource H node.source)
    (hname : node.name = node.source.proxyName) (hnodes : tables.nodes = before.nodes)
    (hcandidates : ∀ (name : String) ids, tables.providerCandidates[name]? = some ids →
      ∀ id ∈ ids, name = node.name ∧ id = node.recordId ∨
        ∃ old, before.providerCandidates[name]? = some old ∧ id ∈ old)
    (hcore : ∀ (name : String) id, tables.coreNodeIds[name]? = some id →
      name = node.name ∧ id = node.recordId ∨ before.coreNodeIds[name]? = some id) :
    (tables.addNode node).Faithful H reported := by
  have hnew : ∀ name id, name = node.name ∧ id = node.recordId →
      Knows H reported (tables.addNode node) name id := by
    rintro name id ⟨rfl, rfl⟩
    exact ⟨mem_nodes_addNode.2 (.inl rfl), node.source, hreported, hid, hname.symm⟩
  have hold : ∀ name id, Knows H reported before name id →
      Knows H reported (tables.addNode node) name id := by
    intro name id hknows
    exact ⟨mem_nodes_addNode.2 (.inr (hnodes ▸ hknows.1)), hknows.2⟩
  constructor
  · intro id found hfound
    rw [addNode, ExtTreeMap.getElem?_insertIfNew] at hfound
    split at hfound
    · rename_i hfresh
      cases hfound
      exact ⟨hreported, (Std.compare_eq_iff_eq.1 hfresh.1).symm.trans hid, hname⟩
    · exact h.nodes id found (hnodes ▸ hfound)
  · intro name ids hids id hmem
    rcases hcandidates name ids hids id hmem with hthis | ⟨old, hin, hmem⟩
    · exact hnew name id hthis
    · exact hold name id (h.candidates name old hin id hmem)
  · intro name id hin
    rcases hcore name id hin with hthis | hin
    · exact hnew name id hthis
    · exact hold name id (h.core name id hin)

variable {name : String}

theorem addCandidate_candidates {other : String} {recordId : NodeRecordId}
    (hids : (tables.addCandidate name recordId).providerCandidates[other]? = some ids)
    (hmem : id ∈ ids) : other = name ∧ id = recordId ∨
      ∃ old, tables.providerCandidates[other]? = some old ∧ id ∈ old := by
  simp only [addCandidate, ExtTreeMap.getElem?_insert] at hids
  split at hids
  · rename_i hname
    have hname := Std.compare_eq_iff_eq.1 hname
    subst hname
    cases hids
    rcases ExtTreeSet.mem_insert.1 hmem with hid | hid
    · exact .inl ⟨rfl, (Std.compare_eq_iff_eq.1 hid).symm⟩
    · cases hold : tables.providerCandidates[name]? with
      | none =>
        simp [hold] at hid
      | some old =>
        rw [hold] at hid
        exact .inr ⟨old, rfl, hid⟩
  · exact .inr ⟨ids, hids, hmem⟩

theorem Faithful.addProviderProxy (h : tables.Faithful H reported)
    (hreported : reported (.provider providerName proxy.name)) :
    (Tables.addProviderProxy H providerName (tables, nodeIds) proxy).1.Faithful H reported := by
  refine h.extend hreported rfl rfl ?_ ?_ ?_
  · rfl
  · intro name ids hids id hmem
    exact addCandidate_candidates hids hmem
  · intro name id hin
    exact .inr hin

theorem Faithful.addProvider (h : tables.Faithful H reported)
    (hreported : ∀ proxy ∈ provider.proxies, reported (.provider providerName proxy.name)) :
    (Tables.addProvider H tables (providerName, provider)).Faithful H reported := by
  have hfold : ∀ (proxies : List RawProviderProxy) (state : Tables × List NodeRecordId),
      (∀ proxy ∈ proxies, reported (.provider providerName proxy.name)) →
      state.1.Faithful H reported →
      (proxies.foldl (Tables.addProviderProxy H providerName) state).1.Faithful H reported := by
    intro proxies
    induction proxies with
    | nil => exact fun _ _ h => h
    | cons proxy proxies ih =>
      intro state hall h
      apply ih _ fun p hp => hall p (List.mem_cons_of_mem _ hp)
      exact h.addProviderProxy (hall proxy List.mem_cons_self)
  have hproxies := hfold provider.proxies (tables, []) hreported h
  exact ⟨hproxies.nodes, hproxies.candidates, hproxies.core⟩

theorem Faithful.addProxy (h : tables.Faithful H reported)
    (hreported : proxy.all = none → reported (rawSource name proxy)) :
    (Tables.addProxy H tables (name, proxy)).Faithful H reported := by
  unfold Tables.addProxy
  dsimp only
  split
  · exact ⟨h.nodes, h.candidates, h.core⟩
  · rename_i hnode
    have hreported := hreported (Option.not_isSome_iff_eq_none.1 hnode)
    have hname := proxyName_rawSource name proxy
    generalize rawSource name proxy = source at hreported hname
    cases source with
    | core coreName =>
      refine h.extend hreported rfl hname.symm ?_ ?_ ?_
      · rfl
      · exact fun _ ids hids id hmem => .inr ⟨ids, hids, hmem⟩
      · intro other id hin
        simp only [ExtTreeMap.getElem?_insert] at hin
        split at hin
        · rename_i hother
          cases hin
          exact .inl ⟨(Std.compare_eq_iff_eq.1 hother).symm, rfl⟩
        · exact .inr hin
    | provider providerName proxyName =>
      refine h.extend hreported rfl hname.symm ?_ ?_ ?_
      · rfl
      · exact fun _ ids hids id hmem => addCandidate_candidates hids hmem
      · exact fun _ id hin => .inr hin

theorem foldl_addProvider {entries : List (String × RawProvider)}
    (hentries : ∀ entry ∈ entries, ∀ proxy ∈ entry.2.proxies,
      reported (.provider entry.1 proxy.name)) (h : tables.Faithful H reported) :
    (entries.foldl (Tables.addProvider H) tables).Faithful H reported := by
  induction entries generalizing tables with
  | nil => exact h
  | cons entry entries ih =>
    apply ih fun e he => hentries e (List.mem_cons_of_mem _ he)
    exact h.addProvider (hentries entry List.mem_cons_self)

theorem foldl_addProxy {entries : List (String × RawProxy)}
    (hentries : ∀ entry ∈ entries, entry.2.all = none → reported (rawSource entry.1 entry.2))
    (h : tables.Faithful H reported) :
    (entries.foldl (Tables.addProxy H) tables).Faithful H reported := by
  induction entries generalizing tables with
  | nil => exact h
  | cons entry entries ih =>
    apply ih fun e he => hentries e (List.mem_cons_of_mem _ he)
    exact h.addProxy (hentries entry List.mem_cons_self)

theorem collect_faithful (H : Sha256) (proxies : RawProxies) (providers : Option RawProviders) :
    (collect H proxies providers).Faithful H (Reported proxies providers) := by
  apply foldl_addProxy
  · intro entry hentry hnode
    exact .proxy (ExtTreeMap.mem_toList_iff_getElem?_eq_some.1 hentry) hnode
  · apply foldl_addProvider _ faithful_empty
    intro entry hentry proxy hproxy
    have hraw := ExtTreeMap.mem_toList_iff_getElem?_eq_some.1 hentry
    cases providers with
    | none => simp at hraw
    | some raw => exact .provided rfl hraw hproxy

theorem rawGroups_foldl_addProvider (entries : List (String × RawProvider)) :
    (entries.foldl (Tables.addProvider H) tables).rawGroups = tables.rawGroups := by
  have hproxies : ∀ providerName (proxies : List RawProviderProxy)
      (state : Tables × List NodeRecordId),
      (proxies.foldl (Tables.addProviderProxy H providerName) state).1.rawGroups =
        state.1.rawGroups := by
    intro providerName proxies
    induction proxies with
    | nil => exact fun _ => rfl
    | cons proxy proxies ih => exact fun state => ih _
  induction entries generalizing tables with
  | nil => rfl
  | cons entry entries ih =>
    rw [List.foldl_cons, ih]
    exact hproxies entry.1 entry.2.proxies (tables, [])

theorem rawGroups_addProxy (entry : String × RawProxy) :
    (Tables.addProxy H tables entry).rawGroups =
      if entry.2.all.isSome then tables.rawGroups.insert entry.1 entry.2 else tables.rawGroups := by
  unfold Tables.addProxy
  dsimp only
  split
  · rfl
  · generalize rawSource entry.1 entry.2 = source
    cases source <;> rfl

theorem rawGroups_foldl_addProxy {entries : List (String × RawProxy)} :
    (name ∈ (entries.foldl (Tables.addProxy H) tables).rawGroups ↔
      name ∈ tables.rawGroups ∨ ∃ proxy, (name, proxy) ∈ entries ∧ proxy.all.isSome) ∧
    ∀ proxy, (entries.foldl (Tables.addProxy H) tables).rawGroups[name]? = some proxy →
      tables.rawGroups[name]? = some proxy ∨ (name, proxy) ∈ entries := by
  induction entries generalizing tables with
  | nil => exact ⟨by simp, fun proxy h => .inl h⟩
  | cons entry entries ih =>
    obtain ⟨hmem, hfound⟩ := @ih (Tables.addProxy H tables entry)
    rw [rawGroups_addProxy] at hmem hfound
    constructor
    · rw [List.foldl_cons, hmem]
      by_cases hgroup : entry.2.all.isSome = true
      · rw [if_pos hgroup, ExtTreeMap.mem_insert, Std.compare_eq_iff_eq]
        constructor
        · rintro ((rfl | hold) | ⟨proxy, hproxy, hall⟩)
          · exact .inr ⟨entry.2, List.mem_cons_self, hgroup⟩
          · exact .inl hold
          · exact .inr ⟨proxy, List.mem_cons_of_mem _ hproxy, hall⟩
        · rintro (hold | ⟨proxy, hproxy, hall⟩)
          · exact .inl (.inr hold)
          · rcases List.mem_cons.1 hproxy with rfl | hproxy
            · exact .inl (.inl rfl)
            · exact .inr ⟨proxy, hproxy, hall⟩
      · rw [if_neg hgroup]
        constructor
        · rintro (hold | ⟨proxy, hproxy, hall⟩)
          · exact .inl hold
          · exact .inr ⟨proxy, List.mem_cons_of_mem _ hproxy, hall⟩
        · rintro (hold | ⟨proxy, hproxy, hall⟩)
          · exact .inl hold
          · rcases List.mem_cons.1 hproxy with rfl | hproxy
            · exact absurd hall hgroup
            · exact .inr ⟨proxy, hproxy, hall⟩
    · intro proxy hproxy
      rcases hfound proxy hproxy with hbefore | hlater
      · split at hbefore
        · rw [ExtTreeMap.getElem?_insert] at hbefore
          split at hbefore
          · rename_i hname
            cases hbefore
            exact .inr (List.mem_cons.2 (.inl (by rw [← Std.compare_eq_iff_eq.1 hname])))
          · exact .inl hbefore
        · exact .inl hbefore
      · exact .inr (List.mem_cons_of_mem _ hlater)

theorem mem_rawGroups_collect {proxies : RawProxies} {providers : Option RawProviders}
    : name ∈ (collect H proxies providers).rawGroups ↔
      ∃ proxy, proxies[name]? = some proxy ∧ proxy.all.isSome := by
  rw [collect, rawGroups_foldl_addProxy.1, rawGroups_foldl_addProvider]
  simp only [empty, ExtTreeMap.mem_toList_iff_getElem?_eq_some]
  simp

theorem rawGroups_collect {proxies : RawProxies} {providers : Option RawProviders}
    (h : (collect H proxies providers).rawGroups[name]? = some proxy) :
    proxies[name]? = some proxy := by
  rcases rawGroups_foldl_addProxy.2 proxy h with hbefore | hentry
  · rw [rawGroups_foldl_addProvider] at hbefore
    simp [empty] at hbefore
  · exact ExtTreeMap.mem_toList_iff_getElem?_eq_some.1 hentry

theorem name_resolveMember (state : ProviderState) (tables : Tables) (name : String) :
    (tables.resolveMember state name).name = name := by
  unfold resolveMember
  repeat' split
  all_goals rfl

theorem Faithful.resolveMember_node (h : tables.Faithful H reported)
    {found : Availability} (hmember : tables.resolveMember state name = .node member id found) :
    Knows H reported tables member id ∧ found = tables.availabilityOf id := by
  unfold resolveMember at hmember
  split at hmember
  · cases hmember
  · split at hmember
    · rename_i hcore
      cases hmember
      exact ⟨h.core _ _ hcore, rfl⟩
    · split at hmember
      · cases hmember
      · split at hmember
        · cases hmember
        · rename_i ids hids
          split at hmember
          · rename_i hone
            cases hmember
            refine ⟨h.candidates _ ids hids id ?_, rfl⟩
            rw [← ExtTreeSet.mem_toList, hone]
            exact List.mem_singleton_self id
          · cases hmember

theorem resolveMember_unresolved
    (hmember : tables.resolveMember state name = .unresolved member reason ids) (hid : id ∈ ids) :
    reason = .ambiguous := by
  unfold resolveMember at hmember
  repeat' split at hmember
  all_goals cases hmember
  · cases hid
  · cases hid
  · rfl

end Tables

end Ratash.Proxy

import Ratash.Generation.Scanned

namespace Ratash

open Interaction Attempt

variable {outside : OutsideFiles} {D : Type} {X : Codec D} {g : GenerationRoot}
variable {I : GenerationRoot → Prop}

structure PruneCall (X : Codec D) (retained : List RuntimeGeneration) (c : RootCall) : Prop where
  touched : ∀ name ∈ c.touched, (∃ n, n ∉ retained ∧ name = generationName n) ∨
    ∃ n uuid, name = quarantineName X n uuid
  creates : ∀ name ∈ c.creates, ∃ n uuid, name = quarantineName X n uuid

def PruneKeeps (outside : OutsideFiles) (X : Codec D)
    (retained : List RuntimeGeneration) (I : GenerationRoot → Prop) : Prop :=
  ∀ g c g', PruneCall X retained c → Outcome outside g c g' → I g → I g'

theorem PruneKeeps.call (hkeeps : PruneKeeps outside X retained I) {c : RootCall}
    (hc : PruneCall X retained c) : Keeps (failingRoot outside) I (rootCall c) :=
  fun g hI => ensures_rootCall (fun g' hg' => hkeeps g c g' hc hg' hI) (fun _ _ => trivial)
    fun _ _ _ => trivial

theorem PruneKeeps.silent (hkeeps : PruneKeeps outside X retained I) {c : RootCall}
    (htouched : c.touched = []) (hcreates : c.creates = []) :
    Keeps (failingRoot outside) I (rootCall c) := by
  apply hkeeps.call
  constructor
  · rw [htouched]
    exact fun _ h => by cases h
  · rw [hcreates]
    exact fun _ h => by cases h

theorem pruneCall_removeDirAll (n : RuntimeGeneration) (uuid : BitVec 128) :
    PruneCall X retained (.removeDirAll (quarantineName X n uuid)) := by
  constructor
  · intro name hname
    exact .inr ⟨n, uuid, List.mem_singleton.1 hname⟩
  · exact fun _ h => by cases h

theorem pruneCall_rename (hn : n ∉ retained) (uuid : BitVec 128) :
    PruneCall X retained (.rename (generationName n) (quarantineName X n uuid)) := by
  constructor
  · intro name hname
    obtain rfl | hname := List.mem_cons.1 hname
    · exact .inl ⟨n, hn, rfl⟩
    · exact .inr ⟨n, uuid, List.mem_singleton.1 hname⟩
  · intro name hname
    exact ⟨n, uuid, List.mem_singleton.1 hname⟩

theorem verifyGenerationIdentity_keeps (hkeeps : PruneKeeps outside X retained I)
    (entry : RuntimeGenerationEntry) :
    Keeps (failingRoot outside) I (verifyGenerationIdentity entry) :=
  ((hkeeps.silent rfl rfl).orThrow _).seq fun _ => keeps_require _

theorem removeQuarantine_keeps (hkeeps : PruneKeeps outside X retained I)
    {quarantine : RuntimeGenerationEntry}
    (hname : quarantine.name = quarantineName X quarantine.generation uuid) :
    Keeps (failingRoot outside) I (removeQuarantine quarantine) := by
  rw [removeQuarantine, hname]
  exact (hkeeps.call (pruneCall_removeDirAll _ uuid)).orThrow _

theorem removeStale_keeps (hkeeps : PruneKeeps outside X retained I)
    {entry : RuntimeGenerationEntry} (hname : entry.name = generationName entry.generation)
    (hn : entry.generation ∉ retained) : Keeps (failingRoot outside) I (removeStale X entry) := by
  apply ((hkeeps.silent rfl rfl).orThrow _).seq
  intro uuid
  apply ((hkeeps.silent rfl rfl).orThrow _).seq
  intro existing
  apply (keeps_require _).seq
  intro _
  rw [hname]
  apply ((hkeeps.call (pruneCall_rename hn uuid)).orThrow _).seq
  intro _
  apply (verifyGenerationIdentity_keeps hkeeps _).seq
  intro _
  exact (hkeeps.call (pruneCall_removeDirAll _ uuid)).orThrow _

variable {retention : RuntimeGenerationRetention}

theorem removeStale_keeps_all (hkeeps : PruneKeeps outside X retention.retained I)
    (hfound : Found X reservedDirectories names scan) :
    ∀ entry ∈ scan.entries.filter (·.generation ∉ retention.retained),
      Keeps (failingRoot outside) I (removeStale X entry) := by
  intro entry hentry
  obtain ⟨hentry, hstale⟩ := List.mem_filter.1 hentry
  exact removeStale_keeps hkeeps (hfound.entries entry hentry) (of_decide_eq_true hstale)

theorem pruneScanned_keeps (hkeeps : PruneKeeps outside X retention.retained I)
    (hfound : Found X reservedDirectories names scan) :
    Keeps (failingRoot outside) I (pruneScanned X retention scan) := by
  apply (keeps_forEach fun e _ => verifyGenerationIdentity_keeps hkeeps e).seq
  intro _
  apply (keeps_forEach fun e _ => verifyGenerationIdentity_keeps hkeeps e).seq
  intro _
  apply (keeps_forEach (f := removeQuarantine) ?_).seq
  · intro _
    apply (keeps_forEach (removeStale_keeps_all hkeeps hfound)).seq
    intro _
    exact ((hkeeps.silent rfl rfl).orThrow _).whenever.seq fun _ => keeps_pure _
  · intro entry hentry
    obtain ⟨uuid, hname⟩ := hfound.quarantines entry hentry
    exact removeQuarantine_keeps hkeeps hname

theorem pruneRuntimeGenerationsWithReserved_keeps
    (hkeeps : PruneKeeps outside X retention.retained I) (reservedDirectories : List String) :
    Keeps (failingRoot outside) I
      (pruneRuntimeGenerationsWithReserved X retention reservedDirectories) := by
  intro g hI
  apply ensures_seq ((scanRuntimeGenerations_reads reservedDirectories).ensures.frozen hI)
  · intro scan _ _ hscan
    obtain ⟨rfl, hscan⟩ := hscan
    exact pruneScanned_keeps hkeeps (scan_ok (hscan scan rfl)).2 g hI
  · exact fun _ _ _ _ => trivial

theorem renameEntry_source {g : GenerationRoot} (hne : source ≠ target)
    (h : (g.renameEntry source target).1 = .ok ()) :
    (g.renameEntry source target).2.entries.lookup source = none := by
  have hmoved (entry : RootEntry) :
      ((g.removeEntry source).setEntry target entry).entries.lookup source = none :=
    (lookup_setEntry_ne hne).trans (AList.lookup_erase _ _)
  unfold GenerationRoot.renameEntry at h ⊢
  split at h
  · cases h
  · exact hmoved _
  · split at h
    · cases h
    · split at h
      · rw [if_neg ‹_›, if_pos ‹_›]
        exact hmoved _
      · cases h

theorem pruneKeeps_absent (n : RuntimeGeneration) (retained : List RuntimeGeneration) :
    PruneKeeps outside X retained fun g => g.entries.lookup (generationName n) = none := by
  intro g c g' hc houtcome hnone
  apply houtcome.absent _ hnone
  intro hname
  obtain ⟨n', uuid, hname⟩ := hc.creates _ hname
  exact generationName_ne_temporaryName X n n' uuid _ hname

theorem pruneKeeps_present {retained : List RuntimeGeneration} (hn : n ∈ retained)
    (entry : RootEntry) :
    PruneKeeps outside X retained fun g => g.entries.lookup (generationName n) = some entry := by
  intro g c g' hc houtcome hsome
  rw [houtcome.frame, hsome]
  intro hname
  obtain ⟨n', hn', hname⟩ | ⟨n', uuid, hname⟩ := hc.touched _ hname
  · rw [generationName_injective hname] at hn
    exact hn' hn
  · exact generationName_ne_temporaryName X n n' uuid _ hname

theorem removeStale_removes (entry : RuntimeGenerationEntry)
    (hname : entry.name = generationName entry.generation) :
    Attains outside (removeStale X entry)
      fun _ g => g.entries.lookup (generationName entry.generation) = none := by
  have habsent : PruneKeeps outside X [] fun g =>
      g.entries.lookup (generationName entry.generation) = none := pruneKeeps_absent _ _
  apply (achieves_true _).seq
  intro uuid
  apply (achieves_true _).seq
  intro existing
  apply (achieves_true _).seq
  intro _
  rw [hname]
  have hrename : Attains outside
      (rootCall (.rename (generationName entry.generation)
        (quarantineName X entry.generation uuid)))
      fun _ g => g.entries.lookup (generationName entry.generation) = none := by
    intro g _
    apply ensures_rootCall (fun _ _ => trivial)
    · intro _ hok _ _
      exact renameEntry_source (generationName_ne_temporaryName X _ _ uuid _) hok
    · exact fun _ _ _ _ h => by cases h
  apply (hrename.orThrow _).seq
  intro _
  apply (verifyGenerationIdentity_keeps habsent _).achieves.seq
  intro _
  exact ((habsent.call (pruneCall_removeDirAll entry.generation uuid)).orThrow _).achieves

theorem pruneScanned_releases (hfound : Found X reservedDirectories names scan)
    (hentry : entry ∈ scan.entries) (hn : entry.generation ∉ retention.retained) :
    Attains outside (pruneScanned X retention scan)
      fun _ g => g.entries.lookup (generationName entry.generation) = none := by
  have habsent : PruneKeeps outside X retention.retained fun g =>
      g.entries.lookup (generationName entry.generation) = none := pruneKeeps_absent _ _
  have hstale : entry ∈ scan.entries.filter (·.generation ∉ retention.retained) :=
    List.mem_filter.2 ⟨hentry, decide_eq_true hn⟩
  apply (achieves_true _).seq
  intro _
  apply (achieves_true _).seq
  intro _
  apply (achieves_true _).seq
  intro _
  apply (achieves_forEach_mem hstale
    (fun entry hentry => (removeStale_keeps_all habsent hfound entry hentry).achieves)
    (removeStale_removes entry (hfound.entries entry hentry))).seq
  intro _
  exact (((habsent.silent rfl rfl).orThrow _).whenever.seq fun _ => keeps_pure _).achieves

theorem pruneRuntimeGenerationsWithReserved_releases {reservedDirectories : List String}
    (hreserved : generationName n ∉ reservedDirectories) (hn : n ∉ retention.retained) :
    Attains outside
      (pruneRuntimeGenerationsWithReserved X retention reservedDirectories)
      fun _ g => g.entries.lookup (generationName n) = none := by
  intro g _
  apply ensures_seq
    ((scanRuntimeGenerations_reads reservedDirectories).ensures.frozen trivial)
  · intro scan _ _ hscan
    obtain ⟨rfl, hscan⟩ := hscan
    obtain ⟨haccepted, hfound⟩ := scan_ok (hscan scan rfl)
    cases hlookup : g.entries.lookup (generationName n) with
    | none => exact (pruneScanned_keeps (pruneKeeps_absent n _) hfound).achieves g hlookup
    | some entry =>
      have hmem : generationName n ∈ g.entries.keys :=
        AList.mem_keys.1 (AList.lookup_isSome.1 (hlookup ▸ rfl))
      obtain ⟨e, he, rfl⟩ := hfound.complete _ hmem hreserved n (haccepted.parse hreserved hlookup)
      exact pruneScanned_releases hfound he hn g trivial
  · exact fun _ _ _ _ _ h => by cases h

/-- Pruning, stopped or failing anywhere, has at every point left each retained generation exactly
as it was; if it succeeds, no other generation is left. -/
theorem prune_spares_retained (X : Codec D) (outside : OutsideFiles)
    (retention : RuntimeGenerationRetention) (reservedDirectories : List String)
    (g : GenerationRoot) :
    (pruneRuntimeGenerationsWithReserved X retention reservedDirectories).run.Ensures
      (failingRoot outside)
      (fun g' => ∀ n ∈ retention.retained, ∀ entry,
        g.entries.lookup (generationName n) = some entry →
        g'.entries.lookup (generationName n) = some entry)
      (fun r g' => ∀ result, r = .ok result → ∀ n ∉ retention.retained,
        generationName n ∉ reservedDirectories →
          g'.entries.lookup (generationName n) = none) g := by
  have hkept := Prog.Ensures.all (E := failingRoot outside) fun
      i : { i : RuntimeGeneration × RootEntry // i.1 ∈ retention.retained ∧
        g.entries.lookup (generationName i.1) = some i.2 } =>
    pruneRuntimeGenerationsWithReserved_keeps (pruneKeeps_present (X := X) i.2.1 i.1.2)
      reservedDirectories g i.2.2
  have hgone := Prog.Ensures.all (E := failingRoot outside) fun i : { n : RuntimeGeneration //
      n ∉ retention.retained ∧ generationName n ∉ reservedDirectories } =>
    pruneRuntimeGenerationsWithReserved_releases (X := X) i.2.2 i.2.1 g trivial
  apply (hkept.and hgone).mono
  · exact fun g' h n hn entry hentry => h.1 ⟨(n, entry), hn, hentry⟩
  · exact fun r g' _ h result hr n hn hreserved => h.2 ⟨n, hn, hreserved⟩ result hr

end Ratash

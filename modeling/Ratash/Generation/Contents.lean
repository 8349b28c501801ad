import Ratash.Generation.Calls
import Ratash.Generation.Stage

/-!
A stage that succeeds, whatever has failed on the way, leaves the configuration in the directory
of its generation.
-/

namespace Ratash

open Interaction Attempt

variable {outside : OutsideFiles} {D : Type} {X : Codec D} {M : ManifestCodec}

def TreeCall.adds : TreeCall → Bool
  | .unlink _ | .rename _ _ => false
  | _ => true

namespace Tree

theorem lookup_insert_of_absent {files : Tree} (h : files.lookup path = some node)
    (habsent : files.lookup other = none) (new : Node) :
    (files.insert other new).lookup path = some node := by
  have hne : path ≠ other := by
    rintro rfl
    rw [h] at habsent
    cases habsent
  rw [AList.lookup_insert_ne hne, h]

theorem createDirectory_lookup {files files' : Tree} (h : files.lookup path = some node)
    (hcreate : createDirectory uid files other = .ok files') : files'.lookup path = some node := by
  unfold createDirectory at hcreate
  split at hcreate
  · cases hcreate
    exact lookup_insert_of_absent h ‹_› _
  · split at hcreate
    · cases hcreate
      exact h
    · cases hcreate

theorem createDirectories_lookup (paths : List (List String)) {files files' : Tree}
    (h : files.lookup path = some node)
    (hcreate : paths.foldlM (createDirectory uid) files = .ok files') :
    files'.lookup path = some node := by
  induction paths generalizing files with
  | nil =>
    cases hcreate
    exact h
  | cons other rest ih =>
    rw [List.foldlM_cons] at hcreate
    cases hnext : createDirectory uid files other with
    | error e =>
      rw [hnext] at hcreate
      cases hcreate
    | ok next =>
      rw [hnext] at hcreate
      exact ih (createDirectory_lookup h hnext) hcreate

theorem perform_lookup {files : Tree} {c : TreeCall} (uid : Nat) (hc : c.adds = true)
    (h : files.lookup path = some node) :
    ∃ node', (perform uid files c).2.lookup path = some node' ∧ node'.content = node.content := by
  cases c with
  | createDirAll other =>
    simp only [perform]
    split
    · exact ⟨node, createDirectories_lookup _ h ‹_›, rfl⟩
    · exact ⟨node, h, rfl⟩
  | createDir other =>
    simp only [perform]
    split
    · exact ⟨node, h, rfl⟩
    · split
      · exact ⟨node, lookup_insert_of_absent h (AList.lookup_eq_none.2 ‹_›) _, rfl⟩
      · exact ⟨node, h, rfl⟩
  | setPermissions other mode =>
    simp only [perform]
    split
    · rename_i found hfound
      by_cases hpath : path = other
      · subst hpath
        rw [h] at hfound
        cases hfound
        exact ⟨_, AList.lookup_insert _, rfl⟩
      · exact ⟨node, (AList.lookup_insert_ne hpath).trans h, rfl⟩
    · exact ⟨node, h, rfl⟩
  | createNew other content mode =>
    simp only [perform]
    split
    · exact ⟨node, h, rfl⟩
    · split
      · exact ⟨node, lookup_insert_of_absent h (AList.lookup_eq_none.2 ‹_›) _, rfl⟩
      · exact ⟨node, h, rfl⟩
  | syncDirectories => exact ⟨node, h, rfl⟩
  | unlink => cases hc
  | rename => cases hc

end Tree

def HoldsFile (name : String) (path : List String) (content : Bytes) (g : GenerationRoot) : Prop :=
  ∃ entry node, g.entries.lookup name = some entry ∧ entry.files.lookup path = some node ∧
    node.content = content

section

variable {name : String} {path : List String} {content : Bytes} {g : GenerationRoot}

theorem HoldsFile.setEntry (hfiles : files.lookup path = some node) (hnode : node.content = content)
    (metadata : Metadata) : HoldsFile name path content (g.setEntry name ⟨metadata, files⟩) :=
  ⟨_, node, AList.lookup_insert _, hfiles, hnode⟩

def RootCall.Spares (name : String) (c : RootCall) : Prop :=
  c.touched = [] ∨ c = .createDirAll name ∨ (∃ mode, c = .setPermissions name mode) ∨
    ∃ change, c = .within name change ∧ change.adds = true

theorem HoldsFile.perform (h : HoldsFile name path content g) {c : RootCall} (hc : c.Spares name) :
    HoldsFile name path content (performRoot outside g c).2 := by
  obtain ⟨entry, node, hentry, hfile, hnode⟩ := h
  obtain hc | rfl | ⟨mode, rfl⟩ | ⟨change, rfl, hchange⟩ := hc
  · refine ⟨entry, node, ?_, hfile, hnode⟩
    rw [performRoot_frame (hc ▸ List.not_mem_nil), hentry]
  · refine ⟨entry, node, ?_, hfile, hnode⟩
    simp only [performRoot, hentry]
  · simp only [performRoot, hentry]
    exact .setEntry hfile hnode _
  · obtain ⟨node', hfile', hsame⟩ := Tree.perform_lookup g.metadata.uid hchange hfile
    simp only [performRoot, hentry]
    exact .setEntry hfile' (hsame.trans hnode) _

theorem achieves_spare {c : RootCall} (hc : c.Spares name) :
    Achieves (failingRoot outside) (HoldsFile name path content) (rootCall c)
      fun _ => HoldsFile name path content :=
  achieves_rootCall fun _ h _ _ => h.perform hc

theorem achieves_change {change : TreeCall} (hchange : change.adds = true) :
    Achieves (failingRoot outside) (HoldsFile name path content)
      (rootCall (.within name change)) fun _ => HoldsFile name path content :=
  achieves_spare (.inr (.inr (.inr ⟨change, rfl, hchange⟩)))

theorem verifyExistingFile_look (expected : Bytes) (limit : Nat) (other : List String) :
    Achieves (failingRoot outside) (HoldsFile name path content)
      (verifyExistingFile name other expected limit) fun _ => HoldsFile name path content := by
  apply ((achieves_spare (.inl rfl)).orThrow _).seq
  intro _
  exact (achieves_require _).mono (fun _ h => h) fun _ _ h => h.1

theorem verifyExistingFile_holds (limit : Nat) : Attains outside
      (verifyExistingFile name path content limit) fun _ => HoldsFile name path content := by
  have hread : Attains outside (rootCall (.node name path))
      fun node g => ∃ entry, g.entries.lookup name = some entry ∧
        entry.files.lookup path = node := by
    apply achieves_rootCall
    intro g _ node hok
    simp only [performRoot] at hok ⊢
    cases hentry : g.entries.lookup name with
    | none =>
      rw [hentry] at hok
      cases hok
    | some entry =>
      rw [hentry] at hok
      exact ⟨entry, rfl, Except.ok.inj hok⟩
  apply (hread.orThrow _).seq
  intro node
  apply (achieves_require _).mono (fun _ h => h)
  intro _ g h
  obtain ⟨⟨entry, hentry, hfile⟩, hcontent⟩ := h
  obtain ⟨node, rfl, hlimited⟩ := Option.bind_eq_some_iff.1 hcontent
  refine ⟨entry, node, hentry, hfile, ?_⟩
  unfold Node.readLimited at hlimited
  split at hlimited
  · exact Option.some.inj hlimited
  · cases hlimited

end

theorem verifyExisting_holds (root : String) (manifest configuration : Bytes)
    (binarySha256 : String) (providers : ProviderStagingPlan) :
    Attains outside
      (verifyExisting M root manifest configuration binarySha256 providers)
      fun _ => HoldsFile root ["config.yaml"] configuration := by
  apply (achieves_true _).seq
  intro _
  apply (achieves_true _).seq
  intro _
  apply (achieves_true _).seq
  intro _
  apply (achieves_true _).seq
  intro _
  apply (verifyExistingFile_holds _).seq
  intro _
  apply ((achieves_spare (.inl rfl)).orThrow _).seq
  intro _
  apply ((achieves_require _).mono (fun _ h => h) fun _ _ h => h.1).seq
  intro _
  exact achieves_forEach fun _ _ => verifyExistingFile_look _ _ _

theorem writeNew_holds (name : String) (path : List String) (content : Bytes) (mode : Nat) :
    Attains outside (writeNew name path content mode)
      fun _ => HoldsFile name path content := by
  apply Achieves.orThrow
  apply achieves_rootCall
  intro g _ _ hok
  simp only [performRoot] at hok ⊢
  cases hentry : g.entries.lookup name with
  | none =>
    rw [hentry] at hok
    cases hok
  | some entry =>
    simp only [hentry, Tree.perform] at hok ⊢
    split at hok
    · cases hok
    · rename_i habsent
      rw [if_neg habsent]
      split at hok
      · rename_i hparent
        rw [if_pos hparent]
        exact .setEntry (AList.lookup_insert _) rfl _
      · cases hok

section

variable {name : String} {path : List String} {content : Bytes}

theorem createPrivateEntry_spares :
    Achieves (failingRoot outside) (HoldsFile name path content) (createPrivateEntry name)
      fun _ => HoldsFile name path content := by
  apply ((achieves_spare (.inr (.inl rfl))).orThrow _).seq
  intro _
  apply ((achieves_spare (.inl rfl)).orThrow _).seq
  intro _
  apply ((achieves_ofExcept _).mono (fun _ h => h) fun _ _ h => h.1).seq
  intro _
  apply ((achieves_require _).mono (fun _ h => h) fun _ _ h => h.1).seq
  intro _
  exact (achieves_spare (.inr (.inr (.inl ⟨_, rfl⟩)))).orThrow _

theorem createPrivateDirectory_spares (directory : List String) :
    Achieves (failingRoot outside) (HoldsFile name path content)
      (createPrivateDirectory name directory) fun _ => HoldsFile name path content := by
  unfold createPrivateDirectory
  split
  · exact createPrivateEntry_spares
  · apply ((achieves_change rfl).orThrow _).seq
    intro _
    apply ((achieves_spare (.inl rfl)).orThrow _).seq
    intro _
    apply ((achieves_ofExcept _).mono (fun _ h => h) fun _ _ h => h.1).seq
    intro _
    apply ((achieves_require _).mono (fun _ h => h) fun _ _ h => h.1).seq
    intro _
    exact (achieves_change rfl).orThrow _

theorem writeNew_spares (other : List String) (written : Bytes) (mode : Nat) :
    Achieves (failingRoot outside) (HoldsFile name path content)
      (writeNew name other written mode) fun _ => HoldsFile name path content :=
  (achieves_change rfl).orThrow _

end

theorem stagePending_holds (stager : RuntimeBundleStager) (pending : String)
    (configuration manifest : Bytes) (providers : ProviderStagingPlan) :
    Attains outside
      (stagePending M stager pending configuration manifest providers)
      fun _ => HoldsFile pending ["config.yaml"] configuration := by
  apply (achieves_true _).seq
  intro _
  apply (writeNew_holds _ _ _ _).seq
  intro _
  apply (achieves_forEach fun _ _ => createPrivateDirectory_spares _).seq
  intro _
  apply (achieves_forEach fun _ _ => writeNew_spares _ _ _).seq
  intro _
  apply (writeNew_spares _ _ _).seq
  intro _
  exact (achieves_change rfl).orThrow _

theorem renameEntry_target {g : GenerationRoot} (h : g.entries.lookup source = some entry)
    (hok : (g.renameEntry source target).1 = .ok ()) :
    (g.renameEntry source target).2.entries.lookup target = some entry := by
  unfold GenerationRoot.renameEntry at hok ⊢
  simp only [h] at hok ⊢
  split at hok
  · cases hok
  · rename_i hsome hnone
    cases hsome
    exact AList.lookup_insert _
  · rename_i existing hsome hexisting
    cases hsome
    split at hok
    · cases hok
    · split at hok
      · rw [if_neg ‹_›, if_pos ‹_›]
        exact AList.lookup_insert _
      · cases hok

theorem stageNew_holds (stager : RuntimeBundleStager) (generation : RuntimeGeneration)
    (configuration manifest : Bytes) (providers : ProviderStagingPlan) :
    Attains outside
      (stageNew X M stager generation configuration manifest providers)
      fun _ => HoldsFile (generationName generation) ["config.yaml"] configuration := by
  apply (achieves_true _).seq
  intro uuid
  apply (achieves_true _).seq
  intro _
  apply (stagePending_holds stager _ configuration manifest providers).result.seq
  intro filled
  cases filled with
  | error error => exact (achieves_true _).seq fun _ => achieves_throw _
  | ok _ =>
    have hrename : Achieves (failingRoot outside)
        (HoldsFile (pendingName X generation uuid) ["config.yaml"] configuration)
        (rootCall (.rename (pendingName X generation uuid) (generationName generation)))
        fun _ => HoldsFile (generationName generation) ["config.yaml"] configuration := by
      apply achieves_rootCall
      intro g h _ hok
      obtain ⟨entry, node, hentry, hfile, hnode⟩ := h
      exact ⟨entry, node, renameEntry_target hentry hok, hfile, hnode⟩
    apply (hrename.result.mono (fun _ h => h () rfl) fun _ _ h => h).seq
    intro renamed
    cases renamed with
    | ok _ =>
      exact ((achieves_spare (.inl rfl)).orThrow _).mono (fun _ h => h () rfl) fun _ _ h => h
    | error error =>
      dsimp only
      split
      · exact (achieves_true _).seq fun _ => verifyExisting_holds _ _ _ _ _
      · exact (achieves_true _).seq fun _ => achieves_throw _

theorem stagePlanned_holds (stager : RuntimeBundleStager) (generation : RuntimeGeneration)
    (configuration manifest : Bytes) (providers : ProviderStagingPlan) :
    Attains outside
      (stagePlanned X M stager generation configuration manifest providers)
      fun _ => HoldsFile (generationName generation) ["config.yaml"] configuration := by
  apply (achieves_true _).seq
  intro existing
  split
  · exact (achieves_true _).seq fun _ => verifyExisting_holds _ _ _ _ _
  · exact stageNew_holds _ _ _ _ _

theorem stage_holds (stager : RuntimeBundleStager) (generation : RuntimeGeneration)
    (configuration : EffectiveConfiguration) : Attains outside
      (stage X M stager generation configuration)
      fun _ => HoldsFile (generationName generation) ["config.yaml"] configuration.yaml := by
  apply (achieves_true _).seq
  intro planned
  exact (stagePlanned_holds _ _ _ _ _).seq fun _ => achieves_pure _ fun _ h => h

end Ratash

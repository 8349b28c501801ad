import Ratash.Generation.Scanned
import Ratash.Generation.Stage

namespace Ratash

open Interaction Attempt

variable {outside : OutsideFiles} {D : Type} {X : Codec D} {M : ManifestCodec}
variable {n : RuntimeGeneration} {g₀ g : GenerationRoot} {pending : String}

structure StagedFrom (X : Codec D) (n : RuntimeGeneration) (g₀ g : GenerationRoot) : Prop where
  metadata : g.metadata = g₀.metadata
  label : ∀ name, (∀ uuid, name ≠ pendingName X n uuid) → g.label name = g₀.label name ∨
    name = generationName n ∧
      ∃ m, g.label name = some m ∧ strictGenerationMetadata m g₀.metadata.uid = true
  pending : ∀ uuid m, g.label (pendingName X n uuid) = some m → OwnDirectory g₀ m

structure Ready (X : Codec D) (n : RuntimeGeneration) (g₀ : GenerationRoot) (pending : String)
    (g : GenerationRoot) : Prop where
  staged : StagedFrom X n g₀ g
  label : ∃ m, g.label pending = some m ∧ strictGenerationMetadata m g₀.metadata.uid = true

def QuietCall (X : Codec D) (n : RuntimeGeneration) (c : RootCall) : Prop :=
  (∀ source target, c ≠ .rename source target) ∧
    ∀ name ∈ c.relabels, ∃ uuid, name = pendingName X n uuid

variable {c : RootCall}

theorem StagedFrom.quiet (h : StagedFrom X n g₀ g) (hc : QuietCall X n c)
    (hg : Outcome outside g c g') : StagedFrom X n g₀ g' := by
  refine ⟨hg.metadata.trans h.metadata, ?_, ?_⟩
  · intro name hname
    have hquiet : name ∉ c.relabels := by
      intro hmem
      obtain ⟨uuid, rfl⟩ := hc.2 name hmem
      exact hname uuid rfl
    rw [hg.label hquiet]
    exact h.label name hname
  · intro uuid m hm
    obtain ⟨m₀, hm₀, htype, huid⟩ | hown := hg.origin hc.1 hm
    · obtain ⟨htype₀, huid₀⟩ := h.pending uuid m₀ hm₀
      exact ⟨htype ▸ htype₀, huid ▸ huid₀⟩
    · exact ⟨hown.1, hown.2.trans (congrArg Metadata.uid h.metadata)⟩

theorem quiet_keeps (hc : QuietCall X n c) :
    Keeps (failingRoot outside) (StagedFrom X n g₀) (rootCall c) :=
  fun _ h => ensures_rootCall (fun _ hg => h.quiet hc hg) (fun _ _ => trivial) fun _ _ _ => trivial

theorem quietCall_of_nil (hc : c.relabels = []) : QuietCall X n c := by
  refine ⟨fun source target h => ?_, fun name hname => ?_⟩
  · rw [h] at hc
    cases hc
  · rw [hc] at hname
    cases hname

theorem quietCall_pending (hc : ∀ source target, c ≠ .rename source target)
    (hrelabels : c.relabels = [pendingName X n uuid]) : QuietCall X n c := by
  refine ⟨hc, fun name hname => ?_⟩
  rw [hrelabels] at hname
  exact ⟨uuid, List.mem_singleton.1 hname⟩

theorem still_keeps (hc : c.relabels = []) :
    Keeps (failingRoot outside) (StagedFrom X n g₀) (rootCall c) :=
  quiet_keeps (quietCall_of_nil hc)

theorem ready_keeps (hc : c.relabels = []) :
    Keeps (failingRoot outside) (Ready X n g₀ pending) (rootCall c) := by
  intro g h
  refine ensures_rootCall (fun g' hg => ⟨h.staged.quiet (quietCall_of_nil hc) hg, ?_⟩)
    (fun _ _ => trivial) fun _ _ _ => trivial
  rw [hg.label (hc ▸ List.not_mem_nil)]
  exact h.label

theorem pendingName_ne_generationName (uuid : BitVec 128) (n' : RuntimeGeneration) :
    pendingName X n uuid ≠ generationName n' :=
  fun h => generationName_ne_temporaryName X n' n uuid _ h.symm

theorem StagedFrom.accepted_iff (h : StagedFrom X n g₀ g) (h₀ : Accepted X reservedDirectories g₀)
    (hcount : g₀.entries.keys.length < runtimeGenerationScanLimit) (hn : 0 < n)
    (hgeneration : generationName n ∉ reservedDirectories)
    (hpending : ∀ uuid, pendingName X n uuid ∉ reservedDirectories) :
    Accepted X reservedDirectories g ↔ ∀ uuid, pendingName X n uuid ∉ g.entries := by
  constructor
  · intro haccepted uuid hmem
    obtain ⟨entry, hentry⟩ := Option.isSome_iff_exists.1 (AList.lookup_isSome.2 hmem)
    have hknown := haccepted.known _ entry hentry
    rw [Recognised, if_neg (hpending uuid), (parse_pendingName n uuid).1,
      (parse_pendingName n uuid).2] at hknown
    simp at hknown
  · intro hnone
    have hlabel : ∀ name entry, g.entries.lookup name = some entry →
        g₀.label name = some entry.metadata ∨ name = generationName n ∧
          strictGenerationMetadata entry.metadata g₀.metadata.uid = true := by
      intro name entry hentry
      have hsome : g.label name = some entry.metadata := congrArg (Option.map _) hentry
      have hname : ∀ uuid, name ≠ pendingName X n uuid := by
        intro uuid hname
        exact hnone uuid (hname ▸ AList.lookup_isSome.1 (hentry ▸ rfl))
      obtain hsame | ⟨rfl, m, hm, hstrict⟩ := h.label name hname
      · exact .inl (hsame.symm.trans hsome)
      · rw [hsome] at hm
        cases hm
        exact .inr ⟨rfl, hstrict⟩
    refine ⟨h.metadata ▸ h₀.root, ?_, ?_⟩
    · have hsubset : g.entries.keys ⊆ generationName n :: g₀.entries.keys := by
        intro name hname
        obtain ⟨entry, hentry⟩ := Option.isSome_iff_exists.1
          (AList.lookup_isSome.2 (AList.mem_keys.2 hname))
        obtain hold | ⟨rfl, _⟩ := hlabel name entry hentry
        · obtain ⟨entry₀, hentry₀, _⟩ := Option.map_eq_some_iff.1 hold
          exact List.mem_cons_of_mem _
            (AList.mem_keys.1 (AList.lookup_isSome.1 (hentry₀ ▸ rfl)))
        · exact List.mem_cons_self
      have hlength := (List.subperm_of_subset g.entries.keys_nodup hsubset).length_le
      rw [List.length_cons] at hlength
      omega
    · intro name entry hentry
      rw [h.metadata]
      obtain hold | ⟨rfl, hstrict⟩ := hlabel name entry hentry
      · obtain ⟨entry₀, hentry₀, hsame⟩ := Option.map_eq_some_iff.1 hold
        rw [← hsame]
        exact h₀.known name entry₀ hentry₀
      · rw [Recognised, if_neg hgeneration, parseRuntimeGenerationName_generationName hn]
        exact ⟨.inl rfl, hstrict⟩

theorem label_setPermissions {g : GenerationRoot} {name : String} {mode : Nat}
    (h : (performRoot outside g (.setPermissions name mode)).1 = .ok ()) :
    ∃ m, g.label name = some m ∧
      (performRoot outside g (.setPermissions name mode)).2.label name = some { m with mode } := by
  simp only [performRoot] at h ⊢
  split at h
  · cases h
  · rename_i entry hentry
    refine ⟨entry.metadata, congrArg _ hentry, ?_⟩
    rw [GenerationRoot.label, GenerationRoot.setEntry, AList.lookup_insert]
    rfl

theorem setPermissions_ready (h : StagedFrom X n g₀ g) (uuid : BitVec 128) :
    (rootCall (.setPermissions (pendingName X n uuid) 0o700)).run.Ensures (failingRoot outside)
      (StagedFrom X n g₀) (fun r g' => r = .ok () → Ready X n g₀ (pendingName X n uuid) g') g := by
  have hquiet : QuietCall X n (.setPermissions (pendingName X n uuid) 0o700) :=
    quietCall_pending (by simp) rfl
  apply ensures_rootCall (fun _ hg => h.quiet hquiet hg)
  · intro _ hok _
    obtain ⟨m, hm, hm'⟩ := label_setPermissions hok
    obtain ⟨htype, huid⟩ := h.pending uuid m hm
    have houtcome : Outcome outside g (.setPermissions (pendingName X n uuid) 0o700) _ :=
      .inr (.inl rfl)
    refine ⟨h.quiet hquiet houtcome, _, hm', ?_⟩
    simp [strictGenerationMetadata, htype, huid]
  · exact fun _ _ _ hr => by cases hr

theorem createPrivateEntry_ready (h : StagedFrom X n g₀ g) (uuid : BitVec 128) :
    (createPrivateEntry (pendingName X n uuid)).run.Ensures (failingRoot outside)
      (StagedFrom X n g₀) (fun r g' => r = .ok () → Ready X n g₀ (pendingName X n uuid) g') g := by
  apply ensures_orThrow_seq (quiet_keeps (quietCall_pending (by simp) rfl) g h)
  · intro _ g h _
    apply ensures_orThrow_seq (quiet_keeps (quietCall_of_nil rfl) g h)
    · intro _ g h _
      refine ensures_ofExcept_seq h ?_ (fun _ _ hr => by cases hr)
      intro _ _
      refine ensures_require_seq h ?_ (fun _ hr => by cases hr)
      intro _
      apply ensures_orThrow.2
      apply (setPermissions_ready h uuid).mono (fun _ h => h)
      intro r _ _ hr
      cases r with
      | ok _ => exact fun _ => hr rfl
      | error _ => exact fun hr => by cases hr
    · exact fun _ _ _ _ hr => by cases hr
  · exact fun _ _ _ _ hr => by cases hr

theorem createPrivateEntry_keeps_ready (uuid : BitVec 128) :
    Keeps (failingRoot outside) (Ready X n g₀ (pendingName X n uuid))
      (createPrivateEntry (pendingName X n uuid)) := by
  have hcreate : Keeps (failingRoot outside) (Ready X n g₀ (pendingName X n uuid))
      (rootCall (.createDirAll (pendingName X n uuid))) := by
    intro g h
    obtain ⟨m, hm, _⟩ := h.label
    obtain ⟨entry, hentry, _⟩ := Option.map_eq_some_iff.1 hm
    have hsame : (performRoot outside g (.createDirAll (pendingName X n uuid))).2 = g := by
      simp only [performRoot, hentry]
    refine ensures_rootCall (fun g' hg => ?_) (fun _ _ => trivial) fun _ _ _ => trivial
    obtain rfl | rfl | ⟨_, _, _, hwork, _⟩ := hg
    · exact h
    · exact hsame.symm ▸ h
    · cases hwork
  have hpermit : Keeps (failingRoot outside) (Ready X n g₀ (pendingName X n uuid))
      (rootCall (.setPermissions (pendingName X n uuid) 0o700)) := by
    intro g h
    obtain ⟨m, hm, hstrict⟩ := h.label
    obtain ⟨entry, hentry, rfl⟩ := Option.map_eq_some_iff.1 hm
    refine ensures_rootCall (fun g' hg => ?_) (fun _ _ => trivial) fun _ _ _ => trivial
    refine ⟨h.staged.quiet (quietCall_pending (by simp) rfl) hg, ?_⟩
    obtain rfl | rfl | ⟨_, _, _, hwork, _⟩ := hg
    · exact ⟨_, hm, hstrict⟩
    · have hok : (performRoot outside g (.setPermissions (pendingName X n uuid) 0o700)).1 =
          .ok () := by
        simp only [performRoot, hentry]
      obtain ⟨m, hm', hlabel⟩ := label_setPermissions hok
      obtain ⟨htype, huid⟩ := h.staged.pending uuid m hm'
      exact ⟨_, hlabel, by simp [strictGenerationMetadata, htype, huid]⟩
    · cases hwork
  apply (hcreate.orThrow _).seq
  intro _
  apply ((ready_keeps rfl).orThrow _).seq
  intro _
  apply (keeps_ofExcept _).seq
  intro _
  apply (keeps_require _).seq
  intro _
  exact hpermit.orThrow _

theorem StagedFrom.moved (h : StagedFrom X n g₀ g) {uuid : BitVec 128} {entry : RootEntry}
    (hstrict : strictGenerationMetadata entry.metadata g₀.metadata.uid = true) :
    StagedFrom X n g₀
      ((g.removeEntry (pendingName X n uuid)).setEntry (generationName n) entry) := by
  refine ⟨h.metadata, ?_, ?_⟩
  · intro name hname
    by_cases hgeneration : name = generationName n
    · subst hgeneration
      refine .inr ⟨rfl, entry.metadata, ?_, hstrict⟩
      rw [GenerationRoot.label, GenerationRoot.setEntry, AList.lookup_insert]
      rfl
    · rw [GenerationRoot.label, lookup_setEntry_ne hgeneration, lookup_removeEntry_ne (hname uuid)]
      exact h.label name hname
  · intro uuid' m hm
    rw [GenerationRoot.label, lookup_setEntry_ne (pendingName_ne_generationName uuid' n)] at hm
    exact h.pending uuid' m (label_removeEntry hm)

theorem rename_staged (uuid : BitVec 128) (h : Ready X n g₀ (pendingName X n uuid) g) :
    (rootCall (.rename (pendingName X n uuid) (generationName n))).run.Ensures
      (failingRoot outside) (StagedFrom X n g₀) (fun _ _ => True) g := by
  refine ensures_rootCall (fun g' hg => ?_) (fun _ _ => trivial) fun _ _ _ => trivial
  obtain ⟨m, hm, hstrict⟩ := h.label
  obtain ⟨entry, hentry, rfl⟩ := Option.map_eq_some_iff.1 hm
  obtain rfl | rfl | ⟨_, _, _, hwork, _⟩ := hg
  · exact h.staged
  · simp only [performRoot, GenerationRoot.renameEntry, hentry]
    split
    · rename_i hnone
      cases hnone
    · rename_i hsome _
      cases hsome
      exact h.staged.moved hstrict
    · rename_i hsome _
      cases hsome
      split
      · exact h.staged
      · split
        · exact h.staged.moved hstrict
        · exact h.staged
  · cases hwork

variable {stager : RuntimeBundleStager} {configuration manifest : Bytes}
variable {providers : ProviderStagingPlan}

theorem verifyExistingFile_keeps (root : String) (path : List String) (expected : Bytes)
    (limit : Nat) : Keeps (failingRoot outside) (StagedFrom X n g₀)
      (verifyExistingFile root path expected limit) :=
  ((still_keeps rfl).orThrow _).seq fun _ => keeps_require _

theorem verifyExisting_keeps (root : String) : Keeps (failingRoot outside) (StagedFrom X n g₀)
      (verifyExisting M root manifest configuration stager.binarySha256 providers) := by
  apply ((still_keeps rfl).orThrow _).seq
  intro _
  apply (keeps_ofExcept _).seq
  intro _
  apply (keeps_require _).seq
  intro _
  apply (verifyExistingFile_keeps _ _ _ _).seq
  intro _
  apply (verifyExistingFile_keeps _ _ _ _).seq
  intro _
  apply ((still_keeps rfl).orThrow _).seq
  intro _
  apply (keeps_require _).seq
  intro _
  exact keeps_forEach fun _ _ => verifyExistingFile_keeps _ _ _ _

theorem writeNew_keeps (name : String) (path : List String) (content : Bytes) (mode : Nat) :
    Keeps (failingRoot outside) (Ready X n g₀ pending) (writeNew name path content mode) :=
  (ready_keeps rfl).orThrow _

theorem createPrivateDirectory_keeps (uuid : BitVec 128) (path : List String) :
    Keeps (failingRoot outside) (Ready X n g₀ (pendingName X n uuid))
      (createPrivateDirectory (pendingName X n uuid) path) := by
  unfold createPrivateDirectory
  split
  · exact createPrivateEntry_keeps_ready uuid
  · apply ((ready_keeps rfl).orThrow _).seq
    intro _
    apply ((ready_keeps rfl).orThrow _).seq
    intro _
    apply (keeps_ofExcept _).seq
    intro _
    apply (keeps_require _).seq
    intro _
    exact (ready_keeps rfl).orThrow _

theorem stagePending_keeps (uuid : BitVec 128) :
    Keeps (failingRoot outside) (Ready X n g₀ (pendingName X n uuid))
      (stagePending M stager (pendingName X n uuid) configuration manifest providers) := by
  have hcopy : Keeps (failingRoot outside) (Ready X n g₀ (pendingName X n uuid))
      (copyVerifiedBinary M stager.binary (pendingName X n uuid) stager.binarySha256) := by
    apply ((ready_keeps rfl).orThrow _).seq
    intro _
    apply (keeps_ofExcept _).seq
    intro _
    exact (writeNew_keeps _ _ _ _).seq fun _ => keeps_require _
  apply hcopy.seq
  intro _
  apply (writeNew_keeps _ _ _ _).seq
  intro _
  apply (keeps_forEach fun _ _ => createPrivateDirectory_keeps uuid _).seq
  intro _
  apply (keeps_forEach fun _ _ => writeNew_keeps _ _ _ _).seq
  intro _
  apply (writeNew_keeps _ _ _ _).seq
  intro _
  exact (ready_keeps rfl).orThrow _

theorem removePending_keeps (uuid : BitVec 128) : Keeps (failingRoot outside) (StagedFrom X n g₀)
      (removePending (pendingName X n uuid)) :=
  (keeps_require _).seq fun _ =>
    (quiet_keeps (quietCall_pending (by simp) rfl)).orThrow _

theorem stageNew_keeps : Keeps (failingRoot outside) (StagedFrom X n g₀)
      (stageNew X M stager n configuration manifest providers) := by
  apply ((still_keeps rfl).orThrow _).seq
  intro uuid g h
  have hremoved : ∀ error, Keeps (failingRoot outside) (StagedFrom X n g₀)
      (do
        let _ ← (removePending (pendingName X n uuid)).result (δ := RuntimeBundleStageErrorKind)
        throw error : StageAttempt Unit) :=
    fun error => (removePending_keeps uuid).result.seq fun _ => keeps_throw _
  apply ensures_seq (createPrivateEntry_ready h uuid)
  · intro _ g _ hready
    have hfill : (stagePending M stager (pendingName X n uuid) configuration manifest
        providers).run.Ensures (failingRoot outside) (StagedFrom X n g₀)
        (fun _ g' => Ready X n g₀ (pendingName X n uuid) g') g :=
      (stagePending_keeps uuid g (hready rfl)).mono (fun _ h => h.staged) fun _ _ h _ => h
    apply ensures_result_seq hfill
    intro r g h hfilled
    cases r with
    | error error => exact hremoved error g h
    | ok _ =>
      apply ensures_result_seq (rename_staged uuid hfilled)
      intro r g h _
      cases r with
      | ok _ => exact (still_keeps rfl).orThrow _ g h
      | error error =>
        dsimp only
        split
        · exact (removePending_keeps uuid).seq (fun _ => verifyExisting_keeps _) g h
        · exact hremoved _ g h
  · exact fun _ _ _ _ => trivial

theorem providerContent_keeps (kind : ProviderKind) :
    Keeps (failingRoot outside) (StagedFrom X n g₀) (providerContent kind) := by
  cases kind with
  | remote url => exact keeps_pure none
  | localFile source =>
    have hread : Keeps (failingRoot outside) (StagedFrom X n g₀)
        (readLocalProvider source) :=
      ((still_keeps rfl).orThrow _).seq fun _ => keeps_ofExcept _
    exact hread.seq fun _ => keeps_pure _

theorem providerDestinations_keeps (records : List ProviderRecord)
    (destinations : List ProviderDestination) : Keeps (failingRoot outside) (StagedFrom X n g₀)
      (providerDestinations records destinations) := by
  induction records generalizing destinations with
  | nil => exact keeps_pure _
  | cons provider rest ih =>
    apply (keeps_ofExcept _).seq
    intro path
    apply (providerContent_keeps provider.kind).seq
    intro content
    apply (keeps_ofExcept _).seq
    intro destinations
    exact ih destinations

theorem planStaging_keeps (stager : RuntimeBundleStager) (configuration : EffectiveConfiguration) :
    Keeps (failingRoot outside) (StagedFrom X n g₀) (planStaging M stager n configuration) := by
  apply (keeps_require _).seq
  intro _
  apply (keeps_require _).seq
  intro _
  apply ((providerDestinations_keeps _ _).seq fun _ => keeps_pure _).seq
  intro providers
  exact (keeps_require _).seq fun _ => keeps_pure _

theorem stage_keeps (stager : RuntimeBundleStager) (configuration : EffectiveConfiguration) :
    Keeps (failingRoot outside) (StagedFrom X n g₀) (stage X M stager n configuration) := by
  apply (planStaging_keeps stager configuration).seq
  intro planned
  apply Keeps.seq _ fun _ => keeps_pure _
  apply (still_keeps rfl).result.seq
  intro existing
  split
  · apply (((still_keeps rfl).orThrow _).seq fun _ => keeps_ofExcept _).seq
    exact fun _ => verifyExisting_keeps _
  · exact stageNew_keeps

end Ratash

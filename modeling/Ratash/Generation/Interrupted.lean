import Ratash.Generation.Ingress
import Ratash.Generation.Staged

namespace Ratash

open Interaction Attempt

variable {outside : OutsideFiles} {D : Type} {X : Codec D} {M : ManifestCodec}
variable {n : RuntimeGeneration} {g₀ g : GenerationRoot} {I : GenerationRoot → Prop}

def KeptByContent (outside : OutsideFiles) (I : GenerationRoot → Prop) : Prop :=
  ∀ c : RootCall, c.relabels = [] → Keeps (failingRoot outside) I (rootCall c)

section KeptByContent

variable (hI : KeptByContent outside I)

include hI

theorem openSourceRoot_keeps (path : Path) (ownerUid : Nat) :
    Keeps (failingRoot outside) I (openSourceRoot path ownerUid) :=
  ((hI _ rfl).orThrow _).seq fun _ => keeps_require _

theorem openSourceFile_keeps (root : Path) (ownerUid : Nat)
    (path : Path) : Keeps (failingRoot outside) I (openSourceFile root ownerUid path) := by
  have hdirectory (path : List String) :
      Keeps (failingRoot outside) I (openSourceDirectory root ownerUid path) :=
    ((hI _ rfl).orThrow _).seq fun _ => keeps_require _
  apply (keeps_ofExcept _).seq
  intro _
  apply (keeps_require _).seq
  intro _
  apply (keeps_forEach fun _ _ => hdirectory _).seq
  intro _
  apply ((hI _ rfl).orThrow _).seq
  intro _
  apply (keeps_ofExcept _).seq
  intro _
  exact (keeps_require _).seq fun _ => keeps_pure _

theorem copyVerifiedFile_keeps (sourceRoot : Path) (ownerUid : Nat)
    (target : String) (copy : BundleFileCopy) :
    Keeps (failingRoot outside) I (copyVerifiedFile M sourceRoot ownerUid target copy) := by
  apply (openSourceFile_keeps hI _ _ _).seq
  intro _
  apply (keeps_require _).seq
  intro _
  apply ((hI _ rfl).orThrow _).seq
  intro _
  exact (keeps_require _).seq fun _ => (hI _ rfl).orThrow _

theorem createDestinationParent_keeps (target : String)
    (path : List String) : Keeps (failingRoot outside) I (createDestinationParent target path) := by
  apply (hI _ rfl).result.seq
  intro r
  cases r with
  | ok _ => exact (hI _ rfl).orThrow _
  | error _ =>
    apply (keeps_require _).seq
    intro _
    exact ((hI _ rfl).orThrow _).seq fun _ => keeps_require _

theorem stageGeoData_keeps (target : String)
    (geoData : GeoDataIngress) : Keeps (failingRoot outside) I (stageGeoData M target geoData) := by
  apply (openSourceRoot_keeps hI _ _).seq
  intro _
  apply keeps_forEach
  intro asset _
  apply (keeps_require _).seq
  intro _
  apply ((hI _ rfl).orThrow _).seq
  intro _
  exact (keeps_require _).seq fun _ => copyVerifiedFile_keeps hI _ _ _ _

theorem stagePendingBundle_keeps (sourceRoot : Path) (ownerUid : Nat)
    (pending : String) (manifestBytes : Bytes) (manifest : RuntimeManifest)
    (geoData : Option GeoDataIngress) : Keeps (failingRoot outside) I
      (stagePendingBundle M sourceRoot ownerUid pending manifestBytes manifest geoData) := by
  apply (copyVerifiedFile_keeps hI _ _ _ _).seq
  intro _
  apply (copyVerifiedFile_keeps hI _ _ _ _).seq
  intro _
  apply Keeps.seq
  · apply keeps_forEach
    intro provider _
    exact (keeps_forEach fun _ _ => createDestinationParent_keeps hI _ _).seq fun _ =>
      copyVerifiedFile_keeps hI _ _ _ _
  · intro _
    apply (keeps_forEach fun _ _ => stageGeoData_keeps hI _ _).seq
    intro _
    apply (((hI _ rfl).orThrow _).seq fun _ => (hI _ rfl).orThrow _).seq
    intro _
    exact (hI _ rfl).orThrow _

theorem inspectGeoDataFile_keeps (target : String)
    (ownerUid : Nat) (path : Path) (asset : GeoDataAsset) :
    Keeps (failingRoot outside) I (inspectGeoDataFile M target ownerUid path asset) := by
  apply (keeps_require _).seq
  intro _
  apply ((hI _ rfl).orThrow _).seq
  intro node
  cases node with
  | none => exact keeps_pure _
  | some node =>
    apply (keeps_require _).seq
    intro _
    split <;> exact keeps_pure _

theorem removeInterruptedGeoData_keeps (target : String) (ownerUid : Nat) (asset : GeoDataAsset) :
    Keeps (failingRoot outside) I (removeInterruptedGeoData target ownerUid asset) := by
  apply ((hI _ rfl).orThrow _).seq
  intro node
  cases node with
  | none => exact keeps_pure _
  | some node =>
    apply (keeps_require _).seq
    intro _
    exact ((hI _ rfl).orThrow _).seq fun _ => keeps_pure _

theorem surveyGeoData_keeps (target : String) (ownerUid : Nat)
    (assets : List GeoDataAsset) (removedPending needsRepair : Bool) : Keeps (failingRoot outside) I
      (surveyGeoData M target ownerUid assets removedPending needsRepair) := by
  induction assets generalizing removedPending needsRepair with
  | nil => exact keeps_pure _
  | cons asset rest ih =>
    apply (removeInterruptedGeoData_keeps hI _ _ _).seq
    intro _
    apply (inspectGeoDataFile_keeps hI _ _ _ _).seq
    intro _
    exact ih _ _

theorem orCleanUp_keeps (target : String) (ownerUid : Nat) (assets : List GeoDataAsset)
    {step : IngressAttempt Unit} (hstep : Keeps (failingRoot outside) I step) :
    Keeps (failingRoot outside) I (orCleanUp target ownerUid assets step) := by
  apply hstep.result.seq
  intro r
  cases r with
  | ok _ => exact keeps_pure _
  | error error =>
    have hclean : Keeps (failingRoot outside) I
        (cleanupGeoDataRepair target ownerUid assets) := by
      apply Keeps.seq _ fun _ => (hI _ rfl).orThrow _
      apply keeps_forEach
      intro asset _
      exact (removeInterruptedGeoData_keeps hI _ _ _).seq fun _ => keeps_pure _
    exact hclean.result.seq fun _ => keeps_throw error

theorem ensureStagedGeoData_keeps (target : String) (ownerUid : Nat) (geoData : GeoDataIngress) :
    Keeps (failingRoot outside) I (ensureStagedGeoData M target ownerUid geoData) := by
  have hrepair (asset : GeoDataAsset) : Keeps (failingRoot outside) I
      (stageGeoDataRepair M geoData target ownerUid asset) := by
    apply (keeps_require _).seq
    intro _
    apply (copyVerifiedFile_keeps hI _ _ _ _).seq
    intro _
    exact (inspectGeoDataFile_keeps hI _ _ _ _).seq fun _ => keeps_require _
  have hreplace (asset : GeoDataAsset) : Keeps (failingRoot outside) I
      (replaceGeoData target ownerUid asset) :=
    (((hI _ rfl).orThrow _).seq fun _ => keeps_require _).seq fun _ => (hI _ rfl).orThrow _
  have hsync : Keeps (failingRoot outside) I (syncDirectoryDescriptor target) :=
    (hI _ rfl).orThrow _
  apply (((hI _ rfl).orThrow _).seq fun _ => keeps_require _).seq
  intro _
  apply (surveyGeoData_keeps hI _ _ _ _ _).seq
  intro survey
  apply hsync.whenever.seq
  intro _
  apply Keeps.whenever
  apply (openSourceRoot_keeps hI _ _).seq
  intro _
  apply (keeps_forEach fun asset _ => orCleanUp_keeps hI _ _ _ (hrepair asset)).seq
  intro _
  apply hsync.seq
  intro _
  apply (keeps_forEach fun asset _ => orCleanUp_keeps hI _ _ _ (hreplace asset)).seq
  intro _
  apply hsync.seq
  intro _
  exact keeps_forEach fun _ _ =>
    (inspectGeoDataFile_keeps hI _ _ _ _).seq fun _ => keeps_require _

theorem generationDirectoryExists_keeps (name : String) :
    Keeps (failingRoot outside) I (generationDirectoryExists name) := by
  apply ((hI _ rfl).orThrow _).seq
  intro metadata
  cases metadata with
  | none => exact keeps_pure _
  | some metadata => exact (keeps_require _).seq fun _ => keeps_pure _

end KeptByContent

/-- What every call of a staging keeps, `R` while it fills the pending directory it has created. -/
structure KeptByStaging (outside : OutsideFiles) (X : Codec D)
    (n : RuntimeGeneration) (I : GenerationRoot → Prop) (R : BitVec 128 → GenerationRoot → Prop) :
    Prop where
  content : KeptByContent outside I
  filling : ∀ uuid, KeptByContent outside (R uuid)
  of_filling : ∀ uuid g, R uuid g → I g
  pending : ∀ uuid c, (∀ source target, c ≠ .rename source target) →
    c.relabels = [pendingName X n uuid] → Keeps (failingRoot outside) I (rootCall c)
  permitted : ∀ uuid g, I g → (rootCall (.setPermissions (pendingName X n uuid) 0o700)).run.Ensures
    (failingRoot outside) I (fun r g' => r = .ok () → R uuid g') g
  renamed : ∀ uuid g, R uuid g → (rootCall (.rename (pendingName X n uuid)
    (generationName n))).run.Ensures (failingRoot outside) I (fun _ _ => True) g

section KeptByStaging

variable {R : BitVec 128 → GenerationRoot → Prop}

theorem createPendingRoot_ready (hI : KeptByStaging outside X n I R) (tries : Nat) (h : I g) :
    (createPendingRoot X n tries).run.Ensures (failingRoot outside) I
      (fun r g' => ∀ pending, r = .ok pending →
        ∃ uuid, pending = pendingName X n uuid ∧ R uuid g') g := by
  induction tries generalizing g with
  | zero => exact ⟨h, fun _ hr => by cases hr⟩
  | succ tries ih =>
    apply ensures_orThrow_seq (hI.content _ rfl g h)
    · intro uuid g h _
      apply ensures_result_seq (hI.pending uuid _ (by simp) rfl g h)
      intro r g h _
      cases r with
      | ok _ =>
        apply ensures_result_seq (hI.permitted uuid g h)
        intro r g h hready
        cases r with
        | ok _ =>
          refine ⟨h, ?_⟩
          intro pending hr
          cases hr
          exact ⟨uuid, rfl, hready rfl⟩
        | error _ =>
          apply ensures_result_seq (hI.pending uuid _ (by simp) rfl g h)
          exact fun _ _ h _ => ⟨h, fun _ hr => by cases hr⟩
      | error error =>
        exact ensures_require_seq h (fun _ => ih h) fun _ _ hr => by cases hr
    · exact fun _ _ _ _ _ hr => by cases hr

theorem stageNewBundle_keeps {bundle : RuntimeBundle}
    (hI : KeptByStaging outside X bundle.generation I R) (ownerUid : Nat)
    (geoData : Option GeoDataIngress) :
    Keeps (failingRoot outside) I (stageNewBundle X M ownerUid bundle geoData) := by
  apply (openSourceRoot_keeps hI.content _ _).seq
  intro _
  apply Keeps.seq
    ((openSourceFile_keeps hI.content _ _ _).seq fun _ =>
      (keeps_require _).seq fun _ => keeps_pure _)
  intro manifestBytes
  apply (keeps_require _).seq
  intro _
  apply (keeps_ofExcept _).seq
  intro manifest
  apply (keeps_require _).seq
  intro _ g h
  apply ensures_seq (createPendingRoot_ready hI 4 h)
  · intro pending g _ hready
    obtain ⟨uuid, rfl, hpending⟩ := hready pending rfl
    have hremove : Keeps (failingRoot outside) I
        (removePendingRoot (pendingName X bundle.generation uuid)) :=
      (keeps_require _).seq fun _ => (hI.pending uuid _ (by simp) rfl).orThrow _
    have hremoved (error : BundleIngressError) : Keeps (failingRoot outside) I
        (do
          let _ ← (removePendingRoot (pendingName X bundle.generation uuid)).result
            (δ := BundleIngressError)
          throw error : IngressAttempt Unit) :=
      hremove.result.seq fun _ => keeps_throw error
    have hfill : (stagePendingBundle M bundle.generationRoot ownerUid
        (pendingName X bundle.generation uuid) manifestBytes manifest geoData).run.Ensures
        (failingRoot outside) I (fun _ g' => R uuid g') g :=
      (stagePendingBundle_keeps (hI.filling uuid) _ _ _ _ _ _ g hpending).mono
        (hI.of_filling uuid) fun _ _ h _ => h
    apply ensures_result_seq hfill
    intro r g h hfilled
    cases r with
    | error error => exact hremoved error g h
    | ok _ =>
      apply ensures_result_seq (hI.renamed uuid g hfilled)
      intro r g h _
      cases r with
      | ok _ => exact (hI.content _ rfl).orThrow _ g h
      | error error =>
        dsimp only
        split
        · apply hremove.seq _ g h
          intro _
          exact (generationDirectoryExists_keeps hI.content _).seq fun _ => keeps_require _
        · exact hremoved _ g h
  · exact fun _ _ _ _ => trivial

theorem stageRuntimeBundle_keeps {bundle : RuntimeBundle}
    (hI : KeptByStaging outside X bundle.generation I R) (runtimeRoot : Path)
    (effectiveUid ownerUid : Nat) (geoData : Option GeoDataIngress) : Keeps (failingRoot outside) I
      (stageRuntimeBundle X M runtimeRoot effectiveUid ownerUid bundle geoData) := by
  apply (keeps_require _).seq
  intro _
  apply (generationDirectoryExists_keeps hI.content _).seq
  intro staged
  split
  · apply (keeps_forEach fun _ _ => ensureStagedGeoData_keeps hI.content _ _ _).seq
    exact fun _ => keeps_pure _
  · exact (stageNewBundle_keeps hI _ _).seq fun _ => keeps_pure _

end KeptByStaging

theorem stagedFrom_keptByStaging : KeptByStaging outside X n (StagedFrom X n g₀)
    fun uuid => Ready X n g₀ (pendingName X n uuid) where
  content _ := still_keeps
  filling _ _ := ready_keeps
  of_filling _ _ h := h.staged
  pending _ _ hc hrelabels := quiet_keeps (quietCall_pending hc hrelabels)
  permitted uuid _ h := setPermissions_ready h uuid
  renamed uuid _ := rename_staged uuid

/-- Something to stage, by the user's Supervisor or by the privileged service. -/
inductive StagingRequest where
  | user (stager : RuntimeBundleStager) (generation : RuntimeGeneration)
      (configuration : EffectiveConfiguration)
  | service (runtimeRoot : Path) (effectiveUid ownerUid : Nat) (bundle : RuntimeBundle)
      (geoData : Option GeoDataIngress)

namespace StagingRequest

def generation : StagingRequest → RuntimeGeneration
  | .user _ generation _ => generation
  | .service _ _ _ bundle _ => bundle.generation

def reservedDirectories : StagingRequest → List String
  | .user _ _ _ => []
  | .service _ _ _ _ _ => reservedServiceDirectories

/-- The staging can be stopped with the root in this state, before its end or at it, whatever has
failed until then. -/
def StopsIn (X : Codec D) (M : ManifestCodec) (outside : OutsideFiles)
    (g₀ g : GenerationRoot) : StagingRequest → Prop
  | .user stager generation configuration =>
    Reaches (failingRoot outside) (stage X M stager generation configuration).run g₀ g
  | .service runtimeRoot effectiveUid ownerUid bundle geoData =>
    Reaches (failingRoot outside)
      (stageRuntimeBundle X M runtimeRoot effectiveUid ownerUid bundle geoData).run g₀ g

variable {request : StagingRequest}

theorem StopsIn.stagedFrom (h : request.StopsIn X M outside g₀ g)
    (h₀ : StagedFrom X request.generation g₀ g₀) : StagedFrom X request.generation g₀ g := by
  cases request with
  | user stager generation configuration =>
    exact (stage_keeps stager configuration g₀ h₀).reaches h
  | service runtimeRoot effectiveUid ownerUid bundle geoData =>
    exact (stageRuntimeBundle_keeps stagedFrom_keptByStaging runtimeRoot effectiveUid ownerUid
      geoData g₀ h₀).reaches h

theorem not_reserved (request : StagingRequest) (n : RuntimeGeneration) :
    generationName n ∉ request.reservedDirectories ∧
      ∀ uuid, pendingName X n uuid ∉ request.reservedDirectories := by
  cases request with
  | user => exact ⟨List.not_mem_nil, fun _ => List.not_mem_nil⟩
  | service =>
    constructor
    · intro h
      have hhead := congrArg (fun s => s.toList.head?) (List.mem_singleton.1 h)
      rw [toList_generationName] at hhead
      cases hhead
    · intro uuid h
      have hhead := congrArg (fun s => s.toList.head?) (List.mem_singleton.1 h)
      rw [pendingName, toList_temporaryName] at hhead
      cases hhead

def Restarts (X : Codec D) (outside : OutsideFiles) (request : StagingRequest)
    (g : GenerationRoot) : Bool :=
  ((scanRuntimeGenerations X request.reservedDirectories).run.run (performRoot outside) g).1.isOk

theorem restarts_iff :
    request.Restarts X outside g = true ↔ Accepted X request.reservedDirectories g := by
  rw [← scan_isOk_iff, Restarts, (scanRuntimeGenerations_reads _).run]
  cases g.scan X request.reservedDirectories with
  | ok scan => exact ⟨fun _ => ⟨scan, rfl⟩, fun _ => rfl⟩
  | error e => exact ⟨fun h => (by cases h), fun ⟨_, h⟩ => (by cases h)⟩

theorem stagedFrom_refl (h : Accepted X request.reservedDirectories g) (n : RuntimeGeneration) :
    StagedFrom X n g g := by
  refine ⟨rfl, fun _ _ => .inl rfl, ?_⟩
  intro uuid m hm
  obtain ⟨entry, hentry, _⟩ := Option.map_eq_some_iff.1 hm
  have hknown := h.known _ entry hentry
  rw [Recognised, if_neg ((not_reserved request n).2 uuid), (parse_pendingName n uuid).1,
    (parse_pendingName n uuid).2] at hknown
  simp at hknown

/-- Staging into a root that could be scanned, stopped anywhere and with anything failing, leaves a
root that can be scanned if and only if it leaves no pending directory. -/
theorem restarts_after_staging (X : Codec D) (M : ManifestCodec) (outside : OutsideFiles)
    (request : StagingRequest) (hgeneration : 0 < request.generation) (g₀ g : GenerationRoot)
    (hroot : request.Restarts X outside g₀ = true)
    (hcount : g₀.entries.keys.length < runtimeGenerationScanLimit)
    (hstop : request.StopsIn X M outside g₀ g) : request.Restarts X outside g = true ↔
      ∀ uuid, pendingName X request.generation uuid ∉ g.entries := by
  have h₀ := restarts_iff.1 hroot
  have hstaged := hstop.stagedFrom (stagedFrom_refl h₀ _)
  obtain ⟨hname, hpending⟩ := not_reserved (X := X) request request.generation
  rw [restarts_iff]
  exact hstaged.accepted_iff h₀ hcount hgeneration hname hpending

end StagingRequest

def sampleRequest : StagingRequest :=
  .user sampleStager 1 (sampleConfiguration [4])

def rootAfter (calls : Nat) : GenerationRoot :=
  (stage Plain.codec Plain.manifestCodec sampleStager 1 (sampleConfiguration [4])).run.runFor
    (performRoot binaryOnly) calls emptyRoot

theorem stopsIn_rootAfter (calls : Nat) :
    sampleRequest.StopsIn Plain.codec Plain.manifestCodec binaryOnly emptyRoot (rootAfter calls) :=
  Reaches.map id (fun _ _ _ _ h => .inl h) (Prog.reaches_runFor _ _ _ _)

/-- A process that dies while it fills the pending directory leaves a root no start can scan. -/
theorem interrupted_staging_blocks_restart :
    sampleRequest.Restarts Plain.codec binaryOnly emptyRoot = true ∧
      sampleRequest.StopsIn Plain.codec Plain.manifestCodec binaryOnly emptyRoot (rootAfter 7) ∧
      sampleRequest.Restarts Plain.codec binaryOnly (rootAfter 7) = false :=
  ⟨by decide +kernel, stopsIn_rootAfter 7, by decide +kernel⟩

theorem restarts_after_sampleRequest :
    sampleRequest.Restarts Plain.codec binaryOnly (rootAfter 20) = true ∧
      (rootAfter 20).entries.keys = [generationName 1] := by
  have hkeys : (rootAfter 20).entries.keys = [generationName 1] := by decide +kernel
  have hrestart := StagingRequest.restarts_after_staging Plain.codec Plain.manifestCodec binaryOnly
    sampleRequest (by decide) emptyRoot (rootAfter 20) (by decide +kernel) (by decide +kernel)
    (stopsIn_rootAfter 20)
  refine ⟨hrestart.2 fun uuid hmem => ?_, hkeys⟩
  have hname := AList.mem_keys.1 hmem
  rw [hkeys] at hname
  exact pendingName_ne_generationName uuid 1 (List.mem_singleton.1 hname)

end Ratash

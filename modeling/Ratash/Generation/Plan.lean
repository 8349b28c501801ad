import Ratash.Generation.Calls
import Ratash.Generation.Stage

namespace Ratash

open Interaction Attempt

variable {outside : OutsideFiles} {M : ManifestCodec} {g : GenerationRoot}

def localContentIn (outside : OutsideFiles) (source : Path) :
    Except RuntimeBundleStageErrorKind Bytes :=
  ((outside source []).bind (Node.readLimited profileResponseMaxBytes)).elim
    (.error .providerUnavailable) .ok

def providerContentIn (outside : OutsideFiles) :
    ProviderKind → Except RuntimeBundleStageErrorKind (Option Bytes)
  | .remote _ => .ok none
  | .localFile source => (localContentIn outside source).bind fun content => .ok (some content)

def destinationsIn (outside : OutsideFiles) :
    List ProviderRecord → List ProviderDestination →
      Except RuntimeBundleStageErrorKind (List ProviderDestination)
  | [], destinations => .ok destinations
  | provider :: rest, destinations =>
    (validateRelativePath provider.relativePath).bind fun path =>
      (providerContentIn outside provider.kind).bind fun content =>
        (insertDestination path content destinations).bind (destinationsIn outside rest)

def stagingPlanIn (outside : OutsideFiles)
    (configuration : EffectiveConfiguration) :
    Except RuntimeBundleStageErrorKind ProviderStagingPlan :=
  (destinationsIn outside configuration.providers []).bind fun destinations =>
    .ok (stagingPlanOf destinations)

def planIn (M : ManifestCodec) (outside : OutsideFiles)
    (stager : RuntimeBundleStager) (generation : RuntimeGeneration)
    (configuration : EffectiveConfiguration) :
    Except RuntimeBundleStageErrorKind (ProviderStagingPlan × Bytes) :=
  if configuration.compilerPolicySha256 = stager.compilerPolicySha256 then
    if configuration.yaml.length ≤ effectiveConfigurationMaxBytes then
      (stagingPlanIn outside configuration).bind fun providers =>
        let manifest := M.encodeManifest (manifestOf M stager generation configuration providers)
        if manifest.length ≤ manifestMaxBytes then .ok (providers, manifest)
        else .error .invalidPolicy
    else .error .configurationTooLarge
  else .error .compilerPolicyMismatch

theorem readLocalProvider_reads (source : Path) :
    ReadsRoot outside g (readLocalProvider source)
      (localContentIn outside source) := by
  apply (reads_rootCall (c := .outside source []) rfl rfl).orThrow_seq
  · intro node hnode
    cases hnode
    exact reads_ofExcept _
  · intro _ h
    cases h

theorem providerContent_reads (kind : ProviderKind) :
    ReadsRoot outside g (providerContent kind)
      (providerContentIn outside kind) := by
  cases kind with
  | remote url => exact reads_pure none
  | localFile source => exact (readLocalProvider_reads source).bind fun _ => reads_pure _

theorem providerDestinations_reads (records : List ProviderRecord)
    (destinations : List ProviderDestination) : ReadsRoot outside g
      (providerDestinations records destinations)
      (destinationsIn outside records destinations) := by
  induction records generalizing destinations with
  | nil => exact reads_pure _
  | cons provider rest ih =>
    apply (reads_ofExcept _).bind
    intro path
    apply (providerContent_reads provider.kind).bind
    intro content
    exact (reads_ofExcept _).bind ih

theorem planStaging_reads (stager : RuntimeBundleStager) (generation : RuntimeGeneration)
    (configuration : EffectiveConfiguration) : ReadsRoot outside g
      (planStaging M stager generation configuration)
      (planIn M outside stager generation configuration) := by
  refine reads_require (fun hpolicy => ?_) (fun hpolicy => if_neg hpolicy)
  rw [planIn, if_pos hpolicy]
  refine reads_require (fun hlength => ?_) (fun hlength => if_neg hlength)
  rw [if_pos hlength]
  have hplan : ReadsRoot outside g
      (providerStagingPlan configuration) (stagingPlanIn outside configuration) :=
    (providerDestinations_reads _ _).bind fun _ => reads_pure _
  apply hplan.bind
  intro providers
  refine reads_require (fun hmanifest => ?_) (fun hmanifest => if_neg hmanifest)
  rw [if_pos hmanifest]
  exact reads_pure _

end Ratash

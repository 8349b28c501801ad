import Ratash.Generation.Stage

namespace Ratash

open Interaction Attempt

def runtimeProviderFileMax : Nat := 1024

structure GeoDataAsset where
  fileName : String
  size : Nat
  sha256 : String
deriving DecidableEq

structure GeoDataIngress where
  root : Path
  expectedOwnerUid : Nat
  assets : List GeoDataAsset
deriving DecidableEq

inductive BundleIngressError where
  | invalid
  | unavailable
deriving DecidableEq

abbrev IngressAttempt := RootAttempt BundleIngressError

def validProviderPath (value : String) : Bool :=
  value ≠ "" && !Unix.isAbsolute value && value ∉ ["manifest.json", "config.yaml", "mihomo"] &&
    (Unix.normalNames value).isSome

def validateIngressFiles : Option String → List RuntimeManifestFile → Bool
  | _, [] => true
  | previous, file :: rest =>
    !(previous.any fun previous => file.path ≤ previous) && validProviderPath file.path &&
      isLowerSha256Hex file.sha256 && file.size.toNat ≤ profileResponseMaxBytes &&
      validateIngressFiles (some file.path) rest

def validateIngressManifest (manifest : RuntimeManifest) (bundle : RuntimeBundle) : Bool :=
  manifest.schemaVersion = 1 && manifest.runtimeGeneration = bundle.generation &&
    manifest.compilerPolicySha256 = bundle.compilerPolicySha256 &&
    manifest.mihomoBinarySha256 = bundle.mihomoBinarySha256 &&
    isLowerSha256Hex manifest.configurationSha256 &&
    manifest.executable = runtimeCoreExecutableName && manifest.configuration = "config.yaml" &&
    manifest.providerFiles.length ≤ runtimeProviderFileMax &&
    validateIngressFiles none manifest.providerFiles

def openSourceRoot (path : Path) (ownerUid : Nat) : IngressAttempt Unit := do
  let node ← (rootCall (.outside path [])).orThrow .invalid
  Attempt.require (node.any fun node => node.fileType = .directory && node.uid = ownerUid) .invalid

def openSourceDirectory (root : Path) (ownerUid : Nat) (path : List String) :
    IngressAttempt Unit := do
  let node ← (rootCall (.outside root path)).orThrow .invalid
  Attempt.require (node.any fun node => node.fileType = .directory && node.uid = ownerUid) .invalid

def openSourceFile (root : Path) (ownerUid : Nat) (path : Path) : IngressAttempt Bytes := do
  let names ← Attempt.ofExcept ((Unix.normalNames path).elim (.error .invalid) .ok)
  Attempt.require (names ≠ []) .invalid
  forEach (openSourceDirectory root ownerUid) (Tree.ancestors names.dropLast)
  let node ← (rootCall (.outside root names)).orThrow .invalid
  let node ← Attempt.ofExcept (node.elim (.error .invalid) .ok)
  Attempt.require (node.fileType = .file ∧ node.uid = ownerUid) .invalid
  return node.content

def readSourceBytes (root : Path) (ownerUid : Nat) (path : Path) (limit : Nat) :
    IngressAttempt Bytes := do
  let content ← openSourceFile root ownerUid path
  Attempt.require (content.length ≤ limit) .invalid
  return content

structure BundleFileCopy where
  relativePath : Path
  destination : List String
  limit : Nat
  expectedSize : Option Nat
  expectedSha256 : String
  mode : Nat

variable {D : Type} (X : Codec D) (M : ManifestCodec)

def copyVerifiedFile (sourceRoot : Path) (ownerUid : Nat) (target : String)
    (copy : BundleFileCopy) : IngressAttempt Unit := do
  let content ← openSourceFile sourceRoot ownerUid copy.relativePath
  Attempt.require (content.length ≤ copy.limit ∧ copy.expectedSize.all (· = content.length))
    .invalid
  (rootCall (.within target (.createNew copy.destination content copy.mode))).orThrow .unavailable
  Attempt.require (M.sha256Hex content = copy.expectedSha256) .invalid
  (rootCall (.within target (.setPermissions copy.destination copy.mode))).orThrow .unavailable

def createDestinationParent (target : String) (path : List String) : IngressAttempt Unit := do
  match ← (rootCall (.within target (.createDir path))).result with
  | .ok _ => (rootCall (.within target (.setPermissions path 0o700))).orThrow .unavailable
  | .error error =>
    Attempt.require (error.kind = .alreadyExists) .unavailable
    let node ← (rootCall (.node target path)).orThrow .unavailable
    Attempt.require (node.any fun node => node.fileType = .directory) .unavailable

def createDestinationParents (target : String) (destination : List String) : IngressAttempt Unit :=
  forEach (createDestinationParent target) (Tree.ancestors destination.dropLast)

def writeNewFile (target : String) (path : List String) (content : Bytes) (mode : Nat) :
    IngressAttempt Unit := do
  (rootCall (.within target (.createNew path content mode))).orThrow .unavailable
  (rootCall (.within target (.setPermissions path mode))).orThrow .unavailable

def isSingleFileName (name : String) : Bool :=
  (Unix.normalNames name).any fun names => names.length = 1

def stageGeoDataAsset (geoData : GeoDataIngress) (target : String) (asset : GeoDataAsset) :
    IngressAttempt Unit := do
  Attempt.require (isSingleFileName asset.fileName) .invalid
  let existing ← (rootCall (.node target (relativeNames asset.fileName))).orThrow
    .unavailable
  Attempt.require (existing = none) .invalid
  copyVerifiedFile M geoData.root geoData.expectedOwnerUid target
    ⟨asset.fileName, relativeNames asset.fileName, asset.size, some asset.size, asset.sha256, 0o400⟩

def stageGeoData (target : String) (geoData : GeoDataIngress) : IngressAttempt Unit := do
  openSourceRoot geoData.root geoData.expectedOwnerUid
  forEach (stageGeoDataAsset M geoData target) geoData.assets

inductive StagedGeoDataState where
  | valid
  | repairable
deriving DecidableEq

def openGenerationRoot (name : String) (ownerUid : Nat) : IngressAttempt Unit := do
  let metadata ← (rootCall (.symlinkMetadata name)).orThrow .invalid
  Attempt.require (metadata.any fun metadata => strictGenerationMetadata metadata ownerUid) .invalid

def inspectGeoDataFile (target : String) (ownerUid : Nat) (path : Path) (asset : GeoDataAsset) :
    IngressAttempt StagedGeoDataState := do
  Attempt.require (isSingleFileName path) .invalid
  match ← (rootCall (.node target (relativeNames path))).orThrow .invalid with
  | none => return .repairable
  | some node =>
    Attempt.require (node.fileType = .file ∧ node.uid = ownerUid ∧ node.links = 1) .invalid
    if node.content.length = asset.size ∧ node.mode &&& 0o777 = 0o400 ∧
        M.sha256Hex node.content = asset.sha256 then return .valid
    else return .repairable

def inspectStagedGeoData (target : String) (ownerUid : Nat) (asset : GeoDataAsset) :
    IngressAttempt StagedGeoDataState :=
  inspectGeoDataFile M target ownerUid asset.fileName asset

def pendingGeoDataName (asset : GeoDataAsset) : String :=
  ".ratash-geodata-" ++ asset.fileName ++ ".pending"

/-- Whether an interrupted repair has been removed. -/
def removeInterruptedGeoData (target : String) (ownerUid : Nat) (asset : GeoDataAsset) :
    IngressAttempt Bool := do
  let pending := [pendingGeoDataName asset]
  match ← (rootCall (.node target pending)).orThrow .invalid with
  | none => return false
  | some node =>
    Attempt.require (node.fileType = .file ∧ node.uid = ownerUid ∧ node.links = 1 ∧
      node.mode &&& 0o377 = 0) .invalid
    (rootCall (.within target (.unlink pending))).orThrow .unavailable
    return true

def stageGeoDataRepair (geoData : GeoDataIngress) (target : String) (ownerUid : Nat)
    (asset : GeoDataAsset) : IngressAttempt Unit := do
  Attempt.require (isSingleFileName asset.fileName) .invalid
  copyVerifiedFile M geoData.root geoData.expectedOwnerUid target
    ⟨asset.fileName, [pendingGeoDataName asset], asset.size, some asset.size, asset.sha256, 0o400⟩
  let state ← inspectGeoDataFile M target ownerUid (pendingGeoDataName asset) asset
  Attempt.require (state = .valid) .invalid

def validateGeoDataReplacementTarget (target : String) (ownerUid : Nat) (asset : GeoDataAsset) :
    IngressAttempt Unit := do
  let node ← (rootCall (.node target (relativeNames asset.fileName))).orThrow .invalid
  Attempt.require (node.all fun node =>
    node.fileType = .file && node.uid = ownerUid && node.links = 1) .invalid

def replaceGeoData (target : String) (ownerUid : Nat) (asset : GeoDataAsset) :
    IngressAttempt Unit := do
  validateGeoDataReplacementTarget target ownerUid asset
  (rootCall (.within target (.rename [pendingGeoDataName asset]
    (relativeNames asset.fileName)))).orThrow .unavailable

def syncDirectoryDescriptor (target : String) : IngressAttempt Unit :=
  (rootCall (.within target .syncDirectories)).orThrow .unavailable

def cleanupGeoDataRepair (target : String) (ownerUid : Nat) (assets : List GeoDataAsset) :
    IngressAttempt Unit := do
  forEach (fun asset => do
    let _ ← removeInterruptedGeoData target ownerUid asset
    return ()) assets
  syncDirectoryDescriptor target

/-- A step of the repair; what it has left pending is cleaned up if it fails. -/
def orCleanUp (target : String) (ownerUid : Nat) (assets : List GeoDataAsset)
    (step : IngressAttempt Unit) : IngressAttempt Unit := do
  match ← step.result (δ := BundleIngressError) with
  | .ok _ => return ()
  | .error error =>
    let _ ← (cleanupGeoDataRepair target ownerUid assets).result (δ := BundleIngressError)
    throw error

/-- Whether anything interrupted has been removed, and whether anything needs repair. -/
def surveyGeoData (target : String) (ownerUid : Nat) :
    List GeoDataAsset → Bool → Bool → IngressAttempt (Bool × Bool)
  | [], removedPending, needsRepair => return (removedPending, needsRepair)
  | asset :: rest, removedPending, needsRepair => do
    let removed ← removeInterruptedGeoData target ownerUid asset
    let state ← inspectStagedGeoData M target ownerUid asset
    surveyGeoData target ownerUid rest (removedPending || removed)
      (needsRepair || state = .repairable)

def ensureStagedGeoData (target : String) (ownerUid : Nat) (geoData : GeoDataIngress) :
    IngressAttempt Unit := do
  openGenerationRoot target ownerUid
  let (removedPending, needsRepair) ← surveyGeoData M target ownerUid geoData.assets false false
  whenever removedPending (syncDirectoryDescriptor target)
  whenever needsRepair do
    openSourceRoot geoData.root geoData.expectedOwnerUid
    forEach (fun asset => orCleanUp target ownerUid geoData.assets
      (stageGeoDataRepair M geoData target ownerUid asset)) geoData.assets
    syncDirectoryDescriptor target
    forEach (fun asset => orCleanUp target ownerUid geoData.assets
      (replaceGeoData target ownerUid asset)) geoData.assets
    syncDirectoryDescriptor target
    forEach (fun asset => do
      let state ← inspectStagedGeoData M target ownerUid asset
      Attempt.require (state = .valid) .invalid) geoData.assets

def stagePendingBundle (sourceRoot : Path) (ownerUid : Nat) (pending : String)
    (manifestBytes : Bytes) (manifest : RuntimeManifest) (geoData : Option GeoDataIngress) :
    IngressAttempt Unit := do
  copyVerifiedFile M sourceRoot ownerUid pending
    ⟨runtimeCoreExecutableName, [runtimeCoreExecutableName], mihomoBinaryMaxBytes, none,
      manifest.mihomoBinarySha256, 0o500⟩
  copyVerifiedFile M sourceRoot ownerUid pending
    ⟨"config.yaml", ["config.yaml"], effectiveConfigurationMaxBytes, none,
      manifest.configurationSha256, 0o400⟩
  forEach (fun provider => do
    createDestinationParents pending (relativeNames provider.path)
    copyVerifiedFile M sourceRoot ownerUid pending
      ⟨provider.path, relativeNames provider.path, profileResponseMaxBytes,
        some provider.size.toNat, provider.sha256, 0o400⟩) manifest.providerFiles
  forEach (stageGeoData M pending) geoData.toList
  writeNewFile pending ["manifest.json"] manifestBytes 0o400
  (rootCall (.within pending .syncDirectories)).orThrow .unavailable

def createPendingRoot (generation : RuntimeGeneration) : Nat → IngressAttempt String
  | 0 => throw .unavailable
  | tries + 1 => do
    let uuid ← (rootCall .newUuid).orThrow .unavailable
    let pending := pendingName X generation uuid
    match ← (rootCall (.createDir pending)).result with
    | .ok _ =>
      match ← (rootCall (.setPermissions pending 0o700)).result with
      | .ok _ => return pending
      | .error _ =>
        let _ ← (rootCall (.removeDir pending)).result (δ := BundleIngressError)
        throw .unavailable
    | .error error =>
      Attempt.require (error.kind = .alreadyExists) .unavailable
      createPendingRoot generation tries

def removePendingRoot (pending : String) : IngressAttempt Unit := do
  Attempt.require (".generation-".toList <+: pending.toList ∧ ".pending".toList <:+ pending.toList)
    .unavailable
  (rootCall (.removeDirAll pending)).orThrow .unavailable

def generationDirectoryExists (name : String) : IngressAttempt Bool := do
  match ← (rootCall (.symlinkMetadata name)).orThrow .unavailable with
  | none => return false
  | some metadata =>
    Attempt.require (metadata.fileType = .directory) .unavailable
    return true

def stagedBundle (runtimeRoot : Path) (bundle : RuntimeBundle) : RuntimeBundle :=
  { bundle with generationRoot := runtimeRoot ++ "/" ++ generationName bundle.generation }

/-- The part of `stage_runtime_bundle_inner` for a generation that is not there yet. -/
def stageNewBundle (ownerUid : Nat) (bundle : RuntimeBundle) (geoData : Option GeoDataIngress) :
    IngressAttempt Unit := do
  openSourceRoot bundle.generationRoot ownerUid
  let manifestBytes ← readSourceBytes bundle.generationRoot ownerUid "manifest.json"
    manifestMaxBytes
  Attempt.require (M.sha256Hex manifestBytes = bundle.manifestSha256) .invalid
  let manifest ← Attempt.ofExcept ((M.decodeManifest manifestBytes).elim (.error .invalid) .ok)
  Attempt.require (validateIngressManifest manifest bundle) .invalid
  let pending ← createPendingRoot X bundle.generation 4
  match ← (stagePendingBundle M bundle.generationRoot ownerUid pending manifestBytes manifest
      geoData).result with
  | .error error =>
    let _ ← (removePendingRoot pending).result (δ := BundleIngressError)
    throw error
  | .ok _ =>
    match ← (rootCall (.rename pending (generationName bundle.generation))).result with
    | .ok _ => (rootCall .syncRoot).orThrow .unavailable
    | .error error =>
      if error.kind = .alreadyExists ∨ error.kind = .directoryNotEmpty then
        removePendingRoot pending
        let staged ← generationDirectoryExists (generationName bundle.generation)
        Attempt.require (staged = true) .unavailable
      else
        let _ ← (removePendingRoot pending).result (δ := BundleIngressError)
        throw .unavailable

/-- `stage_runtime_bundle_inner`; `effectiveUid` is the user the service runs as. -/
def stageRuntimeBundle (runtimeRoot : Path) (effectiveUid ownerUid : Nat) (bundle : RuntimeBundle)
    (geoData : Option GeoDataIngress) : IngressAttempt RuntimeBundle := do
  Attempt.require (Unix.isAbsolute bundle.generationRoot = true
    ∧ isLowerSha256Hex bundle.manifestSha256 = true
    ∧ isLowerSha256Hex bundle.compilerPolicySha256 = true
    ∧ isLowerSha256Hex bundle.mihomoBinarySha256 = true) .invalid
  let staged ← generationDirectoryExists (generationName bundle.generation)
  if staged then
    forEach (ensureStagedGeoData M (generationName bundle.generation) effectiveUid)
      geoData.toList
  else stageNewBundle X M ownerUid bundle geoData
  return stagedBundle runtimeRoot bundle

def reservedServiceDirectories : List String := ["control"]

/-- `ServiceRuntimeRetention::load` -/
def loadServiceRuntimeRetention : PruneAttempt RuntimeGenerationRetention := do
  let generations ← inspectRuntimeGenerationsWithReserved X reservedServiceDirectories
  let newest := generations.reverse
  let retention : RuntimeGenerationRetention :=
    { prepared := newest[0]?, current := newest[1]?, previous := newest[2]? }
  let _ ← pruneRuntimeGenerationsWithReserved X retention reservedServiceDirectories
  return retention

end Ratash

import Ratash.Generation.Scan

namespace Ratash

open Interaction Attempt

inductive RuntimeBundleStageErrorKind where
  | invalidPolicy
  | rootUnavailable
  | invalidBinary
  | binaryIdentityMismatch
  | compilerPolicyMismatch
  | configurationTooLarge
  | invalidProviderPath
  | providerUnavailable
  | existingGenerationMismatch
  | io
deriving DecidableEq

abbrev StageAttempt := RootAttempt RuntimeBundleStageErrorKind

/-- What `RuntimeBundleStager::new` accepts. -/
structure RuntimeBundleStager where
  root : Path
  binary : Path
  binarySha256 : String
  compilerPolicySha256 : String
  isAbsolute_root : Unix.isAbsolute root = true
  isAbsolute_binary : Unix.isAbsolute binary = true
  isLower_binary : isLowerSha256Hex binarySha256 = true
  isLower_policy : isLowerSha256Hex compilerPolicySha256 = true

/-- Where a provider goes, and its content if it is a local one. -/
structure ProviderDestination where
  path : Path
  content : Option Bytes
deriving DecidableEq

structure StagedProviderFile where
  path : Path
  content : Bytes
deriving DecidableEq

structure ProviderStagingPlan where
  destinations : List Path
  localFiles : List StagedProviderFile
deriving DecidableEq

def relativeNames (path : Path) : List String :=
  (Unix.normalNames path).getD []

def validateRelativePath (path : Path) : Except RuntimeBundleStageErrorKind Path :=
  if path = "" ∨ Unix.isAbsolute path = true
      ∨ path ∈ ["manifest.json", "config.yaml", runtimeCoreExecutableName]
      ∨ Unix.normalNames path = none then .error .invalidProviderPath
  else .ok path

/-- `read_limited` of a file that is not a symbolic link. -/
def Node.readLimited (limit : Nat) (node : Node) : Option Bytes :=
  if node.fileType = .file ∧ node.content.length ≤ limit then some node.content else none

def readLocalProvider (path : Path) : StageAttempt Bytes := do
  let node ← (rootCall (.outside path [])).orThrow .providerUnavailable
  Attempt.ofExcept ((node.bind (Node.readLimited profileResponseMaxBytes)).elim
    (.error .providerUnavailable) .ok)

/-- A `BTreeMap` of paths, which compare by their components: the first spelling stays, and the
same place with another content is refused. -/
def insertDestination (path : Path) (content : Option Bytes) :
    List ProviderDestination → Except RuntimeBundleStageErrorKind (List ProviderDestination)
  | [] => .ok [⟨path, content⟩]
  | destination :: rest =>
    if relativeNames path = relativeNames destination.path then
      if content = destination.content then .ok (destination :: rest)
      else .error .invalidProviderPath
    else if relativeNames path < relativeNames destination.path then
      .ok (⟨path, content⟩ :: destination :: rest)
    else (insertDestination path content rest).map (destination :: ·)

/-- The content a provider is staged with; a remote one is downloaded by the Core. -/
def providerContent : ProviderKind → StageAttempt (Option Bytes)
  | .remote _ => return none
  | .localFile source => do
    let content ← readLocalProvider source
    return some content

def providerDestinations :
    List ProviderRecord → List ProviderDestination → StageAttempt (List ProviderDestination)
  | [], destinations => return destinations
  | provider :: rest, destinations => do
    let path ← Attempt.ofExcept (validateRelativePath provider.relativePath)
    let content ← providerContent provider.kind
    let destinations ← Attempt.ofExcept (insertDestination path content destinations)
    providerDestinations rest destinations

def stagingPlanOf (destinations : List ProviderDestination) : ProviderStagingPlan where
  destinations := destinations.map ProviderDestination.path
  localFiles := destinations.filterMap fun destination =>
    destination.content.map fun content => ⟨destination.path, content⟩

def providerStagingPlan (configuration : EffectiveConfiguration) :
    StageAttempt ProviderStagingPlan := do
  let destinations ← providerDestinations configuration.providers []
  return stagingPlanOf destinations

def providerManifestFiles (M : ManifestCodec) (providers : List StagedProviderFile) :
    List RuntimeManifestFile :=
  providers.map fun provider =>
    ⟨provider.path, M.sha256Hex provider.content, .ofNat provider.content.length⟩

/-- `open_binary`: a regular executable file of bounded size. -/
def Node.openBinary (node : Node) : Option Bytes :=
  if node.fileType = .file ∧ node.mode &&& 0o111 ≠ 0 ∧ node.content.length ≤ mihomoBinaryMaxBytes
  then some node.content else none

variable {D : Type} (X : Codec D) (M : ManifestCodec)

def verifyBinaryNode (node : Option Node) (expectedSha256 : String) :
    Except RuntimeBundleStageErrorKind Unit :=
  match node.bind Node.openBinary with
  | none => .error .invalidBinary
  | some content =>
    if M.sha256Hex content = expectedSha256 then .ok () else .error .binaryIdentityMismatch

def verifyBinary (path : Path) (expectedSha256 : String) : StageAttempt Unit := do
  let node ← (rootCall (.outside path [])).orThrow .invalidBinary
  Attempt.ofExcept (verifyBinaryNode M node expectedSha256)

/-- `read_existing_file`, compared with what is expected there. -/
def verifyExistingFile (root : String) (path : List String) (expected : Bytes) (limit : Nat) :
    StageAttempt Unit := do
  let node ← (rootCall (.node root path)).orThrow .existingGenerationMismatch
  Attempt.require (node.bind (Node.readLimited limit) = some expected) .existingGenerationMismatch

def verifyExisting (root : String) (manifest configuration : Bytes) (binarySha256 : String)
    (providers : ProviderStagingPlan) : StageAttempt Unit := do
  let metadata ← (rootCall (.symlinkMetadata root)).orThrow .io
  let metadata ← Attempt.ofExcept (metadata.elim (.error .io) .ok)
  Attempt.require (metadata.fileType = .directory) .existingGenerationMismatch
  verifyExistingFile root ["manifest.json"] manifest manifestMaxBytes
  verifyExistingFile root ["config.yaml"] configuration effectiveConfigurationMaxBytes
  let binary ← (rootCall (.node root [runtimeCoreExecutableName])).orThrow
    .existingGenerationMismatch
  Attempt.require ((verifyBinaryNode M binary binarySha256).isOk) .existingGenerationMismatch
  forEach (fun provider => verifyExistingFile root (relativeNames provider.path)
    provider.content profileResponseMaxBytes) providers.localFiles

/-- `create_private_directory` on an entry of the root. -/
def createPrivateEntry (name : String) : StageAttempt Unit := do
  (rootCall (.createDirAll name)).orThrow .io
  let metadata ← (rootCall (.symlinkMetadata name)).orThrow .io
  let metadata ← Attempt.ofExcept (metadata.elim (.error .io) .ok)
  Attempt.require (metadata.fileType = .directory) .invalidProviderPath
  (rootCall (.setPermissions name 0o700)).orThrow .io

/-- `create_private_directory` below an entry of the root, or on the entry itself. -/
def createPrivateDirectory (name : String) (path : List String) : StageAttempt Unit :=
  if path = [] then createPrivateEntry name
  else do
    (rootCall (.within name (.createDirAll path))).orThrow .io
    let node ← (rootCall (.node name path)).orThrow .io
    let node ← Attempt.ofExcept (node.elim (.error .io) .ok)
    Attempt.require (node.fileType = .directory) .invalidProviderPath
    (rootCall (.within name (.setPermissions path 0o700))).orThrow .io

def writeNew (name : String) (path : List String) (content : Bytes) (mode : Nat) :
    StageAttempt Unit :=
  (rootCall (.within name (.createNew path content mode))).orThrow .io

/-- The copy is on disk before its digest is known. -/
def copyVerifiedBinary (source : Path) (name : String) (expectedSha256 : String) :
    StageAttempt Unit := do
  let node ← (rootCall (.outside source [])).orThrow .invalidBinary
  let content ← Attempt.ofExcept ((node.bind Node.openBinary).elim (.error .invalidBinary) .ok)
  writeNew name [runtimeCoreExecutableName] content 0o500
  Attempt.require (M.sha256Hex content = expectedSha256) .binaryIdentityMismatch

def stagePending (stager : RuntimeBundleStager) (pending : String)
    (configuration manifest : Bytes) (providers : ProviderStagingPlan) : StageAttempt Unit := do
  copyVerifiedBinary M stager.binary pending stager.binarySha256
  writeNew pending ["config.yaml"] configuration 0o400
  forEach (fun path => createPrivateDirectory pending (relativeNames path).dropLast)
    providers.destinations
  forEach (fun provider =>
    writeNew pending (relativeNames provider.path) provider.content 0o400) providers.localFiles
  writeNew pending ["manifest.json"] manifest 0o400
  (rootCall (.within pending .syncDirectories)).orThrow .io

def removePending (pending : String) : StageAttempt Unit := do
  Attempt.require (".generation-".toList <+: pending.toList ∧ ".pending".toList <:+ pending.toList)
    .invalidPolicy
  (rootCall (.removeDirAll pending)).orThrow .io

def RuntimeBundleStager.bundle (stager : RuntimeBundleStager) (generation : RuntimeGeneration)
    (manifestSha256 : String) : RuntimeBundle where
  generation
  generationRoot := stager.root ++ "/" ++ generationName generation
  manifestSha256
  compilerPolicySha256 := stager.compilerPolicySha256
  mihomoBinarySha256 := stager.binarySha256

/-- The part of `stage` for a generation that is not there yet. -/
def stageNew (stager : RuntimeBundleStager) (generation : RuntimeGeneration)
    (configuration manifest : Bytes) (providers : ProviderStagingPlan) : StageAttempt Unit := do
  let uuid ← (rootCall .newUuid).orThrow .io
  let pending := pendingName X generation uuid
  createPrivateEntry pending
  match ← (stagePending M stager pending configuration manifest providers).result with
  | .error error =>
    let _ ← (removePending pending).result (δ := RuntimeBundleStageErrorKind)
    throw error
  | .ok _ =>
    match ← (rootCall (.rename pending (generationName generation))).result with
    | .ok _ => (rootCall .syncRoot).orThrow .io
    | .error error =>
      if error.kind = .alreadyExists ∨ error.kind = .directoryNotEmpty then
        removePending pending
        verifyExisting M (generationName generation) manifest configuration stager.binarySha256
          providers
      else
        let _ ← (removePending pending).result (δ := RuntimeBundleStageErrorKind)
        throw .io

def manifestOf (stager : RuntimeBundleStager) (generation : RuntimeGeneration)
    (configuration : EffectiveConfiguration) (providers : ProviderStagingPlan) : RuntimeManifest :=
  (RuntimeManifest.new generation stager.compilerPolicySha256 stager.binarySha256
    (M.sha256Hex configuration.yaml)).withProviderFiles
    (providerManifestFiles M providers.localFiles)

/-- The checks before anything is written: the provider plan, and the manifest as it will be on
disk. -/
def planStaging (stager : RuntimeBundleStager) (generation : RuntimeGeneration)
    (configuration : EffectiveConfiguration) : StageAttempt (ProviderStagingPlan × Bytes) := do
  Attempt.require (configuration.compilerPolicySha256 = stager.compilerPolicySha256)
    .compilerPolicyMismatch
  Attempt.require (configuration.yaml.length ≤ effectiveConfigurationMaxBytes)
    .configurationTooLarge
  let providers ← providerStagingPlan configuration
  let manifest := M.encodeManifest (manifestOf M stager generation configuration providers)
  Attempt.require (manifest.length ≤ manifestMaxBytes) .invalidPolicy
  return (providers, manifest)

def stagePlanned (stager : RuntimeBundleStager) (generation : RuntimeGeneration)
    (configuration manifest : Bytes) (providers : ProviderStagingPlan) : StageAttempt Unit := do
  -- `exists` takes an error for an answer of no
  let existing ← (rootCall (.symlinkMetadata (generationName generation))).result
  if existing.toOption.join.isSome then
    verifyBinary M stager.binary stager.binarySha256
    verifyExisting M (generationName generation) manifest configuration stager.binarySha256
      providers
  else stageNew X M stager generation configuration manifest providers

def stage (stager : RuntimeBundleStager) (generation : RuntimeGeneration)
    (configuration : EffectiveConfiguration) : StageAttempt RuntimeBundle := do
  let (providers, manifest) ← planStaging M stager generation configuration
  stagePlanned X M stager generation configuration.yaml manifest providers
  return stager.bundle generation (M.sha256Hex manifest)

/-! A stager, and an empty root to stage into. -/

def zeroDigest : String := .ofList (List.replicate 64 '0')

def sampleStager : RuntimeBundleStager where
  root := "/generations"
  binary := "/mihomo"
  binarySha256 := zeroDigest
  compilerPolicySha256 := zeroDigest
  isAbsolute_root := by decide
  isAbsolute_binary := by decide
  isLower_binary := by decide
  isLower_policy := by decide

def binaryOnly (directory : Path) (path : List String) : Option Node :=
  if directory = "/mihomo" ∧ path = [] then some ⟨.file, 501, 0o755, 1, [7]⟩ else none

def emptyRoot : GenerationRoot :=
  ⟨⟨.directory, 501, 0o700, 0, 0⟩, ∅, 1, fun n => .ofNat 128 n⟩

def sampleConfiguration (yaml : Bytes) : EffectiveConfiguration :=
  ⟨yaml, zeroDigest, "v1", []⟩

end Ratash

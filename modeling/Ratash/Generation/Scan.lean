import Ratash.Generation.Root

namespace Ratash

open Interaction Attempt

def runtimeGenerationScanLimit : Nat := 4096

inductive RuntimeGenerationPruneErrorKind where
  | rootUnavailable
  | unsafeEntry
  | io
deriving DecidableEq

structure RuntimeGenerationEntry where
  generation : RuntimeGeneration
  name : String
  device : Nat
  inode : Nat
  ownerUid : Nat
deriving DecidableEq

structure RuntimeGenerationScan where
  entries : List RuntimeGenerationEntry
  quarantines : List RuntimeGenerationEntry
  scannedEntries : Nat
deriving DecidableEq

abbrev PruneAttempt := RootAttempt RuntimeGenerationPruneErrorKind

def strictGenerationMetadata (metadata : Metadata) (ownerUid : Nat) : Bool :=
  metadata.fileType = .directory && metadata.uid = ownerUid && metadata.mode &&& 0o777 = 0o700

/-- A directory of the owner that nobody else can write to. -/
def reservedMetadata (metadata : Metadata) (ownerUid : Nat) : Bool :=
  metadata.fileType = .directory && metadata.uid = ownerUid && metadata.mode &&& 0o022 = 0

variable {D : Type} (X : Codec D)

def scanEntry (reservedDirectories : List String) (ownerUid : Nat) (name : String)
    (metadata : Metadata) (scan : RuntimeGenerationScan) :
    Except RuntimeGenerationPruneErrorKind RuntimeGenerationScan :=
  let entry generation : RuntimeGenerationEntry :=
    ⟨generation, name, metadata.device, metadata.inode, ownerUid⟩
  let scannedEntries := scan.scannedEntries + 1
  if name ∈ reservedDirectories then
    if reservedMetadata metadata ownerUid then .ok { scan with scannedEntries }
    else .error .unsafeEntry
  else
    match parseRuntimeGenerationName name, parseRuntimeQuarantineName X name with
    | some generation, _ =>
      if strictGenerationMetadata metadata ownerUid then
        .ok { scan with scannedEntries, entries := scan.entries ++ [entry generation] }
      else .error .unsafeEntry
    | none, some generation =>
      if strictGenerationMetadata metadata ownerUid then
        .ok { scan with scannedEntries, quarantines := scan.quarantines ++ [entry generation] }
      else .error .unsafeEntry
    | none, none => .error .unsafeEntry

def scanEntries (reservedDirectories : List String) (ownerUid : Nat) :
    List String → RuntimeGenerationScan → PruneAttempt RuntimeGenerationScan
  | [], scan => return scan
  | name :: rest, scan => do
    require (scan.scannedEntries < runtimeGenerationScanLimit) .unsafeEntry
    let metadata ← (rootCall (.symlinkMetadata name)).orThrow .unsafeEntry
    let metadata ← Attempt.ofExcept (metadata.elim (.error .unsafeEntry) .ok)
    let scan ← Attempt.ofExcept (scanEntry X reservedDirectories ownerUid name metadata scan)
    scanEntries reservedDirectories ownerUid rest scan

def sortByGeneration (entries : List RuntimeGenerationEntry) : List RuntimeGenerationEntry :=
  entries.insertionSort fun left right => left.generation ≤ right.generation

def scanRuntimeGenerations (reservedDirectories : List String) :
    PruneAttempt RuntimeGenerationScan := do
  let rootMetadata ← (rootCall .rootMetadata).orThrow .rootUnavailable
  require (rootMetadata.fileType = .directory ∧ rootMetadata.mode &&& 0o022 = 0)
    .rootUnavailable
  let names ← (rootCall .readDir).orThrow .rootUnavailable
  let scan ← scanEntries X reservedDirectories rootMetadata.uid names ⟨[], [], 0⟩
  return { scan with
    entries := sortByGeneration scan.entries
    quarantines := sortByGeneration scan.quarantines }

def inspectRuntimeGenerationsWithReserved (reservedDirectories : List String) :
    PruneAttempt (List RuntimeGeneration) := do
  let scan ← scanRuntimeGenerations X reservedDirectories
  return scan.entries.map RuntimeGenerationEntry.generation

def verifyGenerationIdentity (entry : RuntimeGenerationEntry) : PruneAttempt Unit := do
  let metadata ← (rootCall (.symlinkMetadata entry.name)).orThrow .unsafeEntry
  require (metadata.any fun metadata =>
    strictGenerationMetadata metadata entry.ownerUid && metadata.device = entry.device &&
      metadata.inode = entry.inode) .unsafeEntry

def removeQuarantine (quarantine : RuntimeGenerationEntry) : PruneAttempt Unit :=
  (rootCall (.removeDirAll quarantine.name)).orThrow .io

/-- A stale generation is first moved out of the way, then removed. -/
def removeStale (entry : RuntimeGenerationEntry) : PruneAttempt Unit := do
  let uuid ← (rootCall .newUuid).orThrow .io
  let quarantine := quarantineName X entry.generation uuid
  let existing ← (rootCall (.symlinkMetadata quarantine)).orThrow .unsafeEntry
  require (existing = none) .unsafeEntry
  (rootCall (.rename entry.name quarantine)).orThrow .io
  verifyGenerationIdentity { entry with name := quarantine }
  (rootCall (.removeDirAll quarantine)).orThrow .io

def pruneScanned (retention : RuntimeGenerationRetention)
    (scan : RuntimeGenerationScan) : PruneAttempt RuntimeGenerationPruneResult := do
  let stale := scan.entries.filter (·.generation ∉ retention.retained)
  forEach verifyGenerationIdentity scan.quarantines
  forEach verifyGenerationIdentity stale
  forEach removeQuarantine scan.quarantines
  forEach (removeStale X) stale
  let removedGenerations := scan.quarantines.length + stale.length
  whenever (0 < removedGenerations) ((rootCall .syncRoot).orThrow .io)
  return { scannedEntries := scan.scannedEntries, removedGenerations }

def pruneRuntimeGenerationsWithReserved (retention : RuntimeGenerationRetention)
    (reservedDirectories : List String) : PruneAttempt RuntimeGenerationPruneResult := do
  let scan ← scanRuntimeGenerations X reservedDirectories
  pruneScanned X retention scan

def pruneRuntimeGenerations (retention : RuntimeGenerationRetention) :
    PruneAttempt RuntimeGenerationPruneResult :=
  pruneRuntimeGenerationsWithReserved X retention []

end Ratash

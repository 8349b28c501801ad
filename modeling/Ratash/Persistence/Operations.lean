import Ratash.Persistence.Store

namespace Ratash

open Interaction Attempt

variable {D : Type} [DecidableEq D] (X : Codec D)

def putObject (content : Bytes) : StoreAttempt D (ObjectId D) := do
  let id := ObjectId.forContent X content
  fileCall (.putObject id content)
  return id

def readObjectLimited (id : ObjectId D) (limit : Option Nat) : StoreAttempt D Bytes := do
  let content ← fileCall (.readObject id)
  require (∀ n ∈ limit, content.length ≤ n)
    (invalidData "stored object exceeds its size limit")
  require (ObjectId.forContent X content = id)
    (invalidData "stored object does not match its content ID")
  return content

/-- `read_object`: no stored file is longer than `usize::MAX`. -/
def readObject (id : ObjectId D) : StoreAttempt D Bytes :=
  readObjectLimited X id none

def verifyBundleObjects (bundle : TransactionBundle D) : StoreAttempt D Unit := do
  let _ ← readObject X bundle.supervisorState
  let _ ← readObject X bundle.profileSnapshot
  let _ ← readObject X bundle.localRuleSet
  let _ ← readObject X bundle.effectiveConfiguration
  return ()

def readManifest : StoreAttempt D (Option (CommittedManifest D)) :=
  fileCall .readManifest

def readPrepared : StoreAttempt D (Option (PreparedTransaction D)) :=
  fileCall .readPrepared

def loadTransaction (id : TransactionId D) : StoreAttempt D (TransactionBundle D) := do
  let content ← fileCall (.readTransaction id)
  require (TransactionId.forContent X content = id)
    (invalidData "stored content does not match its ID")
  Attempt.ofExcept (TransactionBundle.deserialize X content)

/-- `prepare` up to the write of the journal, which is its last step. -/
def stageJournal (bundle : TransactionBundle D) : StoreAttempt D (PreparedTransaction D) := do
  let journal ← readPrepared
  require (journal = none) ⟨.alreadyExists, "a prepared transaction requires recovery"⟩
  verifyBundleObjects X bundle
  let candidate := bundle.id X
  fileCall (.putTransaction candidate (bundle.serialize X))
  let manifest ← readManifest
  return { candidate, previous := manifest.map CommittedManifest.current }

def prepare (bundle : TransactionBundle D) : StoreAttempt D (PreparedTransaction D) := do
  let prepared ← stageJournal X bundle
  fileCall (.replacePrepared prepared)
  return prepared

def recover : StoreAttempt D (RecoveryState D) := do
  let committed ← readManifest
  let prepared ← readPrepared
  return { committed, prepared }

def journalMismatch : IoError :=
  invalidData "prepared transaction does not match the persisted journal"

def commitPrepared (prepared : PreparedTransaction D) : StoreAttempt D Unit := do
  let journal ← readPrepared
  require (journal = some prepared) journalMismatch
  let manifest ← readManifest
  require (manifest.map CommittedManifest.current = prepared.previous)
    (invalidData "prepared transaction is stale relative to the committed manifest")
  let bundle ← loadTransaction X prepared.candidate
  verifyBundleObjects X bundle
  fileCall (.replaceManifest { current := prepared.candidate, previous := prepared.previous })

def clearPrepared (prepared : PreparedTransaction D) : StoreAttempt D Unit := do
  let journal ← readPrepared
  require (journal = some prepared) journalMismatch
  fileCall .removePrepared

end Ratash

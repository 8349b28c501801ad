import Mathlib.Data.List.Dedup
import Ratash.Persistence.Specs

/-!
`prune_unreachable` keeps what the manifest and the journal refer to, directly or through the
stored Supervisor state, and removes a bounded number of the other files.
-/

namespace Ratash

open Interaction Attempt

def persistencePruneEntryLimit : Nat := 4096
def persistencePruneRemovalLimit : Nat := 256
def persistencePruneReferenceLimit : Nat := 1024
def transactionBundleMaxBytes : Nat := 4096
def supervisorStateMaxBytes : Nat := 16 * 1024 * 1024

structure PersistencePruneResult where
  scannedEntries : Nat := 0
  removedObjects : Nat := 0
  removedTransactions : Nat := 0
  hasMore : Bool := false
deriving DecidableEq

inductive PruneCandidate (D : Type) where
  | object (id : ObjectId D)
  | transaction (id : TransactionId D)
deriving DecidableEq

mutual

/-- The strings of a JSON value, in the order in which the stack of pending values gives them. -/
def Json.strings : Json → List String
  | .string s => [s]
  | .array values => Json.stringsOfValues values
  | .object fields => Json.stringsOfFields fields
  | _ => []

def Json.stringsOfValues : List Json → List String
  | [] => []
  | value :: rest => Json.stringsOfValues rest ++ value.strings

def Json.stringsOfFields : List (String × Json) → List String
  | [] => []
  | (_, value) :: rest => Json.stringsOfFields rest ++ value.strings

end

def isAsciiWhitespace (byte : UInt8) : Bool :=
  byte = 0x20 || byte = 0x09 || byte = 0x0a || byte = 0x0c || byte = 0x0d

variable {D : Type} [DecidableEq D] (X : Codec D) {fails : Prop}

def retainReferences : List String → List D → IoResult (List D)
  | [], retained => .ok retained
  | text :: rest, retained =>
    match X.parseDigest text with
    | none => retainReferences rest retained
    | some digest =>
      let retained := retained.insert digest
      if retained.length > persistencePruneReferenceLimit then
        .error (invalidData "stored state exceeds the persistence reference limit")
      else
        retainReferences rest retained

def collectJsonObjectReferences (content : Bytes) (retained : List D) : IoResult (List D) :=
  match content.find? (fun byte => !isAsciiWhitespace byte) with
  | some 0x7b | some 0x5b =>
    match X.parseJson content with
    | none => .error (invalidData "stored content is not JSON")
    | some value => retainReferences X value.strings retained
  | _ => .ok retained

def retainedTransactions (state : RecoveryState D) : List (TransactionId D) :=
  let committed := match state.committed with
    | none => []
    | some committed => committed.previous.toList ++ [committed.current]
  let prepared := match state.prepared with
    | none => []
    | some prepared => prepared.previous.toList ++ [prepared.candidate]
  (prepared ++ committed).dedup

def retainBundleObjects (retained : List D) (bundle : TransactionBundle D) : List D :=
  (((retained.insert bundle.supervisorState.digest).insert bundle.profileSnapshot.digest).insert
    bundle.localRuleSet.digest).insert bundle.effectiveConfiguration.digest

def readRegularHashedFileLimited (read : StoreAttempt D Bytes) (expected : D) (limit : Nat) :
    StoreAttempt D Bytes := do
  let content ← read
  require (content.length ≤ limit)
    (invalidData "referenced stored content exceeds its size limit")
  require (X.sha256Hex content = expected)
    (invalidData "stored content does not match its ID")
  return content

def retainTransactionContent : List (TransactionId D) → List D → StoreAttempt D (List D)
  | [], retained => return retained
  | transaction :: rest, retained => do
    let content ← readRegularHashedFileLimited X (fileCall (.readTransaction transaction))
      transaction.digest transactionBundleMaxBytes
    let bundle ← Attempt.ofExcept (TransactionBundle.deserialize X content)
    let state ← readRegularHashedFileLimited X (fileCall (.readObject bundle.supervisorState))
      bundle.supervisorState.digest supervisorStateMaxBytes
    let retained ← Attempt.ofExcept
      (collectJsonObjectReferences X state (retainBundleObjects retained bundle))
    retainTransactionContent rest retained

def retainedContent : StoreAttempt D (List (TransactionId D) × List D) := do
  let state ← recover
  let transactions := retainedTransactions state
  let objects ← retainTransactionContent X transactions []
  return (transactions, objects)

structure PruneScan (D : Type) where
  result : PersistencePruneResult
  candidates : List (PruneCandidate D)

def collectPruneCandidates (retained : D → Bool) (candidate : D → PruneCandidate D) :
    List (EntryName D) → PruneScan D → PruneScan D
  | [], scan => scan
  | entry :: rest, ⟨result, candidates⟩ =>
    if result.scannedEntries = persistencePruneEntryLimit then
      ⟨{ result with hasMore := true }, candidates⟩
    else
      let result := { result with scannedEntries := result.scannedEntries + 1 }
      match entry with
      | .other _ => collectPruneCandidates retained candidate rest ⟨result, candidates⟩
      | .digest digest =>
        if retained digest then
          collectPruneCandidates retained candidate rest ⟨result, candidates⟩
        else if candidates.length = persistencePruneRemovalLimit then
          collectPruneCandidates retained candidate rest
            ⟨{ result with hasMore := true }, candidates⟩
        else
          collectPruneCandidates retained candidate rest
            ⟨result, candidates ++ [candidate digest]⟩

def removeCandidates : List (PruneCandidate D) → PersistencePruneResult →
    StoreAttempt D PersistencePruneResult
  | [], result => return result
  | .object id :: rest, result => do
    let removed ← fileCall (.removeObject id)
    removeCandidates rest
      { result with removedObjects := result.removedObjects + removed.toNat }
  | .transaction id :: rest, result => do
    let removed ← fileCall (.removeTransaction id)
    removeCandidates rest
      { result with removedTransactions := result.removedTransactions + removed.toNat }

def pruneUnreachable : StoreAttempt D PersistencePruneResult := do
  let (transactions, objects) ← retainedContent X
  let objectEntries ← fileCall .listObjects
  let scan := collectPruneCandidates (· ∈ objects) (fun d => .object ⟨d⟩) objectEntries ⟨{}, []⟩
  let transactionEntries ← fileCall .listTransactions
  let scan := collectPruneCandidates (⟨·⟩ ∈ transactions) (fun d => .transaction ⟨d⟩)
    transactionEntries scan
  let result ← removeCandidates scan.candidates scan.result
  whenever (0 < result.removedObjects) (fileCall .syncObjects)
  whenever (0 < result.removedTransactions) (fileCall .syncTransactions)
  return result

theorem mem_retainedTransactions {state : RecoveryState D} {id : TransactionId D} :
    id ∈ retainedTransactions state ↔ state.committed.map CommittedManifest.current = some id ∨
      state.committed.bind CommittedManifest.previous = some id ∨
      state.prepared.map PreparedTransaction.candidate = some id ∨
      state.prepared.bind PreparedTransaction.previous = some id := by
  obtain ⟨committed, prepared⟩ := state
  cases committed <;> cases prepared <;>
    simp [retainedTransactions, eq_comm (a := id), or_comm, or_left_comm]

structure Pruning (s s' : Store D) : Prop where
  manifest : s'.manifest = s.manifest
  prepared : s'.prepared = s.prepared
  retained : ∀ id ∈ retainedTransactions ⟨s.manifest, s.prepared⟩,
    s'.transactions.lookup (.digest id.digest) = s.transactions.lookup (.digest id.digest)

theorem Pruning.refl (s : Store D) : Pruning s s :=
  ⟨rfl, rfl, fun _ _ => rfl⟩

theorem Pruning.removeObject {s s' : Store D} (h : Pruning s s') (id : ObjectId D) :
    Pruning s (performFile s' (.removeObject id)).2 :=
  ⟨h.manifest, h.prepared, h.retained⟩

theorem Pruning.removeTransaction {s s' : Store D} (h : Pruning s s') {id : TransactionId D}
    (hid : id ∉ retainedTransactions ⟨s.manifest, s.prepared⟩) :
    Pruning s (performFile s' (.removeTransaction id)).2 := by
  refine ⟨h.manifest, h.prepared, ?_⟩
  intro kept hkept
  rw [← h.retained kept hkept]
  apply AList.lookup_erase_ne
  intro hname
  cases kept
  cases hname
  exact hid hkept

theorem readRegularHashedFileLimited_spec {read : StoreAttempt D Bytes} {s : Store D}
    (h : read.run.Ensures (fileSystem fails) (· = s) Q s) (expected : D) (limit : Nat) :
    (readRegularHashedFileLimited X read expected limit).run.Ensures (fileSystem fails) (· = s)
      (fun _ _ => True) s := by
  apply ensures_seq h
  · intro content s' hs _
    refine ensures_require_seq hs ?_ fun _ => trivial
    intro _
    refine ensures_require_seq hs ?_ fun _ => trivial
    exact fun _ => ⟨hs, trivial⟩
  · simp

theorem retainTransactionContent_spec (s : Store D) (ids : List (TransactionId D))
    (retained : List D) :
    (retainTransactionContent X ids retained).run.Ensures (fileSystem fails) (· = s)
      (fun _ _ => True) s := by
  induction ids generalizing retained with
  | nil => exact ⟨rfl, trivial⟩
  | cons id rest ih =>
    apply ensures_seq (readRegularHashedFileLimited_spec X
      (ensures_call_frozen rfl) _ _) _ (by simp)
    intro content _ hs _
    subst hs
    refine Attempt.ensures_ofExcept_seq rfl ?_ (by simp)
    intro bundle _
    apply ensures_seq (readRegularHashedFileLimited_spec X
      (ensures_call_frozen rfl) _ _) _ (by simp)
    intro state _ hs _
    subst hs
    exact Attempt.ensures_ofExcept_seq rfl (fun retained _ => ih retained) (by simp)

theorem retainedContent_spec (s : Store D) :
    (retainedContent X).run.Ensures (fileSystem fails) (· = s) (fun r _ => ∀ kept, r = .ok kept →
        kept.1 = retainedTransactions ⟨s.manifest, s.prepared⟩) s := by
  apply ensures_seq (recover_spec s) _ (by simp)
  intro state _ hs hstate
  subst hs
  obtain rfl := hstate state rfl
  apply ensures_seq (retainTransactionContent_spec X _ _ _) _ (by simp)
  intro objects _ hs _
  subst hs
  simp

omit [DecidableEq D] in
theorem collectPruneCandidates_mem {retained : D → Bool} {candidate : D → PruneCandidate D}
    {entries : List (EntryName D)} {scan : PruneScan D} {c : PruneCandidate D}
    (h : c ∈ (collectPruneCandidates retained candidate entries scan).candidates) :
    c ∈ scan.candidates ∨ ∃ d, retained d = false ∧ c = candidate d := by
  fun_induction collectPruneCandidates retained candidate entries scan with
  | case1 scan => exact .inl h
  | case2 => exact .inl h
  | case3 _ _ _ _ _ _ ih => exact ih h
  | case4 _ _ _ _ _ _ _ ih => exact ih h
  | case5 _ _ _ _ _ _ _ _ ih => exact ih h
  | case6 _ _ _ _ _ d hd _ ih =>
    obtain hmem | hnew := ih h
    · obtain hold | hlast := List.mem_append.1 hmem
      · exact .inl hold
      · exact .inr ⟨d, by simpa using hd, List.mem_singleton.1 hlast⟩
    · exact .inr hnew

theorem removeCandidates_spec {s : Store D} {candidates : List (PruneCandidate D)}
    (hsafe : ∀ id, .transaction id ∈ candidates →
      id ∉ retainedTransactions ⟨s.manifest, s.prepared⟩) (result : PersistencePruneResult)
    {s' : Store D} (h : Pruning s s') :
    (removeCandidates candidates result).run.Ensures (fileSystem fails) (Pruning s)
      (fun _ _ => True) s' := by
  induction candidates generalizing result s' with
  | nil => exact ⟨h, trivial⟩
  | cons candidate rest ih =>
    have hrest : ∀ id, .transaction id ∈ rest →
        id ∉ retainedTransactions ⟨s.manifest, s.prepared⟩ :=
      fun id hid => hsafe id (List.mem_cons_of_mem _ hid)
    cases candidate with
    | object id =>
      have h' := h.removeObject id
      exact ensures_call_seq ⟨h, h'⟩ (fun _ _ => ih hrest _ h') (by simp)
    | transaction id =>
      have h' := h.removeTransaction (hsafe id List.mem_cons_self)
      exact ensures_call_seq ⟨h, h'⟩ (fun _ _ => ih hrest _ h') (by simp)

theorem pruneUnreachable_spec (s : Store D) :
    (pruneUnreachable X).run.Ensures (fileSystem fails) (Pruning s) (fun _ _ => True) s := by
  have hs := Pruning.refl s
  apply ensures_seq ((retainedContent_spec X s).frozen hs) _ (by simp)
  intro kept _ _ hkept
  obtain ⟨rfl, hkept⟩ := hkept
  obtain ⟨transactions, objects⟩ := kept
  obtain rfl : transactions = _ := hkept _ rfl
  apply ensures_read_seq rfl hs _ (by simp)
  intro objectEntries _
  apply ensures_read_seq rfl hs _ (by simp)
  intro transactionEntries _
  have hsafe : ∀ id, .transaction id ∈ (collectPruneCandidates
      (fun d => decide (⟨d⟩ ∈ retainedTransactions ⟨s.manifest, s.prepared⟩))
      (fun d => PruneCandidate.transaction ⟨d⟩) transactionEntries
      (collectPruneCandidates (fun d => decide (d ∈ objects)) (fun d => .object ⟨d⟩)
        objectEntries ⟨{}, []⟩)).candidates →
      id ∉ retainedTransactions ⟨s.manifest, s.prepared⟩ := by
    intro id hid
    obtain hobject | ⟨d, hd, hid⟩ := collectPruneCandidates_mem hid
    · obtain hnone | ⟨d, _, hobject⟩ := collectPruneCandidates_mem hobject
      · cases hnone
      · cases hobject
    · cases hid
      simpa using hd
  apply ensures_seq (removeCandidates_spec hsafe _ hs) _ (by simp)
  intro result s' h' _
  have hsync {c : StoreCall D} (hc : ∀ s : Store D, (performFile s c).2 = s) {s' : Store D}
      (h' : Pruning s s') :
      (fileCall c).run.Ensures (fileSystem fails) (Pruning s) (fun _ _ => True) s' :=
    ensures_call_failing ⟨h', (hc s').symm ▸ h'⟩ (by simp) (by simp)
  apply ensures_seq (ensures_whenever
    (fun _ => hsync (fun _ => rfl) h') (fun _ => ⟨h', trivial⟩)) _ (by simp)
  intro _ s'' h'' _
  apply ensures_seq (ensures_whenever
    (fun _ => hsync (fun _ => rfl) h'') (fun _ => ⟨h'', trivial⟩)) _ (by simp)
  intro _ _ hend _
  exact ⟨hend, trivial⟩

end Ratash

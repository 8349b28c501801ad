import Ratash.Transaction.Guarded

namespace Ratash

open Interaction

variable {D ρ : Type} [DecidableEq D] {X : Codec D} {fails : Prop} {prunes : Prunes ρ}

theorem lockCoordinator_spec (hu : Safe K P ((s, v), seen)) :
    (lockCoordinator (D := D)).run.Ensures (watchedOutcome fails prunes P) (Safe K P)
      (fun r u => u = ((s, v), seen) ∧ ∀ e, r = .error e → e = .simple .lockPoisoned)
      ((s, v), seen) := by
  apply ensures_port_seq hu
  intro guard v' hv'
  obtain rfl := hv'
  refine Attempt.ensures_okOr hu (fun _ _ => ⟨rfl, by simp⟩) ⟨rfl, ?_⟩
  intro e he
  cases he
  rfl

theorem locked_ends (candidate : ConfigTransactionCandidate D)
    (law : PruneLaw prunes candidate.runtime.generation Gone Present)
    (s₀ : Store D) (v : PortWorld ρ) (hv : v.applied = false) (mode : FailureRecoveryMode) :
    Ends X fails prunes s₀ candidate.transaction
      (Undone X candidate.runtime.generation Gone Present s₀ v.generations)
      (do lockCoordinator; executeGuarded X candidate mode)
      (Succeeded X s₀ candidate.transaction) ((s₀, v), False) := by
  have hu₀ : Midway X s₀ candidate.transaction ((s₀, v), False) :=
    ⟨.refl _ _, fun h => h rfl⟩
  apply Attempt.ensures_seq (lockCoordinator_spec hu₀)
  · intro _ u _ hu
    obtain ⟨rfl, _⟩ := hu
    exact executeGuarded_ends law s₀ v hv mode
  · intro e u _ hu
    obtain ⟨rfl, _⟩ := hu
    exact ⟨fun _ => ⟨rfl, fun h => h, fun h => absurd (hv.symm.trans h) (by simp), False.elim,
      fun _ h => h⟩, fun _ => rfl⟩

theorem PruneLaw.trivial (prunes : Prunes ρ) (n : RuntimeGeneration) :
    PruneLaw prunes n (fun _ => True) (fun _ => True) :=
  ⟨fun _ _ => True.intro, fun _ h => h, fun _ _ h => h⟩

/-- Whatever the store and the ports reply, a transaction that starts without a journal either has
committed its candidate on top of the old transaction, or reports a recovery still open, or has
left the manifest alone, no journal behind, and the Core last confirmed on the old transaction. -/
theorem execute_atomic (X : Codec D) (prunes : Prunes ρ) (candidate : ConfigTransactionCandidate D)
    (s₀ : Store D) (hjournal : s₀.prepared = none) (v₀ : PortWorld ρ) (hv : v₀.applied = false)
    {r : Except ConfigTransactionError ConfigTransactionSuccess} {s : Store D} {v : PortWorld ρ}
    (hrun : Finishes (anyOutcome True prunes) (execute X candidate).run (s₀, v₀) r (s, v)) :
    (∀ success, r = .ok success →
      s.manifest = some ⟨candidate.transaction.id X, s₀.manifest.map CommittedManifest.current⟩) ∧
    (∀ e, r = .error e → e.recovery.Settled → s.manifest = s₀.manifest ∧ s.prepared = none ∧
      (v.applied = true → ViewOf X s₀ (s₀.manifest.map CommittedManifest.current) v.runtime)) := by
  have hwatched : (execute X candidate).run.Ensures (anyOutcome True prunes)
      (fun _ => True) (fun r u =>
        (∀ success, r = .ok success →
          u.1.manifest = some ⟨candidate.transaction.id X, s₀.committedId⟩) ∧
        (∀ e, r = .error e → e.recovery.Settled → u.1.manifest = s₀.manifest ∧
          u.1.prepared = none ∧
          (u.2.applied = true → ViewOf X s₀ s₀.committedId u.2.runtime))) (s₀, v₀) := by
    apply Prog.Ensures.of_watched (P := fun u => JournalTouched s₀ u.1)
    apply (locked_ends candidate (.trivial prunes _) s₀ v₀ hv .convergeCommitted).mono
      (fun _ _ => True.intro)
    intro r u _ hr
    cases r with
    | ok success => exact ⟨fun _ _ => hr.1, fun _ he => (by cases he)⟩
    | error e =>
      refine ⟨fun _ he => (by cases he), ?_⟩
      intro e' he hsettled
      cases he
      have hundone := hr.1 hsettled
      exact ⟨hundone.manifest, hundone.journal hjournal, hundone.runtime⟩
  exact hwatched.finishes hrun

/-- How generation directories are pruned when every call gets one outcome. -/
abbrev Pruner (ρ : Type) :=
  ρ → RuntimeGenerationRetention → Except Unit RuntimeGenerationPruneResult × ρ

/-- Ports that do what they are asked: the Core that is applied runs and is healthy. -/
def obedientPorts (prune : Pruner ρ) (revisions : CandidateRevisions) :
    Handler (portCalls D) (PortWorld ρ × Option ManagedCoreHandle)
  | w, .lockCoordinator => (.ok (), w)
  | w, .lockLifecycle => (.ok (), w)
  | (v, core), .shutdownIsRequested => (v.shutdown, v, core)
  | (v, _), .applyCandidate bundle =>
    let core := ⟨1, "core", ⟨"/core.sock", "secret"⟩, 1, bundle.generation⟩
    (.ok ⟨.spawned, core⟩, { v with applied := true, runtime := .unknown }, some core)
  | (v, core), .status => (.ok ⟨core, .running, .inactive, .available⟩, v, core)
  | (v, _), .stop => (.ok (), { v with runtime := .stopped }, none)
  | (v, core), .confirmReady ready =>
    (.ok (), { v with runtime := .healthy ready.runtimeGeneration }, core)
  | w, .validate _ _ => (.ok (), w)
  | w, .currentRevisions => (revisions, w)
  | w, .resolve transaction =>
    (.ok ⟨transaction.runtimeGeneration, "/", "manifest", "policy", "binary"⟩, w)
  | (v, core), .pruneGenerations retention =>
    let (pruned, generations) := prune v.generations retention
    (pruned, { v with generations }, core)

theorem anyOutcome_of_obedient {prune : Pruner ρ}
    (hprunes : ∀ g retention, prunes g retention (prune g retention).1 (prune g retention).2)
    {w w' : Store D × PortWorld ρ × Option ManagedCoreHandle} {c : (coordinatorCalls D).Call}
    {r : (coordinatorCalls D).Reply c}
    (h : (performFile.sum (obedientPorts prune revisions)).reliable w c r w') :
    anyOutcome fails prunes (w.1, w.2.1) c r (w'.1, w'.2.1) := by
  obtain ⟨s, v, core⟩ := w
  cases c with
  | inl c =>
    cases h
    exact ⟨.inl rfl, rfl⟩
  | inr c =>
    cases c with
    | shutdownIsRequested => cases h; exact ⟨⟨fun hs => hs, rfl⟩, rfl⟩
    | pruneGenerations retention => cases h; exact ⟨⟨_, hprunes _ _, rfl⟩, rfl⟩
    | _ => cases h; exact ⟨rfl, rfl⟩

theorem finishes_obedient (prune : Pruner ρ) (revisions : CandidateRevisions)
    (hprunes : ∀ g retention, prunes g retention (prune g retention).1 (prune g retention).2)
    (x : Prog (coordinatorCalls D) α) (w : Store D × PortWorld ρ × Option ManagedCoreHandle) :
    Finishes (anyOutcome fails prunes) x (w.1, w.2.1)
      (x.run (performFile.sum (obedientPorts prune revisions)) w).1
      ((x.run (performFile.sum (obedientPorts prune revisions)) w).2.1,
        (x.run (performFile.sum (obedientPorts prune revisions)) w).2.2.1) :=
  Finishes.map (fun w : Store D × PortWorld ρ × Option ManagedCoreHandle => (w.1, w.2.1))
    (fun _ _ _ _ => anyOutcome_of_obedient hprunes) (Prog.finishes_reliable.2 rfl)

def storedObjects (X : Codec D) (contents : List Bytes) : Files D :=
  List.toAList (contents.map fun content => ⟨.digest (X.sha256Hex content), content⟩)

def firstBundle : TransactionBundle Bytes :=
  ⟨⟨[1]⟩, ⟨[2]⟩, ⟨[3]⟩, ⟨[4]⟩, 1, 1, ⟨1⟩, 1⟩

def sampleRevisions : CandidateRevisions :=
  ⟨1, 1, 1, "policy", "v1"⟩

def firstCandidate : ConfigTransactionCandidate Bytes :=
  ⟨firstBundle, ⟨1, "/generations/1", "manifest", "policy", "binary"⟩, ⟨[4], "policy", "v1", []⟩,
    sampleRevisions⟩

def stagedStore : Store Bytes :=
  { Store.empty with objects := storedObjects Plain.codec [[1], [2], [3], [4]] }

def idlePorts (g : ρ) : PortWorld ρ :=
  ⟨false, false, .unknown, g⟩

def pruneNothing : Pruner Unit :=
  fun _ _ => (.ok {}, ())

def firstRun : Except ConfigTransactionError ConfigTransactionSuccess ×
    Store Bytes × PortWorld Unit × Option ManagedCoreHandle :=
  (execute Plain.codec firstCandidate).run.run
    (performFile.sum (obedientPorts pruneNothing sampleRevisions))
    (stagedStore, idlePorts (), none)

theorem execute_atomic_firstRun : firstRun.1 = .ok ⟨1, 1, .direct, .notRequired⟩ ∧
      firstRun.2.1.manifest = some ⟨firstBundle.id Plain.codec, none⟩ := by
  have hok : firstRun.1 = .ok ⟨1, 1, .direct, .notRequired⟩ := by decide +kernel
  have hrun :
    Finishes (anyOutcome True fun _ _ _ _ => True) (execute Plain.codec firstCandidate).run
      (stagedStore, idlePorts ()) firstRun.1 (firstRun.2.1, firstRun.2.2.1) := by
    unfold firstRun
    apply finishes_obedient (w := (stagedStore, idlePorts (), none))
    exact fun _ _ => trivial
  have hatomic :=
    execute_atomic Plain.codec _ firstCandidate stagedStore rfl (idlePorts ()) rfl hrun
  exact ⟨hok, hatomic.1 _ hok⟩

end Ratash

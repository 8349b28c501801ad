import Ratash.Generation.Stage
import Ratash.Transaction.Generations

namespace Ratash

open Interaction Attempt

variable {D : Type} [DecidableEq D] {X : Codec D} {outside : OutsideFiles}
variable {ρ : Type} {fails : Prop} {prunes : Prunes ρ} {n : RuntimeGeneration}
variable {Gone Present : ρ → Prop} {s₀ : Store D}

theorem gone_keeps (law : PruneLaw prunes n Gone Present) (x : CoordinatorAttempt D ε α) :
    Keeps (watchedOutcome fails prunes P) (fun u => Gone u.1.2.generations) x := by
  apply keeps_of_step
  intro u c r u' hgone hstep
  obtain ⟨⟨s, v⟩, seen⟩ := u
  obtain ⟨⟨s', v'⟩, seen'⟩ := u'
  obtain ⟨hstep, _⟩ := hstep
  cases c with
  | inl c =>
    obtain ⟨_, rfl⟩ := hstep
    exact hgone
  | inr c =>
    obtain ⟨hstep, _⟩ := hstep
    cases c with
    | pruneGenerations retention =>
      obtain ⟨g, hprune, rfl⟩ := hstep
      exact law.staysGone hprune hgone
    | shutdownIsRequested =>
      obtain ⟨_, rfl⟩ := hstep
      exact hgone
    | _ =>
      obtain rfl := hstep
      exact hgone

def Untouched (s₀ : Store D) (u : Watched D ρ) : Prop :=
  u.1.1 = s₀

omit [DecidableEq D] in
theorem safe_trivial (u : Watched D ρ) : Safe (fun _ : Store D => True) (fun _ => False) u :=
  ⟨trivial, False.elim⟩

theorem unlessShutdown_untouched (e : ConfigTransactionError) :
    Achieves (watchedOutcome fails prunes fun _ => False) (Untouched s₀)
      (unlessShutdown e) fun _ => Untouched s₀ := by
  intro u hs
  obtain ⟨⟨s, v⟩, seen⟩ := u
  apply (ensures_port_seq (safe_trivial _) ?_).mono (fun _ _ => trivial) fun _ _ _ h => h
  intro requested v' _
  exact ensures_require.2
    ⟨safe_trivial _, fun _ _ _ => hs, fun _ _ h => by cases h⟩

theorem recover_untouched : Achieves (watchedOutcome fails prunes fun _ => False) (Untouched s₀)
      (store recover) fun state u => Untouched s₀ u ∧ ⟨s₀.manifest, s₀.prepared⟩ = state := by
  intro u hs
  obtain ⟨⟨s, v⟩, seen⟩ := u
  obtain rfl : s = s₀ := hs
  apply (ensures_store_frozen (recover_spec s) (safe_trivial _)).mono (fun _ _ => trivial)
  intro r u _ hr state hstate
  obtain ⟨rfl, hr⟩ := hr
  exact ⟨rfl, (hr state hstate).symm⟩

theorem generationFromManifest_untouched (manifest : Option (CommittedManifest D)) :
    Achieves (watchedOutcome fails prunes fun _ => False) (Untouched s₀)
      (generationFromManifest X manifest) fun _ => Untouched s₀ := by
  intro u hs
  obtain ⟨⟨s, v⟩, seen⟩ := u
  apply (generationOf_spec (safe_trivial _) _).mono (fun _ _ => trivial)
  intro r u _ hr _ _
  obtain ⟨rfl, _⟩ := hr
  exact hs

theorem reconcileFinished_releases (law : PruneLaw prunes n Gone Present) (hfresh : Fresh X s₀ n)
    {committed : CommittedManifest D} {prepared : PreparedTransaction D}
    (hmanifest : s₀.manifest = some committed) (hprepared : s₀.prepared = some prepared)
    (hfinished : committed.current = prepared.candidate) (generation : RuntimeGeneration)
    (committedGeneration : Option RuntimeGeneration) :
    Achieves (watchedOutcome fails prunes fun _ => False) (Untouched s₀)
      (reconcileFinished X generation committedGeneration ⟨s₀.manifest, s₀.prepared⟩)
      fun _ u => Gone u.1.2.generations := by
  rw [hmanifest, hprepared, reconcileFinished, if_pos hfinished]
  apply Achieves.seq (R := fun _ u => Gone u.1.2.generations)
  · apply Achieves.orThrow
    intro u hs
    obtain ⟨⟨s, v⟩, seen⟩ := u
    obtain rfl : s = s₀ := hs
    have hclosed : Closed fun _ : Store D => True := ⟨fun _ => trivial, fun _ _ => trivial⟩
    apply (clearPreparedAndPrune_spec law hclosed (safe_trivial _) prepared).mono
      (fun _ _ => trivial)
    intro r u _ hr _ hok
    obtain ⟨s', g, seen', rfl, hcleared⟩ := hr
    exact (hcleared.success hok).2 hfresh
  · intro _
    exact (gone_keeps law _).achieves

theorem execute_releases (law : PruneLaw prunes n Gone Present) (hfresh : Fresh X s₀ n)
    {committed : CommittedManifest D} {prepared : PreparedTransaction D}
    (hmanifest : s₀.manifest = some committed) (hprepared : s₀.prepared = some prepared)
    (hfinished : committed.current = prepared.candidate)
    (candidate : ConfigTransactionCandidate D) :
    Achieves (watchedOutcome fails prunes fun _ => False) (Untouched s₀)
      (execute X candidate) fun _ u => Gone u.1.2.generations := by
  have hlock : Achieves (watchedOutcome fails prunes fun _ => False) (Untouched s₀)
      (lockCoordinator (D := D)) fun _ => Untouched s₀ := by
    intro u hs
    obtain ⟨⟨s, v⟩, seen⟩ := u
    apply (lockCoordinator_spec (safe_trivial _)).mono (fun _ _ => trivial)
    intro r u _ hr _ _
    obtain ⟨rfl, _⟩ := hr
    exact hs
  apply hlock.seq
  intro _
  apply (unlessShutdown_untouched _).seq
  intro _
  apply (recover_untouched.orThrow _).seq
  intro state
  apply achieves_of_fact
  rintro rfl
  apply ((generationFromManifest_untouched _).orThrow _).seq
  intro committedGeneration
  apply (unlessShutdown_untouched _).seq
  intro _
  apply (reconcileFinished_releases law hfresh hmanifest hprepared hfinished _ _).seq
  intro _
  exact (gone_keeps law _).achieves

/-- In no run after a finished journal does a newer candidate succeed with its directory still
there. -/
theorem finished_journal_removes_candidate (X : Codec D) (outside : OutsideFiles) (fails : Prop)
    (candidate : ConfigTransactionCandidate D) (s₀ : Store D) (hrecoverable : Recoverable X s₀)
    {committed : CommittedManifest D} {prepared : PreparedTransaction D}
    (hmanifest : s₀.manifest = some committed) (hprepared : s₀.prepared = some prepared)
    (hfinished : committed.current = prepared.candidate)
    (hnewer : ∀ t, s₀.transactionAt X committed.current = some t →
      t.runtimeGeneration < candidate.runtime.generation) (v₀ : PortWorld GenerationRoot)
    {r : Except ConfigTransactionError ConfigTransactionSuccess} {s : Store D}
    {v : PortWorld GenerationRoot}
    (hrun : Finishes (anyOutcome fails (rootPrunes X outside)) (execute X candidate).run (s₀, v₀) r
      (s, v)) : ¬∃ success, r = .ok success ∧
      generationName candidate.runtime.generation ∈ v.generations.entries := by
  have hfresh : Fresh X s₀ candidate.runtime.generation := by
    apply hrecoverable.fresh
    intro id t hid ht
    obtain rfl : committed.current = id := by simpa [Store.committedId, hmanifest] using hid
    exact hnewer t ht
  have hgone : (execute X candidate).run.Ensures (anyOutcome fails (rootPrunes X outside))
      (fun _ => True) (fun r u => ∀ success, r = .ok success →
        u.2.generations.entries.lookup (generationName candidate.runtime.generation) = none)
      (s₀, v₀) := by
    apply Prog.Ensures.of_watched (P := fun _ => False)
    exact execute_releases (rootPrunes_law _ ⟨⟨.directory, 0, 0, 0, 0⟩, ∅⟩) hfresh hmanifest
      hprepared hfinished candidate ((s₀, v₀), False) rfl
  rintro ⟨success, hok, hmem⟩
  have hnone := hgone.finishes hrun success hok
  exact AList.lookup_eq_none.1 hnone hmem

def stageSample (generation : RuntimeGeneration) (yaml : Bytes) (g : GenerationRoot) :
    GenerationRoot :=
  ((stage Plain.codec Plain.manifestCodec sampleStager generation
    (sampleConfiguration yaml)).run.run (performRoot binaryOnly) g).2

def matchingRevisions : CandidateRevisions :=
  ⟨1, 1, 1, zeroDigest, "v1"⟩

/-- The first bundle is committed, its journal is still there, and the objects of a second one are
staged. -/
def finishedStore : Store Bytes :=
  let journal := ⟨firstBundle.id Plain.codec, none⟩
  let objects := storedObjects Plain.codec [[1], [2], [3], [4], [5], [6]]
  ((({ Store.empty with objects }.withTransaction Plain.codec firstBundle).withPrepared
    journal).withManifest ⟨journal.candidate, none⟩)

def secondCandidate : ConfigTransactionCandidate Bytes :=
  ⟨⟨⟨[5]⟩, ⟨[2]⟩, ⟨[3]⟩, ⟨[6]⟩, 1, 1, ⟨1⟩, 2⟩, sampleStager.bundle 2 zeroDigest,
    sampleConfiguration [6], matchingRevisions⟩

def finishedRoot : GenerationRoot :=
  stageSample 2 [6] (stageSample 1 [4] emptyRoot)

def finishedRun : Except ConfigTransactionError ConfigTransactionSuccess ×
    Store Bytes × PortWorld GenerationRoot × Option ManagedCoreHandle :=
  (execute Plain.codec secondCandidate).run.run
    (performFile.sum (obedientPorts (pruneRoot Plain.codec binaryOnly) matchingRevisions))
    (finishedStore, idlePorts finishedRoot, none)

/-- The clean-up takes the staged objects and the staged directory with it. -/
theorem finished_journal_loses_candidate : finishedStore.manifest.map CommittedManifest.current =
        finishedStore.prepared.map PreparedTransaction.candidate ∧
      generationName 2 ∈ finishedRoot.entries ∧
      finishedRun.1 = .error ⟨.invalidCandidate, some 2, some 1, .notRequired⟩ ∧
      generationName 2 ∉ finishedRun.2.2.1.generations.entries ∧
      finishedRun.2.1.objects.lookup (.digest [6]) = none := by
  decide +kernel

theorem finishedStore_recoverable : Recoverable Plain.codec finishedStore := by
  have hempty (objects : Files Bytes) :
      Recoverable Plain.codec { Store.empty with objects := objects } :=
    ⟨fun _ h => (by cases h), fun _ h => (by cases h)⟩
  have hself := Store.transactionAt_withTransaction_self (X := Plain.codec) (b := firstBundle)
    (s := { Store.empty with
      objects := storedObjects Plain.codec [[1], [2], [3], [4], [5], [6]] })
  have hjournal := ((hempty _).withTransaction firstBundle).withPrepared
    (p := ⟨firstBundle.id Plain.codec, none⟩) hself
  exact hjournal.withManifest rfl hself fun _ _ h => by cases h

theorem finished_journal_removes_secondCandidate : ¬∃ success, finishedRun.1 = .ok success ∧
      generationName 2 ∈ finishedRun.2.2.1.generations.entries := by
  have hrun : Finishes (anyOutcome False (rootPrunes Plain.codec binaryOnly))
      (execute Plain.codec secondCandidate).run (finishedStore, idlePorts finishedRoot)
      finishedRun.1 (finishedRun.2.1, finishedRun.2.2.1) := by
    unfold finishedRun
    apply finishes_obedient (w := (finishedStore, idlePorts finishedRoot, none))
    exact rootPrunes_pruneRoot
  apply finished_journal_removes_candidate Plain.codec binaryOnly False secondCandidate
    finishedStore finishedStore_recoverable rfl rfl rfl _ _ hrun
  intro t ht
  have hfirst : finishedStore.transactionAt Plain.codec (firstBundle.id Plain.codec) =
      some firstBundle := by decide +kernel
  obtain rfl : t = firstBundle := Store.transactionAt_unique ht hfirst
  decide

end Ratash

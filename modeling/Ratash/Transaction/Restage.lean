import Ratash.Generation.Contents
import Ratash.Generation.Plan
import Ratash.Transaction.FinishedJournal

namespace Ratash

open Interaction Attempt

variable {outside : OutsideFiles} {D : Type} {X : Codec D} {M : ManifestCodec}
variable {stager : RuntimeBundleStager} {generation : RuntimeGeneration} {g : GenerationRoot}

theorem verifyBinary_reads (path : Path) (expectedSha256 : String) :
    ReadsRoot outside g (verifyBinary M path expectedSha256)
      (verifyBinaryNode M (outside path []) expectedSha256) := by
  apply (reads_rootCall (c := .outside path []) rfl rfl).orThrow_seq
  · intro node hnode
    cases hnode
    exact reads_ofExcept _
  · intro _ h
    cases h

theorem verifyExistingFile_reads {root : String} (hentry : g.entries.lookup root = some entry)
    (path : List String) (expected : Bytes) (limit : Nat) :
    ReadsRoot outside g (verifyExistingFile root path expected limit)
      (if (entry.files.lookup path).bind (Node.readLimited limit) = some expected then .ok ()
        else .error .existingGenerationMismatch) := by
  have hread : (performRoot outside g (.node root path)).1 = .ok (entry.files.lookup path) := by
    simp only [performRoot, hentry]
    rfl
  apply (reads_rootCall (c := .node root path) rfl rfl).orThrow_seq
  · intro node hnode
    obtain rfl : entry.files.lookup path = node := Except.ok.inj (hread.symm.trans hnode)
    unfold require
    split <;> exact reads_ofExcept _
  · intro e he
    rw [hread] at he
    cases he

theorem verifyExisting_mismatch {root : String} (hentry : g.entries.lookup root = some entry)
    (hother : (entry.files.lookup ["config.yaml"]).bind
      (Node.readLimited effectiveConfigurationMaxBytes) ≠ some configuration)
    (manifest : Bytes) (binarySha256 : String) (providers : ProviderStagingPlan) :
    ReadsRoot outside g
      (verifyExisting M root manifest configuration binarySha256 providers)
      (.error .existingGenerationMismatch) := by
  have hread : (performRoot outside g (.symlinkMetadata root)).1 = .ok (some entry.metadata) := by
    simp only [performRoot, hentry]
    rfl
  apply (reads_rootCall (c := .symlinkMetadata root) rfl rfl).orThrow_seq
  · intro metadata hmetadata
    obtain rfl : some entry.metadata = metadata := Except.ok.inj (hread.symm.trans hmetadata)
    apply (reads_ofExcept _).seq
    · intro metadata hmetadata
      cases hmetadata
      refine reads_require (fun _ => ?_) (fun _ => rfl)
      apply (verifyExistingFile_reads hentry _ _ _).seq
      · intro _ _
        apply (verifyExistingFile_reads hentry _ _ _).seq
        · intro _ hok
          rw [if_neg hother] at hok
          cases hok
        · intro e he
          rw [if_neg hother] at he
          exact he
      · intro e he
        split at he
        · cases he
        · exact he
    · intro _ h
      cases h
  · intro e he
    rw [hread] at he
    cases he

theorem outside_achieves (path : Path) :
    Attains outside (rootCall (.outside path []))
      fun node _ => outside path [] = node := by
  apply achieves_rootCall
  intro _ _ node hok
  exact Except.ok.inj hok

theorem copyVerifiedBinary_verifies (source : Path) (name : String) (expectedSha256 : String) :
    Attains outside (copyVerifiedBinary M source name expectedSha256)
      fun _ _ => verifyBinaryNode M (outside source []) expectedSha256 = .ok () := by
  apply ((outside_achieves source).orThrow _).seq
  intro node
  apply (achieves_ofExcept _).seq
  intro content
  apply (achieves_fact _).seq
  intro _
  apply (achieves_require _).mono (fun _ h => h)
  intro _ _ h
  obtain ⟨⟨rfl, hcontent⟩, hdigest⟩ := h
  have hopen : (outside source []).bind Node.openBinary = some content := by
    cases hbinary : (outside source []).bind Node.openBinary with
    | none =>
      rw [hbinary] at hcontent
      cases hcontent
    | some found =>
      rw [hbinary] at hcontent
      exact congrArg some (Except.ok.inj hcontent)
  simp only [verifyBinaryNode, hopen, hdigest, if_true]

theorem stagePlanned_verifies (configuration manifest : Bytes) (providers : ProviderStagingPlan) :
    Attains outside
      (stagePlanned X M stager generation configuration manifest providers)
      fun _ _ => verifyBinaryNode M (outside stager.binary []) stager.binarySha256 = .ok () := by
  apply (achieves_true _).seq
  intro existing
  split
  · have hverify : Attains outside
        (verifyBinary M stager.binary stager.binarySha256)
        fun _ _ => verifyBinaryNode M (outside stager.binary []) stager.binarySha256 = .ok () := by
      intro g _
      apply (verifyBinary_reads _ _).ensures.mono (fun _ _ => trivial)
      exact fun _ _ _ h a ha => h a ha
    exact hverify.seq fun _ => achieves_fact _
  · apply (achieves_true _).seq
    intro uuid
    apply (achieves_true _).seq
    intro _
    have hfill : Attains outside
        (stagePending M stager (pendingName X generation uuid) configuration manifest providers)
        fun _ _ => verifyBinaryNode M (outside stager.binary []) stager.binarySha256 = .ok () :=
      (copyVerifiedBinary_verifies _ _ _).seq fun _ => achieves_fact _
    apply hfill.result.seq
    intro filled
    cases filled with
    | error error => exact (achieves_true _).seq fun _ => achieves_throw _
    | ok _ => exact (achieves_fact _).mono (fun _ h => h () rfl) fun _ _ h => h

theorem stage_plans (configuration : EffectiveConfiguration) :
    Attains outside
      (stage X M stager generation configuration) fun _ _ =>
        (∃ planned, planIn M outside stager generation configuration = .ok planned) ∧
          verifyBinaryNode M (outside stager.binary []) stager.binarySha256 = .ok () := by
  have hplan : Attains outside
      (planStaging M stager generation configuration) fun planned _ => True ∧
        planIn M outside stager generation configuration = .ok planned := by
    intro g _
    apply (planStaging_reads _ _ _).ensures.mono (fun _ _ => trivial)
    exact fun _ _ _ h planned hplanned => ⟨trivial, h planned hplanned⟩
  apply hplan.seq
  intro planned
  apply achieves_of_fact
  intro hplanned
  apply (stagePlanned_verifies _ _ _).seq
  intro _
  exact achieves_pure _ fun _ hbinary => ⟨⟨planned, hplanned⟩, hbinary⟩

def stageResult (X : Codec D) (M : ManifestCodec) (outside : OutsideFiles)
    (stager : RuntimeBundleStager) (generation : RuntimeGeneration)
    (configuration : EffectiveConfiguration) (g : GenerationRoot) :
    Except RuntimeBundleStageErrorKind RuntimeBundle :=
  ((stage X M stager generation configuration).run.run (performRoot outside) g).1

theorem stageResult_mismatch {configuration : EffectiveConfiguration}
    (hplan : planIn M outside stager generation configuration = .ok planned)
    (hbinary : verifyBinaryNode M (outside stager.binary []) stager.binarySha256 = .ok ())
    (hentry : g.entries.lookup (generationName generation) = some entry)
    (hother : (entry.files.lookup ["config.yaml"]).bind
      (Node.readLimited effectiveConfigurationMaxBytes) ≠ some configuration.yaml) :
    stageResult X M outside stager generation configuration g =
      .error .existingGenerationMismatch := by
  have hverify : ReadsRoot outside g
      (do
        verifyBinary M stager.binary stager.binarySha256
        verifyExisting M (generationName generation) planned.2 configuration.yaml
          stager.binarySha256 planned.1 : StageAttempt Unit)
      (.error .existingGenerationMismatch) := by
    apply (verifyBinary_reads _ _).seq
    · exact fun _ _ => verifyExisting_mismatch hentry hother _ _ _
    · intro e he
      rw [hbinary] at he
      cases he
  have hexisting : (((rootCall (.symlinkMetadata (generationName generation))).result :
      StageAttempt _).run.run (performRoot outside) g) = (.ok (.ok (some entry.metadata)), g) := by
    have hlabel := congrArg (Option.map RootEntry.metadata) hentry
    exact congrArg (fun metadata => (Except.ok (Except.ok metadata), g)) hlabel
  have hplanned : (stagePlanned X M stager generation configuration.yaml planned.2
      planned.1).run.run (performRoot outside) g = (.error .existingGenerationMismatch, g) := by
    rw [stagePlanned, bind_run, Prog.run_bind, hexisting]
    exact hverify.run
  rw [stageResult, stage, bind_run, Prog.run_bind, (planStaging_reads _ _ _).run, hplan]
  change ((stagePlanned X M stager generation configuration.yaml planned.2 planned.1 >>= fun _ =>
    pure _ : StageAttempt RuntimeBundle).run.run (performRoot outside) g).1 = _
  rw [bind_run, Prog.run_bind, hplanned]
  rfl

theorem stage_generation (configuration : EffectiveConfiguration) :
    Attains outside (stage X M stager generation configuration)
      fun bundle _ => bundle.generation = generation := by
  apply (achieves_true _).seq
  intro planned
  apply (achieves_true _).seq
  intro _
  exact achieves_pure _ fun _ _ => rfl

theorem removeEntry_of_absent (h : g.entries.lookup name = none) : g.removeEntry name = g := by
  have hkeys : name ∉ g.entries.entries.keys := AList.lookup_eq_none.1 h
  have herase : g.entries.erase name = g.entries :=
    AList.ext (List.kerase_of_notMem_keys hkeys)
  rw [GenerationRoot.removeEntry, herase]

theorem lt_nextRuntimeGeneration (h : nextRuntimeGeneration (some current) = some n) :
    current < n := by
  rw [UInt64.lt_iff_toNat_lt, checkedSucc_eq_some h]
  exact Nat.lt_succ_self _

variable [DecidableEq D]

/-- After a transaction that failed with nothing left to recover, its generation can be staged with
another configuration if and only if the transaction had touched the journal. -/
theorem restage_without_mismatch_iff (X : Codec D) (M : ManifestCodec)
    (outside : OutsideFiles) (stager : RuntimeBundleStager)
    {generation : RuntimeGeneration} {s₀ : Store D} (hrecoverable : Recoverable X s₀)
    {committed : Option RuntimeGeneration} (hcommitted : GenerationAt X s₀ s₀.committedId committed)
    (hnext : nextRuntimeGeneration committed = some generation)
    {configuration configuration' : EffectiveConfiguration}
    (hdifferent : configuration'.yaml ≠ configuration.yaml)
    {g₁ : GenerationRoot} {bundle : RuntimeBundle} {v₀ : PortWorld GenerationRoot}
    (hstaged : Finishes (failingRoot outside) (stage X M stager generation configuration).run g₁
      (.ok bundle) v₀.generations) (hv : v₀.applied = false)
    {candidate : ConfigTransactionCandidate D} (hcandidate : candidate.runtime = bundle)
    {e : ConfigTransactionError} {s : Store D} {v : PortWorld GenerationRoot} {touched : Prop}
    (hrun : Finishes (watchedOutcome True (rootPrunes X outside) (JournalTouched s₀))
      (execute X candidate).run ((s₀, v₀), False) (.error e) ((s, v), touched))
    (hsettled : e.recovery.Settled)
    (hlater : (stageResult X M outside stager generation configuration'
      (v.generations.removeEntry (generationName generation))).isOk = true) :
    stageResult X M outside stager generation configuration' v.generations ≠
      .error .existingGenerationMismatch ↔ touched := by
  obtain rfl : candidate.runtime.generation = generation := by
    rw [hcandidate]
    exact (stage_generation configuration _ trivial).finishes hstaged bundle rfl
  have hfresh : Fresh X s₀ candidate.runtime.generation := by
    apply hrecoverable.fresh
    intro id t hid ht
    rw [hid] at hcommitted
    obtain ⟨t', ht', rfl⟩ := hcommitted
    rw [Store.transactionAt_unique ht ht']
    exact lt_nextRuntimeGeneration hnext
  obtain ⟨entry, node, hentry, hfile, hnode⟩ :=
    (stage_holds stager _ configuration _ trivial).finishes hstaged bundle rfl
  have hends := (locked_ends candidate (rootPrunes_law _ entry) s₀ v₀ hv
    .convergeCommitted).finishes hrun
  have hundone := hends.1 hsettled
  obtain ⟨result, hresult⟩ : ∃ result, stageResult X M outside stager
      candidate.runtime.generation configuration' (v.generations.removeEntry
        (generationName candidate.runtime.generation)) = .ok result := by
    cases hresult : stageResult X M outside stager candidate.runtime.generation configuration'
        (v.generations.removeEntry (generationName candidate.runtime.generation)) with
    | ok result => exact ⟨result, rfl⟩
    | error e =>
      rw [hresult] at hlater
      cases hlater
  constructor
  · intro hno
    by_contra huntouched
    apply hno
    have hpresent := hundone.kept huntouched hentry
    obtain ⟨⟨planned, hplan⟩, hbinary⟩ := (stage_plans configuration').run trivial hresult
    apply stageResult_mismatch hplan hbinary hpresent
    intro hsame
    rw [hfile] at hsame
    obtain ⟨node', hnode', hlimited⟩ := Option.bind_eq_some_iff.1 hsame
    cases hnode'
    unfold Node.readLimited at hlimited
    split at hlimited
    · exact hdifferent ((Option.some.inj hlimited).symm.trans hnode)
    · cases hlimited
  · intro htouched hmismatch
    have hgone := hundone.released htouched hfresh
    rw [removeEntry_of_absent hgone, hmismatch] at hresult
    cases hresult

abbrev RestagePorts :=
  Handler (portCalls Bytes) (PortWorld GenerationRoot × Option ManagedCoreHandle)

def obedientRoot : RestagePorts :=
  obedientPorts (pruneRoot Plain.codec binaryOnly) matchingRevisions

def rejectingRoot : RestagePorts
  | w, .validate _ _ => (.error (), w)
  | w, c => obedientRoot w c

/-- The second candidate, with the first one committed and no journal left. -/
def restageRun (ports : RestagePorts) (v : PortWorld GenerationRoot) :
    Except ConfigTransactionError ConfigTransactionSuccess ×
      Store Bytes × PortWorld GenerationRoot × Option ManagedCoreHandle :=
  (execute Plain.codec secondCandidate).run.run (performFile.sum ports)
    (finishedStore.withoutPrepared, v, none)

def shutdownPorts : PortWorld GenerationRoot :=
  { idlePorts finishedRoot with shutdown := true }

def shutdownRun : Except ConfigTransactionError ConfigTransactionSuccess ×
    Store Bytes × PortWorld GenerationRoot × Option ManagedCoreHandle :=
  restageRun obedientRoot shutdownPorts

def rejectedRun : Except ConfigTransactionError ConfigTransactionSuccess ×
    Store Bytes × PortWorld GenerationRoot × Option ManagedCoreHandle :=
  restageRun rejectingRoot (idlePorts finishedRoot)

abbrev restaged :=
  stageResult Plain.codec Plain.manifestCodec binaryOnly sampleStager 2 (sampleConfiguration [8])

theorem shutdownRun_poisons :
    shutdownRun.1 = .error ⟨.shutdown, some 2, none, .notRequired⟩ ∧
      restaged shutdownRun.2.2.1.generations = .error .existingGenerationMismatch ∧
      (restaged (shutdownRun.2.2.1.generations.removeEntry (generationName 2))).isOk = true := by
  decide +kernel

theorem rejectedRun_restages :
    rejectedRun.1 = .error ⟨.validation, some 2, some 1, .converged (some 1)⟩ ∧
      restaged rejectedRun.2.2.1.generations ≠ .error .existingGenerationMismatch ∧
      (restaged (rejectedRun.2.2.1.generations.removeEntry (generationName 2))).isOk = true := by
  decide +kernel

/-- The directory staged for the candidate stays, and its generation cannot be staged again. -/
theorem shutdown_poisons_generation :
    shutdownRun.1 = .error ⟨.shutdown, some 2, none, .notRequired⟩ ∧
      nextRuntimeGeneration (some 1) = some 2 ∧
      stageResult Plain.codec Plain.manifestCodec binaryOnly sampleStager 2
        (sampleConfiguration [8]) shutdownRun.2.2.1.generations =
          .error .existingGenerationMismatch :=
  ⟨shutdownRun_poisons.1, by decide, shutdownRun_poisons.2.1⟩

theorem stageSample_finishes (generation : RuntimeGeneration) (yaml : Bytes) (g : GenerationRoot) :
    Finishes (failingRoot binaryOnly) (stage Plain.codec Plain.manifestCodec sampleStager generation
      (sampleConfiguration yaml)).run g
      ((stage Plain.codec Plain.manifestCodec sampleStager generation
        (sampleConfiguration yaml)).run.run (performRoot binaryOnly) g).1
      (stageSample generation yaml g) :=
  Finishes.map id (fun _ _ _ _ h => .inl h) (Prog.finishes_reliable.2 rfl)

theorem secondCandidate_staged {v : PortWorld GenerationRoot}
    (hroot : v.generations = finishedRoot) :
    Finishes (failingRoot binaryOnly) (stage Plain.codec Plain.manifestCodec sampleStager 2
      (sampleConfiguration [6])).run (stageSample 1 [4] emptyRoot) (.ok secondCandidate.runtime)
      v.generations := by
  have hbundle : ((stage Plain.codec Plain.manifestCodec sampleStager 2
      (sampleConfiguration [6])).run.run (performRoot binaryOnly) (stageSample 1 [4] emptyRoot)).1 =
        .ok (sampleStager.bundle 2 zeroDigest) := by
    decide +kernel
  have h := stageSample_finishes 2 [6] (stageSample 1 [4] emptyRoot)
  rw [hbundle] at h
  rw [hroot]
  exact h

abbrev WatchedRestage (v : PortWorld GenerationRoot) (e : ConfigTransactionError)
    (s : Store Bytes) (v' : PortWorld GenerationRoot) (touched : Prop) : Prop :=
  Finishes (watchedOutcome True (rootPrunes Plain.codec binaryOnly)
    (JournalTouched finishedStore.withoutPrepared)) (execute Plain.codec secondCandidate).run
    ((finishedStore.withoutPrepared, v), False) (.error e) ((s, v'), touched)

theorem anyOutcome_of_rejecting
    {w w' : Store Bytes × PortWorld GenerationRoot × Option ManagedCoreHandle}
    {c : (coordinatorCalls Bytes).Call} {r : (coordinatorCalls Bytes).Reply c}
    (h : (performFile.sum rejectingRoot).reliable w c r w') :
    anyOutcome True (rootPrunes Plain.codec binaryOnly) (w.1, w.2.1) c r (w'.1, w'.2.1) := by
  have hobedient (h : (performFile.sum (obedientPorts (pruneRoot Plain.codec binaryOnly)
      matchingRevisions)).reliable w c r w') : anyOutcome True (rootPrunes Plain.codec binaryOnly)
      (w.1, w.2.1) c r (w'.1, w'.2.1) := anyOutcome_of_obedient rootPrunes_pruneRoot h
  cases c with
  | inl c => exact hobedient h
  | inr c =>
    cases c with
    | validate _ _ =>
      cases h
      exact ⟨rfl, rfl⟩
    | _ => exact hobedient h

theorem restageRun_watched {ports : RestagePorts} {v : PortWorld GenerationRoot}
    {e : ConfigTransactionError} (hports : ∀ w c r w', (performFile.sum ports).reliable w c r w' →
      anyOutcome True (rootPrunes Plain.codec binaryOnly) (w.1, w.2.1) c r (w'.1, w'.2.1))
    (herror : (restageRun ports v).1 = .error e) :
    ∃ touched, WatchedRestage v e (restageRun ports v).2.1 (restageRun ports v).2.2.1 touched := by
  have hrun : Finishes (anyOutcome True (rootPrunes Plain.codec binaryOnly))
      (execute Plain.codec secondCandidate).run (finishedStore.withoutPrepared, v)
      (restageRun ports v).1 ((restageRun ports v).2.1, (restageRun ports v).2.2.1) :=
    Finishes.map (w := (finishedStore.withoutPrepared, v, none))
      (fun w : Store Bytes × PortWorld GenerationRoot × Option ManagedCoreHandle => (w.1, w.2.1))
      hports (Prog.finishes_reliable.2 rfl)
  rw [herror] at hrun
  exact hrun.watched (fun u => JournalTouched finishedStore.withoutPrepared u.1) False

/-- A shutdown comes before the journal is written; an invalid configuration is found after. -/
theorem restage_after_shutdown_and_rejection :
    (∃ touched, WatchedRestage shutdownPorts ⟨.shutdown, some 2, none, .notRequired⟩
      shutdownRun.2.1 shutdownRun.2.2.1 touched ∧ ¬touched) ∧
    ∃ touched, WatchedRestage (idlePorts finishedRoot)
      ⟨.validation, some 2, some 1, .converged (some 1)⟩ rejectedRun.2.1 rejectedRun.2.2.1
      touched ∧ touched := by
  have hcommitted : GenerationAt Plain.codec finishedStore.withoutPrepared
      finishedStore.withoutPrepared.committedId (some 1) := ⟨firstBundle, by decide +kernel, rfl⟩
  have hdifferent : (sampleConfiguration [8]).yaml ≠ (sampleConfiguration [6]).yaml := by decide
  constructor
  · obtain ⟨herror, hmismatch, hlater⟩ := shutdownRun_poisons
    obtain ⟨touched, hwatched⟩ := restageRun_watched
      (fun _ _ _ _ => anyOutcome_of_obedient rootPrunes_pruneRoot) herror
    have hrestage := restage_without_mismatch_iff Plain.codec Plain.manifestCodec binaryOnly
      sampleStager finishedStore_recoverable.withoutPrepared hcommitted (by decide) hdifferent
      (secondCandidate_staged (by rw [shutdownPorts, idlePorts])) rfl rfl hwatched trivial hlater
    exact ⟨touched, hwatched, fun htouched => hrestage.2 htouched hmismatch⟩
  · obtain ⟨herror, hrestaged, hlater⟩ := rejectedRun_restages
    obtain ⟨touched, hwatched⟩ := restageRun_watched (fun _ _ _ _ => anyOutcome_of_rejecting) herror
    have hrestage := restage_without_mismatch_iff Plain.codec Plain.manifestCodec binaryOnly
      sampleStager finishedStore_recoverable.withoutPrepared hcommitted (by decide) hdifferent
      (secondCandidate_staged (by rw [idlePorts])) rfl rfl hwatched trivial hlater
    exact ⟨touched, hwatched, hrestage.1 hrestaged⟩

end Ratash

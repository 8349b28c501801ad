import Ratash.Transaction.Outcome

namespace Ratash

open Interaction Attempt

variable {D ρ : Type} [DecidableEq D] {X : Codec D}
variable {fails : Prop} {prunes : Prunes ρ} {s₀ s : Store D} {v : PortWorld ρ} {seen : Prop}
variable {b : TransactionBundle D} {n : RuntimeGeneration} {Gone Present : ρ → Prop}
variable {committedGeneration : Option RuntimeGeneration} {p : PreparedTransaction D}

def CommittedTo (X : Codec D) (s₀ : Store D) (b : TransactionBundle D) (u : Watched D ρ) : Prop :=
  u.1.1.manifest = some ⟨b.id X, s₀.committedId⟩

def Succeeded (X : Codec D) (s₀ : Store D) (b : TransactionBundle D)
    (success : ConfigTransactionSuccess) (u : Watched D ρ) : Prop :=
  CommittedTo X s₀ b u ∧ success.committedGeneration = b.runtimeGeneration

theorem Underway.evolves_committing (h : Underway X s₀ b p committedGeneration s)
    (hs : Evolves X s₀ b s) (s' : Store D) (hs' : Committing s p s') : Evolves X s₀ b s' := by
  obtain rfl | ⟨_, rfl⟩ := hs'
  · exact hs
  · apply hs.commit h.journal h.prepared h.manifest
    intro id t hid ht
    exact UInt64.le_of_lt (h.lt hid ht)

theorem recoverCommitFailure_ends (law : PruneLaw prunes n Gone Present)
    (h : Underway X s₀ b p committedGeneration s) (hs' : Committing s p s')
    (hdurable : ¬fails → s' = s) (hu' : Midway X s₀ b ((s', v), seen'))
    (candidateGeneration : RuntimeGeneration) (mode : FailureRecoveryMode) :
    Ends X fails prunes s₀ b (Restored X n Gone s₀)
      (recoverCommitFailure X p candidateGeneration committedGeneration mode)
      (fun _ => CommittedTo X s₀ b) ((s', v), seen') := by
  apply ensures_orThrow_seq (ensures_store_frozen (recover_spec s') hu')
  · intro state u _ hstate
    obtain ⟨rfl, hstate⟩ := hstate
    obtain rfl := hstate state rfl
    -- the manifest as it is now tells whether the failed write took effect
    obtain rfl | ⟨_, rfl⟩ := hs'
    · have hnot : ¬(s'.manifest.map CommittedManifest.current = some p.candidate) :=
        h.not_committed
      simp only [hnot, if_false]
      exact Recovers.ends (recoverFailedCandidate_spec law hu' h.manifest h.previous h.committed
        committedGeneration mode) fun _ => rfl
    · simp only [Store.withManifest, Option.map_some, if_true]
      apply ensures_result_seq
        (clearPreparedAndPrune_spec law (evolves_closed s₀ b) hu' p)
      intro r u hsafe hcleared
      obtain ⟨s₂, g, seen₂, rfl, hcleared⟩ := hcleared
      have hcommitted : CommittedTo X s₀ b
          ((s₂, { v with generations := g }), seen₂) := by
        rw [CommittedTo, hcleared.manifest, Store.withManifest, h.candidate, h.previous]
      cases r <;> exact ⟨hsafe, hcommitted⟩
  · intro _ u _ hstate
    obtain ⟨rfl, _⟩ := hstate
    refine ⟨fun hsettled => hsettled.elim, fun hnot => ?_⟩
    rw [hdurable hnot]
    exact h.manifest

variable (law : PruneLaw prunes n Gone Present) (hu : Midway X s₀ b ((s, v), seen))
  (h : Underway X s₀ b p committedGeneration s)

include law hu h

theorem commitApplied_ends (candidate : ConfigTransactionCandidate D) (mode : FailureRecoveryMode) :
    Ends X fails prunes s₀ b (Restored X n Gone s₀)
      (commitApplied X candidate mode committedGeneration p)
      (fun _ => CommittedTo X s₀ b) ((s, v), seen) := by
  apply ensures_result_seq
    (ensures_store (commitPrepared_spec X s p) hu.2 (h.evolves_committing hu.1))
  intro r u hsafe hcommit
  obtain ⟨⟨s', v'⟩, seen'⟩ := u
  obtain ⟨hv, hs', hok, _, _⟩ := hcommit
  obtain rfl : v' = v := hv
  cases r with
  | error e =>
    exact recoverCommitFailure_ends law h hs' (hok.2 e rfl) hsafe candidate.runtime.generation mode
  | ok _ =>
    obtain rfl : s' = s.withManifest ⟨p.candidate, p.previous⟩ := hok.1 rfl
    apply ensures_result_seq
      (clearPreparedAndPrune_spec law (evolves_closed s₀ b) hsafe p)
    intro r u hsafe hcleared
    obtain ⟨s₂, g, seen₂, rfl, hcleared⟩ := hcleared
    have hcommitted : CommittedTo X s₀ b ((s₂, { v' with generations := g }), seen₂) := by
      rw [CommittedTo, hcleared.manifest, Store.withManifest, h.candidate, h.previous]
    cases r <;> exact ⟨hsafe, hcommitted⟩

theorem settleApply_ends (candidate : ConfigTransactionCandidate D)
    (mode : FailureRecoveryMode) (applyResult : Except RuntimeApplyFailure ApplyCandidateResult) :
    Ends X fails prunes s₀ b (Restored X n Gone s₀)
      (settleApply X candidate mode committedGeneration p applyResult)
      (fun _ u => CoreMoved s v seen (fun _ => True) u) ((s, v), seen) := by
  have hfail (kind : ConfigTransactionErrorKind) {v : PortWorld ρ}
      (hu : Midway X s₀ b ((s, v), seen))
      (Q : ApplyCandidateResult × ApplyPath → Watched D ρ → Prop) :
      Ends X fails prunes s₀ b (Restored X n Gone s₀)
        (failCandidate X candidate mode committedGeneration p kind) Q ((s, v), seen) :=
    failCandidate_ends law hu h candidate mode kind Q
  cases applyResult with
  | ok applied => exact ⟨hu, v.applied, v.runtime, rfl, trivial⟩
  | error failure =>
    cases failure with
    | definite => exact hfail .apply hu _
    | tunPermissionDenied => exact hfail .tunPermissionDenied hu _
    | tunUnsupported => exact hfail .tunUnsupported hu _
    | indeterminate =>
      apply ensures_result_seq (restartCandidate_talks candidate.runtime s v seen hu)
      intro r u hsafe hmoved
      obtain ⟨applied, runtime, rfl, _⟩ := hmoved
      cases r with
      | ok result => exact ⟨hsafe, applied, runtime, rfl, trivial⟩
      | error e => exact hfail .indeterminateApply hsafe _

theorem confirmDirect_ends (candidate : ConfigTransactionCandidate D)
    (mode : FailureRecoveryMode) (applied : ApplyCandidateResult) (applyPath : ApplyPath) :
    Ends X fails prunes s₀ b (Restored X n Gone s₀)
      (confirmDirect X candidate mode committedGeneration p applied applyPath)
      (fun _ u => ∃ v', u = ((s, v'), seen)) ((s, v), seen) := by
  cases applyPath with
  | candidateRestart => exact ⟨hu, v, rfl⟩
  | direct =>
    apply ensures_result_seq
      (confirm_talks applied candidate.runtime.generation s v seen hu)
    intro confirmation u hsafe hmoved
    obtain ⟨applied', runtime, rfl, _⟩ := hmoved
    apply (unlessShutdown_ends hsafe h.manifest _ _).seq
    intro _ u hsafe hu'
    obtain ⟨shutdown, rfl⟩ := hu'
    cases confirmation with
    | ok _ => exact ⟨hsafe, _, rfl⟩
    | error e => exact failCandidate_ends law hsafe h candidate mode .health _

theorem executePrepared_ends (hv : v.applied = false) (candidate : ConfigTransactionCandidate D)
    (hgeneration : b.runtimeGeneration = candidate.runtime.generation)
    (mode : FailureRecoveryMode) : Ends X fails prunes s₀ b (Restored X n Gone s₀)
      (executePrepared X candidate mode committedGeneration p) (Succeeded X s₀ b)
      ((s, v), seen) := by
  apply (unlessShutdown_ends hu h.manifest _ _).seq
  intro _ _ hu hu'
  obtain ⟨_, rfl⟩ := hu'
  apply (Ends.port hu _).seq
  intro validation _ hu hport
  obtain ⟨_, rfl, rfl⟩ := hport
  apply (unlessShutdown_ends hu h.manifest _ _).seq
  intro _ _ hu hu'
  obtain ⟨_, rfl⟩ := hu'
  apply (Ends.whenever hu (failUnapplied_ends law hu h hv candidate .validation)).seq
  intro _ _ hu hvalid
  obtain ⟨rfl, _⟩ := hvalid
  apply (Ends.port hu _).seq
  intro revisions _ hu hport
  obtain ⟨_, rfl, rfl⟩ := hport
  apply (Ends.whenever hu (failUnapplied_ends law hu h hv candidate .staleCandidate)).seq
  intro _ _ hu hcurrent
  obtain ⟨rfl, _⟩ := hcurrent
  apply (Ends.port hu _).seq
  intro lifecycle _ hu hport
  obtain ⟨_, rfl, rfl⟩ := hport
  refine ensures_okOr_seq hu ?_ ⟨fun hsettled => hsettled.elim, fun _ => h.manifest⟩
  intro _ _
  apply (unlessShutdown_ends hu h.manifest _ _).seq
  intro _ _ hu hu'
  obtain ⟨_, rfl⟩ := hu'
  apply (Ends.port hu _).seq
  intro applyResult _ hu hport
  obtain ⟨_, rfl, rfl⟩ := hport
  apply (unlessShutdown_ends hu h.manifest _ _).seq
  intro _ _ hu hu'
  obtain ⟨_, rfl⟩ := hu'
  apply (settleApply_ends law hu h candidate mode applyResult).seq
  intro settled _ hu hmoved
  obtain ⟨_, _, rfl, _⟩ := hmoved
  apply (confirmDirect_ends law hu h candidate mode settled.1 settled.2).seq
  intro _ _ hu hu'
  obtain ⟨_, rfl⟩ := hu'
  apply (unlessShutdown_ends hu h.manifest _ _).seq
  intro _ _ hu hu'
  obtain ⟨_, rfl⟩ := hu'
  apply (commitApplied_ends law hu h candidate mode).seq
  intro recovery _ hu hcommitted
  exact ⟨hu, hcommitted, hgeneration.symm⟩

end Ratash

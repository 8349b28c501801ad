import Ratash.Transaction.Metadata

/-!
A startup never moves the manifest, and keeps a recoverable store recoverable at every point where
it may itself be cut short.
-/

namespace Ratash

open Interaction Attempt

variable {D ρ : Type} [DecidableEq D] {X : Codec D}

structure Keeps (X : Codec D) (s₀ s : Store D) : Prop where
  manifest : s.manifest = s₀.manifest
  recoverable : Recoverable X s₀ → Recoverable X s

theorem keeps_closed (s₀ : Store D) : Closed (Keeps X s₀) where
  clear h := ⟨h.manifest, fun h₀ => (h.recoverable h₀).withoutPrepared⟩
  prune h hs := ⟨hs.manifest.trans h.manifest, fun h₀ => (h.recoverable h₀).pruning hs⟩

section

variable {fails : Prop} {prunes : Prunes ρ} {P : Store D → Prop} {s₀ s : Store D}
  {v : PortWorld ρ} {seen : Prop}

theorem clearStartupJournal_keeps (hu : Safe (Keeps X s₀) P u)
    (committedGeneration : Option RuntimeGeneration) (journal : Option (PreparedTransaction D)) :
    (clearStartupJournal X committedGeneration journal).run.Ensures (watchedOutcome fails prunes P)
      (Safe (Keeps X s₀) P) (fun _ _ => True) u := by
  cases journal with
  | none => exact ⟨hu, trivial⟩
  | some p =>
    obtain ⟨⟨s, v⟩, seen⟩ := u
    apply ensures_orThrow.2
    apply (clearPreparedAndPrune_spec (.trivial prunes 0) (keeps_closed s₀) hu p).mono
      (fun _ h => h)
    intro r _ _ _
    cases r <;> trivial

theorem startup_begins {f : RecoveryState D → Option RuntimeGeneration → TransactionAttempt D α}
    {Q : Except ConfigTransactionError α → Watched D ρ → Prop}
    (hu : Safe (Keeps X s₀) P ((s₀, v), seen)) (herr : ∀ e u, Q (.error e) u)
    (hf : ∀ g committedGeneration, GenerationAt X s₀ s₀.committedId committedGeneration →
      (f ⟨s₀.manifest, s₀.prepared⟩ committedGeneration).run.Ensures (watchedOutcome fails prunes P)
        (Safe (Keeps X s₀) P) Q ((s₀, { v with generations := g }), seen)) :
    (do
      let state ← (store recover).orThrow (.simple .recovery)
      let committedGeneration ← (generationFromManifest X state.committed).orThrow
        (.simple .recovery)
      (pruneRuntimeState X state).orThrow
        ⟨.cleanup, none, committedGeneration, .pending committedGeneration⟩
      f state committedGeneration : TransactionAttempt D α).run.Ensures
        (watchedOutcome fails prunes P) (Safe (Keeps X s₀) P) Q ((s₀, v), seen) := by
  apply ensures_orThrow_seq (ensures_store_frozen (recover_spec s₀) hu) _
    (fun _ _ _ _ => herr _ _)
  intro state _ _ hstate
  obtain ⟨rfl, hstate⟩ := hstate
  obtain rfl := hstate state rfl
  apply ensures_orThrow_seq (generationOf_spec hu _) _ (fun _ _ _ _ => herr _ _)
  intro committedGeneration _ _ hcommitted
  obtain ⟨rfl, hcommitted⟩ := hcommitted
  apply ensures_orThrow_seq (pruneRuntimeState_spec (.trivial prunes 0) hu _) _
    (fun _ _ _ _ => herr _ _)
  intro _ _ _ hpruned
  obtain ⟨g, rfl, _⟩ := hpruned
  exact hf g committedGeneration (hcommitted _ rfl)

theorem recoverStartup_keeps (hu : Safe (Keeps X s₀) P ((s₀, v), seen)) :
    (recoverStartup X).run.Ensures (watchedOutcome fails prunes P) (Safe (Keeps X s₀) P)
      (fun r _ => ∀ recovery, r = .ok recovery →
        GenerationAt X s₀ s₀.committedId recovery.committedGeneration) ((s₀, v), seen) := by
  apply ensures_seq (lockCoordinator_spec hu) _ (by simp)
  intro _ _ _ hlocked
  obtain ⟨rfl, _⟩ := hlocked
  apply ensures_port_seq hu
  intro lifecycle v' hv'
  obtain rfl := hv'
  refine ensures_okOr_seq hu (fun _ _ => ?_) (by simp)
  apply startup_begins hu (by simp)
  intro g committedGeneration hcommitted
  apply ensures_orThrow_seq (convergeToTransaction_spec (hu.ports _) _) _ (by simp)
  intro _ _ hu _
  apply ensures_seq (clearStartupJournal_keeps hu _ _) _ (by simp)
  intro _ _ hu _
  refine ⟨hu, ?_⟩
  intro recovery hrecovery
  cases hrecovery
  exact hcommitted

theorem preparedGeneration_keeps (hu : Safe (Keeps X s₀) P u)
    (journal : Option (PreparedTransaction D)) :
    (preparedGeneration X journal).run.Ensures (watchedOutcome fails prunes P)
      (Safe (Keeps X s₀) P) (fun _ _ => True) u := by
  cases journal with
  | none => exact ⟨hu, trivial⟩
  | some p =>
    obtain ⟨⟨s, v⟩, seen⟩ := u
    apply ensures_result_seq (ensures_store_frozen (loadTransaction_spec X s _) hu)
    intro _ _ hu _
    exact ⟨hu, trivial⟩

theorem prepareStartupReapply_keeps (hu : Safe (Keeps X s₀) P ((s₀, v), seen))
    (expected : Option RuntimeGeneration) :
    (prepareStartupReapply X expected).run.Ensures (watchedOutcome fails prunes P)
      (Safe (Keeps X s₀) P) (fun r _ => ∀ reapply, r = .ok reapply →
        GenerationAt X s₀ s₀.committedId reapply.committedGeneration) ((s₀, v), seen) := by
  apply ensures_seq (lockCoordinator_spec hu) _ (by simp)
  intro _ _ _ hlocked
  obtain ⟨rfl, _⟩ := hlocked
  apply startup_begins hu (by simp)
  intro g committedGeneration hcommitted
  refine ensures_require_seq (hu.ports _) (fun _ => ?_) (by simp)
  apply ensures_seq (preparedGeneration_keeps (hu.ports _) _) _ (by simp)
  intro _ _ hu _
  refine ensures_ofExcept_seq hu (fun candidateGeneration _ => ?_) (by simp)
  apply ensures_seq (clearStartupJournal_keeps hu _ _) _ (by simp)
  intro _ _ hu _
  refine ⟨hu, ?_⟩
  intro reapply hreapply
  cases hreapply
  exact hcommitted

end

end Ratash

import Ratash.Transaction.Prepared

namespace Ratash

open Interaction Attempt

variable {D ρ : Type} [DecidableEq D] {X : Codec D}
variable {fails : Prop} {prunes : Prunes ρ} {s₀ s : Store D} {v : PortWorld ρ} {g₀ : ρ}
  {seen : Prop}
variable {b : TransactionBundle D} {n : RuntimeGeneration} {Gone Present : ρ → Prop}
variable {committedGeneration : Option RuntimeGeneration} {p : PreparedTransaction D}
variable {candidate : ConfigTransactionCandidate D} {B : Watched D ρ → Prop}

/-- What is left of a transaction that failed with nothing to recover. Its generation directory
is gone if the journal was ever touched, and still there if it never was. -/
structure Undone (X : Codec D) (n : RuntimeGeneration) (Gone Present : ρ → Prop) (s₀ : Store D)
    (g₀ : ρ) (u : Watched D ρ) : Prop where
  manifest : u.1.1.manifest = s₀.manifest
  journal : s₀.prepared = none → u.1.1.prepared = none
  runtime : u.1.2.applied = true → ViewOf X s₀ s₀.committedId u.1.2.runtime
  released : u.2 → Fresh X s₀ n → Gone u.1.2.generations
  kept : ¬u.2 → Present g₀ → Present u.1.2.generations

theorem Restored.undone (h : Restored X n Gone s₀ u) (hseen : u.2) :
    Undone X n Gone Present s₀ g₀ u :=
  ⟨h.manifest, fun _ => h.journal, h.runtime, fun _ => h.released, fun hnot => absurd hseen hnot⟩

/-- No journal is on disk and the Core has not been touched: either nothing has happened yet, or
the journal of a finished transaction has been dropped. -/
structure Admitted (X : Codec D) (n : RuntimeGeneration) (Gone Present : ρ → Prop) (s₀ : Store D)
    (g₀ : ρ) (s : Store D) (v : PortWorld ρ) (seen : Prop) : Prop where
  manifest : s.manifest = s₀.manifest
  prepared : s.prepared = none
  idle : v.applied = false
  start : ¬seen ∧ s₀.prepared = none ∧ (Present g₀ → Present v.generations) ∨
    seen ∧ (Fresh X s₀ n → Gone v.generations)

def PrepareFailed (X : Codec D) (s₀ : Store D) (b : TransactionBundle D) (v : PortWorld ρ)
    (seen : Prop) (u : Watched D ρ) : Prop :=
  u.1.2 = v ∧ u.1.1.manifest = s₀.manifest ∧
    (u.1.1.prepared = none ∧ u.2 = seen ∨ u.1.1.prepared = some (s₀.journalOf X b))

section Admitted

variable (h : Admitted X n Gone Present s₀ g₀ s v seen)

include h

theorem Admitted.undone : Undone X n Gone Present s₀ g₀ ((s, v), seen) := by
  refine ⟨h.manifest, fun _ => h.prepared, ?_, ?_, ?_⟩
  · intro happlied
    exact absurd (h.idle.symm.trans happlied) (by simp)
  · intro hseen
    obtain ⟨hnot, _⟩ | ⟨_, hgone⟩ := h.start
    · exact absurd hseen hnot
    · exact hgone
  · intro hnot
    obtain ⟨_, _, hkept⟩ | ⟨hseen, _⟩ := h.start
    · exact hkept
    · exact absurd hseen hnot

theorem Admitted.pruned (law : PruneLaw prunes n Gone Present) (hn : n ∈ retention.retained)
    (hprune : prunes v.generations retention r g) :
    Admitted X n Gone Present s₀ g₀ s { v with generations := g } seen := by
  refine ⟨h.manifest, h.prepared, h.idle, ?_⟩
  obtain ⟨hnot, hnone, hkept⟩ | ⟨hseen, hgone⟩ := h.start
  · exact .inl ⟨hnot, hnone, fun hp => law.staysPresent hprune hn (hkept hp)⟩
  · exact .inr ⟨hseen, fun hfresh => law.staysGone hprune (hgone hfresh)⟩

theorem Admitted.journalOf : s.journalOf X b = s₀.journalOf X b := by
  simp only [Store.journalOf, Store.committedId, h.manifest]

theorem prepare_watched (hu : Midway X s₀ b ((s, v), seen)) :
    (store (prepare X b)).run.Ensures (watchedOutcome fails prunes (JournalTouched s₀))
      (Midway X s₀ b)
      (fun r u => match r with
        | .ok p => p = s₀.journalOf X b ∧ ∃ seen',
          u = (((s.withTransaction X b).withPrepared p, v), seen')
        | .error _ => PrepareFailed X s₀ b v seen u) ((s, v), seen) := by
  have hquiet : ∀ s', Staging X s b s' → JournalTouched s₀ s' → seen := by
    intro s' hs' htouched
    apply hu.2
    obtain rfl | ⟨_, rfl⟩ := hs' <;> exact htouched
  have hstaging : ∀ s', Staging X s b s' → Evolves X s₀ b s' := by
    intro s' hs'
    obtain rfl | ⟨_, rfl⟩ := hs'
    · exact hu.1
    · exact hu.1.withTransaction
  have hsame : ∀ {seen' : Prop}, (seen → seen') →
      (seen' → seen ∨ ∃ s', Staging X s b s' ∧ JournalTouched s₀ s') → seen' = seen := by
    intro seen' hold hnew
    refine propext ⟨fun hs => ?_, hold⟩
    obtain hs | ⟨s', hs', ht⟩ := hnew hs
    · exact hs
    · exact hquiet s' hs' ht
  rw [store, prepare, left_bind]
  apply ensures_seq (ensures_store (stageJournal_spec X s b) hu.2 hstaging)
  · intro p u hsafe hstaged
    obtain ⟨⟨s', v'⟩, seen'⟩ := u
    obtain ⟨hv, _, hok, hold, hnew⟩ := hstaged
    obtain rfl : v' = v := hv
    obtain ⟨_, rfl, rfl⟩ := hok p rfl
    obtain rfl := hsame hold hnew
    rw [left_bind]
    have hjournal := h.journalOf (b := b)
    refine ensures_bind.2 (ensures_store_call hsafe hu.1.withJournal ?_ ?_)
    · intro _ _
      exact ⟨⟨hu.1.withJournal, .inr⟩, hjournal, _, rfl⟩
    · intro e s' hs'
      obtain rfl | rfl := hs'
      · refine ⟨rfl, h.manifest, .inl ⟨h.prepared, ?_⟩⟩
        exact propext ⟨fun hs => hs.elim (fun h => h) hsafe.2, .inl⟩
      · exact ⟨rfl, h.manifest, .inr (congrArg some hjournal)⟩
  · intro e u _ hstaged
    obtain ⟨⟨s', v'⟩, seen'⟩ := u
    obtain ⟨hv, hs', _, hold, hnew⟩ := hstaged
    obtain rfl : v' = v := hv
    obtain rfl := hsame hold hnew
    refine ⟨rfl, ?_, .inl ⟨?_, rfl⟩⟩
    · obtain rfl | ⟨_, rfl⟩ := hs' <;> exact h.manifest
    · obtain rfl | ⟨_, rfl⟩ := hs' <;> exact h.prepared

theorem Admitted.seen_of_journal (hu : Safe K (JournalTouched s₀) ((s', v'), seen'))
    (hp : s'.prepared = some p) (hold : seen → seen') : seen' := by
  obtain ⟨_, hnone, _⟩ | ⟨hseen, _⟩ := h.start
  · exact hu.2 (by simp [JournalTouched, hp, hnone])
  · exact hold hseen

theorem clearUnappliedJournal_ends (law : PruneLaw prunes n Gone Present)
    (hu : Midway X s₀ b u)
    (hfailed : PrepareFailed X s₀ b v seen u) (hold : seen → u.2) (generation : RuntimeGeneration) :
    Ends X fails prunes s₀ b (Undone X n Gone Present s₀ g₀)
      (do
        let recovery ← clearUnappliedJournal X committedGeneration
        throw ⟨.prepare, some generation, committedGeneration, recovery⟩ :
        TransactionAttempt D ConfigTransactionSuccess)
      (Succeeded X s₀ b) u := by
  obtain ⟨⟨s', v'⟩, seen'⟩ := u
  obtain ⟨hv, hmanifest, hjournal⟩ := hfailed
  obtain rfl : v' = v := hv
  have hclear : Recovers X fails prunes s₀ b (Undone X n Gone Present s₀ g₀)
      (clearUnappliedJournal X committedGeneration) ((s', v'), seen') := by
    apply ensures_result_seq (ensures_store_frozen (recover_spec s') hu)
    intro r u _ hstate
    obtain ⟨rfl, hstate⟩ := hstate
    cases r with
    | error e => exact ⟨hu, _, rfl, hmanifest, fun hsettled => hsettled.elim⟩
    | ok state =>
      obtain rfl := hstate state rfl
      obtain ⟨hnone, hseen⟩ | hsome := hjournal
      · obtain rfl : seen' = seen := hseen
        rw [hnone]
        refine ⟨hu, _, rfl, hmanifest, fun _ => ?_⟩
        exact Admitted.undone ⟨hmanifest, hnone, h.idle, h.start⟩
      · have hseen' : seen' := h.seen_of_journal hu hsome hold
        rw [hsome]
        apply (clearPreparedUnapplied_spec law hu hmanifest h.idle).remember.mono (fun _ h => h)
        intro r u _ hr
        obtain ⟨⟨outcome, rfl, hsame, hrestored⟩, hseen⟩ := hr
        exact ⟨outcome, rfl, hsame, fun hsettled => (hrestored hsettled).undone (hseen hseen')⟩
  exact hclear.ends fun _ => rfl

end Admitted

theorem validateCandidate_ends (hu : Midway X s₀ b ((s, v), seen))
    (hB : B ((s, v), seen)) (hmanifest : s.manifest = s₀.manifest) :
    Ends X fails prunes s₀ b B (validateCandidate X candidate committedGeneration)
      (fun _ u => u = ((s, v), seen) ∧
        generationIsNewer candidate.runtime.generation committedGeneration = true ∧
        candidate.transaction.runtimeGeneration = candidate.runtime.generation) ((s, v), seen) := by
  apply (Ends.port hu _).seq
  intro revisions _ hu hport
  obtain ⟨_, rfl, rfl⟩ := hport
  refine ensures_require_seq hu ?_ (fun _ => ⟨fun _ => hB, fun _ => hmanifest⟩)
  intro _
  apply ensures_result_seq (ensures_store_frozen (readObjectLimited_spec X s _ _) hu)
  intro effectiveObject u _ hread
  obtain ⟨rfl, _⟩ := hread
  exact ensures_require.2
    ⟨hu, fun hvalid => ⟨rfl, hvalid.1, hvalid.2.1⟩, fun _ => ⟨fun _ => hB, fun _ => hmanifest⟩⟩

def Reconciled (X : Codec D) (n : RuntimeGeneration) (Gone Present : ρ → Prop) (s₀ : Store D)
    (g₀ : ρ) (state : RecoveryState D) (u : Watched D ρ) : Prop :=
  ∃ s v seen, u = ((s, v), seen) ∧ state = ⟨s.manifest, s.prepared⟩ ∧ s.manifest = s₀.manifest ∧
    (s.prepared = none → Admitted X n Gone Present s₀ g₀ s v seen)

theorem reconcileFinished_ends (law : PruneLaw prunes n Gone Present)
    (hu : Midway X s₀ b ((s₀, v), False)) (hv : v.applied = false)
    (generation : RuntimeGeneration) : Ends X fails prunes s₀ b B
      (reconcileFinished X generation committedGeneration ⟨s₀.manifest, s₀.prepared⟩)
      (Reconciled X n Gone Present s₀ v.generations) ((s₀, v), False) := by
  have hsame : Ends X fails prunes s₀ b B (pure (RecoveryState.mk s₀.manifest s₀.prepared))
      (Reconciled X n Gone Present s₀ v.generations) ((s₀, v), False) :=
    ⟨hu, s₀, v, False, rfl, rfl, rfl,
      fun hnone => ⟨rfl, hnone, hv, .inl ⟨not_false, hnone, fun h => h⟩⟩⟩
  unfold reconcileFinished
  split
  · rename_i committed prepared hstate
    split
    · have hjournal : s₀.prepared = some prepared := congrArg RecoveryState.prepared hstate
      apply ensures_orThrow_seq
        (clearPreparedAndPrune_spec law (evolves_closed s₀ b) hu prepared)
      · intro _ u hsafe hcleared
        obtain ⟨s, g, seen, rfl, hcleared⟩ := hcleared
        obtain ⟨hnone, hgone⟩ := hcleared.success rfl
        have hseen : seen := hsafe.2 (by simp [JournalTouched, hnone, hjournal])
        apply ensures_orThrow.2
        apply (ensures_store_frozen (recover_spec s) hsafe).mono (fun _ h => h)
        intro r u _ hstate
        obtain ⟨rfl, hstate⟩ := hstate
        cases r with
        | ok state =>
          exact ⟨s, _, seen, rfl, hstate state rfl, hcleared.manifest,
            fun _ => ⟨hcleared.manifest, hnone, hv, .inr ⟨hseen, hgone⟩⟩⟩
        | error e => exact ⟨fun hsettled => hsettled.elim, fun _ => hcleared.manifest⟩
      · intro _ u _ hcleared
        obtain ⟨s, g, seen, rfl, hcleared⟩ := hcleared
        exact ⟨fun hsettled => hsettled.elim, fun _ => hcleared.manifest⟩
    · exact hsame
  · exact hsame

theorem executeGuarded_ends (law : PruneLaw prunes candidate.runtime.generation Gone Present)
    (s₀ : Store D) (v : PortWorld ρ) (hv : v.applied = false) (mode : FailureRecoveryMode) :
    Ends X fails prunes s₀ candidate.transaction
      (Undone X candidate.runtime.generation Gone Present s₀ v.generations)
      (executeGuarded X candidate mode) (Succeeded X s₀ candidate.transaction)
      ((s₀, v), False) := by
  have hstart : ∀ shutdown, Undone X candidate.runtime.generation Gone Present s₀ v.generations
      ((s₀, { v with shutdown := shutdown }), False) := fun shutdown =>
    ⟨rfl, fun h => h, fun h => absurd (hv.symm.trans h) (by simp), False.elim, fun _ h => h⟩
  have hu₀ : Midway X s₀ candidate.transaction ((s₀, v), False) :=
    ⟨.refl _ _, fun h => h rfl⟩
  have hshutdown (v' : PortWorld ρ) (hv' : ∃ shutdown, v' = { v with shutdown := shutdown })
      (e : ConfigTransactionError) :
      Ends X fails prunes s₀ candidate.transaction
        (Undone X candidate.runtime.generation Gone Present s₀ v.generations) (unlessShutdown e)
        (fun _ u => ∃ shutdown, u = ((s₀, { v with shutdown := shutdown }), False))
        ((s₀, v'), False) := by
    obtain ⟨shutdown, rfl⟩ := hv'
    apply (Ends.port (hu₀.ports _) _).seq
    intro requested _ hu hport
    obtain ⟨_, ⟨_, rfl⟩, rfl⟩ := hport
    exact ensures_require.2
      ⟨hu, fun _ => ⟨requested, rfl⟩, fun _ => ⟨fun _ => hstart requested, fun _ => rfl⟩⟩
  apply (hshutdown v ⟨v.shutdown, rfl⟩ _).seq
  intro _ _ hu hu'
  obtain ⟨_, rfl⟩ := hu'
  apply ensures_orThrow_seq (ensures_store_frozen (recover_spec s₀) hu)
  · intro state _ _ hstate
    obtain ⟨rfl, hstate⟩ := hstate
    obtain rfl := hstate state rfl
    apply ensures_orThrow_seq (generationOf_spec hu _)
    · intro committedGeneration _ _ hcommitted
      obtain ⟨rfl, hcommitted⟩ := hcommitted
      have hcommitted := hcommitted committedGeneration rfl
      apply (hshutdown _ ⟨_, rfl⟩ _).seq
      intro _ _ hu hu'
      obtain ⟨_, rfl⟩ := hu'
      apply (reconcileFinished_ends law hu hv _).seq
      intro state _ hu hreconciled
      obtain ⟨s, v₁, seen, rfl, rfl, hmanifest, hadmitted⟩ := hreconciled
      have hopen : ¬fails → s.manifest = s₀.manifest := fun _ => hmanifest
      refine ensures_require_seq hu ?_ (fun _ => ⟨fun hsettled => hsettled.elim, hopen⟩)
      intro hnone
      have hadmitted := hadmitted hnone
      apply (validateCandidate_ends hu hadmitted.undone hmanifest).seq
      intro _ _ _ hvalid
      obtain ⟨rfl, hnewer, hgeneration⟩ := hvalid
      apply ensures_orThrow_seq (runtimeRetention_spec hu _ _)
      · intro retention _ _ hretention
        obtain ⟨rfl, hretention⟩ := hretention
        have hn : candidate.runtime.generation ∈ retention.retained := by
          simp [RuntimeGenerationRetention.retained, List.reduceOption_mem_iff,
            (hretention retention rfl).2.2]
        apply (Ends.port hu _).seq
        intro pruned _ hu hport
        obtain ⟨_, ⟨g, hprune, rfl⟩, rfl⟩ := hport
        have hadmitted := hadmitted.pruned law hn hprune
        refine ensures_okOr_seq hu ?_ ⟨fun _ => hadmitted.undone, hopen⟩
        intro _ _
        apply ensures_result_seq (prepare_watched hadmitted hu).remember
        intro prepared u hu hprepared
        obtain ⟨hprepared, hold⟩ := hprepared
        cases prepared with
        | error e => exact clearUnappliedJournal_ends hadmitted law hu hprepared hold _
        | ok p =>
          obtain ⟨rfl, seen', rfl⟩ := hprepared
          have hseen' : seen' := hadmitted.seen_of_journal hu rfl hold
          have hunderway :
            Underway X s₀ candidate.transaction (s₀.journalOf X candidate.transaction)
              committedGeneration ((s.withTransaction X candidate.transaction).withPrepared
                (s₀.journalOf X candidate.transaction)) :=
            ⟨rfl, rfl, hadmitted.manifest, hcommitted, hgeneration ▸ hnewer⟩
          apply (executePrepared_ends law hu hunderway hadmitted.idle candidate hgeneration
            mode).remember.mono
            (fun _ h => h)
          intro r u _ hr
          cases r with
          | ok success => exact hr.1
          | error e => exact ⟨fun hsettled => (hr.1.1 hsettled).undone (hr.2 hseen'), hr.1.2⟩
      · intro _ _ _ hstate
        obtain ⟨rfl, _⟩ := hstate
        exact ⟨fun hsettled => hsettled.elim, hopen⟩
    · intro _ _ _ hstate
      obtain ⟨rfl, _⟩ := hstate
      exact ⟨fun hsettled => hsettled.elim, fun _ => rfl⟩
  · intro _ _ _ hstate
    obtain ⟨rfl, _⟩ := hstate
    exact ⟨fun hsettled => hsettled.elim, fun _ => rfl⟩

end Ratash

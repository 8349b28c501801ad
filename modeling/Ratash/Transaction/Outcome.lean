import Ratash.Transaction.Recoverable

/-!
Every way in which `execute_guarded` can end, whatever the store and the ports do: a success has
moved the manifest to the candidate, and an error that reports nothing left to recover has left
the store, the Core and the generation directories where they were.
-/

namespace Ratash

open Interaction Attempt

variable {D ρ : Type} [DecidableEq D] {X : Codec D}

/-- The error reports that nothing is left to recover. -/
def RecoveryOutcome.Settled : RecoveryOutcome → Prop
  | .notRequired | .converged _ => True
  | .pending _ | .failed _ => False

/-- The journal is not what it was at the start: the transaction has written its own, or has
dropped the one a finished transaction left. -/
def JournalTouched (s₀ s : Store D) : Prop :=
  s.prepared ≠ s₀.prepared

structure Restored (X : Codec D) (n : RuntimeGeneration) (Gone : ρ → Prop) (s₀ : Store D)
    (u : Watched D ρ) : Prop where
  manifest : u.1.1.manifest = s₀.manifest
  journal : u.1.1.prepared = none
  runtime : u.1.2.applied = true → ViewOf X s₀ s₀.committedId u.1.2.runtime
  released : Fresh X s₀ n → Gone u.1.2.generations

theorem ViewOf.transfer {s s' : Store D} {id : Option (TransactionId D)}
    (h : ViewOf X s id view) (hid : GenerationAt X s' id g) : ViewOf X s' id view := by
  cases id with
  | none => exact h
  | some id =>
    obtain ⟨t, ht, rfl⟩ := h
    obtain ⟨t', ht', _⟩ := hid
    exact ⟨t', ht', by rw [Store.transactionAt_unique ht ht']⟩

section

variable {fails : Prop} {prunes : Prunes ρ} {s₀ s : Store D} {v : PortWorld ρ} {seen : Prop}
variable {b : TransactionBundle D} {n : RuntimeGeneration} {Gone Present : ρ → Prop}
variable {committedGeneration : Option RuntimeGeneration} {p : PreparedTransaction D}

/-- Only what the transaction may do has happened, and the record of the journal is right. -/
abbrev Midway (X : Codec D) (s₀ : Store D) (b : TransactionBundle D) : Watched D ρ → Prop :=
  Safe (Evolves X s₀ b) (JournalTouched s₀)

/-- A recovery always has an outcome, and one that leaves nothing to recover comes with `B`. -/
def Recovers (X : Codec D) (fails : Prop) (prunes : Prunes ρ) (s₀ : Store D)
    (b : TransactionBundle D) (B : Watched D ρ → Prop) (x : TransactionAttempt D RecoveryOutcome)
    (u : Watched D ρ) : Prop :=
  x.run.Ensures (watchedOutcome fails prunes (JournalTouched s₀)) (Midway X s₀ b)
    (fun r u' => ∃ outcome, r = .ok outcome ∧ u'.1.1.manifest = s₀.manifest ∧
      (outcome.Settled → B u')) u

section

variable (law : PruneLaw prunes n Gone Present) (hu : Midway X s₀ b ((s, v), seen))
  (hmanifest : s.manifest = s₀.manifest)

include law hu hmanifest

theorem clearPreparedAndPrune_recovers
    (hview : v.applied = true → ViewOf X s₀ s₀.committedId v.runtime)
    {f : Except IoError Unit → TransactionAttempt D RecoveryOutcome}
    (hok : ∃ outcome, f (.ok ()) = pure outcome)
    (herror : ∀ e, ∃ outcome, f (.error e) = pure outcome ∧ ¬outcome.Settled) :
    Recovers X fails prunes s₀ b (Restored X n Gone s₀) ((clearPreparedAndPrune X p).result >>= f)
      ((s, v), seen) := by
  apply ensures_result_seq (clearPreparedAndPrune_spec law (evolves_closed s₀ b) hu p)
  intro r u hsafe hcleared
  obtain ⟨s', g, seen', rfl, hcleared⟩ := hcleared
  have hsame := hcleared.manifest.trans hmanifest
  cases r with
  | error e =>
    obtain ⟨outcome, hf, hnot⟩ := herror e
    rw [hf]
    exact ⟨hsafe, outcome, rfl, hsame, fun hsettled => absurd hsettled hnot⟩
  | ok _ =>
    obtain ⟨hjournal, hgone⟩ := hcleared.success rfl
    obtain ⟨outcome, hf⟩ := hok
    rw [hf]
    exact ⟨hsafe, outcome, rfl, hsame, fun _ => ⟨hsame, hjournal, hview,
      fun hfresh => hgone (hfresh.congr hmanifest)⟩⟩

theorem clearPreparedUnapplied_spec (hv : v.applied = false) :
    Recovers X fails prunes s₀ b (Restored X n Gone s₀)
      (clearPreparedUnapplied X p committedGeneration) ((s, v), seen) := by
  apply clearPreparedAndPrune_recovers law hu hmanifest _ ⟨_, rfl⟩ fun _ => ⟨_, rfl, id⟩
  intro happlied
  exact absurd (hv.symm.trans happlied) (by simp)

variable (hp : p.previous = s₀.committedId)
  (hcommitted : GenerationAt X s₀ s₀.committedId committedGeneration)
  (target : Option RuntimeGeneration)

include hp hcommitted

theorem rollback_spec : Recovers X fails prunes s₀ b (Restored X n Gone s₀) (rollback X p target)
      ((s, v), seen) := by
  apply ensures_result_seq (convergeToTransaction_spec hu p.previous)
  intro r u hsafe hmoved
  obtain ⟨applied, runtime, rfl, hview⟩ := hmoved
  cases r with
  | error e => exact ⟨hsafe, _, rfl, hmanifest, fun h => h.elim⟩
  | ok _ =>
    exact clearPreparedAndPrune_recovers law hsafe hmanifest
      (fun _ => (hp ▸ hview rfl).transfer hcommitted) ⟨_, rfl⟩ fun _ => ⟨_, rfl, id⟩

theorem recoverFailedCandidate_spec (mode : FailureRecoveryMode) :
    Recovers X fails prunes s₀ b (Restored X n Gone s₀) (recoverFailedCandidate X p target mode)
      ((s, v), seen) := by
  cases mode with
  | convergeCommitted => exact rollback_spec law hu hmanifest hp hcommitted target
  | stopStartupCandidate =>
    apply ensures_port_seq hu
    intro _ v' hv'
    obtain rfl := hv'
    apply ensures_result_seq
      (clearPreparedAndPrune_spec law (evolves_closed s₀ b) (hu.ports _) p)
    intro _ u hsafe hcleared
    obtain ⟨s', g, seen', rfl, hcleared⟩ := hcleared
    exact ⟨hsafe, _, rfl, hcleared.manifest.trans hmanifest, fun h => h.elim⟩

end

/-- A part of a transaction ends well: its value satisfies `Q`, an error that reports nothing
left to recover comes with `B`, and if no file operation fails an error leaves the manifest. -/
def Ends (X : Codec D) (fails : Prop) (prunes : Prunes ρ) (s₀ : Store D) (b : TransactionBundle D)
    (B : Watched D ρ → Prop) (x : TransactionAttempt D α) (Q : α → Watched D ρ → Prop)
    (u : Watched D ρ) : Prop :=
  x.run.Ensures (watchedOutcome fails prunes (JournalTouched s₀))
    (Midway X s₀ b)
    (fun r u' => match r with
      | .ok a => Q a u'
      | .error e => (e.recovery.Settled → B u') ∧ (¬fails → u'.1.1.manifest = s₀.manifest)) u

theorem Ends.seq {x : TransactionAttempt D α} {f : α → TransactionAttempt D β}
    {R : α → Watched D ρ → Prop} {Q : β → Watched D ρ → Prop}
    (hx : Ends X fails prunes s₀ b B x R u) (hf : ∀ a u', Midway X s₀ b u' → R a u' →
      Ends X fails prunes s₀ b B (f a) Q u') : Ends X fails prunes s₀ b B (x >>= f) Q u :=
  ensures_seq hx hf fun _ _ _ h => h

theorem Recovers.ends {x : TransactionAttempt D RecoveryOutcome}
    {error : RecoveryOutcome → ConfigTransactionError} {Q : α → Watched D ρ → Prop}
    (h : Recovers X fails prunes s₀ b B x u)
    (herror : ∀ outcome, (error outcome).recovery = outcome) :
    Ends X fails prunes s₀ b B (x >>= fun outcome => throw (error outcome)) Q u := by
  apply ensures_seq h
  · intro outcome u hsafe hout
    obtain ⟨_, hout, hsame, hsettled⟩ := hout
    cases hout
    rw [← herror outcome] at hsettled
    exact ⟨hsafe, hsettled, fun _ => hsame⟩
  · intro e u _ hout
    obtain ⟨_, hout, _⟩ := hout
    cases hout

theorem Ends.port (hu : Midway X s₀ b ((s, v), seen)) (c : PortCall D) :
    Ends X fails prunes s₀ b B (port c)
      (fun r u => ∃ v', v.Allows prunes c r v' ∧ u = ((s, v'), seen)) ((s, v), seen) :=
  ensures_port hu fun _ v' hv' => ⟨v', hv', rfl⟩

theorem Ends.whenever {q : Prop} [Decidable q] {x : TransactionAttempt D Unit}
    (hu : Midway X s₀ b u) (hx : ∀ Q, Ends X fails prunes s₀ b B x Q u) :
    Ends X fails prunes s₀ b B (whenever q x) (fun _ u' => u' = u ∧ ¬q) u :=
  ensures_whenever (fun _ => hx _) fun hq => ⟨hu, rfl, hq⟩

theorem unlessShutdown_ends (hu : Midway X s₀ b ((s, v), seen))
    (hmanifest : s.manifest = s₀.manifest) (generation : RuntimeGeneration)
    (committedGeneration : Option RuntimeGeneration) :
    Ends X fails prunes s₀ b B (unlessShutdown (shutdownError generation committedGeneration true))
      (fun _ u => ∃ shutdown, u = ((s, { v with shutdown := shutdown }), seen)) ((s, v), seen) := by
  apply ensures_port_seq hu
  intro requested v' hv'
  obtain ⟨_, rfl⟩ := hv'
  exact ensures_require.2
    ⟨hu, fun _ => ⟨requested, rfl⟩, fun _ => ⟨fun h => h.elim, fun _ => hmanifest⟩⟩

structure Underway (X : Codec D) (s₀ : Store D) (b : TransactionBundle D)
    (p : PreparedTransaction D) (committedGeneration : Option RuntimeGeneration) (s : Store D) :
    Prop where
  journal : p = s₀.journalOf X b
  prepared : s.prepared = some p
  manifest : s.manifest = s₀.manifest
  committed : GenerationAt X s₀ s₀.committedId committedGeneration
  newer : generationIsNewer b.runtimeGeneration committedGeneration = true

theorem Underway.previous (h : Underway X s₀ b p committedGeneration s) :
    p.previous = s₀.committedId := by
  rw [h.journal]
  rfl

theorem Underway.candidate (h : Underway X s₀ b p committedGeneration s) :
    p.candidate = b.id X := by
  rw [h.journal]
  rfl

theorem Underway.lt (h : Underway X s₀ b p committedGeneration s) {id : TransactionId D}
    (hid : s₀.committedId = some id) {s' : Store D} (ht : s'.transactionAt X id = some t) :
    t.runtimeGeneration < b.runtimeGeneration := by
  have hcommitted := h.committed
  rw [hid] at hcommitted
  obtain ⟨t', ht', rfl⟩ := hcommitted
  rw [Store.transactionAt_unique ht ht']
  exact of_decide_eq_true h.newer

theorem Underway.not_committed (h : Underway X s₀ b p committedGeneration s) :
    s.committedId ≠ some p.candidate := by
  intro hid
  rw [Store.committedId, h.manifest, h.candidate] at hid
  have hself := Store.transactionAt_withTransaction_self (X := X) (s := s) (b := b)
  exact UInt64.lt_irrefl _ (h.lt hid hself)

section

variable (law : PruneLaw prunes n Gone Present) (hu : Midway X s₀ b ((s, v), seen))
  (h : Underway X s₀ b p committedGeneration s)

include law hu h

theorem failCandidate_ends (candidate : ConfigTransactionCandidate D) (mode : FailureRecoveryMode)
    (kind : ConfigTransactionErrorKind) (Q : α → Watched D ρ → Prop) :
    Ends X fails prunes s₀ b (Restored X n Gone s₀)
      (failCandidate X candidate mode committedGeneration p kind) Q ((s, v), seen) :=
  Recovers.ends (recoverFailedCandidate_spec law hu h.manifest h.previous h.committed
    committedGeneration mode) fun _ => rfl

theorem failUnapplied_ends (hv : v.applied = false) (candidate : ConfigTransactionCandidate D)
    (kind : ConfigTransactionErrorKind) (Q : Unit → Watched D ρ → Prop) :
    Ends X fails prunes s₀ b (Restored X n Gone s₀)
      (failUnapplied X candidate committedGeneration p kind) Q ((s, v), seen) :=
  Recovers.ends (clearPreparedUnapplied_spec law hu h.manifest hv) fun _ => rfl

end

end

end Ratash

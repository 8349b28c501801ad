import Ratash.Transaction.Atomicity

/-!
`persist_metadata` commits a bundle of the running generation: it goes through the same journal as
a transaction, but the Core is not involved.
-/

namespace Ratash

open Interaction Attempt

inductive SupervisorTransactionFailureKind where
  | state
  | coordinator (kind : ConfigTransactionErrorKind)
deriving DecidableEq

variable {D : Type} [DecidableEq D] (X : Codec D)

def dropJournal (prepared : PreparedTransaction D) :
    Attempt (storeCalls D) SupervisorTransactionFailureKind Unit := do
  match ← (clearPrepared prepared).result with
  | .ok _ =>
    let _ ← (pruneUnreachable X).result (δ := SupervisorTransactionFailureKind)
    return ()
  | .error _ => return ()

/-- `persist_metadata` once the state has been staged. -/
def persistMetadata (transaction : TransactionBundle D) :
    Attempt (storeCalls D) SupervisorTransactionFailureKind Unit := do
  let recovery ← recover.orThrow .state
  require (recovery.prepared = none) (.coordinator .recoveryRequired)
  let prepared ← (prepare X transaction).orThrow .state
  let commit ← (commitPrepared X prepared).result
  whenever (commit.isOk = false) do
    let recovered ← recover.orThrow .state
    whenever (recovered.committed.map CommittedManifest.current ≠ some prepared.candidate) do
      dropJournal X prepared
      throw .state
  dropJournal X prepared

variable {X} {fails : Prop} {s₀ s : Store D} {b : TransactionBundle D}
  {p : PreparedTransaction D}

theorem dropJournal_spec {K : Store D → Prop} (hK : Closed K) (hs : K s) :
    (dropJournal X p).run.Ensures (fileSystem fails) K
      (fun r s' => r = .ok () ∧ s'.manifest = s.manifest) s := by
  have hclearing : ∀ s', Clearing s p s' → K s' ∧ s'.manifest = s.manifest := by
    intro s' hs'
    obtain rfl | ⟨_, rfl⟩ := hs'
    · exact ⟨hs, rfl⟩
    · exact ⟨hK.clear hs, rfl⟩
  apply ensures_result_seq
    ((clearPrepared_spec s p).within fun s' hs' => (hclearing s' hs').1)
  intro r s₁ hs₁ hcleared
  have hsame := (hclearing s₁ hcleared.1).2
  cases r with
  | error _ => exact ⟨hs₁, rfl, hsame⟩
  | ok _ =>
    apply ensures_result_seq
      ((pruneUnreachable_spec X s₁).within fun s' hs' => hK.prune hs₁ hs')
    intro _ s₂ hs₂ hpruned
    exact ⟨hs₂, rfl, hpruned.1.manifest.trans hsame⟩

def Preparing (X : Codec D) (s : Store D) (b : TransactionBundle D) (s' : Store D) : Prop :=
  Staging X s b s' ∨ s' = (s.withTransaction X b).withPrepared (s.journalOf X b)

theorem prepare_spec (s : Store D) (b : TransactionBundle D) :
    (prepare X b).run.Ensures (fileSystem fails) (Preparing X s b)
      (fun r s' => ∀ p, r = .ok p → p = s.journalOf X b ∧
        s' = (s.withTransaction X b).withPrepared (s.journalOf X b)) s := by
  apply ensures_seq ((stageJournal_spec X s b).within fun _ => .inl) _ (by simp)
  intro p s' _ hstaged
  obtain ⟨hnone, rfl, rfl⟩ := hstaged.2 p rfl
  have hs : Preparing X s b (s.withTransaction X b) := .inl (.inr ⟨hnone, rfl⟩)
  apply ensures_call_seq ⟨hs, .inr rfl⟩ _ (by simp)
  intro _ _
  refine ⟨.inr rfl, ?_⟩
  intro p hp
  cases hp
  exact ⟨rfl, rfl⟩

theorem Evolves.preparing (s₀ : Store D) (b : TransactionBundle D) (h : Preparing X s₀ b s) :
    Evolves X s₀ b s ∧ s.manifest = s₀.manifest := by
  obtain (rfl | ⟨_, rfl⟩) | rfl := h
  · exact ⟨.refl _ _, rfl⟩
  · exact ⟨(Evolves.refl s₀ b).withTransaction, rfl⟩
  · exact ⟨(Evolves.refl s₀ b).withJournal, rfl⟩

theorem persistMetadata_evolves (s₀ : Store D) (b : TransactionBundle D)
    (hle : ∀ id, s₀.committedId = some id → ∀ (s : Store D) t, s.transactionAt X id = some t →
      t.runtimeGeneration ≤ b.runtimeGeneration) :
    (persistMetadata X b).run.Ensures (fileSystem fails) (Evolves X s₀ b) (fun _ _ => True) s₀ := by
  have hs₀ := Evolves.refl (X := X) s₀ b
  have hdrop {s : Store D} (hs : Evolves X s₀ b s) (p : PreparedTransaction D) :
      (dropJournal X p).run.Ensures (fileSystem fails) (Evolves X s₀ b) (fun _ _ => True) s :=
    (dropJournal_spec (evolves_closed s₀ b) hs).mono (fun _ h => h) fun _ _ _ _ => trivial
  apply ensures_orThrow_seq ((recover_spec s₀).frozen hs₀) _ (by simp)
  intro state _ _ hstate
  obtain ⟨rfl, _⟩ := hstate
  refine ensures_require_seq hs₀ (fun _ => ?_) (by simp)
  apply ensures_orThrow_seq
    ((prepare_spec s₀ b).within fun s hs => (Evolves.preparing s₀ b hs).1) _ (by simp)
  intro p _ hs hprepared
  obtain ⟨rfl, rfl⟩ := hprepared.2 p rfl
  have hcommitting : ∀ s', Committing ((s₀.withTransaction X b).withPrepared (s₀.journalOf X b))
      (s₀.journalOf X b) s' → Evolves X s₀ b s' := by
    intro s' hs'
    obtain rfl | ⟨_, rfl⟩ := hs'
    · exact hs
    · exact hs.commit rfl rfl rfl fun id t hid ht => hle id hid _ t ht
  apply ensures_result_seq ((commitPrepared_spec X _ _).within hcommitting)
  intro r s hs _
  apply ensures_seq (R := fun _ _ => True) _ (fun _ s hs _ => hdrop hs _) (by simp)
  apply ensures_whenever _ fun _ => ⟨hs, trivial⟩
  intro _
  apply ensures_orThrow_seq ((recover_spec s).frozen hs) _ (by simp)
  intro _ s hs _
  apply ensures_whenever _ fun _ => ⟨hs, trivial⟩
  intro _
  exact ensures_seq (hdrop hs _) (fun _ _ hs _ => ⟨hs, trivial⟩) (by simp)

/-- Whatever fails, the manifest is the one before or the one after; it is the one after when the
call succeeds, and the one before when it fails unless a failed write was made after all. -/
theorem metadata_persisted_atomically (X : Codec D) (fails : Prop) (s₀ : Store D)
    (b : TransactionBundle D) : (persistMetadata X b).run.Ensures (fileSystem fails)
      (fun s => s.manifest = s₀.manifest ∨ s.manifest = some ⟨b.id X, s₀.committedId⟩)
      (fun r s => (r = .ok () → s.committedId = some (b.id X)) ∧
        ∀ e, r = .error e → ¬fails → s.manifest = s₀.manifest) s₀ := by
  have hclosed : Closed fun s : Store D =>
      s.manifest = s₀.manifest ∨ s.manifest = some ⟨b.id X, s₀.committedId⟩ :=
    ⟨id, fun h hs => hs.manifest ▸ h⟩
  apply ensures_orThrow_seq ((recover_spec s₀).frozen (.inl rfl))
  · rintro state _ _ ⟨rfl, _⟩
    refine ensures_require_seq (.inl rfl) (fun _ => ?_) (by simp)
    apply ensures_orThrow_seq
      ((prepare_spec s₀ b).within fun s hs => .inl (Evolves.preparing s₀ b hs).2)
    · rintro p _ _ ⟨_, hprepared⟩
      obtain ⟨rfl, rfl⟩ := hprepared p rfl
      apply ensures_result_seq ((commitPrepared_spec X _ _).mono
        (fun s hs => hs.imp (fun h => h ▸ rfl) fun h => h.2 ▸ rfl) fun _ _ _ h => h)
      rintro r s hs ⟨hdone, hfailed⟩
      apply ensures_seq (R := fun r s => (r = .ok () → s.committedId = some (b.id X)) ∧
        ∀ e, r = .error e → ¬fails → s.manifest = s₀.manifest)
      · apply ensures_whenever
        · intro hcommit
          obtain ⟨e, rfl⟩ : ∃ e, r = .error e := by
            cases r with
            | ok _ => cases hcommit
            | error e => exact ⟨e, rfl⟩
          have hbefore (hf : ¬fails) : s.manifest = s₀.manifest := hfailed e rfl hf ▸ rfl
          apply ensures_orThrow_seq ((recover_spec s).frozen hs)
          · rintro state _ _ ⟨rfl, hstate⟩
            cases hstate state rfl
            apply ensures_whenever
            · intro _
              apply ensures_seq (dropJournal_spec hclosed hs)
              · exact fun _ s' hs' h => ⟨hs', nofun, fun _ _ hf => h.2.trans (hbefore hf)⟩
              · exact fun _ _ _ h => by cases h.1
            · exact fun hsame => ⟨hs, fun _ => not_not.1 hsame, nofun⟩
          · rintro e _ _ ⟨rfl, _⟩
            exact ⟨nofun, fun _ _ => hbefore⟩
        · intro hcommit
          obtain rfl : r = .ok () := by
            cases r with
            | ok _ => rfl
            | error _ => exact absurd rfl hcommit
          exact ⟨hs, fun _ => hdone rfl ▸ rfl, nofun⟩
      · intro _ s hs h
        apply (dropJournal_spec hclosed hs).mono (fun _ h => h)
        rintro _ s' _ ⟨rfl, hsame⟩
        exact ⟨fun _ => by rw [Store.committedId, hsame]; exact h.1 rfl, nofun⟩
      · exact fun _ _ _ h => h
    · exact fun _ s _ h => ⟨nofun, fun _ _ _ => (Evolves.preparing s₀ b h.1).2⟩
  · rintro _ _ _ ⟨rfl, _⟩
    exact ⟨nofun, fun _ _ _ => rfl⟩

end Ratash

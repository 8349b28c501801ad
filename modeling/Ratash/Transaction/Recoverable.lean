import Ratash.Transaction.Converge

/-!
The manifest and the journal name transactions that can be loaded, and generations do not decrease
from the previous to the current one.
-/

namespace Ratash

open Interaction

variable {D : Type} [DecidableEq D] {X : Codec D}

structure Recoverable (X : Codec D) (s : Store D) : Prop where
  committed : ∀ m, s.manifest = some m → ∃ t, s.transactionAt X m.current = some t ∧
    ∀ id, m.previous = some id → ∃ t', s.transactionAt X id = some t' ∧
      t'.runtimeGeneration ≤ t.runtimeGeneration
  journal : ∀ p, s.prepared = some p → ∃ t, s.transactionAt X p.candidate = some t

theorem Recoverable.empty : Recoverable X Store.empty :=
  ⟨fun _ h => (by cases h), fun _ h => (by cases h)⟩

theorem Recoverable.withoutPrepared (h : Recoverable X s) : Recoverable X s.withoutPrepared :=
  ⟨h.committed, fun _ hp => by cases hp⟩

theorem Recoverable.withTransaction (h : Recoverable X s) (b : TransactionBundle D) :
    Recoverable X (s.withTransaction X b) := by
  constructor
  · intro m hm
    obtain ⟨t, ht, hprevious⟩ := h.committed m hm
    refine ⟨t, Store.transactionAt_withTransaction ht, ?_⟩
    intro id hid
    obtain ⟨t', ht', hle⟩ := hprevious id hid
    exact ⟨t', Store.transactionAt_withTransaction ht', hle⟩
  · intro p hp
    obtain ⟨t, ht⟩ := h.journal p hp
    exact ⟨t, Store.transactionAt_withTransaction ht⟩

theorem Recoverable.withPrepared (h : Recoverable X s) {p : PreparedTransaction D}
    (hp : s.transactionAt X p.candidate = some t) : Recoverable X (s.withPrepared p) := by
  refine ⟨h.committed, ?_⟩
  intro p' hp'
  obtain rfl : p = p' := Option.some.inj hp'
  exact ⟨t, hp⟩

theorem Recoverable.withManifest (h : Recoverable X s) {p : PreparedTransaction D}
    (hbase : s.committedId = p.previous) (hp : s.transactionAt X p.candidate = some t)
    (hle : ∀ id t', s.committedId = some id → s.transactionAt X id = some t' →
      t'.runtimeGeneration ≤ t.runtimeGeneration) :
    Recoverable X (s.withManifest ⟨p.candidate, p.previous⟩) := by
  refine ⟨?_, h.journal⟩
  intro m hm
  obtain rfl : ⟨p.candidate, p.previous⟩ = m := Option.some.inj hm
  refine ⟨t, hp, ?_⟩
  intro id hid
  have hcommitted : s.committedId = some id := hbase.trans hid
  obtain ⟨m, hm, rfl⟩ := Option.map_eq_some_iff.1 hcommitted
  obtain ⟨t', ht', _⟩ := h.committed m hm
  exact ⟨t', ht', hle _ t' hcommitted ht'⟩

theorem Recoverable.pruning {s s' : Store D} (h : Recoverable X s) (hs : Pruning s s') :
    Recoverable X s' := by
  have hkept : ∀ {id t}, id ∈ retainedTransactions ⟨s.manifest, s.prepared⟩ →
      s.transactionAt X id = some t → s'.transactionAt X id = some t := by
    intro id t hid ht
    rw [Store.transactionAt_congr (hs.retained id hid), ht]
  constructor
  · intro m hm
    rw [hs.manifest] at hm
    obtain ⟨t, ht, hprevious⟩ := h.committed m hm
    refine ⟨t, hkept (mem_retainedTransactions.2 (.inl (by simp [hm]))) ht, ?_⟩
    intro id hid
    obtain ⟨t', ht', hle⟩ := hprevious id hid
    exact ⟨t', hkept (mem_retainedTransactions.2 (.inr (.inl (by simp [hm, hid])))) ht', hle⟩
  · intro p hp
    rw [hs.prepared] at hp
    obtain ⟨t, ht⟩ := h.journal p hp
    exact ⟨t, hkept (mem_retainedTransactions.2 (.inr (.inr (.inl (by simp [hp]))))) ht⟩

/-- How far a transaction of bundle `b` can have taken a store that began as `s₀`. -/
structure Evolves (X : Codec D) (s₀ : Store D) (b : TransactionBundle D) (s : Store D) : Prop where
  manifest : s.manifest = s₀.manifest ∨ s.manifest = some ⟨b.id X, s₀.committedId⟩
  recoverable : Recoverable X s₀ → Recoverable X s

theorem Evolves.refl (s : Store D) (b : TransactionBundle D) : Evolves X s b s :=
  ⟨.inl rfl, fun h => h⟩

theorem evolves_closed (s₀ : Store D) (b : TransactionBundle D) : Closed (Evolves X s₀ b) where
  clear h := ⟨h.manifest, fun h₀ => (h.recoverable h₀).withoutPrepared⟩
  prune h hs := ⟨hs.manifest ▸ h.manifest, fun h₀ => (h.recoverable h₀).pruning hs⟩

theorem Evolves.withTransaction (h : Evolves X s₀ b s) : Evolves X s₀ b (s.withTransaction X b) :=
  ⟨h.manifest, fun h₀ => (h.recoverable h₀).withTransaction b⟩

theorem Evolves.withJournal (h : Evolves X s₀ b s) :
    Evolves X s₀ b ((s.withTransaction X b).withPrepared (s.journalOf X b)) :=
  ⟨h.manifest, fun h₀ => ((h.recoverable h₀).withTransaction b).withPrepared
    Store.transactionAt_withTransaction_self⟩

theorem Evolves.commit (h : Evolves X s₀ b s) {p : PreparedTransaction D}
    (hp : p = s₀.journalOf X b) (hmine : s.prepared = some p) (hmanifest : s.manifest = s₀.manifest)
    (hle : ∀ id t', s₀.committedId = some id → s.transactionAt X id = some t' →
      t'.runtimeGeneration ≤ b.runtimeGeneration) :
    Evolves X s₀ b (s.withManifest ⟨p.candidate, p.previous⟩) := by
  subst hp
  refine ⟨.inr rfl, fun h₀ => ?_⟩
  have hcommitted : s.committedId = s₀.committedId := by
    simp only [Store.committedId, hmanifest]
  obtain ⟨t, ht⟩ := (h.recoverable h₀).journal _ hmine
  have hself := Store.transactionAt_withTransaction_self (X := X) (s := s) (b := b)
  obtain rfl : t = b := Store.transactionAt_unique ht hself
  apply (h.recoverable h₀).withManifest hcommitted ht
  intro id t' hid ht'
  exact hle id t' (hcommitted ▸ hid) ht'

end Ratash
